/-
# The UART decodes every PCD frame, except one that fills `byteCntMax`

A reader frame on the envelope, four samples per ETU, is an SOF (10-11 ETUs low, 2-3 high),
characters `0 b0 … b7 1` each followed by 0-6 ETUs of extra guard time, and an EOF of at least
10 low ETUs (ISO 14443-2).  `pcdFrame` writes it down; `CodeIso14443bAsReader` produces one
instance of it (`readerSymbols_eq_frameBody`).

The proof follows the frame: one lemma per sample kind, one per ETU, one per character
(`uart_char`), then the characters by induction (`uart_chars`), the SOF (`uart_sof`) and the
EOF (`uart_eof`).  `uart_receives_pcdFrame` is the round trip: from `Uart14bReset`, any idle
prefix and any admissible frame of `M` with `|M| < byteCntMax` makes the UART return `true`
exactly at the 39th sample of the EOF, with `M` in the array.

The bound is strict.  The overflow check `byteCnt >= byteCntMax` runs right after the store,
so the character that brings `byteCnt` up to `byteCntMax` also drops the frame, although the
array still had room for it (`uart_drops_full_frame`).
-/
import Iso14443b.Uart
import Iso14443b.ToSend
import Mathlib.Tactic.IntervalCases

namespace Iso14443b

/-! ## 1. Frames on the envelope -/

/-- Four envelope samples per ETU. -/
def etu4 (bs : List Bool) : List Bool := bs.flatMap (List.replicate 4)

@[simp] theorem etu4_append (a b : List Bool) : etu4 (a ++ b) = etu4 a ++ etu4 b :=
  List.flatMap_append ..

@[simp] theorem etu4_cons (x : Bool) (bs : List Bool) :
    etu4 (x :: bs) = List.replicate 4 x ++ etu4 bs := rfl

@[simp] theorem etu4_nil : etu4 [] = [] := rfl

theorem etu4_replicate (n : Nat) (x : Bool) : etu4 (List.replicate n x) = List.replicate (4 * n) x := by
  induction n with
  | zero => rfl
  | succ n ih => rw [List.replicate_succ, etu4_cons, ih, ← List.replicate_add]; congr 1; omega

/-- The timing ISO 14443-2 allows a PCD frame: SOF 10-11 ETUs low and 2-3 high, 0-6 ETUs of
extra guard time after each character, EOF of at least 10 ETUs. -/
structure PcdTiming (sofLow sofHigh : Nat) (chars : List (UInt8 × Nat)) (eof : Nat) : Prop where
  low_ge : 10 ≤ sofLow
  low_le : sofLow ≤ 11
  high_ge : 2 ≤ sofHigh
  high_le : sofHigh ≤ 3
  egt_le : ∀ c ∈ chars, c.2 ≤ 6
  eof_ge : 10 ≤ eof

theorem readerSymbols_timing (cmd : List UInt8) : PcdTiming 10 2 (cmd.map (·, 0)) 10 :=
  ⟨le_refl _, by decide, le_refl _, by decide, by simp, le_refl _⟩

/-! ## 2. One sample -/

theorem uartStep_eq_inl {u u' : Uart} {x : Bool} (h : handle14443bSampleFromReader u x = (u', false)) :
    uartStep u x = .inl u' := by
  simp [uartStep, h]

section Samples

variable {u : Uart} {x : Bool}

theorem got_tick0 (hs : u.state = .gotFallingEdgeOfSof) (hp : u.posCnt = 3) (hc : u.bitCnt ≤ 12) :
    handle14443bSampleFromReader u x = ({ u with posCnt := 0 }, false) := by
  obtain ⟨_, _, _, _, _, _, _⟩ := u
  simp only at hs hp hc; subst hs hp
  simp [handle14443bSampleFromReader, uartGotFallingEdgeOfSof, Uart.tick, Nat.not_lt.mpr hc]

theorem got_tick1 (hs : u.state = .gotFallingEdgeOfSof) (hp : u.posCnt = 0) (hc : u.bitCnt ≤ 12) :
    handle14443bSampleFromReader u x = ({ u with posCnt := 1 }, false) := by
  obtain ⟨_, _, _, _, _, _, _⟩ := u
  simp only at hs hp hc; subst hs hp
  simp [handle14443bSampleFromReader, uartGotFallingEdgeOfSof, Uart.tick, Nat.not_lt.mpr hc]

theorem got_tick2_low (hs : u.state = .gotFallingEdgeOfSof) (hp : u.posCnt = 1) (hc : u.bitCnt ≤ 11) :
    handle14443bSampleFromReader u false = ({ u with posCnt := 2, bitCnt := u.bitCnt + 1 }, false) := by
  obtain ⟨_, _, _, _, _, _, _⟩ := u
  simp only at hs hp hc; subst hs hp
  simp [handle14443bSampleFromReader, uartGotFallingEdgeOfSof, Uart.tick, uartSofSample]
  omega

theorem got_tick2_high (hs : u.state = .gotFallingEdgeOfSof) (hp : u.posCnt = 1)
    (hc : 10 ≤ u.bitCnt) (hc' : u.bitCnt ≤ 11) :
    handle14443bSampleFromReader u true =
      ({ u with posCnt := 0, byteCnt := 0, state := .awaitingStartBit, bitCnt := u.bitCnt + 1 },
        false) := by
  obtain ⟨_, _, c, _, _, _, _⟩ := u
  simp only at hs hp hc hc'; subst hs hp
  simp [handle14443bSampleFromReader, uartGotFallingEdgeOfSof, Uart.tick, uartSofSample,
    show 9 < c by omega, show ¬ 12 < c + 1 by omega]

/-- A rising edge after too short a low phase is no SOF. -/
theorem got_tick2_short (hs : u.state = .gotFallingEdgeOfSof) (hp : u.posCnt = 1) (hc : u.bitCnt ≤ 9) :
    handle14443bSampleFromReader u true =
      ({ u with posCnt := 2, state := .unsyncd, bitCnt := u.bitCnt + 1 }, false) := by
  obtain ⟨_, _, c, _, _, _, _⟩ := u
  simp only at hs hp hc; subst hs hp
  simp [handle14443bSampleFromReader, uartGotFallingEdgeOfSof, Uart.tick, uartSofSample,
    Nat.not_lt.mpr hc, show ¬ 12 < c + 1 by omega]

theorem got_tick3 (hs : u.state = .gotFallingEdgeOfSof) (hp : u.posCnt = 2) (hc : u.bitCnt ≤ 12) :
    handle14443bSampleFromReader u x = ({ u with posCnt := 3 }, false) := by
  obtain ⟨_, _, _, _, _, _, _⟩ := u
  simp only at hs hp hc; subst hs hp
  simp [handle14443bSampleFromReader, uartGotFallingEdgeOfSof, Uart.tick, Nat.not_lt.mpr hc]

theorem unsyncd_high (hs : u.state = .unsyncd) : handle14443bSampleFromReader u true = (u, false) := by
  simp [handle14443bSampleFromReader, hs]

theorem unsyncd_low (hs : u.state = .unsyncd) :
    handle14443bSampleFromReader u false =
      ({ u with state := .gotFallingEdgeOfSof, posCnt := 0, bitCnt := 0 }, false) := by
  simp [handle14443bSampleFromReader, hs]

theorem awaiting_high (hs : u.state = .awaitingStartBit) (hp : u.posCnt + 1 ≤ 25) :
    handle14443bSampleFromReader u true = ({ u with posCnt := u.posCnt + 1 }, false) := by
  simp [handle14443bSampleFromReader, hs, Nat.not_lt.mpr hp]

theorem awaiting_low (hs : u.state = .awaitingStartBit) :
    handle14443bSampleFromReader u false =
      ({ u with posCnt := 0, bitCnt := 0, shiftReg := 0, state := .receivingData }, false) := by
  simp [handle14443bSampleFromReader, hs]

theorem receiving_tick (hs : u.state = .receivingData) (hp : u.posCnt ≠ 1) (hp' : u.posCnt ≠ 3 → u.posCnt < 3)
    (hc : u.bitCnt ≠ 10) :
    handle14443bSampleFromReader u x =
      ({ u with posCnt := if u.posCnt = 3 then 0 else u.posCnt + 1 }, false) := by
  obtain ⟨_, _, _, _, _, p, _⟩ := u
  simp only at hs hp hp' hc; subst hs
  simp only [handle14443bSampleFromReader, uartReceivingData, Uart.tick, uartCharacterDone]
  by_cases h3 : p = 3
  · subst h3; simp [hc]
  · have := hp' h3
    simp [h3, hc, show p + 1 ≠ 2 by omega, show ¬ 4 ≤ p + 1 by omega]

theorem receiving_sample (hs : u.state = .receivingData) (hp : u.posCnt = 1) :
    handle14443bSampleFromReader u x =
      uartCharacterDone { u with posCnt := 2, shiftReg := shiftIn u.shiftReg x, bitCnt := u.bitCnt + 1 } := by
  obtain ⟨_, _, _, _, _, _, _⟩ := u
  simp only at hs hp; subst hs hp
  simp [handle14443bSampleFromReader, uartReceivingData, Uart.tick, uartDataSample]

end Samples

/-- Idle samples leave an unsynchronised UART alone. -/
theorem uart_ones {u : Uart} (hs : u.state = .unsyncd) (n : Nat) :
    runLoop uartStep u (List.replicate n true) = .inl u := by
  induction n with
  | zero => rfl
  | succ n ih => rw [List.replicate_succ, runLoop_cons_inl _ (uartStep_eq_inl (unsyncd_high hs)), ih]

/-! ## 3. One ETU -/

section Etus

variable {u : Uart}

/-- The first ETU of the SOF: the falling edge, then the first low sample counted. -/
theorem uart_sof_first (hs : u.state = .unsyncd) :
    runLoop uartStep u (List.replicate 4 false) =
      .inl { u with state := .gotFallingEdgeOfSof, posCnt := 3, bitCnt := 1 } := by
  simp [List.replicate, runLoop, uartStep, unsyncd_low, got_tick1, got_tick2_low, got_tick3, hs]

/-- A further low ETU of the SOF counts one more. -/
theorem uart_sof_low (hs : u.state = .gotFallingEdgeOfSof) (hp : u.posCnt = 3)
    (hc : u.bitCnt ≤ 11) :
    runLoop uartStep u (List.replicate 4 false) = .inl { u with bitCnt := u.bitCnt + 1 } := by
  simp [List.replicate, runLoop, uartStep, got_tick0, got_tick1, got_tick2_low, got_tick3, hs, hp,
    hc, show u.bitCnt ≤ 12 by omega, show u.bitCnt + 1 ≤ 12 by omega]

/-- The first high ETU after 10 or 11 low ones: the SOF is accepted in its middle. -/
theorem uart_sof_rise (hs : u.state = .gotFallingEdgeOfSof) (hp : u.posCnt = 3)
    (hc : 10 ≤ u.bitCnt) (hc' : u.bitCnt ≤ 11) :
    runLoop uartStep u (List.replicate 4 true) =
      .inl { u with state := .awaitingStartBit, posCnt := 1, byteCnt := 0,
                    bitCnt := u.bitCnt + 1 } := by
  simp [List.replicate, runLoop, uartStep, got_tick0, got_tick1, got_tick2_high, awaiting_high,
    hs, hp, hc, hc', show u.bitCnt ≤ 12 by omega]

/-- An idle ETU between characters. -/
theorem uart_await (hs : u.state = .awaitingStartBit) (hp : u.posCnt + 4 ≤ 25) :
    runLoop uartStep u (List.replicate 4 true) = .inl { u with posCnt := u.posCnt + 4 } := by
  simp [List.replicate, runLoop, uartStep, awaiting_high, hs, show u.posCnt + 1 ≤ 25 by omega,
    show u.posCnt + 1 + 1 ≤ 25 by omega, show u.posCnt + 1 + 1 + 1 ≤ 25 by omega,
    show u.posCnt + 1 + 1 + 1 + 1 ≤ 25 by omega]

/-- The start bit of a character, or the first ETU of the EOF. -/
theorem uart_start (hs : u.state = .awaitingStartBit) :
    runLoop uartStep u (List.replicate 4 false) =
      .inl { u with state := .receivingData, posCnt := 3, bitCnt := 1, shiftReg := 0 } := by
  simp [List.replicate, runLoop, uartStep, awaiting_low, receiving_tick, receiving_sample,
    uartCharacterDone_of_ne, hs]
  rfl

/-- A data bit: shifted in at the middle sample. -/
theorem uart_bit (hs : u.state = .receivingData) (hp : u.posCnt = 3) (hc : u.bitCnt ≤ 8)
    (x : Bool) :
    runLoop uartStep u (List.replicate 4 x) =
      .inl { u with shiftReg := shiftIn u.shiftReg x, bitCnt := u.bitCnt + 1 } := by
  simp [List.replicate, runLoop, uartStep, receiving_tick, receiving_sample,
    uartCharacterDone_of_ne, hs, hp, show u.bitCnt ≠ 10 by omega, show u.bitCnt + 1 ≠ 10 by omega]

/-- The stop bit of a character whose register holds its byte: the byte is stored and, while
there is room for another, the frame stays open. -/
theorem uart_stop (hs : u.state = .receivingData) (hp : u.posCnt = 3) (hc : u.bitCnt = 9)
    {b : UInt8} (hsr : u.shiftReg = 4 * b.toNat) (hk : u.byteCnt + 1 < u.byteCntMax) :
    runLoop uartStep u (List.replicate 4 true) =
      .inl { u with state := .awaitingStartBit, posCnt := 1, bitCnt := 10,
                    shiftReg := 512 + 2 * b.toNat, output := u.output.store u.byteCnt b,
                    byteCnt := u.byteCnt + 1 } := by
  simp [List.replicate, runLoop, uartStep, receiving_tick, receiving_sample, hs, hp, hc, hsr,
    shiftIn_stop, uartCharacterDone_store (b := b), Nat.not_le.mpr hk, awaiting_high]

/-- The stop bit of the character that reaches `byteCntMax`: stored, and the frame dropped. -/
theorem uart_stop_full (hs : u.state = .receivingData) (hp : u.posCnt = 3) (hc : u.bitCnt = 9)
    {b : UInt8} (hsr : u.shiftReg = 4 * b.toNat) (hk : u.byteCntMax ≤ u.byteCnt + 1) :
    runLoop uartStep u (List.replicate 4 true) =
      .inl { u with state := .unsyncd, posCnt := 2, bitCnt := 10,
                    shiftReg := 512 + 2 * b.toNat, output := u.output.store u.byteCnt b,
                    byteCnt := u.byteCnt + 1 } := by
  simp [List.replicate, runLoop, uartStep, receiving_tick, receiving_sample, hs, hp, hc, hsr,
    shiftIn_stop, uartCharacterDone_store (b := b), hk, unsyncd_high]

/-- The tenth low ETU of the EOF: the frame ends at its third sample. -/
theorem uart_eof_last (hs : u.state = .receivingData) (hp : u.posCnt = 3) (hc : u.bitCnt = 9)
    (hsr : u.shiftReg = 0) (hk : u.byteCnt ≠ 0) :
    runLoop uartStep u (List.replicate 3 false) =
      .inr ({ u with state := .unsyncd, posCnt := 2, bitCnt := 10 }, []) := by
  simp [List.replicate, runLoop, uartStep, receiving_tick, receiving_sample, hs, hp, hc, hsr,
    uartCharacterDone_eof, hk, show shiftIn 0 false = 0 from rfl]

end Etus

/-! ## 4. Characters -/

section Chars

variable {u : Uart}

/-- Data bits, one per ETU, shifted into the register. -/
theorem uart_bits (xs : List Bool) (hs : u.state = .receivingData) (hp : u.posCnt = 3)
    (hc : u.bitCnt + xs.length ≤ 9) :
    runLoop uartStep u (etu4 xs) =
      .inl { u with shiftReg := xs.foldl shiftIn u.shiftReg, bitCnt := u.bitCnt + xs.length } := by
  induction xs generalizing u with
  | nil => rfl
  | cons x xs ih =>
    simp only [List.length_cons] at hc
    rw [etu4_cons, runLoop_append_inl _ (uart_bit hs hp (by omega) x),
      ih (u := { u with shiftReg := shiftIn u.shiftReg x, bitCnt := u.bitCnt + 1 }) hs hp
        (by simp; omega)]
    simp only [List.foldl_cons, List.length_cons, Nat.add_assoc, Nat.add_comm 1]

/-- Idle ETUs while the UART waits for a start bit. -/
theorem uart_awaits (hs : u.state = .awaitingStartBit) (n : Nat) (hp : u.posCnt + 4 * n ≤ 25) :
    runLoop uartStep u (etu4 (List.replicate n true)) = .inl { u with posCnt := u.posCnt + 4 * n } := by
  induction n generalizing u with
  | zero => rfl
  | succ n ih =>
    rw [List.replicate_succ, etu4_cons, runLoop_append_inl _ (uart_await hs (by omega)),
      ih (u := { u with posCnt := u.posCnt + 4 }) hs (by simp; omega)]
    simp only [Nat.mul_succ, Nat.add_assoc, Nat.add_comm 4]

/-- **One character** `0 b₀ … b₇ 1` and its extra guard time: the byte is stored at `byteCnt`,
and, while there is room for another, the UART waits for the next start bit. -/
theorem uart_char (hs : u.state = .awaitingStartBit) (b : UInt8) {e : Nat} (he : e ≤ 6)
    (hk : u.byteCnt + 1 < u.byteCntMax) :
    runLoop uartStep u (etu4 (charSymbols b ++ List.replicate e true)) =
      .inl { u with state := .awaitingStartBit, posCnt := 1 + 4 * e, bitCnt := 10,
                    shiftReg := 512 + 2 * b.toNat, output := u.output.store u.byteCnt b,
                    byteCnt := u.byteCnt + 1 } := by
  have hb : ((List.range 8).map b.toNat.testBit).foldl shiftIn 0 = 4 * b.toNat := by
    have : b.toNat < 256 := b.toNat_lt_size
    rw [foldl_shiftIn_testBit _ le_rfl, show 2 ^ 8 = 256 from rfl, Nat.mod_eq_of_lt this]; omega
  simp only [charSymbols, List.cons_append, List.append_assoc, etu4_cons, etu4_append, etu4_nil,
    List.append_nil]
  rw [runLoop_append_inl _ (uart_start hs), runLoop_append_inl _ (uart_bits _ rfl rfl (by simp)),
    List.nil_append, runLoop_append_inl _ (uart_stop ?_ ?_ ?_ (b := b) ?_ ?_),
    uart_awaits rfl e (by dsimp only; omega)]
  exacts [rfl, rfl, rfl, hb, hk]

/-- What the UART holds between the characters of a frame opened in state `u`: it waits for a
start bit, and has stored `bs` from `u.byteCnt` on. -/
structure Between (u v : Uart) (bs : List UInt8) : Prop where
  state : v.state = .awaitingStartBit
  byteCnt : v.byteCnt = u.byteCnt + bs.length
  byteCntMax : v.byteCntMax = u.byteCntMax
  output : v.output = u.output.storeAll u.byteCnt bs

/-- **The characters of a frame**, by induction over them. -/
theorem uart_chars (chars : List (UInt8 × Nat)) (hs : u.state = .awaitingStartBit)
    (he : ∀ c ∈ chars, c.2 ≤ 6) (hk : u.byteCnt + chars.length < u.byteCntMax) :
    ∃ v, runLoop uartStep u (etu4 (charsBody chars)) = .inl v ∧ Between u v (chars.map (·.1)) := by
  induction chars generalizing u with
  | nil => exact ⟨u, rfl, hs, rfl, rfl, rfl⟩
  | cons c cs ih =>
    simp only [List.length_cons] at hk
    obtain ⟨v, hv, hbv⟩ := ih
      (u := { u with state := .awaitingStartBit, posCnt := 1 + 4 * c.2, bitCnt := 10,
                     shiftReg := 512 + 2 * c.1.toNat, output := u.output.store u.byteCnt c.1,
                     byteCnt := u.byteCnt + 1 })
      rfl (fun c' hc' => he c' (.tail _ hc')) (by simp; omega)
    refine ⟨v, ?_, hbv.state, ?_, hbv.byteCntMax, hbv.output⟩
    · rw [charsBody, List.flatMap_cons, etu4_append,
        runLoop_append_inl _ (uart_char hs c.1 (he c (.head _)) (by omega))]
      exact hv
    · rw [hbv.byteCnt]; simp; omega

/-- **The character that fills the array**: stored, and the frame dropped. -/
theorem uart_char_full (hs : u.state = .awaitingStartBit) (b : UInt8) (e : Nat)
    (hk : u.byteCntMax ≤ u.byteCnt + 1) :
    runLoop uartStep u (etu4 (charSymbols b ++ List.replicate e true)) =
      .inl { u with state := .unsyncd, posCnt := 2, bitCnt := 10, shiftReg := 512 + 2 * b.toNat,
                    output := u.output.store u.byteCnt b, byteCnt := u.byteCnt + 1 } := by
  have hb : ((List.range 8).map b.toNat.testBit).foldl shiftIn 0 = 4 * b.toNat := by
    have : b.toNat < 256 := b.toNat_lt_size
    rw [foldl_shiftIn_testBit _ le_rfl, show 2 ^ 8 = 256 from rfl, Nat.mod_eq_of_lt this]; omega
  simp only [charSymbols, List.cons_append, List.append_assoc, etu4_cons, etu4_append, etu4_nil,
    List.append_nil, etu4_replicate]
  rw [runLoop_append_inl _ (uart_start hs), runLoop_append_inl _ (uart_bits _ rfl rfl (by simp)),
    List.nil_append, runLoop_append_inl _ (uart_stop_full ?_ ?_ ?_ (b := b) ?_ ?_), uart_ones rfl]
  exacts [rfl, rfl, rfl, hb, hk]

end Chars

/-! ## 5. Start and end of frame -/

section Frame

variable {u : Uart}

/-- Low ETUs of the SOF after the first. -/
theorem uart_sof_lows (hs : u.state = .gotFallingEdgeOfSof) (hp : u.posCnt = 3) (n : Nat)
    (hc : u.bitCnt + n ≤ 12) :
    runLoop uartStep u (etu4 (List.replicate n false)) = .inl { u with bitCnt := u.bitCnt + n } := by
  induction n generalizing u with
  | zero => rfl
  | succ n ih =>
    rw [List.replicate_succ, etu4_cons, runLoop_append_inl _ (uart_sof_low hs hp (by omega)),
      ih (u := { u with bitCnt := u.bitCnt + 1 }) hs hp (by dsimp only; omega)]
    simp only [Nat.add_assoc, Nat.add_comm 1]

/-- **The SOF**: 10-11 low ETUs and 2-3 high ones open a frame with an empty array. -/
theorem uart_sof (hs : u.state = .unsyncd) {L H : Nat} (hL : 10 ≤ L) (hL' : L ≤ 11) (hH : 2 ≤ H)
    (hH' : H ≤ 3) :
    runLoop uartStep u (etu4 (List.replicate L false ++ List.replicate H true)) =
      .inl { u with state := .awaitingStartBit, posCnt := 4 * H - 3, byteCnt := 0,
                    bitCnt := L + 1 } := by
  obtain ⟨L, rfl⟩ : ∃ L', L = L' + 1 := ⟨L - 1, by omega⟩
  obtain ⟨H, rfl⟩ : ∃ H', H = H' + 1 := ⟨H - 1, by omega⟩
  rw [List.replicate_succ, List.replicate_succ, List.cons_append, etu4_cons, etu4_append, etu4_cons,
    runLoop_append_inl _ (uart_sof_first hs), runLoop_append_inl _ (uart_sof_lows rfl rfl L ?_),
    runLoop_append_inl _ (uart_sof_rise rfl rfl ?_ ?_), uart_awaits rfl H ?_]
  all_goals dsimp only
  all_goals try omega
  congr 2 <;> omega

/-- **The EOF**: after a character, or after the SOF, ten low ETUs end a frame that holds a
byte at the 39th sample; the UART returns `true` and the rest of the EOF is left unread. -/
theorem uart_eof (hs : u.state = .awaitingStartBit) (hk : u.byteCnt ≠ 0) {E : Nat} (hE : 10 ≤ E) :
    runLoop uartStep u (etu4 (List.replicate E false)) =
      .inr ({ u with state := .unsyncd, posCnt := 2, bitCnt := 10, shiftReg := 0 },
        List.replicate (4 * E - 39) false) := by
  have hsplit : etu4 (List.replicate E false) = List.replicate 4 false ++
      (etu4 (List.replicate 8 false) ++ (List.replicate 3 false ++ List.replicate (4 * E - 39) false)) := by
    simp only [etu4_replicate, ← List.replicate_add]; congr 1; omega
  rw [hsplit, runLoop_append_inl _ (uart_start hs), runLoop_append_inl _ (uart_bits _ rfl rfl (by simp))]
  dsimp only
  rw [foldl_shiftIn_zeros, runLoop_append_inr _ (uart_eof_last ?_ ?_ ?_ ?_ ?_), List.nil_append]
  exacts [rfl, rfl, rfl, rfl, hk]

/-- Low samples never make a UART that is not in a frame return. -/
theorem uart_zeros_silent (hs : u.state = .unsyncd ∨ u.state = .gotFallingEdgeOfSof) (n : Nat) :
    ∃ v, runLoop uartStep u (List.replicate n false) = .inl v := by
  induction n generalizing u with
  | zero => exact ⟨u, rfl⟩
  | succ n ih =>
    have hstep : handle14443bSampleFromReader u false = ((handle14443bSampleFromReader u false).1, false) ∧
        ((handle14443bSampleFromReader u false).1.state = .unsyncd ∨
          (handle14443bSampleFromReader u false).1.state = .gotFallingEdgeOfSof) := by
      rcases hs with hs | hs
      · simp [unsyncd_low hs]
      · exact ⟨Prod.ext rfl (got_low hs).1, (got_low hs).2.symm⟩
    rw [List.replicate_succ, runLoop_cons_inl _ (uartStep_eq_inl hstep.1)]
    exact ih hstep.2

/-- The stream a frame puts on the envelope, cut at its parts. -/
theorem etu4_frameBody (idle L H E : Nat) (chars : List (UInt8 × Nat)) :
    List.replicate idle true ++ etu4 (frameBody L H chars E) =
      List.replicate idle true ++ (etu4 (List.replicate L false ++ List.replicate H true) ++
        (etu4 (charsBody chars) ++ etu4 (List.replicate E false))) := by
  simp [frameBody]

/-- **The round trip of a reader frame**: from any unsynchronised state, idle samples and a PCD
frame of `M` with `1 ≤ |M| < byteCntMax` make the UART return `true` exactly at the 39th sample
of the EOF, with `byteCnt = |M|` and `M` stored from index 0. -/
theorem uart_receives_frame (hs : u.state = .unsyncd) (idle : Nat) {L H E : Nat}
    {chars : List (UInt8 × Nat)} (ht : PcdTiming L H chars E) (hne : chars ≠ [])
    (hk : chars.length < u.byteCntMax) :
    ∃ v, runLoop uartStep u (List.replicate idle true ++ etu4 (frameBody L H chars E)) =
        .inr (v, List.replicate (4 * E - 39) false) ∧
      v.byteCnt = chars.length ∧ v.output = u.output.storeAll 0 (chars.map (·.1)) := by
  obtain ⟨v, hv, hb⟩ := uart_chars
    (u := { u with state := .awaitingStartBit, posCnt := 4 * H - 3, byteCnt := 0, bitCnt := L + 1 })
    chars rfl ht.egt_le (by simpa using hk)
  refine ⟨{ v with state := .unsyncd, posCnt := 2, bitCnt := 10, shiftReg := 0 }, ?_,
    by simpa using hb.byteCnt, hb.output⟩
  rw [etu4_frameBody, runLoop_append_inl _ (uart_ones hs idle),
    runLoop_append_inl _ (uart_sof hs ht.low_ge ht.low_le ht.high_ge ht.high_le),
    runLoop_append_inl _ hv, uart_eof hb.state ?_ ht.eof_ge]
  rw [hb.byteCnt]; simpa using hne

/-- The same for the frame `CodeIso14443bAsReader` encodes: the UART reads it up to the 39th
sample of its EOF and leaves the rest of the buffer unread. -/
theorem uart_receives_codeIso14443bAsReader (hs : u.state = .unsyncd) (idle : Nat)
    {cmd : List UInt8} (hne : cmd ≠ []) (hk : cmd.length < u.byteCntMax) :
    ∃ v, runLoop uartStep u
          (List.replicate idle true ++ etu4 (symbolsOf (codeIso14443bAsReader cmd).buf)) =
        .inr (v, List.replicate 1 false ++ etu4 (List.replicate 8 true ++
          List.replicate ((8 - (30 + 10 * cmd.length) % 8) % 8) false)) ∧
      v.byteCnt = cmd.length ∧ v.output = u.output.storeAll 0 cmd := by
  obtain ⟨v, hv, hc, ho⟩ := uart_receives_frame hs idle (readerSymbols_timing cmd)
    (by simpa using hne) (by simpa using hk)
  refine ⟨v, ?_, by simpa using hc, by simpa [Function.comp_def] using ho⟩
  rw [(codeIso14443bAsReader_symbols cmd).1, readerSymbols_eq_frameBody, List.append_assoc,
    etu4_append, ← List.append_assoc, runLoop_append_inr _ hv]

/-- **A frame of exactly `byteCntMax` characters is lost**: its last character is stored, the
overflow check then drops the frame, and the UART never returns `true` on it, EOF included. -/
theorem uart_drops_full_frame (hs : u.state = .unsyncd) (idle : Nat) {L H E : Nat}
    {chars : List (UInt8 × Nat)} (ht : PcdTiming L H chars E) (hne : chars ≠ [])
    (hk : chars.length = u.byteCntMax) :
    ∃ v, runLoop uartStep u (List.replicate idle true ++ etu4 (frameBody L H chars E)) = .inl v := by
  obtain ⟨init, c, rfl⟩ := (List.eq_nil_or_concat chars).resolve_left hne
  simp only [List.concat_eq_append, List.length_append, List.length_singleton] at hk
  obtain ⟨v, hv, hb⟩ := uart_chars
    (u := { u with state := .awaitingStartBit, posCnt := 4 * H - 3, byteCnt := 0, bitCnt := L + 1 })
    init rfl (fun c hc => ht.egt_le c (by simp [hc])) (by dsimp only; omega)
  have hfull := uart_char_full hb.state c.1 c.2 (by rw [hb.byteCnt, hb.byteCntMax]; simp; omega)
  obtain ⟨w, hw⟩ := uart_zeros_silent
    (u := { v with state := .unsyncd, posCnt := 2, bitCnt := 10, shiftReg := 512 + 2 * c.1.toNat,
                   output := v.output.store v.byteCnt c.1, byteCnt := v.byteCnt + 1 })
    (.inl rfl) (4 * E)
  have hsplit : etu4 (charsBody (init.concat c)) =
      etu4 (charsBody init) ++ etu4 (charSymbols c.1 ++ List.replicate c.2 true) := by
    simp [charsBody]
  refine ⟨w, ?_⟩
  rw [etu4_frameBody, hsplit, List.append_assoc, runLoop_append_inl _ (uart_ones hs idle),
    runLoop_append_inl _ (uart_sof hs ht.low_ge ht.low_le ht.high_ge ht.high_le),
    runLoop_append_inl _ hv, runLoop_append_inl _ hfull, etu4_replicate, hw]

/-- `Uart14bInit` on a `MAX_FRAME_SIZE` array and a reader frame of 256 zero bytes. -/
theorem uart_drops_full_frame_of_max_frame :
    ∃ v, runLoop uartStep (uart14bInit (Buffer.zeros maxFrameSize))
      (List.replicate 0 true ++ etu4 (frameBody 10 2 ((List.replicate 256 0).map (·, 0)) 10)) = .inl v :=
  uart_drops_full_frame rfl 0 (readerSymbols_timing _) (by decide)
    (by rw [List.length_map, List.length_replicate]; rfl)

end Frame

end Iso14443b