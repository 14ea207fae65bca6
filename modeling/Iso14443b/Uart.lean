/-
# The tag-side UART

`Handle14443bSampleFromReader` decodes the reader's ASK envelope, four samples per ETU, with
the state variables of the static `Uart`.  This module embeds it as a function of the state and
one envelope bit, together with `Uart14bReset`, `Uart14bInit` and `iso14b_set_maxframesize`,
which are the only other writers of that state.

The safety question (the spec's §4.3 and its "Overflow (`byteCnt ≥ byteCntMax`) aborts")
is whether the store `Uart.output[Uart.byteCnt]` can leave the `MAX_FRAME_SIZE`-byte array
the callers hand over.  `iso14b_set_maxframesize` can lower `byteCntMax` under a frame that is
already longer, so `byteCnt < byteCntMax` is NOT an invariant.  What is invariant
(`UartInv`) is weaker and enough: `byteCntMax ≤ MAX_FRAME_SIZE` always, and
`byteCnt < MAX_FRAME_SIZE` while a frame is open, because the overflow check runs after every
store.  `uartOps_safe` puts this together over every interleaving of samples, resets, inits and
frame-size changes, and adds what a returned frame holds: exactly the bytes stored since the
SOF that opened it (`rxStep`).
-/
import Iso14443b.Basic

namespace Iso14443b

/-! ## 1. The state and the functions that write it -/

/-- The four states of the software UART, in the order of the C enum. -/
inductive UartState
  | unsyncd
  | gotFallingEdgeOfSof
  | awaitingStartBit
  | receivingData
  deriving DecidableEq, Repr

/-- The value of the C enum constant. -/
def UartState.toNat : UartState → Nat
  | unsyncd => 0
  | gotFallingEdgeOfSof => 1
  | awaitingStartBit => 2
  | receivingData => 3

/-- The static `Uart` of `iso14443b.c`.  Its `int` counters never go below zero, so they are
natural numbers here. -/
structure Uart where
  state : UartState
  shiftReg : Nat
  bitCnt : Nat
  byteCnt : Nat
  byteCntMax : Nat
  posCnt : Nat
  output : Buffer
  deriving DecidableEq, Repr

/-- `Uart14bReset()`: every field but the output array. -/
def uart14bReset (u : Uart) : Uart :=
  { u with state := .unsyncd, shiftReg := 0, bitCnt := 0, byteCnt := 0,
           byteCntMax := maxFrameSize, posCnt := 0 }

/-- `Uart14bInit(data)`. -/
def uart14bInit (data : Buffer) : Uart := ⟨.unsyncd, 0, 0, 0, maxFrameSize, 0, data⟩

/-- `iso14b_set_maxframesize(size)`: sizes above 256 fall back to `MAX_FRAME_SIZE`. -/
def iso14bSetMaxframesize (u : Uart) (size : Nat) : Uart :=
  { u with byteCntMax := if size > 256 then maxFrameSize else size }

/-- The store `Uart.output[Uart.byteCnt] = (Uart.shiftReg >> 1) & 0xFF; Uart.byteCnt++`. -/
def Uart.storeByte (u : Uart) : Uart :=
  { u with output := u.output.store u.byteCnt (UInt8.ofNat (u.shiftReg >>> 1 &&& 0xFF)),
           byteCnt := u.byteCnt + 1 }

/-- `Uart.posCnt++` followed by `if (Uart.posCnt >= 4) Uart.posCnt = 0;` around the sampling
in the middle of the ETU, `if (Uart.posCnt == 2) …`. -/
def Uart.tick (u : Uart) (sample : Uart → Uart) : Uart :=
  let u : Uart := { u with posCnt := u.posCnt + 1 }
  let u : Uart := if u.posCnt = 2 then sample u else u
  if u.posCnt ≥ 4 then { u with posCnt := 0 } else u

/-- The middle sample of an ETU of the SOF: a high one ends the low phase, which is a valid SOF
after more than nine low ETUs. -/
def uartSofSample (bit : Bool) (u : Uart) : Uart :=
  let u : Uart := if bit then
      if u.bitCnt > 9 then { u with posCnt := 0, byteCnt := 0, state := .awaitingStartBit }
      else { u with state := .unsyncd }
    else u
  { u with bitCnt := u.bitCnt + 1 }

/-- `STATE_14B_GOT_FALLING_EDGE_OF_SOF`: count the low phase of the SOF in ETUs and give up
after more than twelve. -/
def uartGotFallingEdgeOfSof (u : Uart) (bit : Bool) : Uart :=
  let u := u.tick (uartSofSample bit)
  if u.bitCnt > 12 then { u with state := .unsyncd } else u

/-- The middle sample of an ETU of a character: shift it in. -/
def uartDataSample (bit : Bool) (u : Uart) : Uart :=
  { u with shiftReg := shiftIn u.shiftReg bit, bitCnt := u.bitCnt + 1 }

/-- `if (Uart.bitCnt == 10) …`: store a well-framed character, end the frame on an all-zero one
(returning whether it holds bytes), and drop anything else. -/
def uartCharacterDone (u : Uart) : Uart × Bool :=
  if u.bitCnt = 10 then
    if u.shiftReg &&& 0x200 ≠ 0 ∧ u.shiftReg &&& 0x001 = 0 then
      let u := u.storeByte
      if u.byteCnt ≥ u.byteCntMax then ({ u with state := .unsyncd }, false)
      else ({ u with posCnt := 0, state := .awaitingStartBit }, false)
    else if u.shiftReg = 0 then ({ u with state := .unsyncd }, u.byteCnt ≠ 0)
    else ({ u with state := .unsyncd }, false)
  else (u, false)

/-- `STATE_14B_RECEIVING_DATA`. -/
def uartReceivingData (u : Uart) (bit : Bool) : Uart × Bool :=
  uartCharacterDone (u.tick (uartDataSample bit))

/-- `Handle14443bSampleFromReader(bit)`: one envelope sample; `true` when an EOF ends a frame
that holds at least one byte. -/
def handle14443bSampleFromReader (u : Uart) (bit : Bool) : Uart × Bool :=
  match u.state with
  | .unsyncd =>
    if bit then (u, false)
    else ({ u with state := .gotFallingEdgeOfSof, posCnt := 0, bitCnt := 0 }, false)
  | .gotFallingEdgeOfSof => (uartGotFallingEdgeOfSof u bit, false)
  | .awaitingStartBit =>
    let u : Uart := { u with posCnt := u.posCnt + 1 }
    if bit then (if u.posCnt > 50 / 2 then { u with state := .unsyncd } else u, false)
    else ({ u with posCnt := 0, bitCnt := 0, shiftReg := 0, state := .receivingData }, false)
  | .receivingData => uartReceivingData u bit

/-- The sample loop of `GetIso14443bCommandFromReader`: feed samples until the UART returns
`true`, and leave with the UART as it is then. -/
def uartStep (u : Uart) (bit : Bool) : Uart ⊕ Uart :=
  match handle14443bSampleFromReader u bit with
  | (u', false) => .inl u'
  | (u', true) => .inr u'

/-! ## 2. What one sample can do -/

@[simp] theorem tick_output (u : Uart) {f : Uart → Uart} (hf : ∀ v, (f v).output = v.output) :
    (u.tick f).output = u.output := by
  simp only [Uart.tick]; split_ifs <;> simp [hf]

@[simp] theorem tick_byteCntMax (u : Uart) {f : Uart → Uart}
    (hf : ∀ v, (f v).byteCntMax = v.byteCntMax) : (u.tick f).byteCntMax = u.byteCntMax := by
  simp only [Uart.tick]; split_ifs <;> simp [hf]

theorem tick_state (u : Uart) {f : Uart → Uart} :
    (u.tick f).state = u.state ∨ (u.tick f).state = (f { u with posCnt := u.posCnt + 1 }).state := by
  simp only [Uart.tick]; split_ifs <;> simp

theorem tick_byteCnt (u : Uart) {f : Uart → Uart} :
    (u.tick f).byteCnt = u.byteCnt ∨
      (u.tick f).byteCnt = (f { u with posCnt := u.posCnt + 1 }).byteCnt := by
  simp only [Uart.tick]; split_ifs <;> simp

/-- `STATE_14B_GOT_FALLING_EDGE_OF_SOF` touches neither the array nor the frame size, never
starts receiving data, and opens a frame only by accepting an SOF. -/
theorem uartGot_spec {u : Uart} (hs : u.state = .gotFallingEdgeOfSof) (bit : Bool) :
    (uartGotFallingEdgeOfSof u bit).output = u.output ∧
      (uartGotFallingEdgeOfSof u bit).byteCntMax = u.byteCntMax ∧
      ((uartGotFallingEdgeOfSof u bit).state = .gotFallingEdgeOfSof ∨
        (uartGotFallingEdgeOfSof u bit).state = .unsyncd ∨
        (uartGotFallingEdgeOfSof u bit).state = .awaitingStartBit ∧
          (uartGotFallingEdgeOfSof u bit).byteCnt = 0) := by
  have hsample : ∀ v : Uart, v.state = .gotFallingEdgeOfSof →
      (uartSofSample bit v).state = .gotFallingEdgeOfSof ∨ (uartSofSample bit v).state = .unsyncd ∨
        (uartSofSample bit v).state = .awaitingStartBit ∧ (uartSofSample bit v).byteCnt = 0 := by
    intro v hv; simp only [uartSofSample]; split_ifs <;> simp [hv]
  have ho : ∀ v, (uartSofSample bit v).output = v.output := by
    intro v; simp only [uartSofSample]; split_ifs <;> rfl
  have hm : ∀ v, (uartSofSample bit v).byteCntMax = v.byteCntMax := by
    intro v; simp only [uartSofSample]; split_ifs <;> rfl
  have ht : (u.tick (uartSofSample bit)).state = .gotFallingEdgeOfSof ∨
      (u.tick (uartSofSample bit)).state = .unsyncd ∨
      (u.tick (uartSofSample bit)).state = .awaitingStartBit ∧
        (u.tick (uartSofSample bit)).byteCnt = 0 := by
    simp only [Uart.tick]; split_ifs <;> simp [hs, hsample]
  refine ⟨?_, ?_, ?_⟩ <;> simp only [uartGotFallingEdgeOfSof] <;> split_ifs <;> simp [ho, hm, ht]

/-- The data sample moves only the shift register and the counters. -/
theorem tick_dataSample (u : Uart) (bit : Bool) :
    (u.tick (uartDataSample bit)).output = u.output ∧
      (u.tick (uartDataSample bit)).byteCnt = u.byteCnt ∧
      (u.tick (uartDataSample bit)).byteCntMax = u.byteCntMax ∧
      (u.tick (uartDataSample bit)).state = u.state := by
  simp only [Uart.tick, uartDataSample]; split_ifs <;> simp

/-- A complete character is stored, ends the frame, or is dropped; an incomplete one changes
nothing. -/
theorem uartCharacterDone_spec (v : Uart) :
    (uartCharacterDone v).1.byteCntMax = v.byteCntMax ∧
    ((uartCharacterDone v).1.output = v.output ∧ (uartCharacterDone v).1.byteCnt = v.byteCnt ∧
        ((uartCharacterDone v).1.state = v.state ∨ (uartCharacterDone v).1.state = .unsyncd) ∧
        ((uartCharacterDone v).2 = true → (uartCharacterDone v).1.state = .unsyncd ∧ v.byteCnt ≠ 0) ∨
      (uartCharacterDone v).2 = false ∧
        (uartCharacterDone v).1.output = v.storeByte.output ∧
        (uartCharacterDone v).1.byteCnt = v.byteCnt + 1 ∧
        ((uartCharacterDone v).1.state = .unsyncd ∨
          (uartCharacterDone v).1.state = .awaitingStartBit ∧ v.byteCnt + 1 < v.byteCntMax)) := by
  unfold uartCharacterDone
  dsimp only
  split_ifs with h1 h2 h3 h4
  · simp [Uart.storeByte]
  · simp only [Uart.storeByte] at h3 ⊢; simp; omega
  · simp [h4]
  · simp
  · simp

theorem uartCharacterDone_of_ne {v : Uart} (h : v.bitCnt ≠ 10) : uartCharacterDone v = (v, false) := by
  simp [uartCharacterDone, h]

/-- `(shiftReg >> 1) & 0xFF` gives back the character's byte. -/
theorem decoded_byte (b : UInt8) : UInt8.ofNat ((512 + 2 * b.toNat) >>> 1 &&& 0xFF) = b := by
  have hb := b.toNat_lt_size
  have : (512 + 2 * b.toNat) >>> 1 &&& 0xFF = b.toNat := by
    rw [Nat.shiftRight_eq_div_pow, show (0xFF : Nat) = 2 ^ 8 - 1 from rfl,
      Nat.and_pow_two_sub_one_eq_mod]
    simp only [UInt8.size] at hb
    omega
  rw [this]
  exact UInt8.toNat.inj (UInt8.toNat_ofNat_of_lt hb)

/-- A well-framed character is stored at `byteCnt`, and the frame stays open while there is room
for another. -/
theorem uartCharacterDone_store {v : Uart} {b : UInt8} (hc : v.bitCnt = 10)
    (hs : v.shiftReg = 512 + 2 * b.toNat) :
    uartCharacterDone v =
      (if v.byteCnt + 1 ≥ v.byteCntMax then
        { v with output := v.output.store v.byteCnt b, byteCnt := v.byteCnt + 1, state := .unsyncd }
      else
        { v with output := v.output.store v.byteCnt b, byteCnt := v.byteCnt + 1, posCnt := 0,
                 state := .awaitingStartBit }, false) := by
  have hb := b.toNat_lt_size
  simp only [UInt8.size] at hb
  simp only [uartCharacterDone, hc, hs, Uart.storeByte, decoded_byte, if_true, ne_eq,
    stop_bit_set hb, not_false_eq_true, Nat.and_one_is_mod, true_and]
  rw [if_pos (by omega)]
  split <;> rfl

/-- An all-zero character ends the frame. -/
theorem uartCharacterDone_eof {v : Uart} (hc : v.bitCnt = 10) (hs : v.shiftReg = 0) :
    uartCharacterDone v = ({ v with state := .unsyncd }, decide (v.byteCnt ≠ 0)) := by
  simp [uartCharacterDone, hc, hs]

/-- While the SOF is low, the UART cannot open a frame. -/
theorem got_low {u : Uart} (hs : u.state = .gotFallingEdgeOfSof) :
    (handle14443bSampleFromReader u false).2 = false ∧
      ((handle14443bSampleFromReader u false).1.state = .gotFallingEdgeOfSof ∨
        (handle14443bSampleFromReader u false).1.state = .unsyncd) := by
  have ht : (u.tick (uartSofSample false)).state = .gotFallingEdgeOfSof := by
    rcases tick_state u with h | h <;> rw [h] <;> simp [uartSofSample, hs]
  simp only [handle14443bSampleFromReader, hs, uartGotFallingEdgeOfSof, true_and]
  split
  · exact .inr rfl
  · exact .inl ht

/-- The two states in which a frame is open: an SOF has been accepted and no EOF seen. -/
def UartState.Open (s : UartState) : Prop := s = .awaitingStartBit ∨ s = .receivingData

instance (s : UartState) : Decidable s.Open := inferInstanceAs (Decidable (_ ∨ _))

/-! ## 3. The invariant -/

/-- A `MAX_FRAME_SIZE`-byte array that no store has left yet: what every caller hands to
`Uart14bInit`. -/
def FrameArray : Type := { b : Buffer // b.bytes.length = maxFrameSize ∧ b.fault = false }

/-- **The UART's safety invariant**: the array is the caller's, no store has left it, the frame
size never exceeds the array, and an open frame has room for its next byte. -/
structure UartInv (u : Uart) : Prop where
  length_eq : u.output.bytes.length = maxFrameSize
  no_fault : u.output.fault = false
  max_le : u.byteCntMax ≤ maxFrameSize
  open_lt : u.state.Open → u.byteCnt < maxFrameSize

/-- The bytes stored since the most recent SOF acceptance, kept beside the UART: an accepted
SOF empties the list, and a step that advances `byteCnt` appends the byte it stored. -/
def rxStep (rx : List UInt8) (u : Uart) (bit : Bool) : List UInt8 :=
  let u' := (handle14443bSampleFromReader u bit).1
  if u.state = .gotFallingEdgeOfSof ∧ u'.state = .awaitingStartBit then []
  else if u'.byteCnt = u.byteCnt + 1 then rx ++ [u'.output.bytes.getD u.byteCnt 0]
  else rx

/-- While a frame is open, its bytes in the array are the ones stored since its SOF. -/
def RxInv (u : Uart) (rx : List UInt8) : Prop := u.state.Open → u.output.bytes.take u.byteCnt = rx

theorem uartInv_init (data : FrameArray) : UartInv (uart14bInit data.1) :=
  ⟨data.2.1, data.2.2, le_refl _, by simp [uart14bInit, UartState.Open]⟩

theorem uartInv_reset {u : Uart} (h : UartInv u) : UartInv (uart14bReset u) :=
  ⟨h.length_eq, h.no_fault, le_refl _, by simp [uart14bReset, UartState.Open]⟩

theorem uartInv_setMaxframesize {u : Uart} (h : UartInv u) (size : Nat) :
    UartInv (iso14bSetMaxframesize u size) :=
  ⟨h.length_eq, h.no_fault, by simp only [iso14bSetMaxframesize, maxFrameSize]; split <;> omega,
    h.open_lt⟩

theorem rxInv_of_not_open {u : Uart} (h : ¬ u.state.Open) (rx : List UInt8) : RxInv u rx :=
  fun ho => absurd ho h

/-- **One sample keeps both invariants**, and a returned frame is non-empty, fits the array, and
holds exactly the bytes stored since its SOF. -/
theorem uartInv_handle {u : Uart} {rx : List UInt8} (h : UartInv u) (hrx : RxInv u rx)
    (bit : Bool) :
    UartInv (handle14443bSampleFromReader u bit).1 ∧
      RxInv (handle14443bSampleFromReader u bit).1 (rxStep rx u bit) ∧
      ((handle14443bSampleFromReader u bit).2 = true →
        1 ≤ (handle14443bSampleFromReader u bit).1.byteCnt ∧
        (handle14443bSampleFromReader u bit).1.byteCnt ≤ maxFrameSize ∧
        (handle14443bSampleFromReader u bit).1.output.bytes.take
          (handle14443bSampleFromReader u bit).1.byteCnt = rxStep rx u bit) := by
  rcases hs : u.state
  · -- STATE_14B_UNSYNCD: at most moves to the falling edge
    have hu : (handle14443bSampleFromReader u bit).1 = u ∨
        (handle14443bSampleFromReader u bit).1 =
          { u with state := .gotFallingEdgeOfSof, posCnt := 0, bitCnt := 0 } := by
      cases bit <;> simp [handle14443bSampleFromReader, hs]
    have hr : (handle14443bSampleFromReader u bit).2 = false := by
      cases bit <;> simp [handle14443bSampleFromReader, hs]
    rcases hu with hu | hu <;>
      refine ⟨?_, rxInv_of_not_open (by simp [hu, hs, UartState.Open]) _, by simp [hr]⟩ <;>
      rw [hu]
    · exact h
    · exact ⟨h.length_eq, h.no_fault, h.max_le, by simp [UartState.Open]⟩
  · -- STATE_14B_GOT_FALLING_EDGE_OF_SOF: only an accepted SOF opens a frame, with no bytes
    obtain ⟨ho, hm, hst⟩ := uartGot_spec hs bit
    simp only [handle14443bSampleFromReader, hs]
    refine ⟨⟨by rw [ho]; exact h.length_eq, by rw [ho]; exact h.no_fault, by rw [hm]; exact h.max_le,
      ?_⟩, ?_, by simp⟩
    · rcases hst with hst | hst | ⟨hst, hb⟩
      · simp [hst, UartState.Open]
      · simp [hst, UartState.Open]
      · simp [hb, maxFrameSize]
    · rcases hst with hst | hst | ⟨hst, hb⟩
      · exact rxInv_of_not_open (by simp [hst, UartState.Open]) _
      · exact rxInv_of_not_open (by simp [hst, UartState.Open]) _
      · intro _
        simp [rxStep, handle14443bSampleFromReader, hs, hst, hb]
  · -- STATE_14B_AWAITING_START_BIT: only the state and the counters move
    have hu : (handle14443bSampleFromReader u bit).1.output = u.output ∧
        (handle14443bSampleFromReader u bit).1.byteCnt = u.byteCnt ∧
        (handle14443bSampleFromReader u bit).1.byteCntMax = u.byteCntMax ∧
        (handle14443bSampleFromReader u bit).2 = false := by
      cases bit <;> simp [handle14443bSampleFromReader, hs, apply_ite]
    have hopen : u.state.Open := by simp [hs, UartState.Open]
    refine ⟨⟨by rw [hu.1]; exact h.length_eq, by rw [hu.1]; exact h.no_fault,
      by rw [hu.2.2.1]; exact h.max_le, fun _ => by rw [hu.2.1]; exact h.open_lt hopen⟩, ?_,
      by simp [hu.2.2.2]⟩
    intro _
    have hrx' : rxStep rx u bit = rx := by simp [rxStep, hs, hu.2.1]
    rw [hrx', hu.1, hu.2.1]
    exact hrx hopen
  · -- STATE_14B_RECEIVING_DATA: a store, an end of frame, or nothing
    have hopen : u.state.Open := by simp [hs, UartState.Open]
    have hlt : u.byteCnt < u.output.bytes.length := h.length_eq ▸ h.open_lt hopen
    obtain ⟨ho, hb, hm, -⟩ := tick_dataSample u bit
    obtain ⟨hm', hcase⟩ := uartCharacterDone_spec (u.tick (uartDataSample bit))
    have hh : handle14443bSampleFromReader u bit =
        uartCharacterDone (u.tick (uartDataSample bit)) := by
      simp [handle14443bSampleFromReader, hs, uartReceivingData]
    rw [hh]
    rw [hm] at hm'
    rcases hcase with ⟨ho', hb', -, hret⟩ | ⟨hret, ho', hb', hst'⟩
    · rw [ho] at ho'
      rw [hb] at hb'
      have hrx' : rxStep rx u bit = rx := by simp [rxStep, hs, hh, hb']
      rw [hrx']
      have hbytes : (uartCharacterDone (u.tick (uartDataSample bit))).1.output.bytes.take
          (uartCharacterDone (u.tick (uartDataSample bit))).1.byteCnt = rx := by
        rw [ho', hb']; exact hrx hopen
      refine ⟨⟨by rw [ho']; exact h.length_eq, by rw [ho']; exact h.no_fault,
          by rw [hm']; exact h.max_le, fun _ => by rw [hb']; exact h.open_lt hopen⟩,
        fun _ => hbytes, fun hr => ⟨?_, by rw [hb']; exact (h.open_lt hopen).le, hbytes⟩⟩
      have := (hret hr).2
      omega
    · rw [hb] at hb'
      have hstore : (uartCharacterDone (u.tick (uartDataSample bit))).1.output =
          u.output.store u.byteCnt
            (UInt8.ofNat ((u.tick (uartDataSample bit)).shiftReg >>> 1 &&& 0xFF)) := by
        simp [ho', Uart.storeByte, ho, hb]
      have hrx' : rxStep rx u bit = rx ++ [(u.output.store u.byteCnt
          (UInt8.ofNat ((u.tick (uartDataSample bit)).shiftReg >>> 1 &&& 0xFF))).bytes.getD
            u.byteCnt 0] := by
        simp [rxStep, hs, hh, hb', hstore]
      rw [hrx']
      refine ⟨⟨by simp [hstore, h.length_eq], by simp [hstore, h.no_fault, hlt],
        hm' ▸ h.max_le, ?_⟩, ?_, by simp [hret]⟩
      · rcases hst' with hst' | ⟨-, hlt'⟩
        · simp [hst', UartState.Open]
        · intro _; have := h.max_le; omega
      · intro _
        rw [hstore, hb', Buffer.store_take (hrx hopen) hlt, Buffer.store_of_lt hlt]
        simp [List.getD_eq_getElem?_getD, List.getElem?_set_self hlt]

/-! ## 4. Every interleaving -/

/-- The operations that write the UART: a sample, `Uart14bReset`, `Uart14bInit` on a
`MAX_FRAME_SIZE`-byte array, and `iso14b_set_maxframesize`. -/
inductive UartOp
  | sample (bit : Bool)
  | reset
  | init (data : FrameArray)
  | setMaxframesize (size : Nat)

/-- One operation, with the bytes stored since the last SOF carried along. -/
def uartOp (g : Uart × List UInt8) : UartOp → Uart × List UInt8
  | .sample bit => ((handle14443bSampleFromReader g.1 bit).1, rxStep g.2 g.1 bit)
  | .reset => (uart14bReset g.1, g.2)
  | .init data => (uart14bInit data.1, g.2)
  | .setMaxframesize size => (iso14bSetMaxframesize g.1 size, g.2)

theorem uartOps_inv (data : FrameArray) (ops : List UartOp) :
    UartInv (ops.foldl uartOp (uart14bInit data.1, [])).1 ∧
      RxInv (ops.foldl uartOp (uart14bInit data.1, [])).1
        (ops.foldl uartOp (uart14bInit data.1, [])).2 := by
  induction ops using List.reverseRecOn with
  | nil => exact ⟨uartInv_init data, rxInv_of_not_open (by simp [uart14bInit, UartState.Open]) _⟩
  | append_singleton ops op ih =>
    rw [List.foldl_append, List.foldl_cons, List.foldl_nil]
    obtain ⟨h, hrx⟩ := ih
    cases op with
    | sample bit => exact ⟨(uartInv_handle h hrx bit).1, (uartInv_handle h hrx bit).2.1⟩
    | reset =>
      exact ⟨uartInv_reset h, rxInv_of_not_open (by simp [uartOp, uart14bReset, UartState.Open]) _⟩
    | init d =>
      exact ⟨uartInv_init d, rxInv_of_not_open (by simp [uartOp, uart14bInit, UartState.Open]) _⟩
    | setMaxframesize size => exact ⟨uartInv_setMaxframesize h size, hrx⟩

/-- **No store of the UART ever leaves the caller's array**, whatever samples, resets, inits
and frame sizes come in whatever order; and whenever `Handle14443bSampleFromReader` returns
`true`, the frame holds between 1 and `MAX_FRAME_SIZE` bytes, exactly those stored since the SOF
that opened it. -/
theorem uartOps_safe (data : FrameArray) (ops : List UartOp) (bit : Bool) :
    let g := ops.foldl uartOp (uart14bInit data.1, [])
    let r := handle14443bSampleFromReader g.1 bit
    r.1.output.fault = false ∧
      (r.2 = true → 1 ≤ r.1.byteCnt ∧ r.1.byteCnt ≤ maxFrameSize ∧
        r.1.output.bytes.take r.1.byteCnt = rxStep g.2 g.1 bit) := by
  obtain ⟨h, hrx⟩ := uartOps_inv data ops
  exact ⟨(uartInv_handle h hrx bit).1.no_fault, (uartInv_handle h hrx bit).2.2⟩

end Iso14443b
