/-
# The demodulator decodes every PICC frame, and stores past `max_len` for a long one

A tag frame reaches the reader as the subcarrier in one of two phases, two I/Q samples per
ETU: a reference vector `r` for logic 1 and `-r` for logic 0 (`bpsk`).  ISO 14443-2 frames it
as a TR1 of ones, an SOF (10-11 ETUs low, 2-3 high), characters `0 b0 … b7 1` each followed by
at most two ETUs of extra guard time, and an EOF of 10-11 low ETUs (`PiccTiming`).

Training sums eight samples of TR1 into `8 r`, after which every decision is `±(|rI| + |rQ|)`
(`softDecision_sym`), whatever the quadrant of `r`.  From there the proof follows the frame,
as for the UART: one lemma per sample kind (`Demod.lean`), one per ETU, one per character
(`demod_char`), the characters by induction (`demod_chars`), the SOF and the EOF.
`demod_receives_frame` is the round trip.

Nothing bounds the store `Demod.output[Demod.len]` by `max_len`: the only check,
`Demod.len > Demod.max_len`, is made by the caller after the EOF.  So the `max_len + 1`-st
character of a longer frame is stored past an array of `max_len` bytes (`demod_overflows`).
-/
import Iso14443b.Demod
import Iso14443b.ToSend

namespace Iso14443b

/-! ## 1. Frames as I/Q samples -/

/-- One ETU half of BPSK against the reference `r`: logic 1 is `r`, logic 0 is `-r`. -/
def sym (r : Int × Int) (x : Bool) : Int × Int := if x then r else (-r.1, -r.2)

/-- Two I/Q samples per ETU. -/
def bpsk (r : Int × Int) (bs : List Bool) : List (Int × Int) :=
  bs.flatMap fun x => List.replicate 2 (sym r x)

@[simp] theorem bpsk_append (r : Int × Int) (a b : List Bool) :
    bpsk r (a ++ b) = bpsk r a ++ bpsk r b :=
  List.flatMap_append ..

@[simp] theorem bpsk_cons (r : Int × Int) (x : Bool) (bs : List Bool) :
    bpsk r (x :: bs) = List.replicate 2 (sym r x) ++ bpsk r bs := rfl

@[simp] theorem bpsk_nil (r : Int × Int) : bpsk r [] = [] := rfl

@[simp] theorem length_bpsk (r : Int × Int) (bs : List Bool) : (bpsk r bs).length = 2 * bs.length := by
  induction bs with
  | nil => rfl
  | cons x bs ih => simp only [bpsk_cons, List.length_append, List.length_replicate, ih,
      List.length_cons]; omega

theorem bpsk_replicate (r : Int × Int) (n : Nat) (x : Bool) :
    bpsk r (List.replicate n x) = List.replicate (2 * n) (sym r x) := by
  induction n with
  | zero => rfl
  | succ n ih => rw [List.replicate_succ, bpsk_cons, ih, ← List.replicate_add]; congr 1; omega

/-- The decision on a sample of the reference: `|rI| + |rQ|`. -/
def refGain (r : Int × Int) : Int := r.1.natAbs + r.2.natAbs

/-- The bit value the decision gives a symbol. -/
def bitVal (r : Int × Int) (x : Bool) : Int := if x then refGain r else -refGain r

@[simp] theorem bitVal_true (r : Int × Int) : bitVal r true = refGain r := rfl

@[simp] theorem bitVal_false (r : Int × Int) : bitVal r false = -refGain r := rfl

/-- A bit is read back from the sign of its decisions. -/
theorem decide_bitVal {r : Int × Int} (ha : 0 < refGain r) (x : Bool) :
    decide (0 < bitVal r x) = x := by
  cases x <;> simp <;> omega

/-- A detected subcarrier has a nonzero decision. -/
theorem refGain_pos {r : Int × Int} (ha : 8 < amplitude r.1 r.2) : 0 < refGain r := by
  simp only [amplitude] at ha
  simp only [refGain]
  omega

/-- The reference the training left: `8 r`. -/
structure Locked (d : Demod) (r : Int × Int) : Prop where
  sumI : d.sumI = 8 * r.1
  sumQ : d.sumQ = 8 * r.2

/-- One component of the decision against its own sum `8 a`: `|a|`. -/
theorem quadrant_natAbs (a : Int) : (if 8 * a > 0 then a else -a) = a.natAbs := by
  split <;> omega

/-- Against `8 r`, the decision on `±r` is `±(|rI| + |rQ|)`. -/
theorem softDecision_sym {d : Demod} {r : Int × Int} (hI : d.sumI = 8 * r.1) (hQ : d.sumQ = 8 * r.2)
    (x : Bool) : d.softDecision (sym r x).1 (sym r x).2 = bitVal r x := by
  have hneg : ∀ a : Int, (if 8 * a > 0 then -a else - -a) = -a.natAbs := fun a => by
    rw [← quadrant_natAbs a]; split <;> rfl
  cases x
  · simp only [Demod.softDecision, sym, hI, hQ, Bool.false_eq_true, if_false, hneg, bitVal, refGain]
    omega
  · simp only [Demod.softDecision, sym, hI, hQ, if_true, quadrant_natAbs, bitVal, refGain]

/-- The timing ISO 14443-2 allows a PICC frame: TR1 of 10-25 ETUs, SOF 10-11 ETUs low and
2-3 high, at most 2 ETUs of extra guard time after each character, EOF of 10-11 ETUs. -/
structure PiccTiming (tr1 sofLow sofHigh : Nat) (chars : List (UInt8 × Nat)) (eof : Nat) :
    Prop where
  tr1_ge : 10 ≤ tr1
  tr1_le : tr1 ≤ 25
  low_ge : 10 ≤ sofLow
  low_le : sofLow ≤ 11
  high_ge : 2 ≤ sofHigh
  high_le : sofHigh ≤ 3
  egt_le : ∀ c ∈ chars, c.2 ≤ 2
  eof_ge : 10 ≤ eof
  eof_le : eof ≤ 11

/-- A PICC frame at ETU level: TR1, then the frame body. -/
def piccFrame (tr1 sofLow sofHigh : Nat) (chars : List (UInt8 × Nat)) (eof : Nat) : List Bool :=
  List.replicate tr1 true ++ frameBody sofLow sofHigh chars eof

/-- `CodeIso14443bAsTag` sends a PICC frame with a 20-ETU TR1, followed by two ones. -/
theorem tagSymbols_eq_piccFrame (cmd : List UInt8) :
    tagSymbols cmd = piccFrame 20 10 2 (cmd.map (·, 0)) 10 ++ List.replicate 2 true := rfl

theorem tagSymbols_timing (cmd : List UInt8) : PiccTiming 20 10 2 (cmd.map (·, 0)) 10 :=
  ⟨by decide, by decide, le_rfl, by decide, le_rfl, by decide, by simp, le_rfl, by decide⟩

/-! ## 2. The demodulator inside a frame

Inside a frame the demodulator never passes through `DEMOD_UNSYNCD`, which is the one state
in which its callers act on their own (the answer loop's timeout, the sniffer's gating).
`demodFrameStep` is the demodulator that also leaves when it loses sync; the frame lemmas are
stated for it, and `runLoop_frameStep_inl` / `runLoop_frameStep_inr` carry them over to the
bare sample loop. -/

/-- One sample inside a frame: leave on `true`, and on a loss of sync. -/
def demodFrameStep (d : Demod) (s : Int × Int) : Demod ⊕ (Bool × Demod) :=
  match handle14443bSamplesFromTag d s.1 s.2 with
  | (d', true) => .inr (true, d')
  | (d', false) => if d'.state = .unsyncd then .inr (false, d') else .inl d'

theorem demodStep_eq_inl {d d' : Demod} {s : Int × Int}
    (h : handle14443bSamplesFromTag d s.1 s.2 = (d', false)) : demodStep d s = .inl d' := by
  simp [demodStep, h]

theorem frameStep_eq_inl {d d' : Demod} {s : Int × Int}
    (h : handle14443bSamplesFromTag d s.1 s.2 = (d', false)) (hs : d'.state ≠ .unsyncd) :
    demodFrameStep d s = .inl d' := by
  simp [demodFrameStep, h, hs]

theorem frameStep_eq_inr {d d' : Demod} {s : Int × Int}
    (h : handle14443bSamplesFromTag d s.1 s.2 = (d', true)) : demodFrameStep d s = .inr (true, d') := by
  simp [demodFrameStep, h]

theorem demodStep_of_frameStep_inl {d e : Demod} {s : Int × Int} (h : demodFrameStep d s = .inl e) :
    demodStep d s = .inl e := by
  unfold demodFrameStep at h
  unfold demodStep
  rcases hh : handle14443bSamplesFromTag d s.1 s.2 with ⟨d', _ | _⟩ <;> simp only [hh] at h ⊢
  · split_ifs at h
    rw [Sum.inl.inj h]
  · cases h

theorem demodStep_of_frameStep_inr {d e : Demod} {s : Int × Int}
    (h : demodFrameStep d s = .inr (true, e)) : demodStep d s = .inr e := by
  unfold demodFrameStep at h
  unfold demodStep
  rcases hh : handle14443bSamplesFromTag d s.1 s.2 with ⟨d', _ | _⟩ <;> simp only [hh] at h ⊢
  · split_ifs at h; simp at h
  · simpa using h

/-- A stretch of a frame is a stretch of the bare sample loop. -/
theorem runLoop_frameStep_inl {d d' : Demod} {xs : List (Int × Int)}
    (h : runLoop demodFrameStep d xs = .inl d') : runLoop demodStep d xs = .inl d' := by
  induction xs generalizing d with
  | nil => cases h; rfl
  | cons s xs ih =>
    cases hs : demodFrameStep d s with
    | inl e =>
      rw [runLoop_cons_inl _ hs] at h
      rw [runLoop_cons_inl _ (demodStep_of_frameStep_inl hs)]
      exact ih h
    | inr b => rw [runLoop_cons_inr _ hs] at h; cases h

/-- A frame that ends on `true` ends the bare sample loop the same way. -/
theorem runLoop_frameStep_inr {d d' : Demod} {xs rest : List (Int × Int)}
    (h : runLoop demodFrameStep d xs = .inr ((true, d'), rest)) :
    runLoop demodStep d xs = .inr (d', rest) := by
  induction xs generalizing d with
  | nil => cases h
  | cons s xs ih =>
    cases hs : demodFrameStep d s with
    | inl e =>
      rw [runLoop_cons_inl _ hs] at h
      rw [runLoop_cons_inl _ (demodStep_of_frameStep_inl hs)]
      exact ih h
    | inr b =>
      rw [runLoop_cons_inr _ hs] at h
      cases h
      exact runLoop_cons_inr _ (demodStep_of_frameStep_inr hs) _

/-! ## 3. TR1 and the SOF -/

section Sof

variable {d : Demod} {r : Int × Int}

/-- Quiet samples leave an unsynchronised demodulator alone. -/
theorem demod_quiets (hs : d.state = .unsyncd) (quiet : List (Int × Int))
    (hq : ∀ s ∈ quiet, amplitude s.1 s.2 ≤ 8) : runLoop demodStep d quiet = .inl d := by
  induction quiet with
  | nil => rfl
  | cons s quiet ih =>
    rw [runLoop_cons_inl _ (demodStep_eq_inl (demod_quiet hs (hq s (.head _))))]
    exact ih fun s' h' => hq s' (.tail _ h')

/-- **Training**: nine samples of the subcarrier lock the reference to `8 r`. -/
theorem demod_training (hs : d.state = .unsyncd) (ha : 8 < amplitude r.1 r.2) :
    runLoop demodFrameStep d (List.replicate 9 (sym r true)) =
      .inl { d with state := .awaitingFallingEdgeOfSof, sumI := 8 * r.1, sumQ := 8 * r.2,
                    posCount := 8 } := by
  simp [List.replicate, runLoop, demodFrameStep, demod_detect, demod_train, demod_trained, sym,
    hs, ha]
  constructor <;> omega

/-- **Samples that only count**: a run of samples each of which moves `posCount` on by one,
while it stays within `bound`. -/
theorem demod_counts {s : Int × Int} {bound : Nat} (hs : d.state ≠ .unsyncd)
    (hstep : ∀ p, p < bound → handle14443bSamplesFromTag { d with posCount := p } s.1 s.2 =
      ({ d with posCount := p + 1 }, false))
    (n : Nat) (hp : d.posCount + n ≤ bound) :
    runLoop demodFrameStep d (List.replicate n s) = .inl { d with posCount := d.posCount + n } := by
  suffices h : ∀ p, p + n ≤ bound →
      runLoop demodFrameStep { d with posCount := p } (List.replicate n s) =
        .inl { d with posCount := p + n } from h _ hp
  clear hp
  induction n with
  | zero => intro p _; rfl
  | succ n ih =>
    intro p hp
    rw [List.replicate_succ, runLoop_cons_inl _ (frameStep_eq_inl (hstep p (by omega)) hs),
      ih (p + 1) (by omega), Nat.add_right_comm, Nat.add_assoc]

variable (hl : Locked d r) (ha : 0 < refGain r)
include hl ha

/-- The rest of TR1, after training. -/
theorem demod_tr1s (hs : d.state = .awaitingFallingEdgeOfSof) (n : Nat) (hp : d.posCount + n ≤ 51) :
    runLoop demodFrameStep d (List.replicate n (sym r true)) =
      .inl { d with posCount := d.posCount + n } := by
  have hv : 0 ≤ d.softDecision (sym r true).1 (sym r true).2 := by
    rw [softDecision_sym hl.1 hl.2]; simp; omega
  exact demod_counts (by rw [hs]; decide) (fun _ hp' => demod_tr1 hs hv (by dsimp only; omega)) n hp

/-- The low phase of the SOF, after its first sample. -/
theorem demod_sof_lows (hs : d.state = .gotFallingEdgeOfSof) (n : Nat) (hp : d.posCount + n ≤ 28) :
    runLoop demodFrameStep d (List.replicate n (sym r false)) =
      .inl { d with posCount := d.posCount + n } := by
  have hv : d.softDecision (sym r false).1 (sym r false).2 ≤ 0 := by
    rw [softDecision_sym hl.1 hl.2]; simp; omega
  exact demod_counts (by rw [hs]; decide) (fun _ hp' => demod_sof_low hs hv (by dsimp only; omega))
    n hp

/-- Ones while the demodulator waits for a start bit. -/
theorem demod_awaits (hs : d.state = .awaitingStartBit) (n : Nat) (hp : d.posCount + n ≤ 12) :
    runLoop demodFrameStep d (List.replicate n (sym r true)) =
      .inl { d with posCount := d.posCount + n } := by
  have hv : 0 < d.softDecision (sym r true).1 (sym r true).2 := by
    rw [softDecision_sym hl.1 hl.2]; simp; omega
  exact demod_counts (by rw [hs]; decide) (fun _ hp' => demod_await hs hv (by dsimp only; omega)) n hp

omit hl ha in
/-- **TR1 and the SOF** open a frame with an empty array and the reference locked. -/
theorem demod_sof (hs : d.state = .unsyncd) (ha : 8 < amplitude r.1 r.2) {tr1 L H : Nat}
    (ht : 10 ≤ tr1) (ht' : tr1 ≤ 25) (hL : 10 ≤ L) (hL' : L ≤ 11) (hH : 2 ≤ H) (hH' : H ≤ 3) :
    runLoop demodFrameStep d
        (bpsk r (List.replicate tr1 true ++ List.replicate L false ++ List.replicate H true)) =
      .inl { d with state := .awaitingStartBit, sumI := 8 * r.1, sumQ := 8 * r.2,
                    posCount := 2 * H - 1, bitCount := 0, len := 0 } := by
  have hg := refGain_pos ha
  have e1 : List.replicate (2 * tr1) (sym r true) =
      List.replicate 9 (sym r true) ++ List.replicate (2 * tr1 - 9) (sym r true) := by
    rw [← List.replicate_add]; congr 1; omega
  have e2 : ∀ (n : Nat) x, 0 < n → List.replicate (2 * n) (sym r x) =
      sym r x :: List.replicate (2 * n - 1) (sym r x) := by
    intro n x hn; rw [← List.replicate_succ]; congr 1; omega
  rw [bpsk_append, bpsk_append, bpsk_replicate, bpsk_replicate, bpsk_replicate, e1,
    e2 L false (by omega), e2 H true (by omega)]
  simp only [List.append_assoc, List.cons_append]
  rw [runLoop_append_inl _ (demod_training hs ha), runLoop_append_inl _ (demod_tr1s ?_ hg ?_ _ ?_),
    runLoop_cons_inl _ (frameStep_eq_inl (demod_sof_fall ?_ ?_) ?_),
    runLoop_append_inl _ (demod_sof_lows ?_ hg ?_ _ ?_),
    runLoop_cons_inl _ (frameStep_eq_inl (demod_sof_rise ?_ ?_ ?_) ?_),
    demod_awaits ?_ hg ?_ _ ?_]
  all_goals first
    | rfl
    | (simp; done)
    | exact ⟨rfl, rfl⟩
    | (rw [softDecision_sym rfl rfl]; simp; omega)
    | (dsimp only; omega)

end Sof

/-! ## 4. Characters -/

section Chars

variable {d : Demod} {r : Int × Int} (hl : Locked d r) (ha : 0 < refGain r)
include hl ha

/-- The start bit of a character, or the first ETU of the EOF. -/
theorem demod_start_etu (hs : d.state = .awaitingStartBit) (hc : d.bitCount = 0) :
    runLoop demodFrameStep d (List.replicate 2 (sym r false)) =
      .inl { d with state := .receivingData, posCount := 0, bitCount := 1, shiftReg := 0,
                    thisBit := bitVal r false + bitVal r false } := by
  have h1 : -refGain r ≤ 0 := by omega
  have h2 : ¬ refGain r < 0 := by omega
  simp [List.replicate, runLoop, demodFrameStep, demod_start, demod_bit, demodCharacterDone_of_ne,
    softDecision_sym, hl.1, hl.2, hs, hc, h1, h2, shiftIn]

/-- A data bit. -/
theorem demod_bit_etu (hs : d.state = .receivingData) (hp : d.posCount = 0) (hc : d.bitCount ≠ 9)
    (x : Bool) :
    runLoop demodFrameStep d (List.replicate 2 (sym r x)) =
      .inl { d with thisBit := bitVal r x + bitVal r x, shiftReg := shiftIn d.shiftReg x,
                    bitCount := d.bitCount + 1 } := by
  simp [List.replicate, runLoop, demodFrameStep, demod_half, demod_bit, demodCharacterDone_of_ne,
    softDecision_sym, hl.1, hl.2, hs, hp, show d.bitCount + 1 ≠ 10 by omega, decide_bitVal ha]

/-- Data bits: shifted in, one per ETU. -/
theorem demod_bits (xs : List Bool) (hs : d.state = .receivingData) (hp : d.posCount = 0)
    (hc : d.bitCount + xs.length ≤ 9) :
    ∃ t, runLoop demodFrameStep d (bpsk r xs) =
      .inl { d with thisBit := t, shiftReg := xs.foldl shiftIn d.shiftReg,
                    bitCount := d.bitCount + xs.length } := by
  induction xs generalizing d with
  | nil => exact ⟨d.thisBit, rfl⟩
  | cons x xs ih =>
    simp only [List.length_cons] at hc
    obtain ⟨t, ht⟩ := ih
      (d := { d with thisBit := bitVal r x + bitVal r x, shiftReg := shiftIn d.shiftReg x,
                     bitCount := d.bitCount + 1 })
      ⟨hl.1, hl.2⟩ hs hp (by dsimp only; omega)
    refine ⟨t, ?_⟩
    rw [bpsk_cons, runLoop_append_inl _ (demod_bit_etu hl ha hs hp (by omega) x), ht]
    simp only [List.foldl_cons, List.length_cons, Nat.add_assoc, Nat.add_comm 1]

/-- The stop bit of a character whose register holds its byte: the byte is stored at `len`. -/
theorem demod_stop_etu (hs : d.state = .receivingData) (hp : d.posCount = 0) (hc : d.bitCount = 9)
    {b : UInt8} (hsr : d.shiftReg = 4 * b.toNat) :
    runLoop demodFrameStep d (List.replicate 2 (sym r true)) =
      .inl { d with thisBit := refGain r + refGain r, shiftReg := 512 + 2 * b.toNat,
                    output := d.output.store d.len b, len := (d.len + 1) % 65536, bitCount := 0,
                    state := .awaitingStartBit, posCount := 0 } := by
  simp [List.replicate, runLoop, demodFrameStep, demod_half, demod_bit, softDecision_sym, hl.1,
    hl.2, hs, hp, hc, hsr, ha, shiftIn_stop, demodCharacterDone_store (b := b)]

/-- **One character** `0 b₀ … b₇ 1` and its extra guard time: the byte is stored at `len`,
and the demodulator waits for the next start bit. -/
theorem demod_char (hs : d.state = .awaitingStartBit) (hc : d.bitCount = 0) (b : UInt8) {g : Nat}
    (hg : g ≤ 6) :
    ∃ t, runLoop demodFrameStep d (bpsk r (charSymbols b ++ List.replicate g true)) =
      .inl { d with state := .awaitingStartBit, posCount := 2 * g, bitCount := 0, thisBit := t,
                    shiftReg := 512 + 2 * b.toNat, output := d.output.store d.len b,
                    len := (d.len + 1) % 65536 } := by
  have hb : ((List.range 8).map b.toNat.testBit).foldl shiftIn 0 = 4 * b.toNat := by
    have : b.toNat < 256 := b.toNat_lt_size
    rw [foldl_shiftIn_testBit _ le_rfl, show 2 ^ 8 = 256 from rfl, Nat.mod_eq_of_lt this]; omega
  obtain ⟨t, ht⟩ := demod_bits
    (d := { d with state := .receivingData, posCount := 0, bitCount := 1, shiftReg := 0,
                   thisBit := bitVal r false + bitVal r false })
    ⟨hl.1, hl.2⟩ ha ((List.range 8).map b.toNat.testBit) rfl rfl (by simp)
  refine ⟨refGain r + refGain r, ?_⟩
  simp only [charSymbols, List.cons_append, List.append_assoc, bpsk_cons, bpsk_append, bpsk_nil,
    List.append_nil, bpsk_replicate, List.singleton_append]
  rw [runLoop_append_inl _ (demod_start_etu hl ha hs hc), runLoop_append_inl _ ht,
    runLoop_append_inl _ (demod_stop_etu ?_ ha ?_ ?_ ?_ (b := b) ?_), List.nil_append,
    demod_awaits ?_ ha ?_ _ ?_]
  all_goals first
    | rfl
    | exact ⟨hl.1, hl.2⟩
    | (dsimp only; omega)
    | exact hb
    | simp

/-- The tenth ETU of the EOF: an all-zero character, and the frame ends at its second sample. -/
theorem demod_eof_etu (hs : d.state = .receivingData) (hp : d.posCount = 0) (hc : d.bitCount = 9)
    (hsr : d.shiftReg = 0) :
    runLoop demodFrameStep d (List.replicate 2 (sym r false)) =
      .inr ((true, { d with state := .unsyncd, posCount := 1, bitCount := 10, shiftReg := 0,
                            thisBit := bitVal r false + bitVal r false }), []) := by
  have h2 : ¬ refGain r < 0 := by omega
  simp [List.replicate, runLoop, demodFrameStep, demod_half, demod_bit, softDecision_sym, hl.1,
    hl.2, hs, hp, hc, hsr, h2, shiftIn, demodCharacterDone_eof]

end Chars

/-- What the demodulator holds between the characters of a frame entered in state `d`: it
waits for a start bit with the reference unchanged, and has stored `bs` from `d.len` on. -/
structure DemodBetween (d d' : Demod) (bs : List UInt8) : Prop where
  state : d'.state = .awaitingStartBit
  bitCount : d'.bitCount = 0
  sumI : d'.sumI = d.sumI
  sumQ : d'.sumQ = d.sumQ
  maxLen : d'.maxLen = d.maxLen
  len : d'.len = d.len + bs.length
  output : d'.output = d.output.storeAll d.len bs

/-- **The characters of a frame**, by induction over them, while `len` does not wrap. -/
theorem demod_chars {d : Demod} {r : Int × Int} (hl : Locked d r) (ha : 0 < refGain r)
    (chars : List (UInt8 × Nat)) (hs : d.state = .awaitingStartBit) (hc : d.bitCount = 0)
    (hg : ∀ c ∈ chars, c.2 ≤ 6) (hk : d.len + chars.length < 65536) :
    ∃ d', runLoop demodFrameStep d (bpsk r (charsBody chars)) = .inl d' ∧
      DemodBetween d d' (chars.map (·.1)) := by
  induction chars generalizing d with
  | nil => exact ⟨d, rfl, hs, hc, rfl, rfl, rfl, rfl, rfl⟩
  | cons c cs ih =>
    simp only [List.length_cons] at hk
    obtain ⟨t, ht⟩ := demod_char hl ha hs hc c.1 (hg c (.head _))
    obtain ⟨d', hd', hb⟩ := ih
      (d := { d with state := .awaitingStartBit, posCount := 2 * c.2, bitCount := 0, thisBit := t,
                     shiftReg := 512 + 2 * c.1.toNat, output := d.output.store d.len c.1,
                     len := (d.len + 1) % 65536 })
      ⟨hl.1, hl.2⟩ rfl rfl (fun c' h' => hg c' (.tail _ h')) (by dsimp only; omega)
    have hlen : (d.len + 1) % 65536 = d.len + 1 := Nat.mod_eq_of_lt (by omega)
    refine ⟨d', ?_, hb.state, hb.bitCount, hb.sumI, hb.sumQ, hb.maxLen, ?_, ?_⟩
    · rw [charsBody, List.flatMap_cons, bpsk_append, runLoop_append_inl _ ht]
      exact hd'
    · rw [hb.len]; dsimp only; rw [hlen]; simp; omega
    · rw [hb.output]; dsimp only; rw [hlen]; rfl

/-- **The EOF**: ten low ETUs after a character, or after the SOF, end the frame at their 20th
sample; the rest of the EOF is left unread. -/
theorem demod_eof {d : Demod} {r : Int × Int} (hl : Locked d r) (ha : 0 < refGain r)
    (hs : d.state = .awaitingStartBit) (hc : d.bitCount = 0) {E : Nat} (hE : 10 ≤ E) :
    ∃ t, runLoop demodFrameStep d (bpsk r (List.replicate E false)) =
      .inr ((true, { d with state := .unsyncd, posCount := 1, bitCount := 10, shiftReg := 0,
                            thisBit := t }), List.replicate (2 * E - 20) (sym r false)) := by
  have hsplit : bpsk r (List.replicate E false) = List.replicate 2 (sym r false) ++
      (bpsk r (List.replicate 8 false) ++ (List.replicate 2 (sym r false) ++
        List.replicate (2 * E - 20) (sym r false))) := by
    simp only [bpsk_replicate, ← List.replicate_add]; congr 1; omega
  obtain ⟨t, ht⟩ := demod_bits
    (d := { d with state := .receivingData, posCount := 0, bitCount := 1, shiftReg := 0,
                   thisBit := bitVal r false + bitVal r false })
    ⟨hl.1, hl.2⟩ ha (List.replicate 8 false) rfl rfl (by simp)
  refine ⟨bitVal r false + bitVal r false, ?_⟩
  rw [hsplit, runLoop_append_inl _ (demod_start_etu hl ha hs hc), runLoop_append_inl _ ht,
    runLoop_append_inr _ (demod_eof_etu ?_ ha ?_ ?_ ?_ ?_), List.nil_append]
  all_goals first
    | rfl
    | exact ⟨hl.1, hl.2⟩
    | exact foldl_shiftIn_zeros 8

/-! ## 5. Whole frames -/

theorem bpsk_piccFrame (r : Int × Int) (tr1 L H E : Nat) (chars : List (UInt8 × Nat)) :
    bpsk r (piccFrame tr1 L H chars E) =
      bpsk r (List.replicate tr1 true ++ List.replicate L false ++ List.replicate H true) ++
        (bpsk r (charsBody chars) ++ bpsk r (List.replicate E false)) := by
  simp [piccFrame, frameBody]

/-- **The round trip of a tag frame**: from `DEMOD_UNSYNCD`, the BPSK rendering of a PICC frame
of `M` against any reference `r` the demodulator detects ends the frame at the 20th sample of
its EOF, with `len = |M|` and `M` stored from index 0. -/
theorem demod_receives_frame {d : Demod} {r : Int × Int} (hs : d.state = .unsyncd)
    (ha : 8 < amplitude r.1 r.2) {tr1 L H E : Nat} {chars : List (UInt8 × Nat)}
    (ht : PiccTiming tr1 L H chars E) (hk : chars.length < 65536) :
    ∃ d', runLoop demodFrameStep d (bpsk r (piccFrame tr1 L H chars E)) =
        .inr ((true, d'), List.replicate (2 * E - 20) (sym r false)) ∧
      d'.len = chars.length ∧ d'.output = d.output.storeAll 0 (chars.map (·.1)) ∧
      d'.maxLen = d.maxLen := by
  have hg := refGain_pos ha
  obtain ⟨d₂, h₂, hb⟩ := demod_chars
    (d := { d with state := .awaitingStartBit, sumI := 8 * r.1, sumQ := 8 * r.2,
                   posCount := 2 * H - 1, bitCount := 0, len := 0 })
    ⟨rfl, rfl⟩ hg chars rfl rfl (fun c h => (ht.egt_le c h).trans (by decide)) (by simpa using hk)
  obtain ⟨t, h₃⟩ := demod_eof ⟨hb.sumI, hb.sumQ⟩ hg hb.state hb.bitCount ht.eof_ge
  refine ⟨{ d₂ with state := .unsyncd, posCount := 1, bitCount := 10, shiftReg := 0, thisBit := t },
    ?_, by simpa using hb.len, hb.output, hb.maxLen⟩
  rw [bpsk_piccFrame, runLoop_append_inl _ (demod_sof hs ha ht.tr1_ge ht.tr1_le ht.low_ge ht.low_le
    ht.high_ge ht.high_le), runLoop_append_inl _ h₂, h₃]

/-! ## 6. A frame longer than `max_len` -/

/-- The first `n` characters of a frame and the next one. -/
theorem charsBody_split (chars : List (UInt8 × Nat)) {n : Nat} (hn : n < chars.length) :
    charsBody chars = charsBody (chars.take n) ++
      (charSymbols chars[n].1 ++ List.replicate chars[n].2 true) ++ charsBody (chars.drop (n + 1)) := by
  conv_lhs => rw [← List.take_append_drop n chars, List.drop_eq_getElem_cons hn]
  rw [charsBody, charsBody, charsBody, List.flatMap_append, List.flatMap_cons]
  simp only [List.append_assoc]

/-- **A frame of more than `max_len` characters is stored past `max_len`**: fed, after any quiet
samples, from `Demod14bInit` on an array of `max_len` bytes, the character at index `max_len`
is written outside it, whatever follows. -/
theorem demod_overflows (out : Buffer) (maxLen : UInt16) (hout : out.bytes.length = maxLen.toNat)
    {r : Int × Int} (ha : 8 < amplitude r.1 r.2) (quiet : List (Int × Int))
    (hq : ∀ s ∈ quiet, amplitude s.1 s.2 ≤ 8) {tr1 L H E : Nat} {chars : List (UInt8 × Nat)}
    (ht : PiccTiming tr1 L H chars E) (hlong : maxLen.toNat < chars.length)
    (rest : List (Int × Int)) :
    ((runLoop demodStep (demod14bInit out maxLen)
        (quiet ++ bpsk r (piccFrame tr1 L H chars E) ++ rest)).elim id Prod.fst).output.fault =
      true := by
  have hg := refGain_pos ha
  have hn : maxLen.toNat < 65536 := maxLen.toNat_lt_size
  have hin := fun c (h : c ∈ chars) => (ht.egt_le c h).trans (by decide : 2 ≤ 6)
  set c := chars[maxLen.toNat]
  obtain ⟨d₂, h₂, hb⟩ := demod_chars
    (d := { demod14bInit out maxLen with
            state := .awaitingStartBit, sumI := 8 * r.1, sumQ := 8 * r.2, posCount := 2 * H - 1,
            bitCount := 0, len := 0 })
    ⟨rfl, rfl⟩ hg (chars.take maxLen.toNat) rfl rfl
    (fun c' h' => hin c' (List.mem_of_mem_take h')) (by simp; omega)
  obtain ⟨t, h₃⟩ := demod_char ⟨hb.sumI, hb.sumQ⟩ hg hb.state hb.bitCount c.1
    (hin c (List.getElem_mem ..))
  have hfault : (d₂.output.store d₂.len c.1).fault = true := by
    rw [hb.output, hb.len]
    simp [demod14bInit, hout, Nat.min_eq_left hlong.le]
  have hsplit : quiet ++ bpsk r (piccFrame tr1 L H chars E) ++ rest = quiet ++
      (bpsk r (List.replicate tr1 true ++ List.replicate L false ++ List.replicate H true) ++
        (bpsk r (charsBody (chars.take maxLen.toNat)) ++
          (bpsk r (charSymbols c.1 ++ List.replicate c.2 true) ++
            (bpsk r (charsBody (chars.drop (maxLen.toNat + 1))) ++
              (bpsk r (List.replicate E false) ++ rest))))) := by
    rw [bpsk_piccFrame, charsBody_split chars hlong]
    simp only [bpsk_append, List.append_assoc]
  rw [hsplit, runLoop_append_inl _ (demod_quiets rfl quiet hq), runLoop_append_inl _ (runLoop_frameStep_inl (demod_sof rfl ha ht.tr1_ge ht.tr1_le ht.low_ge
    ht.low_le ht.high_ge ht.high_le)), runLoop_append_inl _ (runLoop_frameStep_inl h₂),
    runLoop_append_inl _ (runLoop_frameStep_inl h₃)]
  exact runLoop_demod_fault hfault _

/-- A 4-byte reply where `iso14443b_select_card` expects the 3-byte ATTRIB answer. -/
theorem demod_overflows_attrib_reply :
    ((runLoop demodStep (demod14bInit (Buffer.zeros 3) 3)
        ([] ++ bpsk (20, 0) (piccFrame 20 10 2 ((List.replicate 4 0).map (·, 0)) 10) ++ [])).elim
          id Prod.fst).output.fault = true :=
  demod_overflows (Buffer.zeros 3) 3 rfl (by decide) [] (by simp) (tagSymbols_timing _) (by decide) []

end Iso14443b
