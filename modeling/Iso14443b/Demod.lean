/-
# The reader-side BPSK demodulator

`Handle14443bSamplesFromTag` decodes the tag's subcarrier from I/Q samples, two per ETU, with
the state variables of the static `Demod`.  It first averages eight samples of the unmodulated
subcarrier (TR1) into a reference `(sumI, sumQ)`, and from then on decides each sample by the
sign of its projection on the quadrant of that reference (`MAKE_SOFT_DECISION`).  The SOF,
the characters and the EOF are then framed in ETUs of two samples, as the UART frames ETUs of
four envelope samples.

This module embeds it as a function of the state and one sample, cut along the `switch` into
one function per state.  The lemmas of §3 say what one sample does in each state; the frame
lemmas built from them are in `DemodFrame.lean`.
-/
import Iso14443b.Basic

namespace Iso14443b

/-! ## 1. The state and the function that writes it -/

/-- The six states of the demodulator, in the order of the C enum. -/
inductive DemodState
  | unsyncd
  | phaseRefTraining
  | awaitingFallingEdgeOfSof
  | gotFallingEdgeOfSof
  | awaitingStartBit
  | receivingData
  deriving DecidableEq, Repr

/-- The value of the C enum constant, for the comparisons `Demod.state < …` of the callers. -/
def DemodState.toNat : DemodState → Nat
  | unsyncd => 0
  | phaseRefTraining => 1
  | awaitingFallingEdgeOfSof => 2
  | gotFallingEdgeOfSof => 3
  | awaitingStartBit => 4
  | receivingData => 5

/-- The static `Demod` of `iso14443b.c`.  `len` and `max_len` are `uint16_t`; `len` wraps
(`% 65536`).  The other counters stay far below their C bounds, so they are natural numbers
and integers here. -/
structure Demod where
  state : DemodState
  bitCount : Nat
  posCount : Nat
  thisBit : Int
  shiftReg : Nat
  maxLen : Nat
  output : Buffer
  len : Nat
  sumI : Int
  sumQ : Int
  deriving DecidableEq, Repr

/-- `Demod14bReset()`: every field but the output array and its size. -/
def demod14bReset (d : Demod) : Demod :=
  { d with state := .unsyncd, bitCount := 0, posCount := 0, thisBit := 0, shiftReg := 0,
           len := 0, sumI := 0, sumQ := 0 }

/-- `Demod14bInit(data, max_len)`. -/
def demod14bInit (data : Buffer) (maxLen : UInt16) : Demod :=
  ⟨.unsyncd, 0, 0, 0, 0, maxLen.toNat, data, 0, 0, 0⟩

/-- `SUBCARRIER_DETECT_THRESHOLD`. -/
def subcarrierDetectThreshold : Nat := 8

/-- `AMPLITUDE(ci, cq)`: `max(|ci|, |cq|) + min(|ci|, |cq|) / 2`. -/
def amplitude (ci cq : Int) : Nat := max ci.natAbs cq.natAbs + min ci.natAbs cq.natAbs / 2

/-- `MAKE_SOFT_DECISION()`: the sample projected on the quadrant of the reference. -/
def Demod.softDecision (d : Demod) (ci cq : Int) : Int :=
  (if d.sumI > 0 then ci else -ci) + (if d.sumQ > 0 then cq else -cq)

/-- `DEMOD_UNSYNCD`: a subcarrier starts the training of the reference phase. -/
def demodUnsyncd (d : Demod) (ci cq : Int) : Demod :=
  if amplitude ci cq > subcarrierDetectThreshold then
    { d with state := .phaseRefTraining, sumI := ci, sumQ := cq, posCount := 1 }
  else d

/-- `DEMOD_PHASE_REF_TRAINING`: sum eight samples of the subcarrier; the ninth sample is only
the step to `DEMOD_AWAITING_FALLING_EDGE_OF_SOF`. -/
def demodPhaseRefTraining (d : Demod) (ci cq : Int) : Demod :=
  if d.posCount < 8 then
    if amplitude ci cq > subcarrierDetectThreshold then
      { d with sumI := d.sumI + ci, sumQ := d.sumQ + cq, posCount := d.posCount + 1 }
    else { d with state := .unsyncd }
  else { d with state := .awaitingFallingEdgeOfSof }

/-- `DEMOD_AWAITING_FALLING_EDGE_OF_SOF`: wait at most `200 / 4` samples for a logic 0. -/
def demodAwaitingFallingEdgeOfSof (d : Demod) (v : Int) : Demod :=
  let d : Demod :=
    if v < 0 then { d with state := .gotFallingEdgeOfSof, posCount := 0 }
    else if d.posCount > 200 / 4 then { d with state := .unsyncd }
    else d
  { d with posCount := d.posCount + 1 }

/-- `DEMOD_GOT_FALLING_EDGE_OF_SOF`: the low phase of the SOF is 9 to 14 ETUs. -/
def demodGotFallingEdgeOfSof (d : Demod) (v : Int) : Demod :=
  let d : Demod := { d with posCount := d.posCount + 1 }
  if v > 0 then
    if d.posCount < 9 * 2 then { d with state := .unsyncd }
    else { d with posCount := 0, bitCount := 0, len := 0, state := .awaitingStartBit }
  else if d.posCount > 14 * 2 then { d with state := .unsyncd }
  else d

/-- `DEMOD_AWAITING_START_BIT`: at most six ETUs of logic 1 before a start bit; six ETUs after
an SOF with no character end the frame (`return true`, for iClass). -/
def demodAwaitingStartBit (d : Demod) (v : Int) : Demod × Bool :=
  let d : Demod := { d with posCount := d.posCount + 1 }
  if v > 0 then
    if d.posCount > 6 * 2 then
      if d.bitCount = 0 ∧ d.len = 0 then (d, true) else ({ d with state := .unsyncd }, false)
    else (d, false)
  else ({ d with posCount := 1, thisBit := v, shiftReg := 0, state := .receivingData }, false)

/-- `if (Demod.bitCount == 10) …` and the `Demod.posCount = 0` after it: store a well-framed
character, end the frame on an all-zero one (returning before `posCount` is cleared), and
drop anything else. -/
def demodCharacterDone (d : Demod) : Demod × Bool :=
  if d.bitCount = 10 then
    if d.shiftReg &&& 0x200 ≠ 0 ∧ d.shiftReg &&& 0x001 = 0 then
      ({ d with output := d.output.store d.len (UInt8.ofNat (d.shiftReg >>> 1)),
                len := (d.len + 1) % 65536, bitCount := 0, state := .awaitingStartBit,
                posCount := 0 }, false)
    else if d.shiftReg = 0 then ({ d with state := .unsyncd }, true)
    else ({ d with state := .unsyncd, posCount := 0 }, false)
  else ({ d with posCount := 0 }, false)

/-- `DEMOD_RECEIVING_DATA`: a bit is the sum of the decisions on its two samples. -/
def demodReceivingData (d : Demod) (v : Int) : Demod × Bool :=
  if d.posCount = 0 then ({ d with thisBit := v, posCount := 1 }, false)
  else
    let d : Demod := { d with thisBit := d.thisBit + v }
    demodCharacterDone { d with shiftReg := shiftIn d.shiftReg (d.thisBit > 0),
                                bitCount := d.bitCount + 1 }

/-- `Handle14443bSamplesFromTag(ci, cq)`: one I/Q sample; `true` at an EOF (or after an SOF
with no character). -/
def handle14443bSamplesFromTag (d : Demod) (ci cq : Int) : Demod × Bool :=
  match d.state with
  | .unsyncd => (demodUnsyncd d ci cq, false)
  | .phaseRefTraining => (demodPhaseRefTraining d ci cq, false)
  | .awaitingFallingEdgeOfSof => (demodAwaitingFallingEdgeOfSof d (d.softDecision ci cq), false)
  | .gotFallingEdgeOfSof => (demodGotFallingEdgeOfSof d (d.softDecision ci cq), false)
  | .awaitingStartBit => demodAwaitingStartBit d (d.softDecision ci cq)
  | .receivingData => demodReceivingData d (d.softDecision ci cq)

/-- The demodulator as a sample loop: it leaves when `Handle14443bSamplesFromTag` returns
`true`. -/
def demodStep (d : Demod) (s : Int × Int) : Demod ⊕ Demod :=
  match handle14443bSamplesFromTag d s.1 s.2 with
  | (d', false) => .inl d'
  | (d', true) => .inr d'

/-! ## 2. What one sample does in each state -/

section Samples

variable {d : Demod} {ci cq : Int}

theorem demod_quiet (hs : d.state = .unsyncd) (ha : amplitude ci cq ≤ 8) :
    handle14443bSamplesFromTag d ci cq = (d, false) := by
  simp [handle14443bSamplesFromTag, hs, demodUnsyncd, subcarrierDetectThreshold, ha]

theorem demod_detect (hs : d.state = .unsyncd) (ha : 8 < amplitude ci cq) :
    handle14443bSamplesFromTag d ci cq =
      ({ d with state := .phaseRefTraining, sumI := ci, sumQ := cq, posCount := 1 }, false) := by
  simp [handle14443bSamplesFromTag, hs, demodUnsyncd, subcarrierDetectThreshold, ha]

theorem demod_train (hs : d.state = .phaseRefTraining) (hp : d.posCount < 8)
    (ha : 8 < amplitude ci cq) :
    handle14443bSamplesFromTag d ci cq =
      ({ d with sumI := d.sumI + ci, sumQ := d.sumQ + cq, posCount := d.posCount + 1 }, false) := by
  simp [handle14443bSamplesFromTag, hs, demodPhaseRefTraining, subcarrierDetectThreshold, hp, ha]

theorem demod_trained (hs : d.state = .phaseRefTraining) (hp : 8 ≤ d.posCount) :
    handle14443bSamplesFromTag d ci cq = ({ d with state := .awaitingFallingEdgeOfSof }, false) := by
  simp [handle14443bSamplesFromTag, hs, demodPhaseRefTraining, Nat.not_lt.mpr hp]

theorem demod_tr1 (hs : d.state = .awaitingFallingEdgeOfSof) (hv : 0 ≤ d.softDecision ci cq)
    (hp : d.posCount ≤ 50) :
    handle14443bSamplesFromTag d ci cq = ({ d with posCount := d.posCount + 1 }, false) := by
  simp [handle14443bSamplesFromTag, hs, demodAwaitingFallingEdgeOfSof, Int.not_lt.mpr hv,
    Nat.not_lt.mpr hp]

theorem demod_sof_fall (hs : d.state = .awaitingFallingEdgeOfSof) (hv : d.softDecision ci cq < 0) :
    handle14443bSamplesFromTag d ci cq =
      ({ d with state := .gotFallingEdgeOfSof, posCount := 1 }, false) := by
  simp [handle14443bSamplesFromTag, hs, demodAwaitingFallingEdgeOfSof, hv]

theorem demod_sof_low (hs : d.state = .gotFallingEdgeOfSof) (hv : d.softDecision ci cq ≤ 0)
    (hp : d.posCount + 1 ≤ 28) :
    handle14443bSamplesFromTag d ci cq = ({ d with posCount := d.posCount + 1 }, false) := by
  simp [handle14443bSamplesFromTag, hs, demodGotFallingEdgeOfSof, Int.not_lt.mpr hv,
    Nat.not_lt.mpr hp]

theorem demod_sof_rise (hs : d.state = .gotFallingEdgeOfSof) (hv : 0 < d.softDecision ci cq)
    (hp : 18 ≤ d.posCount + 1) :
    handle14443bSamplesFromTag d ci cq =
      ({ d with posCount := 0, bitCount := 0, len := 0, state := .awaitingStartBit }, false) := by
  simp [handle14443bSamplesFromTag, hs, demodGotFallingEdgeOfSof, hv, Nat.not_lt.mpr hp]

theorem demod_await (hs : d.state = .awaitingStartBit) (hv : 0 < d.softDecision ci cq)
    (hp : d.posCount + 1 ≤ 12) :
    handle14443bSamplesFromTag d ci cq = ({ d with posCount := d.posCount + 1 }, false) := by
  simp [handle14443bSamplesFromTag, hs, demodAwaitingStartBit, hv, Nat.not_lt.mpr hp]

theorem demod_start (hs : d.state = .awaitingStartBit) (hv : d.softDecision ci cq ≤ 0) :
    handle14443bSamplesFromTag d ci cq =
      ({ d with posCount := 1, thisBit := d.softDecision ci cq, shiftReg := 0,
                state := .receivingData }, false) := by
  simp [handle14443bSamplesFromTag, hs, demodAwaitingStartBit, Int.not_lt.mpr hv]

theorem demod_half (hs : d.state = .receivingData) (hp : d.posCount = 0) :
    handle14443bSamplesFromTag d ci cq = ({ d with thisBit := d.softDecision ci cq, posCount := 1 }, false) := by
  simp [handle14443bSamplesFromTag, hs, demodReceivingData, hp]

theorem demod_bit (hs : d.state = .receivingData) (hp : d.posCount ≠ 0) :
    handle14443bSamplesFromTag d ci cq =
      demodCharacterDone
        { d with thisBit := d.thisBit + d.softDecision ci cq,
                 shiftReg := shiftIn d.shiftReg (d.thisBit + d.softDecision ci cq > 0),
                 bitCount := d.bitCount + 1 } := by
  simp [handle14443bSamplesFromTag, hs, demodReceivingData, hp]

theorem demodCharacterDone_of_ne (h : d.bitCount ≠ 10) :
    demodCharacterDone d = ({ d with posCount := 0 }, false) := by
  simp [demodCharacterDone, h]

/-- A well-framed character is stored at `len`. -/
theorem demodCharacterDone_store {b : UInt8} (hc : d.bitCount = 10)
    (hs : d.shiftReg = 512 + 2 * b.toNat) :
    demodCharacterDone d =
      ({ d with output := d.output.store d.len b, len := (d.len + 1) % 65536, bitCount := 0,
                state := .awaitingStartBit, posCount := 0 }, false) := by
  have hb : b.toNat < 256 := b.toNat_lt_size
  have hdec : UInt8.ofNat ((512 + 2 * b.toNat) >>> 1) = b := by
    apply UInt8.toNat.inj
    show ((512 + 2 * b.toNat) >>> 1) % 256 = b.toNat
    rw [Nat.shiftRight_eq_div_pow]; omega
  simp only [demodCharacterDone, hc, hs, hdec, if_true, ne_eq, stop_bit_set hb,
    not_false_eq_true, Nat.and_one_is_mod, true_and]
  rw [if_pos (by omega)]

/-- An all-zero character is the EOF. -/
theorem demodCharacterDone_eof (hc : d.bitCount = 10) (hs : d.shiftReg = 0) :
    demodCharacterDone d = ({ d with state := .unsyncd }, true) := by
  simp [demodCharacterDone, hc, hs]

end Samples

/-! ## 3. What a sample can write -/

/-- Only a well-framed character writes the array. -/
theorem demodCharacterDone_output (d : Demod) :
    (demodCharacterDone d).1.output = d.output ∨
      ∃ b, (demodCharacterDone d).1.output = d.output.store d.len b := by
  unfold demodCharacterDone
  split
  · split
    · exact .inr ⟨_, rfl⟩
    · split <;> exact .inl rfl
  · exact .inl rfl

/-- A sample either leaves the array alone or stores one byte at `len`, with no bound check. -/
theorem handle_output (d : Demod) (ci cq : Int) :
    (handle14443bSamplesFromTag d ci cq).1.output = d.output ∨
      ∃ b, (handle14443bSamplesFromTag d ci cq).1.output = d.output.store d.len b := by
  unfold handle14443bSamplesFromTag
  split
  case h_6 =>
    unfold demodReceivingData
    split
    · exact .inl rfl
    · exact demodCharacterDone_output _
  all_goals
    left
    simp only [demodUnsyncd, demodPhaseRefTraining, demodAwaitingFallingEdgeOfSof,
      demodGotFallingEdgeOfSof, demodAwaitingStartBit, apply_ite Demod.output,
      apply_ite Prod.fst, ite_self]

/-- A store past the array is never undone. -/
theorem handle_fault {d : Demod} (h : d.output.fault = true) (ci cq : Int) :
    (handle14443bSamplesFromTag d ci cq).1.output.fault = true := by
  rcases handle_output d ci cq with h₁ | ⟨b, h₁⟩ <;> simp [h₁, h]

theorem demodStep_fault {d : Demod} (h : d.output.fault = true) (s : Int × Int) :
    ((demodStep d s).elim id id).output.fault = true := by
  have := handle_fault h s.1 s.2
  unfold demodStep
  split <;> simp_all

/-- **Faults are sticky** over any run of the sample loop, wherever it stands at the end. -/
theorem runLoop_demod_fault {d : Demod} (h : d.output.fault = true) (xs : List (Int × Int)) :
    ((runLoop demodStep d xs).elim id Prod.fst).output.fault = true := by
  induction xs generalizing d with
  | nil => exact h
  | cons s xs ih =>
    have hs := demodStep_fault h s
    cases he : demodStep d s with
    | inl e => rw [runLoop_cons_inl _ he]; rw [he] at hs; exact ih hs
    | inr e => rw [runLoop_cons_inr _ he]; rw [he] at hs; exact hs

end Iso14443b
