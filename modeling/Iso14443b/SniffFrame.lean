/-
# The sniffer hears a whole conversation

A conversation is a sequence of exchanges: a reader frame on the envelope bits of the sample
bytes, the subcarrier quiet, then the tag's answer on their upper parts, the envelope idle,
with idle gaps of any length before each frame.  Quiet is any subcarrier noise the demodulator
does not detect (`AMPLITUDE ≤ 8`), not only silence.  The outcome of this module is that
`SniffIso14443b` logs exactly the frames of the conversation, in order and each with its
direction, and nothing else (`sniffRun_conversation`), for reader frames of
`1 ≤ |M| < MAX_FRAME_SIZE` bytes with the ISO 14443-2 timing and an EOF of at most 11 ETUs, and
tag frames of at most `MAX_FRAME_SIZE` bytes against any subcarrier the demodulator detects.

The proof follows the phases of the sniffer.

* While it listens for the reader, the subcarrier is quiet, so the tag side never changes the
  state, and the sniffer is the UART fed the envelope samples one by one
  (`sniffRun_readerIQ`); the frame lemma of `UartFrame.lean` then gives the reader frame.
* The reader's EOF resets the UART before the EOF is over.  The rest of the EOF is at most five
  low samples, too short a low phase for an SOF, so the UART stays out of a frame
  (`SofQuiet`) and `reader_is_active` stays clear while the tag answers.
* While it awaits the answer, the sniffer is the demodulator fed the upper parts
  (`sniffRun_answering_inr`), the UART seeing only idle envelope; the frame lemma of
  `DemodFrame.lean` gives the tag frame, and its EOF leaves the sniffer listening again, deaf
  to the rest of the tag's EOF (`sniffRun_listening_idle`).

Why the bounds: a reader frame of `MAX_FRAME_SIZE` bytes is dropped by the UART
(`uart_drops_full_frame`), and a longer EOF would leave the UART counting the low phase of an
SOF into the tag's answer.
-/
import Iso14443b.Sniff
import Iso14443b.UartFrame
import Iso14443b.DemodFrame

namespace Iso14443b

/-! ## 1. Sample bytes and conversations -/

/-- The sample byte whose upper part (`c >> 1`) is `v` and whose envelope bit (`c & 0x01`) is
`e`. -/
def sampleByte (v : Int) (e : Bool) : Int := 2 * v + if e then 1 else 0

@[simp] theorem envBit_sampleByte (v : Int) (e : Bool) : envBit (sampleByte v e) = e := by
  cases e <;> simp [envBit, sampleByte, Int.add_emod]

@[simp] theorem sampleByte_shiftRight (v : Int) (e : Bool) : Int.shiftRight (sampleByte v e) 1 = v := by
  rw [← Int.shiftRight_eq, Int.shiftRight_eq_div_pow]
  cases e <;> simp [sampleByte]; omega

/-- Envelope samples two to a sample pair, whose upper parts carry the subcarrier `noise`, one
value a pair; an odd last one is paired with an idle one. -/
def readerIQ (noise : Nat → Int × Int) : List Bool → List (Int × Int)
  | [] => []
  | [b] => [(sampleByte (noise 0).1 b, sampleByte (noise 0).2 true)]
  | b₁ :: b₂ :: bs =>
    (sampleByte (noise 0).1 b₁, sampleByte (noise 0).2 b₂) ::
      readerIQ (fun i => noise (i + 1)) bs

/-- The envelope samples `readerIQ bs` carries: `bs`, and an idle one after an odd count. -/
def padEnv (bs : List Bool) : List Bool := bs ++ List.replicate (bs.length % 2) true

/-- Subcarrier samples under an idle envelope. -/
def tagIQ (xs : List (Int × Int)) : List (Int × Int) :=
  xs.map fun x => (sampleByte x.1 true, sampleByte x.2 true)

/-- A reader frame as the sniffer is meant to hear it: on the envelope, `gap` idle samples,
then an ISO 14443-2 PCD frame of `1 ≤ |M| < MAX_FRAME_SIZE` bytes; on the upper parts, any
`noise` the demodulator takes for a quiet subcarrier (`AMPLITUDE ≤ 8`). -/
structure ReaderFrame where
  gap : Nat
  noise : Nat → Int × Int
  quiet : ∀ i, amplitude (noise i).1 (noise i).2 ≤ 8
  sofLow : Nat
  sofHigh : Nat
  chars : List (UInt8 × Nat)
  eof : Nat
  timing : PcdTiming sofLow sofHigh chars eof
  eof_le : eof ≤ 11
  nonempty : chars ≠ []
  short : chars.length < maxFrameSize

/-- A tag frame under an idle envelope: any quiet samples `lead` (`AMPLITUDE ≤ 8`), then a
PICC frame of at most `MAX_FRAME_SIZE` bytes in BPSK against a reference `ref` the demodulator
detects. -/
structure TagFrame where
  lead : List (Int × Int)
  lead_quiet : ∀ x ∈ lead, amplitude x.1 x.2 ≤ 8
  ref : Int × Int
  strong : 8 < amplitude ref.1 ref.2
  tr1 : Nat
  sofLow : Nat
  sofHigh : Nat
  chars : List (UInt8 × Nat)
  eof : Nat
  timing : PiccTiming tr1 sofLow sofHigh chars eof
  fits : chars.length ≤ maxFrameSize

def ReaderFrame.bytes (f : ReaderFrame) : List UInt8 := f.chars.map (·.1)

def TagFrame.bytes (f : TagFrame) : List UInt8 := f.chars.map (·.1)

def ReaderFrame.samples (f : ReaderFrame) : List (Int × Int) :=
  readerIQ f.noise (List.replicate f.gap true ++ etu4 (frameBody f.sofLow f.sofHigh f.chars f.eof))

def TagFrame.samples (f : TagFrame) : List (Int × Int) :=
  tagIQ (f.lead ++ bpsk f.ref (piccFrame f.tr1 f.sofLow f.sofHigh f.chars f.eof))

/-- The sample stream of a conversation. -/
def conversation (xs : List (ReaderFrame × TagFrame)) : List (Int × Int) :=
  xs.flatMap fun e => e.1.samples ++ e.2.samples

/-- The trace a conversation should leave: each frame with its direction. -/
def conversationLog (xs : List (ReaderFrame × TagFrame)) : List (List UInt8 × Bool) :=
  xs.flatMap fun e => [(e.1.bytes, true), (e.2.bytes, false)]

theorem conversation_cons (e : ReaderFrame × TagFrame) (xs : List (ReaderFrame × TagFrame)) :
    conversation (e :: xs) = (e.1.samples ++ e.2.samples) ++ conversation xs := rfl

theorem conversationLog_cons (e : ReaderFrame × TagFrame) (xs : List (ReaderFrame × TagFrame)) :
    conversationLog (e :: xs) = [(e.1.bytes, true), (e.2.bytes, false)] ++ conversationLog xs := rfl

/-! ## 2. Over a quiet subcarrier the sniffer is the UART -/

/-- `reader_is_active` as the reader side recomputes it. -/
def Sniff.fixReader (s : Sniff) : Sniff :=
  { s with readerIsActive := decide (s.uart.state.toNat > UartState.gotFallingEdgeOfSof.toNat) }

/-- The envelope samples one after the other into the UART, as the reader side feeds them. -/
def readerBits (s : Sniff) (bs : List Bool) : Sniff := bs.foldl sniffReaderBit s

theorem readerBits_cons (s : Sniff) (b : Bool) (bs : List Bool) :
    readerBits s (b :: bs) = readerBits (sniffReaderBit s b) bs := rfl

theorem DemodState.eq_unsyncd {x : DemodState} (h : x.toNat ≤ DemodState.unsyncd.toNat) :
    x = .unsyncd := by
  cases x <;> simp_all [DemodState.toNat]

section Quiet

variable {s : Sniff}

theorem readerBits_tagIsActive (s : Sniff) (bs : List Bool) :
    (readerBits s bs).tagIsActive = s.tagIsActive := by
  induction bs generalizing s with
  | nil => rfl
  | cons b bs ih => exact (ih _).trans (sniffReaderBit_tagIsActive s b)

theorem readerBits_demod_state (s : Sniff) (bs : List Bool) :
    (readerBits s bs).demod.state.toNat ≤ s.demod.state.toNat := by
  induction bs generalizing s with
  | nil => exact le_refl _
  | cons b bs ih => exact (ih _).trans (sniffReaderBit_demod_state s b)

theorem sniffTagSample_eof {ci cq : Int} {d : Demod}
    (hd : handle14443bSamplesFromTag s.demod ci cq = (d, true)) :
    sniffTagSample s ci cq = sniffTagEof s d := by
  rw [sniffTagSample, hd]

theorem sniffTagSample_cont {ci cq : Int} {d : Demod}
    (hd : handle14443bSamplesFromTag s.demod ci cq = (d, false)) :
    sniffTagSample s ci cq =
      { s with demod := d,
               tagIsActive := decide (d.state.toNat > DemodState.gotFallingEdgeOfSof.toNat) } := by
  rw [sniffTagSample, hd]

/-- On a quiet subcarrier the tag side leaves an unsynchronised demodulator, and the state,
alone. -/
theorem sniffTagSide_quiet (ht : s.tagIsActive = false) (hd : s.demod.state = .unsyncd)
    {x : Int × Int} (hx : amplitude x.1 x.2 ≤ 8) (e₁ e₂ : Bool) :
    sniffTagSide s (sampleByte x.1 e₁) (sampleByte x.2 e₂) = s := by
  unfold sniffTagSide
  split
  · rw [sampleByte_shiftRight, sampleByte_shiftRight, sniffTagSample_cont (demod_quiet hd hx)]
    ext <;> simp [hd, ht, DemodState.toNat]
  · rfl

theorem sniffStep_quiet (ht : s.tagIsActive = false) (hd : s.demod.state = .unsyncd)
    {x : Int × Int} (hx : amplitude x.1 x.2 ≤ 8) (b₁ b₂ : Bool) :
    sniffStep s (sampleByte x.1 b₁, sampleByte x.2 b₂) = (readerBits s [b₁, b₂]).fixReader := by
  have hside : sniffReaderSide s (sampleByte x.1 b₁) (sampleByte x.2 b₂) =
      (readerBits s [b₁, b₂]).fixReader := by
    simp only [sniffReaderSide, ht, Bool.false_eq_true, if_false, envBit_sampleByte]; rfl
  show sniffTagSide (sniffReaderSide s (sampleByte x.1 b₁) (sampleByte x.2 b₂)) _ _ = _
  rw [hside]
  exact sniffTagSide_quiet (s := (readerBits s [b₁, b₂]).fixReader)
    ((readerBits_tagIsActive s _).trans ht)
    (DemodState.eq_unsyncd (hd ▸ readerBits_demod_state s [b₁, b₂])) hx b₁ b₂

/-- `reader_is_active` is not read by the UART: two states that differ only in it stay so. -/
theorem sniffReaderBit_fixReader {s t : Sniff} (h : s.fixReader = t.fixReader) (b : Bool) :
    (sniffReaderBit s b).fixReader = (sniffReaderBit t b).fixReader := by
  obtain ⟨u, d, ta, ra, e, l⟩ := s
  obtain ⟨u', d', ta', ra', e', l'⟩ := t
  simp only [Sniff.fixReader, Sniff.mk.injEq] at h
  obtain ⟨rfl, rfl, rfl, -, rfl, rfl⟩ := h
  simp only [sniffReaderBit]
  rcases handle14443bSampleFromReader u b with ⟨v, _ | _⟩ <;> rfl

theorem readerBits_fixReader {s t : Sniff} (h : s.fixReader = t.fixReader) (bs : List Bool) :
    (readerBits s bs).fixReader = (readerBits t bs).fixReader := by
  induction bs generalizing s t with
  | nil => exact h
  | cons b bs ih => exact ih (sniffReaderBit_fixReader h b)

theorem padEnv_cons_cons (b₁ b₂ : Bool) (bs : List Bool) :
    padEnv (b₁ :: b₂ :: bs) = b₁ :: b₂ :: padEnv bs := by
  simp only [padEnv, List.length_cons, List.cons_append]
  rw [show (bs.length + 1 + 1) % 2 = bs.length % 2 by omega]

/-- **Over a quiet subcarrier the sniffer is the UART**: whatever the noise below the detection
threshold, the reader side takes the envelope samples one by one, the tag side changes nothing,
and `reader_is_active` follows the UART. -/
theorem sniffRun_readerIQ (ht : s.tagIsActive = false) (hd : s.demod.state = .unsyncd)
    (hr : s.fixReader = s) {noise : Nat → Int × Int}
    (hq : ∀ i, amplitude (noise i).1 (noise i).2 ≤ 8) (bs : List Bool) :
    sniffRun s (readerIQ noise bs) = (readerBits s (padEnv bs)).fixReader := by
  induction noise, bs using readerIQ.induct generalizing s with
  | case1 => exact hr.symm
  | case2 noise b => exact sniffStep_quiet ht hd (hq 0) b true
  | case3 noise b₁ b₂ bs ih =>
    rw [readerIQ, sniffRun_cons, sniffStep_quiet ht hd (hq 0),
      ih (s := (readerBits s [b₁, b₂]).fixReader) ((readerBits_tagIsActive s _).trans ht)
        (DemodState.eq_unsyncd (hd ▸ readerBits_demod_state s [b₁, b₂])) rfl fun i => hq (i + 1),
      padEnv_cons_cons]
    exact readerBits_fixReader (s := (readerBits s [b₁, b₂]).fixReader) (t := readerBits s [b₁, b₂])
      rfl (padEnv bs)

end Quiet

/-- A stretch of envelope samples with no EOF changes only the UART. -/
theorem readerBits_inl {s : Sniff} {bs : List Bool} {u : Uart}
    (h : runLoop uartStep s.uart bs = .inl u) : readerBits s bs = { s with uart := u } := by
  induction bs generalizing s with
  | nil => cases h; rfl
  | cons b bs ih =>
    rcases hb : handle14443bSampleFromReader s.uart b with ⟨v, _ | _⟩
    · rw [runLoop_cons_inl _ (uartStep_eq_inl hb)] at h
      rw [readerBits_cons, show sniffReaderBit s b = { s with uart := v } by simp [sniffReaderBit, hb]]
      exact ih h
    · rw [runLoop_cons_inr _ (show uartStep s.uart b = .inr v by simp [uartStep, hb])] at h
      cases h

/-- The envelope samples up to an EOF end in `sniffReaderEof`. -/
theorem readerBits_inr {s : Sniff} {bs rest : List Bool} {u : Uart}
    (h : runLoop uartStep s.uart bs = .inr (u, rest)) :
    readerBits s bs = readerBits (sniffReaderEof s u) rest := by
  induction bs generalizing s with
  | nil => cases h
  | cons b bs ih =>
    rcases hb : handle14443bSampleFromReader s.uart b with ⟨v, _ | _⟩
    · rw [runLoop_cons_inl _ (uartStep_eq_inl hb)] at h
      rw [readerBits_cons, show sniffReaderBit s b = { s with uart := v } by simp [sniffReaderBit, hb]]
      exact ih h
    · rw [runLoop_cons_inr _ (show uartStep s.uart b = .inr v by simp [uartStep, hb])] at h
      obtain ⟨rfl, rfl⟩ := Prod.mk.inj (Sum.inr.inj h)
      rw [readerBits_cons, show sniffReaderBit s b = sniffReaderEof s v by simp [sniffReaderBit, hb]]

/-! ## 3. The UART between frames -/

/-- The UART out of a frame and unable to enter one on a rising edge: unsynchronised, or
counting the low phase of an SOF with at most nine ETUs counted. -/
def SofQuiet (u : Uart) : Prop :=
  u.state = .unsyncd ∨ (u.state = .gotFallingEdgeOfSof ∧ u.bitCnt ≤ 9 ∧ u.posCnt ≤ 3)

theorem SofQuiet.not_active {u : Uart} (h : SofQuiet u) :
    ¬ u.state.toNat > UartState.gotFallingEdgeOfSof.toNat := by
  rcases h with h | ⟨h, -⟩ <;> simp [h, UartState.toNat]

section Between

variable {u : Uart}

/-- An idle envelope sample keeps the UART quiet. -/
theorem sofQuiet_high (h : SofQuiet u) :
    ∃ v, handle14443bSampleFromReader u true = (v, false) ∧ SofQuiet v ∧ v.output = u.output := by
  rcases h with hs | ⟨hs, hc, hp⟩
  · exact ⟨u, unsyncd_high hs, .inl hs, rfl⟩
  · rcases (by omega : u.posCnt = 0 ∨ u.posCnt = 1 ∨ u.posCnt = 2 ∨ u.posCnt = 3) with
      hp | hp | hp | hp
    · exact ⟨_, got_tick1 hs hp (by omega), .inr ⟨hs, hc, by simp⟩, rfl⟩
    · exact ⟨_, got_tick2_short hs hp hc, .inl rfl, rfl⟩
    · exact ⟨_, got_tick3 hs hp (by omega), .inr ⟨hs, hc, le_refl _⟩, rfl⟩
    · exact ⟨_, got_tick0 hs hp (by omega), .inr ⟨hs, hc, by simp⟩, rfl⟩

theorem uart_highs_quiet (h : SofQuiet u) (n : Nat) :
    ∃ v, runLoop uartStep u (List.replicate n true) = .inl v ∧ SofQuiet v ∧ v.output = u.output := by
  induction n generalizing u with
  | zero => exact ⟨u, rfl, h, rfl⟩
  | succ n ih =>
    obtain ⟨v, hv, hq, ho⟩ := sofQuiet_high h
    obtain ⟨w, hw, hq', ho'⟩ := ih hq
    exact ⟨w, by rw [List.replicate_succ, runLoop_cons_inl _ (uartStep_eq_inl hv), hw], hq',
      ho'.trans ho⟩

/-- Low samples in the low phase of an SOF count at most one ETU each. -/
theorem uart_lows_quiet (hs : u.state = .gotFallingEdgeOfSof) (hp : u.posCnt ≤ 3) (m : Nat)
    (hm : u.bitCnt + m ≤ 9) :
    ∃ v, runLoop uartStep u (List.replicate m false) = .inl v ∧ SofQuiet v ∧ v.output = u.output := by
  induction m generalizing u with
  | zero => exact ⟨u, rfl, .inr ⟨hs, by omega, hp⟩, rfl⟩
  | succ m ih =>
    suffices ∃ v, handle14443bSampleFromReader u false = (v, false) ∧
        v.state = .gotFallingEdgeOfSof ∧ v.posCnt ≤ 3 ∧ v.bitCnt ≤ u.bitCnt + 1 ∧
        v.output = u.output by
      obtain ⟨v, hv, hs', hp', hc', ho⟩ := this
      obtain ⟨w, hw, hq, ho'⟩ := ih hs' hp' (by omega)
      exact ⟨w, by rw [List.replicate_succ, runLoop_cons_inl _ (uartStep_eq_inl hv), hw], hq,
        ho'.trans ho⟩
    rcases (by omega : u.posCnt = 0 ∨ u.posCnt = 1 ∨ u.posCnt = 2 ∨ u.posCnt = 3) with
      hp | hp | hp | hp
    · exact ⟨_, got_tick1 hs hp (by omega), hs, by simp, by simp, rfl⟩
    · exact ⟨_, got_tick2_low hs hp (by omega), hs, by simp, le_refl _, rfl⟩
    · exact ⟨_, got_tick3 hs hp (by omega), hs, le_refl _, by simp, rfl⟩
    · exact ⟨_, got_tick0 hs hp (by omega), hs, by simp, by simp, rfl⟩

/-- **The end of a reader EOF after the UART has returned**: at most ten low samples into the
reset UART, too short a low phase for an SOF. -/
theorem uart_eof_tail (hs : u.state = .unsyncd) {n : Nat} (hn : n ≤ 10) :
    ∃ v, runLoop uartStep u (List.replicate n false) = .inl v ∧ SofQuiet v ∧ v.output = u.output := by
  cases n with
  | zero => exact ⟨u, rfl, .inl hs, rfl⟩
  | succ m =>
    obtain ⟨v, hv, hq, ho⟩ := uart_lows_quiet (u := { u with state := .gotFallingEdgeOfSof, posCnt := 0, bitCnt := 0 })
      rfl (by simp) m (by simp only; omega)
    exact ⟨v, by rw [List.replicate_succ, runLoop_cons_inl _ (uartStep_eq_inl (unsyncd_low hs)), hv],
      hq, ho⟩

end Between

/-! ## 4. While the answer is awaited the sniffer is the demodulator -/

/-- The sniffer while it expects the tag's answer with the reader silent. -/
structure Answering (s : Sniff) : Prop where
  uart : SofQuiet s.uart
  reader : s.readerIsActive = false
  expect : s.expectTagAnswer = true
  tag : s.tagIsActive = decide (s.demod.state.toNat > DemodState.gotFallingEdgeOfSof.toNat)

section Answer

variable {s : Sniff}

/-- An idle envelope keeps the UART quiet and `reader_is_active` clear. -/
theorem sniffReaderSide_answering (h : Answering s) (v₁ v₂ : Int) :
    ∃ u, SofQuiet u ∧ u.output = s.uart.output ∧
      sniffReaderSide s (sampleByte v₁ true) (sampleByte v₂ true) = { s with uart := u } := by
  unfold sniffReaderSide
  split
  · exact ⟨s.uart, h.uart, rfl, rfl⟩
  · obtain ⟨u, hu, hq, ho⟩ := uart_highs_quiet h.uart 2
    refine ⟨u, hq, ho, ?_⟩
    have hb : readerBits s [true, true] = { s with uart := u } := readerBits_inl hu
    simp only [envBit_sampleByte]
    show (readerBits s [true, true]).fixReader = _
    rw [hb]
    ext <;> simp [Sniff.fixReader, h.reader, hq.not_active]

/-- With the reader silent and an answer expected, the tag side is the demodulator. -/
theorem sniffTagSide_answering (hr : s.readerIsActive = false) (he : s.expectTagAnswer = true)
    (v₁ v₂ : Int) (e₁ e₂ : Bool) :
    sniffTagSide s (sampleByte v₁ e₁) (sampleByte v₂ e₂) = sniffTagSample s v₁ v₂ := by
  rw [sniffTagSide, if_pos (by simp [hr, he]), sampleByte_shiftRight, sampleByte_shiftRight]

@[simp] theorem tagIQ_cons (x : Int × Int) (xs : List (Int × Int)) :
    tagIQ (x :: xs) = (sampleByte x.1 true, sampleByte x.2 true) :: tagIQ xs := rfl

/-- One sample of the answer: the UART sees an idle envelope, the demodulator the sample. -/
theorem sniffStep_answering (h : Answering s) (x : Int × Int) :
    ∃ u, SofQuiet u ∧ u.output = s.uart.output ∧
      sniffStep s (sampleByte x.1 true, sampleByte x.2 true) =
        sniffTagSample { s with uart := u } x.1 x.2 := by
  obtain ⟨u, hq, ho, hu⟩ := sniffReaderSide_answering h x.1 x.2
  refine ⟨u, hq, ho, ?_⟩
  show sniffTagSide (sniffReaderSide s _ _) _ _ = _
  rw [hu, sniffTagSide_answering (s := { s with uart := u }) h.reader h.expect]

/-- **The answer ends in `sniffTagEof`** exactly where the bare demodulator returns `true`. -/
theorem sniffRun_answering_inr (h : Answering s) {xs rest : List (Int × Int)} {d : Demod}
    (hx : runLoop demodStep s.demod xs = .inr (d, rest)) :
    ∃ u, u.output = s.uart.output ∧
      sniffRun s (tagIQ xs) = sniffRun (sniffTagEof { s with uart := u } d) (tagIQ rest) := by
  induction xs generalizing s with
  | nil => cases hx
  | cons x xs ih =>
    obtain ⟨u, hq, ho, hstep⟩ := sniffStep_answering h x
    rw [tagIQ_cons, sniffRun_cons, hstep]
    rcases hd : handle14443bSamplesFromTag s.demod x.1 x.2 with ⟨d₁, _ | _⟩
    · rw [runLoop_cons_inl _ (demodStep_eq_inl hd)] at hx
      have h' : Answering { s with uart := u, demod := d₁,
                                   tagIsActive := decide (d₁.state.toNat > DemodState.gotFallingEdgeOfSof.toNat) } :=
        ⟨hq, h.reader, h.expect, rfl⟩
      rw [sniffTagSample_cont (s := { s with uart := u }) hd]
      obtain ⟨w, hwo, hrun⟩ := ih h' hx
      exact ⟨w, hwo.trans ho, hrun⟩
    · rw [runLoop_cons_inr _ (show demodStep s.demod x = .inr d₁ by simp [demodStep, hd])] at hx
      obtain ⟨rfl, rfl⟩ := Prod.mk.inj (Sum.inr.inj hx)
      exact ⟨u, ho, by rw [sniffTagSample_eof (s := { s with uart := u }) hd]⟩

end Answer

/-! ## 5. Frame by frame -/

/-- The sniffer listening for the reader: both decoders unsynchronised over their arrays of
`MAX_FRAME_SIZE` bytes, every flag clear. -/
structure Listening (s : Sniff) : Prop where
  uart : s.uart.state = .unsyncd
  byteCntMax : s.uart.byteCntMax = maxFrameSize
  uartBuf : s.uart.output.bytes.length = maxFrameSize
  demod : s.demod.state = .unsyncd
  demodBuf : s.demod.output.bytes.length = maxFrameSize
  tag : s.tagIsActive = false
  reader : s.readerIsActive = false
  expect : s.expectTagAnswer = false

/-- The sniffer awaiting the tag's answer to a reader frame it has logged. -/
structure AwaitingAnswer (s : Sniff) : Prop where
  uart : SofQuiet s.uart
  uartBuf : s.uart.output.bytes.length = maxFrameSize
  demod : s.demod.state = .unsyncd
  demodBuf : s.demod.output.bytes.length = maxFrameSize
  tag : s.tagIsActive = false
  reader : s.readerIsActive = false
  expect : s.expectTagAnswer = true

theorem sniffInit_listening : Listening sniffInit :=
  ⟨rfl, rfl, Buffer.zeros_length _, rfl, Buffer.zeros_length _, rfl, rfl, rfl⟩

section Frames

variable {s : Sniff}

/-- While the sniffer listens, samples under an idle envelope change nothing. -/
theorem sniffRun_listening_idle (h : Listening s) (xs : List (Int × Int)) : sniffRun s (tagIQ xs) = s := by
  induction xs with
  | nil => rfl
  | cons x xs ih =>
    have hb : sniffReaderBit s true = s := by simp [sniffReaderBit, unsyncd_high h.uart]
    have hstep : sniffStep s (sampleByte x.1 true, sampleByte x.2 true) = s := by
      simp only [sniffStep, sniffReaderSide, sniffTagSide, h.tag, h.expect, envBit_sampleByte, hb,
        Bool.false_eq_true, if_false, Bool.and_false]
      ext <;> simp [h.reader, h.uart, h.tag, h.expect, UartState.toNat]
    rw [tagIQ, List.map_cons, sniffRun_cons, hstep]
    exact ih

/-- **A reader frame is logged**, and leaves the sniffer awaiting the answer. -/
theorem sniffRun_readerFrame (h : Listening s) (f : ReaderFrame) :
    AwaitingAnswer (sniffRun s f.samples) ∧
      (sniffRun s f.samples).log = s.log ++ [(f.bytes, true)] := by
  obtain ⟨v, hv, hcnt, hout⟩ := uart_receives_frame h.uart f.gap f.timing f.nonempty
    (by rw [h.byteCntMax]; exact f.short)
  obtain ⟨w₀, hw₀, hq₀, ho₀⟩ := uart_eof_tail (u := uart14bReset v) rfl
    (show 4 * f.eof - 39 ≤ 10 by have := f.eof_le; omega)
  obtain ⟨w, hw, hq, ho⟩ := uart_highs_quiet hq₀
    ((List.replicate f.gap true ++ etu4 (frameBody f.sofLow f.sofHigh f.chars f.eof)).length % 2)
  have hbits : readerBits s (padEnv (List.replicate f.gap true ++
      etu4 (frameBody f.sofLow f.sofHigh f.chars f.eof))) = { sniffReaderEof s v with uart := w } := by
    rw [padEnv, readerBits_inr (runLoop_append_inr _ hv _)]
    exact readerBits_inl (show runLoop uartStep (uart14bReset v) _ = _ by
      rw [runLoop_append_inl _ hw₀, hw])
  have hr : s.fixReader = s := by ext <;> simp [Sniff.fixReader, h.reader, h.uart, UartState.toNat]
  have hbytes : v.output.bytes.take v.byteCnt = f.bytes := by
    have := (Buffer.storeAll_take (show 0 + f.bytes.length ≤ s.uart.output.bytes.length by
      simpa [ReaderFrame.bytes, h.uartBuf] using f.short.le)).1
    rw [hout, hcnt]; simpa [ReaderFrame.bytes] using this
  have hpos : v.byteCnt > 0 := by rw [hcnt]; exact List.length_pos.mpr f.nonempty
  rw [ReaderFrame.samples, sniffRun_readerIQ h.tag h.demod hr f.quiet, hbits]
  refine ⟨⟨hq, ?_, rfl, h.demodBuf, h.tag, decide_eq_false hq.not_active, rfl⟩, ?_⟩
  · show w.output.bytes.length = maxFrameSize
    rw [ho, ho₀]; simpa [uart14bReset, hout] using h.uartBuf
  · simp [Sniff.fixReader, sniffReaderEof, hpos, hbytes]

/-- **A tag frame is logged**, and leaves the sniffer listening for the reader again. -/
theorem sniffRun_tagFrame (h : AwaitingAnswer s) (f : TagFrame) :
    Listening (sniffRun s f.samples) ∧ (sniffRun s f.samples).log = s.log ++ [(f.bytes, false)] := by
  obtain ⟨d, hd, hlen, hout, -⟩ := demod_receives_frame h.demod f.strong f.timing
    (by have := f.fits; unfold maxFrameSize at this; omega)
  have hx : runLoop demodStep s.demod (f.lead ++
      bpsk f.ref (piccFrame f.tr1 f.sofLow f.sofHigh f.chars f.eof)) =
        .inr (d, List.replicate (2 * f.eof - 20) (sym f.ref false)) := by
    rw [runLoop_append_inl _ (demod_quiets h.demod _ f.lead_quiet), runLoop_frameStep_inr hd]
  obtain ⟨u, hu, hrun⟩ := sniffRun_answering_inr ⟨h.uart, h.reader, h.expect,
    by rw [h.tag, h.demod]; rfl⟩ hx
  have hl : Listening (sniffTagEof { s with uart := u } d) :=
    ⟨rfl, rfl, by simpa [sniffTagEof, uart14bReset, hu] using h.uartBuf, rfl,
      by simpa [sniffTagEof, demod14bReset, hout] using h.demodBuf, rfl, h.reader, rfl⟩
  have hbytes : d.output.bytes.take d.len = f.bytes := by
    have := (Buffer.storeAll_take (show 0 + f.bytes.length ≤ s.demod.output.bytes.length by
      simpa [TagFrame.bytes, h.demodBuf] using f.fits)).1
    rw [hout, hlen]; simpa [TagFrame.bytes] using this
  rw [TagFrame.samples, hrun, sniffRun_listening_idle hl]
  exact ⟨hl, by simp [sniffTagEof, hbytes]⟩

/-- One exchange: the reader frame and the tag's answer are logged, in this order. -/
theorem sniffRun_exchange (h : Listening s) (e : ReaderFrame × TagFrame) :
    Listening (sniffRun s (e.1.samples ++ e.2.samples)) ∧
      (sniffRun s (e.1.samples ++ e.2.samples)).log =
        s.log ++ [(e.1.bytes, true), (e.2.bytes, false)] := by
  obtain ⟨h₁, hl₁⟩ := sniffRun_readerFrame h e.1
  obtain ⟨h₂, hl₂⟩ := sniffRun_tagFrame h₁ e.2
  rw [sniffRun_append]
  exact ⟨h₂, by rw [hl₂, hl₁, List.append_assoc]; rfl⟩

theorem sniffRun_conversation_from (h : Listening s) (xs : List (ReaderFrame × TagFrame)) :
    Listening (sniffRun s (conversation xs)) ∧
      (sniffRun s (conversation xs)).log = s.log ++ conversationLog xs := by
  induction xs generalizing s with
  | nil => exact ⟨h, by simp [conversation, conversationLog]⟩
  | cons e xs ih =>
    obtain ⟨h₁, hl₁⟩ := sniffRun_exchange h e
    obtain ⟨h₂, hl₂⟩ := ih h₁
    rw [conversation_cons, sniffRun_append]
    exact ⟨h₂, by rw [hl₂, hl₁, conversationLog_cons, List.append_assoc]⟩

end Frames

/-- **`SniffIso14443b` logs exactly the conversation**: every reader frame in the reader's
direction and every answer in the tag's, in order, and nothing else. -/
theorem sniffRun_conversation (xs : List (ReaderFrame × TagFrame)) :
    (sniffRun sniffInit (conversation xs)).log = conversationLog xs :=
  (sniffRun_conversation_from sniffInit_listening xs).2


end Iso14443b
