/-
# The reader's receive loop, `Get14443bAnswerFromTag`

The loop feeds the demodulator one I/Q sample per DMA word and counts them.  It leaves at an
EOF (`-2` when more than `max_len` bytes were decoded), or with `-1` once more than `timeout`
samples have passed while the demodulator is in `DEMOD_UNSYNCD`; the button, the DMA set-up
and the LEDs are left out.  Of the trace it keeps the entry `LogTrace` would make, with the
`uint32_t` timestamps the code computes.

`get14443bAnswerFromTag_receives` is the round trip through the whole loop: quiet samples
within the timeout, then any PICC frame of `M` with `|M| ≤ max_len`, make it return `|M|` with
`M` at the start of the caller's buffer and no store outside it.  The frame lemmas of
`DemodFrame.lean` carry over because inside a frame the demodulator never reaches
`DEMOD_UNSYNCD`, the only state in which the timeout is tested (`answerStep_of_frameStep`).
-/
import Iso14443b.DemodFrame

namespace Iso14443b

/-! ## 1. The loop -/

/-- `DELAY_TAG_TO_ARM`. -/
def delayTagToArm : Nat := 32

/-- `uint32_t` arithmetic. -/
def wrap32 (x : Int) : Nat := (x % 2 ^ 32).toNat

/-- How the sample loop ends: at an EOF, or at the timeout; both with the demodulator and the
sample count. -/
inductive AnswerExit
  | eof (d : Demod) (samples : Nat)
  | timeout (d : Demod) (samples : Nat)

/-- The sample count the loop leaves with. -/
def AnswerExit.samples : AnswerExit → Nat
  | .eof _ n => n
  | .timeout _ n => n

/-- One pass of the `for (;;)` loop: `samples++`, the demodulator, then the timeout test
`samples > timeout && Demod.state < DEMOD_PHASE_REF_TRAINING`. -/
def answerStep (timeout : Int) (g : Demod × Nat) (s : Int × Int) : (Demod × Nat) ⊕ AnswerExit :=
  let samples := g.2 + 1
  match handle14443bSamplesFromTag g.1 s.1 s.2 with
  | (d, true) => .inr (.eof d samples)
  | (d, false) =>
    if (samples : Int) > timeout ∧ d.state.toNat < DemodState.phaseRefTraining.toNat then
      .inr (.timeout d samples)
    else .inl (d, samples)

/-- What `Get14443bAnswerFromTag` returns and leaves behind. -/
structure TagAnswer where
  ret : Int
  demod : Demod
  eofTime : Option Nat
  log : Option (List UInt8 × Nat × Nat)

/-- `Get14443bAnswerFromTag(response, max_len, timeout, &eof_time)` fed `samples`, with the SSP
clock at the first sample `sspClk`; `none` while it still waits for samples. -/
def get14443bAnswerFromTag (out : Buffer) (maxLen : UInt16) (timeout : Int) (sspClk : Nat)
    (samples : List (Int × Int)) : Option TagAnswer :=
  let dmaStartTime := sspClk &&& 0xfffffff0
  match runLoop (answerStep timeout) (demod14bInit out maxLen, 0) samples with
  | .inl _ => none
  | .inr (.timeout d _, _) => some ⟨-1, d, none, none⟩
  | .inr (.eof d n, _) =>
    let eofTime := wrap32 (dmaStartTime + n * 16 - delayTagToArm)
    if d.len > d.maxLen then some ⟨-2, d, some eofTime, none⟩
    else
      let sofTime := wrap32 (eofTime - d.len * 8 * 8 * 16 - 32 * 16 - 0)
      some ⟨d.len, d, some eofTime,
        if d.len > 0 then some (d.output.bytes.take d.len, wrap32 (sofTime * 4), wrap32 (eofTime * 4))
        else none⟩

/-! ## 2. The loop follows the demodulator inside a frame -/

section Sim

variable {timeout : Int} {d e : Demod} {n : Nat} {s : Int × Int}

theorem answerStep_inl {g g' : Demod × Nat} (h : answerStep timeout g s = .inl g') :
    g'.2 = g.2 + 1 := by
  unfold answerStep at h
  dsimp only at h
  split at h
  · cases h
  · split at h
    · cases h
    · cases h; rfl

theorem answerStep_inr {g : Demod × Nat} {x : AnswerExit} (h : answerStep timeout g s = .inr x) :
    x.samples = g.2 + 1 := by
  unfold answerStep at h
  dsimp only at h
  split at h
  · cases h; rfl
  · split at h
    · cases h; rfl
    · cases h

/-- **The loop counts every sample it reads**: it leaves with the count of all the samples but
those it left unread. -/
theorem runLoop_answer_samples {g : Demod × Nat} {xs rest : List (Int × Int)} {x : AnswerExit}
    (h : runLoop (answerStep timeout) g xs = .inr (x, rest)) :
    x.samples + rest.length = g.2 + xs.length := by
  induction xs generalizing g with
  | nil => cases h
  | cons s xs ih =>
    cases hs : answerStep timeout g s with
    | inl g' =>
      rw [runLoop_cons_inl _ hs] at h
      have := answerStep_inl hs
      have := ih h
      simp only [List.length_cons]; omega
    | inr y =>
      rw [runLoop_cons_inr _ hs] at h
      cases h
      have := answerStep_inr hs
      simp only [List.length_cons]; omega

theorem answerStep_of_frameStep (h : demodFrameStep d s = .inl e) :
    answerStep timeout (d, n) s = .inl (e, n + 1) := by
  unfold demodFrameStep at h
  unfold answerStep
  rcases hh : handle14443bSamplesFromTag d s.1 s.2 with ⟨d', _ | _⟩ <;> simp only [hh] at h ⊢
  · split_ifs at h with hu
    cases h
    have : DemodState.phaseRefTraining.toNat ≤ e.state.toNat := by
      cases hs : e.state <;> simp_all [DemodState.toNat]
    simp [this]
  · cases h

theorem answerStep_of_frameStep_eof (h : demodFrameStep d s = .inr (true, e)) :
    answerStep timeout (d, n) s = .inr (.eof e (n + 1)) := by
  unfold demodFrameStep at h
  unfold answerStep
  rcases hh : handle14443bSamplesFromTag d s.1 s.2 with ⟨d', _ | _⟩ <;> simp only [hh] at h ⊢
  · split_ifs at h; simp at h
  · simp only [Sum.inr.injEq, Prod.mk.injEq, true_and] at h; rw [h]

/-- A stretch of a frame is a stretch of the receive loop, whatever the timeout. -/
theorem runLoop_answer_inl {xs : List (Int × Int)} (h : runLoop demodFrameStep d xs = .inl e) :
    runLoop (answerStep timeout) (d, n) xs = .inl (e, n + xs.length) := by
  induction xs generalizing d n with
  | nil => cases h; rfl
  | cons s xs ih =>
    cases hs : demodFrameStep d s with
    | inl d₁ =>
      rw [runLoop_cons_inl _ hs] at h
      rw [runLoop_cons_inl _ (answerStep_of_frameStep hs), ih h, List.length_cons,
        Nat.add_right_comm, Nat.add_assoc]
    | inr b => rw [runLoop_cons_inr _ hs] at h; cases h

/-- A frame that ends at its EOF ends the receive loop there. -/
theorem runLoop_answer_inr {xs rest : List (Int × Int)}
    (h : runLoop demodFrameStep d xs = .inr ((true, e), rest)) :
    ∃ k, runLoop (answerStep timeout) (d, n) xs = .inr (.eof e k, rest) := by
  induction xs generalizing d n with
  | nil => cases h
  | cons s xs ih =>
    cases hs : demodFrameStep d s with
    | inl d₁ =>
      rw [runLoop_cons_inl _ hs] at h
      rw [runLoop_cons_inl _ (answerStep_of_frameStep hs)]
      exact ih h
    | inr b =>
      rw [runLoop_cons_inr _ hs] at h
      cases h
      exact ⟨n + 1, runLoop_cons_inr _ (answerStep_of_frameStep_eof hs) _⟩

/-- Quiet samples within the timeout: the loop only counts them. -/
theorem runLoop_answer_quiet (hs : d.state = .unsyncd) (quiet : List (Int × Int))
    (hq : ∀ s ∈ quiet, amplitude s.1 s.2 ≤ 8) (ht : ((n + quiet.length : Nat) : Int) ≤ timeout) :
    runLoop (answerStep timeout) (d, n) quiet = .inl (d, n + quiet.length) := by
  induction quiet generalizing n with
  | nil => rfl
  | cons s quiet ih =>
    simp only [List.length_cons] at ht
    have hstep : answerStep timeout (d, n) s = .inl (d, n + 1) := by
      simp [answerStep, demod_quiet hs (hq s (.head _))]
      omega
    rw [runLoop_cons_inl _ hstep,
      ih (fun s' h' => hq s' (.tail _ h')) (by push_cast at ht ⊢; omega),
      List.length_cons, Nat.add_right_comm, Nat.add_assoc]

end Sim

/-! ## 3. The round trip -/

/-- The sample of a PICC frame, counted from its first, at which the demodulator reports the
EOF: TR1, the SOF and the characters at two samples an ETU, then the ten ETUs of the EOF. -/
def piccEofSample (tr1 sofLow sofHigh : Nat) (chars : List (UInt8 × Nat)) : Nat :=
  2 * (tr1 + sofLow + sofHigh + (charsBody chars).length + 10)

/-- **The loop over a PICC frame**: after quiet samples within the timeout, it leaves at the
frame's EOF sample with the `|M|` bytes of `M` stored from index 0, whatever `max_len` is. -/
theorem runLoop_answer_frame (out : Buffer) (maxLen : UInt16) {timeout : Int} {r : Int × Int}
    (ha : 8 < amplitude r.1 r.2) (quiet : List (Int × Int))
    (hq : ∀ s ∈ quiet, amplitude s.1 s.2 ≤ 8)
    (hql : (quiet.length : Int) ≤ timeout) {tr1 L H E : Nat} {chars : List (UInt8 × Nat)}
    (ht : PiccTiming tr1 L H chars E) (hk : chars.length < 65536) (rest : List (Int × Int)) :
    ∃ d', runLoop (answerStep timeout) (demod14bInit out maxLen, 0)
        (quiet ++ bpsk r (piccFrame tr1 L H chars E) ++ rest) =
        .inr (.eof d' (quiet.length + piccEofSample tr1 L H chars),
          List.replicate (2 * E - 20) (sym r false) ++ rest) ∧
      d'.len = chars.length ∧ d'.output = out.storeAll 0 (chars.map (·.1)) ∧
      d'.maxLen = maxLen.toNat := by
  obtain ⟨d', hd', hlen, hout', hmax⟩ :=
    demod_receives_frame (d := demod14bInit out maxLen) rfl ha ht hk
  obtain ⟨k, hk'⟩ : ∃ k, runLoop (answerStep timeout) (demod14bInit out maxLen, quiet.length)
      (bpsk r (piccFrame tr1 L H chars E)) =
        .inr (.eof d' k, List.replicate (2 * E - 20) (sym r false)) :=
    runLoop_answer_inr hd'
  -- the count: every sample of the frame but the last `2 E - 20` of its EOF
  have hcount := runLoop_answer_samples hk'
  simp only [AnswerExit.samples, List.length_replicate, length_bpsk, piccFrame, frameBody,
    List.length_append] at hcount
  have hkE : k = quiet.length + piccEofSample tr1 L H chars := by
    unfold piccEofSample; have := ht.eof_ge; omega
  refine ⟨d', ?_, hlen, hout', hmax⟩
  rw [List.append_assoc, runLoop_append_inl _ (runLoop_answer_quiet rfl quiet hq
    (by simpa using hql)), Nat.zero_add, runLoop_append_inr _ hk', hkE]

/-- **A PICC frame within `max_len` is received whole**: after at most `timeout` quiet samples,
the BPSK rendering of a PICC frame of `M` with `|M| ≤ max_len`, against any reference the
demodulator detects, makes `Get14443bAnswerFromTag` return `|M|` with `M` at the start of the
buffer and no store outside it, whatever samples follow. -/
theorem get14443bAnswerFromTag_receives (out : Buffer) (maxLen : UInt16)
    (hout : maxLen.toNat ≤ out.bytes.length) (timeout : Int) (sspClk : Nat) {r : Int × Int}
    (ha : 8 < amplitude r.1 r.2) (quiet : List (Int × Int)) (hq : ∀ s ∈ quiet, amplitude s.1 s.2 ≤ 8)
    (hql : (quiet.length : Int) ≤ timeout) {tr1 L H E : Nat} {chars : List (UInt8 × Nat)}
    (ht : PiccTiming tr1 L H chars E) (hM : chars.length ≤ maxLen.toNat) (rest : List (Int × Int)) :
    ∃ a, get14443bAnswerFromTag out maxLen timeout sspClk
        (quiet ++ bpsk r (piccFrame tr1 L H chars E) ++ rest) = some a ∧
      a.ret = chars.length ∧ a.demod.output.bytes.take chars.length = chars.map (·.1) ∧
      a.demod.output.fault = out.fault := by
  have hn : maxLen.toNat < 65536 := maxLen.toNat_lt_size
  obtain ⟨d', hloop, hlen, hout', hmax⟩ := runLoop_answer_frame out maxLen ha quiet hq hql ht
    (by omega) rest
  have hstore := Buffer.storeAll_take
    (show 0 + (chars.map (·.1)).length ≤ out.bytes.length by simp; omega)
  have hle : ¬ d'.len > d'.maxLen := by rw [hlen, hmax]; omega
  refine ⟨_, by simp only [get14443bAnswerFromTag, hloop, hle, if_false]; rfl, by simp [hlen],
    ?_, ?_⟩
  · simpa [hout'] using hstore.1
  · rw [hout']; exact hstore.2

/-- The 3-byte answer `00 78 F0` into the 3-byte buffer of an ATTRIB exchange. -/
theorem get14443bAnswerFromTag_receives_ok :
    ∃ a, get14443bAnswerFromTag (Buffer.zeros 3) 3 0 0
        ([] ++ bpsk (20, 0) (piccFrame 20 10 2 ([0x00, 0x78, 0xF0].map (·, 0)) 10) ++ []) = some a ∧
      a.ret = 3 ∧ a.demod.output.bytes.take 3 = [0x00, 0x78, 0xF0] ∧ a.demod.output.fault = false :=
  get14443bAnswerFromTag_receives (Buffer.zeros 3) 3 le_rfl 0 0 (by decide) [] (by simp) le_rfl
    (tagSymbols_timing [0x00, 0x78, 0xF0]) (by decide) []

/-! ## 4. The trace entry of a received frame

`Get14443bAnswerFromTag` dates the frame at its end, `eof_time = dma_start_time + 16 samples -
DELAY_TAG_TO_ARM`, sixteen SSP ticks a sample and so 32 an ETU, and dates its start by
subtracting `len * 8 * 8 * 16` (1024 ticks, 32 ETUs, a byte), `32 * 16` (16 ETUs for the SOF)
and nothing for the EOF.  The frame itself takes 10 ETUs a byte, 12 or more for the SOF and 10
for the EOF before the sample that ends it, so the logged start falls `704 |M| - 192` ticks or
more before the frame's start; it wraps below `dma_start_time` when the frame comes early. -/

/-- **The trace entry of a received frame**: after quiet samples within the timeout, a PICC
frame of `1 ≤ |M| ≤ max_len` bytes is logged as `M` with the `uint32_t` times the code
computes: the end at the frame's EOF sample, and the start `|M| * 8 * 8 * 16 + 32 * 16` ticks
before it. -/
theorem get14443bAnswerFromTag_log (out : Buffer) (maxLen : UInt16)
    (hout : maxLen.toNat ≤ out.bytes.length) (timeout : Int) (sspClk : Nat) {r : Int × Int}
    (ha : 8 < amplitude r.1 r.2) (quiet : List (Int × Int)) (hq : ∀ s ∈ quiet, amplitude s.1 s.2 ≤ 8)
    (hql : (quiet.length : Int) ≤ timeout) {tr1 L H E : Nat} {chars : List (UInt8 × Nat)}
    (ht : PiccTiming tr1 L H chars E) (hn : 1 ≤ chars.length) (hM : chars.length ≤ maxLen.toNat)
    (rest : List (Int × Int)) :
    ∃ a e, get14443bAnswerFromTag out maxLen timeout sspClk
        (quiet ++ bpsk r (piccFrame tr1 L H chars E) ++ rest) = some a ∧
      a.eofTime = some e ∧
      e = wrap32 ((sspClk &&& 0xfffffff0 : Nat) +
        ((quiet.length + piccEofSample tr1 L H chars : Nat) : Int) * 16 - delayTagToArm) ∧
      a.log = some (chars.map (·.1),
        wrap32 (wrap32 (e - chars.length * 8 * 8 * 16 - 32 * 16 - 0) * 4), wrap32 (e * 4)) := by
  have hk : maxLen.toNat < 65536 := maxLen.toNat_lt_size
  obtain ⟨d', hloop, hlen, hout', hmax⟩ := runLoop_answer_frame out maxLen ha quiet hq hql ht
    (by omega) rest
  have hstore := Buffer.storeAll_take
    (show 0 + (chars.map (·.1)).length ≤ out.bytes.length by simp; omega)
  have hle : ¬ chars.length > d'.maxLen := by rw [hmax]; omega
  have hpos : chars.length > 0 := hn
  simp only [get14443bAnswerFromTag, hloop, hlen, hle, if_false, hpos, if_true, Option.some.injEq,
    exists_and_left, exists_eq_left']
  refine ⟨trivial, ?_⟩
  rw [hout']
  simpa using hstore.1

/-- The ATTRIB answer `00 78 F0` of `CodeIso14443bAsTag`'s timing, with the clock at 0: logged
from 4294962048, after its end at 9088, the start having wrapped below `dma_start_time`. -/
theorem get14443bAnswerFromTag_log_attrib_reply :
    ∃ a, get14443bAnswerFromTag (Buffer.zeros 3) 3 0 0
        ([] ++ bpsk (20, 0) (piccFrame 20 10 2 ([0x00, 0x78, 0xF0].map (·, 0)) 10) ++ []) = some a ∧
      a.log = some ([0x00, 0x78, 0xF0], 4294962048, 9088) := by
  obtain ⟨a, e, hget, -, he, hlog⟩ := get14443bAnswerFromTag_log (Buffer.zeros 3) 3 le_rfl 0 0
    (r := (20, 0)) (by decide) [] (by simp) le_rfl (tagSymbols_timing [0x00, 0x78, 0xF0])
    (by decide) (by decide) []
  refine ⟨a, hget, ?_⟩
  rw [hlog, he]
  decide

/-! ## 5. A tag that never stops

Inside a frame the timeout is never tested, and nothing but the EOF ends a frame: the check
`Demod.len > Demod.max_len` waits for it.  So a tag that keeps sending characters keeps the
reader in the loop for as long as it likes. -/

/-- TR1 and the SOF of `CodeIso14443bAsTag`, at ETU level. -/
def piccPrefix : List Bool :=
  List.replicate 20 true ++ List.replicate 10 false ++ List.replicate 2 true

/-- The I/Q stream of a tag that, after TR1 and the SOF, sends the character `b` forever: its
sample `i`, read off the first `i + 1` characters. -/
def endlessAnswer (r : Int × Int) (b : UInt8) (i : Nat) : Int × Int :=
  (bpsk r (piccPrefix ++ charsBody (List.replicate (i + 1) (b, 0)))).getD i (0, 0)

theorem length_charsBody_replicate (b : UInt8) (m : Nat) :
    (charsBody (List.replicate m (b, 0))).length = 10 * m := by
  induction m with
  | zero => rfl
  | succ m ih =>
    simp only [charsBody, List.replicate_succ, List.flatMap_cons, List.length_append,
      length_charSymbols, List.length_replicate] at ih ⊢
    omega

/-- The first `m` characters are a prefix of the first `n ≥ m`. -/
theorem bpsk_endless_prefix_of_le (r : Int × Int) (b : UInt8) {m n : Nat} (h : m ≤ n) :
    bpsk r (piccPrefix ++ charsBody (List.replicate m (b, 0))) <+:
      bpsk r (piccPrefix ++ charsBody (List.replicate n (b, 0))) := by
  rw [show n = m + (n - m) by omega, List.replicate_add, charsBody_append, ← List.append_assoc,
    bpsk_append r (piccPrefix ++ _)]
  exact List.prefix_append _ _

/-- **The first `B` samples of the endless stream** are the first `B` samples of its first `B`
characters. -/
theorem endlessAnswer_take (r : Int × Int) (b : UInt8) (B : Nat) :
    (List.range B).map (endlessAnswer r b) =
      (bpsk r (piccPrefix ++ charsBody (List.replicate B (b, 0)))).take B := by
  have hlen : ∀ m, (bpsk r (piccPrefix ++ charsBody (List.replicate m (b, 0)))).length =
      2 * (32 + 10 * m) := fun m => by
    simp only [length_bpsk, piccPrefix, List.length_append, List.length_replicate,
      length_charsBody_replicate]
  apply List.ext_getElem
  · simp only [List.length_map, List.length_range, List.length_take, hlen]; omega
  · intro i h₁ h₂
    simp only [List.length_map, List.length_range] at h₁
    have hi : i < (bpsk r (piccPrefix ++ charsBody (List.replicate (i + 1) (b, 0)))).length := by
      rw [hlen]; omega
    rw [List.getElem_map, List.getElem_range, List.getElem_take, endlessAnswer,
      List.getD_eq_getElem?_getD, List.getElem?_eq_getElem hi, Option.getD_some,
      (bpsk_endless_prefix_of_le r b (Nat.succ_le_of_lt h₁)).getElem hi]

/-- Characters keep the demodulator between characters, however many. -/
theorem demod_repeats {r : Int × Int} (ha : 0 < refGain r) (b : UInt8) (m : Nat) :
    ∀ d : Demod, Locked d r → d.state = .awaitingStartBit → d.bitCount = 0 →
      ∃ e, runLoop demodFrameStep d (bpsk r (charsBody (List.replicate m (b, 0)))) = .inl e := by
  induction m with
  | zero => exact fun d _ _ _ => ⟨d, rfl⟩
  | succ m ih =>
    intro d hl hs hc
    obtain ⟨t, ht⟩ := demod_char hl ha hs hc b (Nat.zero_le 6)
    rw [List.replicate_succ, charsBody, List.flatMap_cons, bpsk_append, runLoop_append_inl _ ht]
    exact ih _ ⟨hl.1, hl.2⟩ rfl rfl

/-- The demodulator as the loop leaves it. -/
def AnswerExit.demod : AnswerExit → Demod
  | .eof d _ => d
  | .timeout d _ => d

theorem handle14443bSamplesFromTag_maxLen (d : Demod) (ci cq : Int) :
    (handle14443bSamplesFromTag d ci cq).1.maxLen = d.maxLen := by
  unfold handle14443bSamplesFromTag
  split <;> simp only [demodUnsyncd, demodPhaseRefTraining, demodAwaitingFallingEdgeOfSof,
    demodGotFallingEdgeOfSof, demodAwaitingStartBit, demodReceivingData, demodCharacterDone] <;>
    split_ifs <;> rfl

theorem answerStep_maxLen (timeout : Int) (g : Demod × Nat) (s : Int × Int) :
    (answerStep timeout g s).elim (fun g' => g'.1.maxLen) (fun x => x.demod.maxLen) =
      g.1.maxLen := by
  have hm := handle14443bSamplesFromTag_maxLen g.1 s.1 s.2
  unfold answerStep
  rcases hh : handle14443bSamplesFromTag g.1 s.1 s.2 with ⟨d', _ | _⟩ <;> rw [hh] at hm
  · dsimp only
    split_ifs <;> exact hm
  · exact hm

/-- **The loop never changes `max_len`.** -/
theorem runLoop_answer_maxLen {timeout : Int} {g : Demod × Nat} {xs rest : List (Int × Int)}
    {x : AnswerExit} (h : runLoop (answerStep timeout) g xs = .inr (x, rest)) :
    x.demod.maxLen = g.1.maxLen := by
  induction xs generalizing g with
  | nil => cases h
  | cons s xs ih =>
    have hm := answerStep_maxLen timeout g s
    cases hs : answerStep timeout g s with
    | inl g' =>
      rw [runLoop_cons_inl _ hs] at h
      rw [hs] at hm
      exact (ih h).trans hm
    | inr y =>
      rw [runLoop_cons_inr _ hs] at h
      cases h
      rw [hs] at hm
      exact hm

/-- **`Get14443bAnswerFromTag` returns at most `max_len`**, whatever the samples: `-1` at the
timeout, `-2` after more than `max_len` bytes, else the length decoded. -/
theorem get14443bAnswerFromTag_ret_le (out : Buffer) (maxLen : UInt16) (timeout : Int)
    (sspClk : Nat) (samples : List (Int × Int)) {a : TagAnswer}
    (h : get14443bAnswerFromTag out maxLen timeout sspClk samples = some a) :
    a.ret ≤ maxLen.toNat := by
  unfold get14443bAnswerFromTag at h
  split at h
  · cases h
  · cases h; dsimp only; omega
  · rename_i d n rest hloop
    have hm : d.maxLen = maxLen.toNat := runLoop_answer_maxLen hloop
    split_ifs at h <;> cases h <;> dsimp only <;> omega

end Iso14443b
