/-
# The DMA ring the receive loops read

`Get14443bAnswerFromTag` and `SniffIso14443b` do not take their samples from the FPGA one by
one.  The SSC's peripheral DMA controller (PDC) writes each 16-bit I/Q word into a ring of
`DMA_BUFFER_SIZE` words, and the loop follows it with a cursor `upTo`: it works out how far
it is behind from the PDC's pointer `RPR`, reads the word at `upTo`, and at the end of the
ring starts again from its beginning and re-arms whichever PDC transfer has run out.  There
is no lock and no overrun check: the two sides share the ring and four registers.

This module embeds that loop (`consumerPass`, from the code) together with the PDC it races
(`dmaReceive`, modelled from the spec's "lock-free ring buffer filled by DMA", with the PDC's
two transfers), and proves, over EVERY interleaving of the two:

* while the PDC never receives a word with `DMA_BUFFER_SIZE - 1` others waiting unread
  (`KeepsUp`), the loop hands its decoder exactly the words the SSC received, in order, none
  lost and none twice, `samples` counts them, the PDC never stops, and a loop that catches up
  has handed on every word (`dmaRun_delivers`).  The list-level models of `Answer.lean` and
  `Sniff.lean`, which take the samples as a list, are therefore what the code computes;
* that bound is tight: with a full ring unread the loop sees an empty one, and the next word
  overwrites the oldest unread one, so a ring of words is lost (`dmaRun_full_ring`).

`DMA_BUFFER_SIZE` is declared outside `src/`; the mask `& (DMA_BUFFER_SIZE - 1)` makes it a
power of two, `2 ^ k` here.
-/
import Iso14443b.Basic

namespace Iso14443b

/-! ## 1. The PDC, the ring and the loop -/

/-- Modelled from the spec: the receive channel of the SSC's PDC, its registers as word indices
into the ring (`RPR`, `RCR`, `RNPR`, `RNCR`), and the SSC's `ENDRX` flag.  A word received
goes to `RPR`, which advances while `RCR` counts down; when `RCR` reaches 0, `ENDRX` is set and
the next transfer, if `RNCR` is not 0, becomes the current one.  Writing a count clears
`ENDRX`. -/
structure Pdc where
  rpr : Nat
  rcr : Nat
  rnpr : Nat
  rncr : Nat
  endrx : Bool
  deriving DecidableEq, Repr

/-- What the receive loop and the PDC share, and what the loop keeps: the ring `dma->buf`, the
PDC, the cursor `upTo`, the count `samples`, and the state of the decoder the loop feeds.
`produced` lists every word the SSC has received, in order; the code has no such variable. -/
structure DmaLoop (σ : Type) where
  buf : Nat → UInt16
  pdc : Pdc
  upTo : Nat
  samples : Nat
  dec : σ
  produced : List UInt16

/-- Modelled from the spec: the registers after a word has gone to `RPR`. -/
def Pdc.receive (p : Pdc) : Pdc :=
  if p.rcr = 1 then
    if p.rncr = 0 then { p with rpr := p.rpr + 1, rcr := 0, endrx := true }
    else ⟨p.rnpr, p.rncr, p.rnpr, 0, true⟩
  else { p with rpr := p.rpr + 1, rcr := p.rcr - 1 }

/-- A byte read as the `int8_t` it is stored in. -/
def int8 (b : Nat) : Int := if b < 128 then b else b - 256

/-- `ci = *upTo >> 8; cq = *upTo;`, each into an `int8_t`. -/
def iqOfWord (w : UInt16) : Int × Int := (int8 (w.toNat >>> 8), int8 (w.toNat % 256))

/-- The events of a run: the PDC receives a word, or the loop makes one pass. -/
inductive DmaEvent
  | word (w : UInt16)
  | pass

section Ring

variable (k : Nat) {σ : Type}

/-- `FpgaSetupSscDma(dma->buf, DMA_BUFFER_SIZE)` (modelled from the spec: both transfers set
to the whole ring), then `upTo = dma->buf` and `samples = 0`, over a ring of stale words. -/
def dmaStart (buf : Nat → UInt16) (d : σ) : DmaLoop σ :=
  ⟨buf, ⟨0, 2 ^ k, 0, 2 ^ k, false⟩, 0, 0, d, []⟩

/-- Modelled from the spec: the PDC receives the word `w`, into `RPR`.  With both counts at 0
the PDC is stopped and the word is lost. -/
def dmaReceive (s : DmaLoop σ) (w : UInt16) : DmaLoop σ :=
  if s.pdc.rcr = 0 then { s with produced := s.produced ++ [w] }
  else { s with buf := Function.update s.buf s.pdc.rpr w, pdc := s.pdc.receive,
                produced := s.produced ++ [w] }

/-- The loop's re-arming at the end of the ring when `ENDRX` is set: a stopped current
transfer restarts at the ring's start, a used-up next transfer is set to the ring again. -/
def rearm (p : Pdc) : Pdc :=
  if p.endrx then
    let p := if p.rcr = 0 then { p with rpr := 0, rcr := 2 ^ k, endrx := false } else p
    if p.rncr = 0 then { p with rnpr := 0, rncr := 2 ^ k, endrx := false } else p
  else p

/-- One pass of the loops' `for (;;)`: nothing while `behindBy` is 0; else the word at `upTo`
goes to the decoder `handle`, `samples` and `upTo` advance, and at the end of the ring `upTo`
goes back to its start and the PDC is re-armed.  `RPR - upTo` is a pointer difference that may
be negative; the mask keeps its low `k` bits, which adding `2 ^ k` does not change. -/
def consumerPass (handle : σ → Int × Int → σ) (s : DmaLoop σ) : DmaLoop σ :=
  if (s.pdc.rpr + 2 ^ k - s.upTo) &&& (2 ^ k - 1) = 0 then s
  else
    let s' := { s with samples := s.samples + 1, dec := handle s.dec (iqOfWord (s.buf s.upTo)) }
    if 2 ^ k ≤ s.upTo + 1 then { s' with upTo := 0, pdc := rearm k s.pdc }
    else { s' with upTo := s.upTo + 1 }

/-- One event of a run. -/
def dmaEvent (handle : σ → Int × Int → σ) (s : DmaLoop σ) : DmaEvent → DmaLoop σ
  | .word w => dmaReceive s w
  | .pass => consumerPass k handle s

/-- The events `evs`, in order. -/
def dmaRun (handle : σ → Int × Int → σ) (s : DmaLoop σ) (evs : List DmaEvent) : DmaLoop σ :=
  evs.foldl (dmaEvent k handle) s

/-- The runs in which the loop keeps up: the PDC never receives a word that leaves a whole
ring of words unread. -/
def KeepsUp (handle : σ → Int × Int → σ) : DmaLoop σ → List DmaEvent → Prop
  | _, [] => True
  | s, .word w :: evs =>
    s.produced.length + 1 < s.samples + 2 ^ k ∧ KeepsUp handle (dmaReceive s w) evs
  | s, .pass :: evs => KeepsUp handle (consumerPass k handle s) evs

instance decKeepsUp (handle : σ → Int × Int → σ) :
    ∀ s evs, Decidable (KeepsUp k handle s evs)
  | _, [] => isTrue trivial
  | s, .word w :: evs =>
    haveI := decKeepsUp handle (dmaReceive s w) evs
    inferInstanceAs (Decidable (_ ∧ _))
  | s, .pass :: evs => decKeepsUp handle (consumerPass k handle s) evs

/-- The words the SSC receives in a run. -/
def wordsOf : List DmaEvent → List UInt16
  | [] => []
  | .word w :: evs => w :: wordsOf evs
  | .pass :: evs => wordsOf evs

/-- The position `i` words after `u` in the ring. -/
def ringIndex (u i : Nat) : Nat := if u + i < 2 ^ k then u + i else u + i - 2 ^ k

/-- The registers once the PDC has written `m` words from the ring's start, the ring taken
twice: the first transfer runs to the ring's end with the next one armed behind it; past the
end the next one has become the current one, and `ENDRX` is set. -/
def pdcAt (m : Nat) : Pdc :=
  if m < 2 ^ k then ⟨m, 2 ^ k - m, 0, 2 ^ k, false⟩
  else ⟨m - 2 ^ k, 2 ^ k + 2 ^ k - m, 0, 0, true⟩

/-- What holds between the loop and the PDC in a run that keeps up, with `P` words received and
`samples` read. -/
structure DmaInv (handle : σ → Int × Int → σ) (d₀ : σ) (s : DmaLoop σ) : Prop where
  /-- The loop has read no word the SSC has not received, -/
  behind : s.samples ≤ s.produced.length
  /-- and fewer than a ring of words wait. -/
  lag : s.produced.length < s.samples + 2 ^ k
  upTo_lt : s.upTo < 2 ^ k
  /-- The decoder has seen the first `samples` words, in order, once each. -/
  dec : s.dec = ((s.produced.take s.samples).map iqOfWord).foldl handle d₀
  /-- The PDC writes next just after the waiting words. -/
  pdc : s.pdc = pdcAt k (s.upTo + (s.produced.length - s.samples))
  /-- The waiting words sit in the ring from `upTo` on. -/
  ring : ∀ i, i < s.produced.length - s.samples →
    s.buf (ringIndex k s.upTo i) = s.produced.getD (s.samples + i) 0

variable {k} {handle : σ → Int × Int → σ}

/-! ## 2. What one event does -/

section Event

variable (s : DmaLoop σ) (w : UInt16)

@[simp] theorem dmaReceive_produced : (dmaReceive s w).produced = s.produced ++ [w] := by
  unfold dmaReceive; split <;> rfl

@[simp] theorem dmaReceive_samples : (dmaReceive s w).samples = s.samples := by
  unfold dmaReceive; split <;> rfl

@[simp] theorem dmaReceive_upTo : (dmaReceive s w).upTo = s.upTo := by
  unfold dmaReceive; split <;> rfl

@[simp] theorem dmaReceive_dec : (dmaReceive s w).dec = s.dec := by
  unfold dmaReceive; split <;> rfl

/-- A running PDC writes the word at `RPR` and moves on. -/
theorem dmaReceive_of_running {s : DmaLoop σ} (h : s.pdc.rcr ≠ 0) (w : UInt16) :
    dmaReceive s w = { s with buf := Function.update s.buf s.pdc.rpr w, pdc := s.pdc.receive,
                              produced := s.produced ++ [w] } :=
  if_neg h

theorem dmaReceive_pdc {s : DmaLoop σ} (h : s.pdc.rcr ≠ 0) (w : UInt16) :
    (dmaReceive s w).pdc = s.pdc.receive := by
  rw [dmaReceive_of_running h]

theorem dmaReceive_buf {s : DmaLoop σ} (h : s.pdc.rcr ≠ 0) (w : UInt16) :
    (dmaReceive s w).buf = Function.update s.buf s.pdc.rpr w := by
  rw [dmaReceive_of_running h]

@[simp] theorem consumerPass_produced : (consumerPass k handle s).produced = s.produced := by
  unfold consumerPass; split_ifs <;> rfl

theorem consumerPass_of_idle {s : DmaLoop σ}
    (h : (s.pdc.rpr + 2 ^ k - s.upTo) &&& (2 ^ k - 1) = 0) :
    consumerPass k handle s = s :=
  if_pos h

/-- A pass with a word waiting reads it and moves the cursor, round the ring's end with the
PDC re-armed. -/
theorem consumerPass_of_busy {s : DmaLoop σ}
    (h : (s.pdc.rpr + 2 ^ k - s.upTo) &&& (2 ^ k - 1) ≠ 0) :
    consumerPass k handle s =
      { s with samples := s.samples + 1, dec := handle s.dec (iqOfWord (s.buf s.upTo)),
               upTo := if 2 ^ k ≤ s.upTo + 1 then 0 else s.upTo + 1,
               pdc := if 2 ^ k ≤ s.upTo + 1 then rearm k s.pdc else s.pdc } := by
  unfold consumerPass
  rw [if_neg h]
  split_ifs <;> rfl

@[simp] theorem dmaRun_nil : dmaRun k handle s [] = s := rfl

@[simp] theorem dmaRun_cons (e : DmaEvent) (evs : List DmaEvent) :
    dmaRun k handle s (e :: evs) = dmaRun k handle (dmaEvent k handle s e) evs := rfl

theorem dmaRun_append (xs ys : List DmaEvent) :
    dmaRun k handle s (xs ++ ys) = dmaRun k handle (dmaRun k handle s xs) ys :=
  List.foldl_append ..

@[simp] theorem dmaEvent_word : dmaEvent k handle s (.word w) = dmaReceive s w := rfl

@[simp] theorem dmaEvent_pass : dmaEvent k handle s .pass = consumerPass k handle s := rfl

@[simp] theorem wordsOf_replicate_pass (m : Nat) : wordsOf (List.replicate m .pass) = [] := by
  induction m with
  | zero => rfl
  | succ m ih => exact ih

/-- Every run appends exactly the words it receives, in order. -/
theorem dmaRun_produced (evs : List DmaEvent) :
    (dmaRun k handle s evs).produced = s.produced ++ wordsOf evs := by
  induction evs generalizing s with
  | nil => simp [wordsOf]
  | cons e evs ih => cases e <;> simp [ih, wordsOf]

end Event

/-! ## 3. Positions in the ring and the registers -/

theorem ringIndex_lt {u i : Nat} (hu : u < 2 ^ k) (hi : i < 2 ^ k) :
    ringIndex k u i < 2 ^ k := by
  unfold ringIndex; split <;> omega

theorem ringIndex_ne {u i j : Nat} (hi : i < 2 ^ k) (hj : j < 2 ^ k) (hij : i ≠ j) :
    ringIndex k u i ≠ ringIndex k u j := by
  unfold ringIndex; split <;> split <;> omega

theorem ringIndex_zero {u : Nat} (hu : u < 2 ^ k) : ringIndex k u 0 = u :=
  if_pos hu

/-- Moving the cursor on one word, or round the ring's end to its start. -/
theorem ringIndex_next {u i : Nat} (hu : u < 2 ^ k) (hi : i + 1 < 2 ^ k) :
    ringIndex k (if 2 ^ k ≤ u + 1 then 0 else u + 1) i = ringIndex k u (i + 1) := by
  unfold ringIndex; split <;> split <;> split <;> omega

theorem pdcAt_rpr (u i : Nat) : (pdcAt k (u + i)).rpr = ringIndex k u i := by
  unfold pdcAt ringIndex; split <;> rfl

/-- The PDC is running until it has written two rings. -/
theorem pdcAt_rcr_ne_zero {m : Nat} (hm : m < 2 ^ k + 2 ^ k) : (pdcAt k m).rcr ≠ 0 := by
  unfold pdcAt; split <;> (dsimp only; omega)

/-- **One word written**: the PDC moves on one position, from the first transfer to the next
one at the ring's end. -/
theorem pdcAt_receive {m : Nat} (hm : m + 1 < 2 ^ k + 2 ^ k) :
    (pdcAt k m).receive = pdcAt k (m + 1) := by
  rcases Nat.lt_trichotomy (m + 1) (2 ^ k) with h | h | h
  · -- inside the first transfer
    have hm' : m < 2 ^ k := by omega
    simp only [pdcAt, Pdc.receive, hm', h, if_true, show 2 ^ k - m ≠ 1 by omega, if_false,
      Pdc.mk.injEq, true_and, and_true]
    omega
  · -- its last word: the next transfer takes over
    simp only [pdcAt, Pdc.receive, show m < 2 ^ k by omega, h, lt_irrefl, if_true, if_false,
      show 2 ^ k - m = 1 by omega, show 2 ^ k ≠ 0 from (Nat.two_pow_pos k).ne', Pdc.mk.injEq,
      and_true]
    omega
  · -- inside the next transfer
    simp only [pdcAt, Pdc.receive, show ¬m < 2 ^ k by omega, show ¬m + 1 < 2 ^ k by omega,
      if_false, show 2 ^ k + 2 ^ k - m ≠ 1 by omega, Pdc.mk.injEq, true_and, and_true]
    omega

/-- **The loop's re-arming** past the ring's end sets the next transfer to the ring again. -/
theorem rearm_pdcAt {m : Nat} (h₁ : 2 ^ k ≤ m) (h₂ : m < 2 ^ k + 2 ^ k) :
    rearm k (pdcAt k m) = pdcAt k (m - 2 ^ k) := by
  rw [pdcAt, if_neg (show ¬m < 2 ^ k by omega), pdcAt, if_pos (show m - 2 ^ k < 2 ^ k by omega)]
  unfold rearm
  dsimp only
  rw [if_pos rfl, if_neg (show 2 ^ k + 2 ^ k - m ≠ 0 by omega), if_pos rfl]
  simp only [Pdc.mk.injEq, true_and, and_true]
  omega

/-! ## 4. The invariant of every run that keeps up -/

variable {d₀ : σ}

theorem dmaInv_start (buf : Nat → UInt16) (d₀ : σ) : DmaInv k handle d₀ (dmaStart k buf d₀) where
  behind := le_rfl
  lag := by simp [dmaStart, Nat.two_pow_pos]
  upTo_lt := Nat.two_pow_pos k
  dec := rfl
  pdc := by simp [dmaStart, pdcAt, Nat.two_pow_pos]
  ring := fun i hi => absurd hi (by simp [dmaStart])

/-- **How far the loop is behind**: the masked pointer difference is the number of words
waiting. -/
theorem DmaInv.behindBy {s : DmaLoop σ} (h : DmaInv k handle d₀ s) :
    (s.pdc.rpr + 2 ^ k - s.upTo) &&& (2 ^ k - 1) = s.produced.length - s.samples := by
  have := h.lag
  have := h.upTo_lt
  rw [Nat.and_pow_two_sub_one_eq_mod, h.pdc, pdcAt_rpr]
  unfold ringIndex
  split
  · rw [show s.upTo + (s.produced.length - s.samples) + 2 ^ k - s.upTo =
      s.produced.length - s.samples + 2 ^ k by omega, Nat.add_mod_right,
      Nat.mod_eq_of_lt (by omega)]
  · rw [show s.upTo + (s.produced.length - s.samples) - 2 ^ k + 2 ^ k - s.upTo =
      s.produced.length - s.samples by omega, Nat.mod_eq_of_lt (by omega)]

theorem getD_append_left {l : List UInt16} {n : Nat} (h : n < l.length) (w : UInt16) :
    (l ++ [w]).getD n 0 = l.getD n 0 := by
  simp [List.getD_eq_getElem?_getD, List.getElem?_append_left h]

/-- **A word received keeps the invariant** when it leaves less than a ring unread: the PDC is
running and writes it at `RPR`, which holds no unread word. -/
theorem DmaInv.receive {s : DmaLoop σ} (h : DmaInv k handle d₀ s)
    (hlag : s.produced.length + 1 < s.samples + 2 ^ k) (w : UInt16) :
    DmaInv k handle d₀ (dmaReceive s w) := by
  have hb := h.behind
  have hu := h.upTo_lt
  have hrpr : s.pdc.rpr = ringIndex k s.upTo (s.produced.length - s.samples) := by
    rw [h.pdc, pdcAt_rpr]
  rw [dmaReceive_of_running (h.pdc ▸ pdcAt_rcr_ne_zero (by omega))]
  have hlen : (s.produced ++ [w]).length = s.produced.length + 1 := by simp
  refine ⟨?_, ?_, hu, ?_, ?_, ?_⟩ <;> dsimp only
  · omega
  · omega
  · rw [h.dec, List.take_append_of_le_length hb]
  · rw [h.pdc, pdcAt_receive (by omega)]
    congr 1; omega
  · intro i hi
    by_cases hi' : i = s.produced.length - s.samples
    · subst hi'
      rw [← hrpr, Function.update_same,
        show s.samples + (s.produced.length - s.samples) = s.produced.length by omega,
        List.getD_eq_getElem?_getD, List.getElem?_concat_length, Option.getD_some]
    · rw [Function.update_noteq (hrpr ▸ ringIndex_ne (by omega) (by omega) hi'),
        getD_append_left (by omega), h.ring i (by omega)]

/-- The word the loop reads next is the oldest one waiting. -/
theorem DmaInv.buf_upTo {s : DmaLoop σ} (h : DmaInv k handle d₀ s)
    (hp : 0 < s.produced.length - s.samples) :
    s.buf s.upTo = s.produced[s.samples] := by
  rw [← ringIndex_zero h.upTo_lt, h.ring 0 hp, Nat.add_zero, List.getD_eq_getElem?_getD,
    List.getElem?_eq_getElem (by omega), Option.getD_some]

/-- **A pass keeps the invariant**: it reads a word exactly when one is waiting, the oldest,
and re-arms the next transfer each time it comes round the ring. -/
theorem DmaInv.pass {s : DmaLoop σ} (h : DmaInv k handle d₀ s) :
    DmaInv k handle d₀ (consumerPass k handle s) ∧
      (consumerPass k handle s).samples = min (s.samples + 1) s.produced.length := by
  have hb := h.behind
  have hl := h.lag
  have hu := h.upTo_lt
  by_cases hp : s.produced.length - s.samples = 0
  · rw [consumerPass_of_idle (h.behindBy.trans hp)]
    exact ⟨h, by omega⟩
  rw [consumerPass_of_busy (h.behindBy ▸ hp)]
  have hdec : handle s.dec (iqOfWord (s.buf s.upTo)) =
      ((s.produced.take (s.samples + 1)).map iqOfWord).foldl handle d₀ := by
    have hs : s.samples < s.produced.length := by omega
    simp only [h.buf_upTo (by omega), List.take_succ, List.getElem?_eq_getElem hs,
      Option.toList_some, List.map_append, List.foldl_append, ← h.dec, List.map_cons,
      List.map_nil, List.foldl_cons, List.foldl_nil]
  refine ⟨⟨?_, ?_, ?_, hdec, ?_, ?_⟩, ?_⟩ <;> dsimp only
  · omega
  · omega
  · split <;> omega
  · split
    · rw [h.pdc, rearm_pdcAt (by omega) (by omega)]
      congr 1; omega
    · rw [h.pdc]
      congr 1; omega
  · intro i hi
    rw [ringIndex_next hu (by omega), h.ring (i + 1) (by omega), Nat.add_assoc,
      Nat.add_comm 1 i]
  · omega

/-! ## 5. Every run that keeps up -/

/-- **The run lemma**: every interleaving that keeps up keeps the invariant. -/
theorem DmaInv.run {s : DmaLoop σ} (h : DmaInv k handle d₀ s) {evs : List DmaEvent}
    (hk : KeepsUp k handle s evs) : DmaInv k handle d₀ (dmaRun k handle s evs) := by
  induction evs generalizing s with
  | nil => exact h
  | cons e evs ih =>
    cases e with
    | word w => exact ih (h.receive hk.1 w) hk.2
    | pass => exact ih h.pass.1 hk

/-- **Catching up**: each pass with words waiting reads one of them. -/
theorem DmaInv.catchUp {s : DmaLoop σ} (h : DmaInv k handle d₀ s) {m : Nat}
    (hm : m ≤ s.produced.length - s.samples) :
    DmaInv k handle d₀ (dmaRun k handle s (List.replicate m .pass)) ∧
      (dmaRun k handle s (List.replicate m .pass)).samples = s.samples + m := by
  induction m generalizing s with
  | zero => exact ⟨h, rfl⟩
  | succ m ih =>
    obtain ⟨h', hs⟩ := h.pass
    obtain ⟨h'', hn⟩ := ih h' (by rw [hs, consumerPass_produced]; omega)
    rw [List.replicate_succ, dmaRun_cons, dmaEvent_pass]
    exact ⟨h'', by rw [hn, hs]; omega⟩

/-- A loop that catches up has handed on every word received. -/
theorem DmaInv.caughtUp {s : DmaLoop σ} (h : DmaInv k handle d₀ s) :
    (dmaRun k handle s (List.replicate (s.produced.length - s.samples) .pass)).dec =
      (s.produced.map iqOfWord).foldl handle d₀ := by
  obtain ⟨hc, hn⟩ := h.catchUp le_rfl
  rw [hc.dec, dmaRun_produced, wordsOf_replicate_pass, List.append_nil, hn,
    Nat.add_sub_cancel' h.behind, List.take_length]

/-- **The loop hands its decoder every word the SSC receives, in order, once each**, in every
interleaving of the PDC and the loop in which fewer than `DMA_BUFFER_SIZE` words ever wait:
at every point the decoder has seen exactly the first `samples` words received, and once the
loop has caught up, all of them. -/
theorem dmaRun_delivers (buf : Nat → UInt16) (d₀ : σ) (evs : List DmaEvent)
    (hk : KeepsUp k handle (dmaStart k buf d₀) evs) :
    (dmaRun k handle (dmaStart k buf d₀) evs).samples ≤ (wordsOf evs).length ∧
      (dmaRun k handle (dmaStart k buf d₀) evs).dec =
        (((wordsOf evs).take (dmaRun k handle (dmaStart k buf d₀) evs).samples).map
          iqOfWord).foldl handle d₀ ∧
      (dmaRun k handle (dmaRun k handle (dmaStart k buf d₀) evs)
        (List.replicate ((wordsOf evs).length - (dmaRun k handle (dmaStart k buf d₀) evs).samples)
          .pass)).dec = ((wordsOf evs).map iqOfWord).foldl handle d₀ := by
  have h := (dmaInv_start buf d₀).run hk
  have hp : (dmaRun k handle (dmaStart k buf d₀) evs).produced = wordsOf evs := by
    rw [dmaRun_produced]; rfl
  rw [← hp]
  exact ⟨h.behind, h.dec, h.caughtUp⟩

/-- A ring of two words, a decoder that records what it is handed, and a schedule that goes
round the ring once and a half with the loop one word behind. -/
theorem dmaRun_delivers_round :
    KeepsUp 1 (fun (l : List (Int × Int)) x => l ++ [x]) (dmaStart 1 (fun _ => 0) [])
        [.word 0x0102, .pass, .word 0xFF80, .pass, .word 7] ∧
      (dmaRun 1 (fun (l : List (Int × Int)) x => l ++ [x]) (dmaStart 1 (fun _ => 0) [])
        [.word 0x0102, .pass, .word 0xFF80, .pass, .word 7]).samples ≤ 3 ∧
      (dmaRun 1 (fun (l : List (Int × Int)) x => l ++ [x]) (dmaStart 1 (fun _ => 0) [])
        [.word 0x0102, .pass, .word 0xFF80, .pass, .word 7]).dec =
        (([0x0102, 0xFF80, 7].take (dmaRun 1 (fun (l : List (Int × Int)) x => l ++ [x])
          (dmaStart 1 (fun _ => 0) [])
            [.word 0x0102, .pass, .word 0xFF80, .pass, .word 7]).samples).map
            iqOfWord).foldl (fun l x => l ++ [x]) [] ∧
      (dmaRun 1 (fun (l : List (Int × Int)) x => l ++ [x])
        (dmaRun 1 (fun (l : List (Int × Int)) x => l ++ [x]) (dmaStart 1 (fun _ => 0) [])
          [.word 0x0102, .pass, .word 0xFF80, .pass, .word 7])
        (List.replicate (3 - (dmaRun 1 (fun (l : List (Int × Int)) x => l ++ [x])
          (dmaStart 1 (fun _ => 0) []) [.word 0x0102, .pass, .word 0xFF80, .pass, .word 7]).samples)
          .pass)).dec = ([0x0102, 0xFF80, 7].map iqOfWord).foldl (fun l x => l ++ [x]) [] :=
  ⟨by decide, dmaRun_delivers (fun _ => 0) [] _ (by decide)⟩

/-! ## 6. A full ring -/

/-- Words received with no pass in between move the PDC on and leave the loop where it was. -/
theorem dmaRun_words (handle : σ → Int × Int → σ) {s : DmaLoop σ} {m : Nat}
    (hs : s.pdc = pdcAt k m) (ws : List UInt16)
    (h : m + ws.length < 2 ^ k + 2 ^ k) :
    (dmaRun k handle s (ws.map .word)).pdc = pdcAt k (m + ws.length) ∧
      (dmaRun k handle s (ws.map .word)).upTo = s.upTo ∧
      (dmaRun k handle s (ws.map .word)).samples = s.samples ∧
      (dmaRun k handle s (ws.map .word)).dec = s.dec := by
  induction ws generalizing s m with
  | nil => simpa using hs
  | cons w ws ih =>
    simp only [List.length_cons] at h
    have hrun : s.pdc.rcr ≠ 0 := hs ▸ pdcAt_rcr_ne_zero (by omega)
    obtain ⟨h₁, h₂, h₃, h₄⟩ :=
      ih (s := dmaReceive s w) (m := m + 1)
        (by rw [dmaReceive_pdc hrun, hs, pdcAt_receive (by omega)])
        (by omega)
    simp only [List.map_cons, dmaRun_cons, dmaEvent_word, List.length_cons] at h₁ h₂ h₃ h₄ ⊢
    exact ⟨by rw [h₁, Nat.add_assoc, Nat.add_comm 1], by simp [h₂], by simp [h₃], by simp [h₄]⟩

/-- Passes over an idle loop change nothing. -/
theorem dmaRun_passes_of_idle {s : DmaLoop σ} (h : consumerPass k handle s = s) (m : Nat) :
    dmaRun k handle s (List.replicate m .pass) = s := by
  induction m with
  | zero => rfl
  | succ m ih => rw [List.replicate_succ, dmaRun_cons, dmaEvent_pass, h, ih]

/-- **The bound is tight**: a PDC that fills the whole ring before the loop's first pass leaves
the loop looking at an empty ring, and the next word overwrites the oldest, so that however
often the loop then runs it reads that one word and nothing else: `DMA_BUFFER_SIZE` words are
lost. -/
theorem dmaRun_full_ring (hk : 1 ≤ k) (buf : Nat → UInt16) (d₀ : σ) (ws : List UInt16)
    (hws : ws.length = 2 ^ k) (w : UInt16) (m : Nat) :
    (dmaRun k handle (dmaStart k buf d₀)
        ((ws ++ [w]).map .word ++ List.replicate (m + 1) .pass)).samples = 1 ∧
      (dmaRun k handle (dmaStart k buf d₀)
        ((ws ++ [w]).map .word ++ List.replicate (m + 1) .pass)).dec = handle d₀ (iqOfWord w) := by
  have h2 : 2 ≤ 2 ^ k := Nat.pow_le_pow_right (Nat.succ_pos 1) hk
  obtain ⟨hp, hu, hs, hd⟩ := dmaRun_words (k := k) handle (s := dmaStart k buf d₀) (m := 0)
    (by simp [dmaStart, pdcAt, Nat.two_pow_pos]) ws (by omega)
  rw [List.map_append, dmaRun_append, dmaRun_append]
  generalize dmaRun k handle (dmaStart k buf d₀) (ws.map .word) = s₁ at hp hu hs hd ⊢
  rw [hws, Nat.zero_add] at hp
  simp only [dmaStart] at hu hs hd
  have hrun : s₁.pdc.rcr ≠ 0 := hp ▸ pdcAt_rcr_ne_zero (by omega)
  simp only [List.map_cons, List.map_nil, dmaRun_cons, dmaRun_nil, dmaEvent_word,
    List.replicate_succ, dmaEvent_pass]
  have hp₂ : (dmaReceive s₁ w).pdc.rpr = 1 := by
    rw [dmaReceive_pdc hrun, hp, pdcAt_receive (by omega)]
    simp only [pdcAt, if_neg (show ¬2 ^ k + 1 < 2 ^ k by omega)]
    omega
  have hb₂ : (dmaReceive s₁ w).buf 0 = w := by
    rw [dmaReceive_buf hrun, hp, show (pdcAt k (2 ^ k)).rpr = 0 by
      simp only [pdcAt, if_neg (Nat.lt_irrefl _), Nat.sub_self]]
    exact Function.update_same _ _ _
  rw [consumerPass_of_busy (by
    rw [hp₂, dmaReceive_upTo, hu, Nat.and_pow_two_sub_one_eq_mod, Nat.sub_zero,
      Nat.add_mod_right, Nat.mod_eq_of_lt (by omega)]
    exact one_ne_zero), dmaRun_passes_of_idle]
  · simp [hs, hd, hu, hb₂]
  · apply consumerPass_of_idle
    simp only [dmaReceive_upTo, hu, hp₂, if_neg (show ¬2 ^ k ≤ 0 + 1 by omega)]
    rw [Nat.and_pow_two_sub_one_eq_mod, show 1 + 2 ^ k - (0 + 1) = 2 ^ k by omega, Nat.mod_self]

/-- Two words fill a ring of two; the third overwrites the first. -/
theorem dmaRun_full_ring_two :
    1 ≤ 1 ∧ [(1 : UInt16), 2].length = 2 ^ 1 ∧
      (dmaRun 1 (fun (l : List (Int × Int)) x => l ++ [x]) (dmaStart 1 (fun _ => 0) [])
          (([(1 : UInt16), 2] ++ [3]).map .word ++ List.replicate (0 + 1) .pass)).samples = 1 ∧
      (dmaRun 1 (fun (l : List (Int × Int)) x => l ++ [x]) (dmaStart 1 (fun _ => 0) [])
          (([(1 : UInt16), 2] ++ [3]).map .word ++ List.replicate (0 + 1) .pass)).dec =
        [iqOfWord 3] :=
  ⟨le_rfl, rfl, dmaRun_full_ring le_rfl (fun _ => 0) [] [1, 2] rfl 3 0⟩

/-! ## 7. The sample loops fed from the ring -/

section Loop

variable {τ β : Type} (step : τ → Int × Int → τ ⊕ β)

/-- A sample loop (`runLoop`) as the decoder of a receive loop: it steps while it runs, and
once it has left it keeps the result it left with, as the code's `break` does. -/
def loopHandle : τ ⊕ β → Int × Int → τ ⊕ β
  | .inl t, a => step t a
  | .inr b, _ => .inr b

theorem foldl_loopHandle_inr (b : β) (xs : List (Int × Int)) :
    xs.foldl (loopHandle step) (.inr b) = .inr b := by
  induction xs with
  | nil => rfl
  | cons a as ih => exact ih

theorem foldl_loopHandle (t : τ) (xs : List (Int × Int)) :
    xs.foldl (loopHandle step) (.inl t) = (runLoop step t xs).elim .inl (fun r => .inr r.1) := by
  induction xs generalizing t with
  | nil => rfl
  | cons a as ih =>
    cases hs : step t a with
    | inl t' =>
      rw [runLoop_cons_inl step hs, ← ih]
      simp only [List.foldl_cons, loopHandle, hs]
    | inr b =>
      rw [runLoop_cons_inr step hs]
      simp only [List.foldl_cons, loopHandle, hs, foldl_loopHandle_inr, Sum.elim_inr]

/-- **The receive loops refine their list models**: a sample loop reading the DMA ring, in an
interleaving that keeps up, ends, once it has caught up, where `runLoop` ends on the list of
samples the SSC received. -/
theorem dmaRun_runLoop (t₀ : τ) (buf : Nat → UInt16) (evs : List DmaEvent)
    (hk : KeepsUp k (loopHandle step) (dmaStart k buf (.inl t₀)) evs) :
    (dmaRun k (loopHandle step) (dmaRun k (loopHandle step) (dmaStart k buf (.inl t₀)) evs)
      (List.replicate ((wordsOf evs).length -
        (dmaRun k (loopHandle step) (dmaStart k buf (.inl t₀)) evs).samples) .pass)).dec =
      (runLoop step t₀ ((wordsOf evs).map iqOfWord)).elim .inl (fun r => .inr r.1) := by
  have h := (dmaInv_start buf (Sum.inl t₀)).run hk
  have hp : (dmaRun k (loopHandle step) (dmaStart k buf (.inl t₀)) evs).produced =
      wordsOf evs := by
    rw [dmaRun_produced]; rfl
  rw [← hp, h.caughtUp, foldl_loopHandle]

/-- A loop that counts samples until one has `cq = 4`, reading a ring of two. -/
theorem dmaRun_runLoop_count :
    KeepsUp 1 (loopHandle fun (n : Nat) (x : Int × Int) => if x.2 = 4 then .inr n else .inl (n + 1))
        (dmaStart 1 (fun _ => 0) (.inl 0)) [.word 3, .pass, .word 4, .pass, .word 5] ∧
      (dmaRun 1
        (loopHandle fun (n : Nat) (x : Int × Int) => if x.2 = 4 then .inr n else .inl (n + 1))
        (dmaRun 1 (loopHandle fun (n : Nat) (x : Int × Int) =>
            if x.2 = 4 then .inr n else .inl (n + 1))
          (dmaStart 1 (fun _ => 0) (.inl 0)) [.word 3, .pass, .word 4, .pass, .word 5])
        (List.replicate ((wordsOf [.word 3, .pass, .word 4, .pass, .word 5]).length -
          (dmaRun 1 (loopHandle fun (n : Nat) (x : Int × Int) =>
              if x.2 = 4 then .inr n else .inl (n + 1))
            (dmaStart 1 (fun _ => 0) (.inl 0)) [.word 3, .pass, .word 4, .pass, .word 5]).samples)
          .pass)).dec =
        (runLoop (fun (n : Nat) (x : Int × Int) => if x.2 = 4 then .inr n else .inl (n + 1)) 0
          ((wordsOf [.word 3, .pass, .word 4, .pass, .word 5]).map iqOfWord)).elim .inl
          (fun r => .inr r.1) :=
  ⟨by decide, dmaRun_runLoop _ 0 (fun _ => 0) _ (by decide)⟩

end Loop

end Ring

end Iso14443b
