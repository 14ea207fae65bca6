/-
# The sniffer, `SniffIso14443b`

The sniffer feeds one stream of I/Q sample bytes to both decoders: the low bit of each byte
(`ci & 0x01`, `cq & 0x01`) is the reader's envelope, two UART samples per I/Q sample, and the
rest (`ci >> 1`, `cq >> 1`) is the tag's subcarrier for the demodulator.  Three flags gate the
two: the UART is skipped while `tag_is_active`, and the demodulator runs only while
`expect_tag_answer` and not `reader_is_active`.  Each decoded frame is logged and resets both
decoders.

`sniffStep` embeds one pass of the loop (the DMA bookkeeping and the button aside), cut into
the reader side and the tag side of its body; `sniffRun` runs it over a sample stream.

The outcome of this module: the flags are never stale.  At the top of every pass
`tag_is_active` and `reader_is_active` are exactly the two decoders' "past an accepted SOF"
tests, a tag that is active was expected, and the two are never active together
(`sniffRun_gated`).  The reason is that each side recomputes its flag at its end, and what the
other side can do to a decoder whose flag is clear is to reset it, which keeps it clear.
-/
import Iso14443b.Uart
import Iso14443b.Demod

namespace Iso14443b

/-! ## 1. The loop's state and one pass -/

/-- What the loop of `SniffIso14443b` carries from one pass to the next: the two decoders, the
three flags, and the trace it has logged, each entry with its direction (`true`: reader). -/
@[ext] structure Sniff where
  uart : Uart
  demod : Demod
  tagIsActive : Bool
  readerIsActive : Bool
  expectTagAnswer : Bool
  log : List (List UInt8 × Bool)

/-- The state before the first pass: `Demod14bInit(dm_buf, sizeof(dm_buf))` and
`Uart14bInit(ua_buf)` over two zeroed arrays of `MAX_FRAME_SIZE` bytes, every flag clear. -/
def sniffInit : Sniff :=
  ⟨uart14bInit (Buffer.zeros maxFrameSize), demod14bInit (Buffer.zeros maxFrameSize) 256,
    false, false, false, []⟩

/-- `c & 0x01`: the envelope bit of a sample byte. -/
def envBit (c : Int) : Bool := c % 2 == 1

/-- The end of a reader frame, when `Handle14443bSampleFromReader` returns `true`: log it if it
holds a byte, reset both decoders, and expect the tag's answer. -/
def sniffReaderEof (s : Sniff) (u : Uart) : Sniff :=
  { s with uart := uart14bReset u, demod := demod14bReset s.demod, readerIsActive := false,
           expectTagAnswer := true,
           log := if u.byteCnt > 0 then s.log ++ [(u.output.bytes.take u.byteCnt, true)] else s.log }

/-- One envelope sample into the UART. -/
def sniffReaderBit (s : Sniff) (bit : Bool) : Sniff :=
  match handle14443bSampleFromReader s.uart bit with
  | (u, true) => sniffReaderEof s u
  | (u, false) => { s with uart := u }

/-- `if (tag_is_active == false) { … }`: the two envelope samples, then
`reader_is_active = (Uart.state > STATE_14B_GOT_FALLING_EDGE_OF_SOF)`. -/
def sniffReaderSide (s : Sniff) (ci cq : Int) : Sniff :=
  if s.tagIsActive then s
  else
    let s := sniffReaderBit (sniffReaderBit s (envBit ci)) (envBit cq)
    { s with readerIsActive := decide (s.uart.state.toNat > UartState.gotFallingEdgeOfSof.toNat) }

/-- The end of a tag frame, when `Handle14443bSamplesFromTag` returns `true`: log it, reset both
decoders, and expect no answer. -/
def sniffTagEof (s : Sniff) (d : Demod) : Sniff :=
  { s with uart := uart14bReset s.uart, demod := demod14bReset d, expectTagAnswer := false,
           tagIsActive := false, log := s.log ++ [(d.output.bytes.take d.len, false)] }

/-- One sample into the demodulator: at its EOF `sniffTagEof`, else
`tag_is_active = (Demod.state > DEMOD_GOT_FALLING_EDGE_OF_SOF)`. -/
def sniffTagSample (s : Sniff) (ci cq : Int) : Sniff :=
  match handle14443bSamplesFromTag s.demod ci cq with
  | (d, true) => sniffTagEof s d
  | (d, false) =>
    { s with demod := d,
             tagIsActive := decide (d.state.toNat > DemodState.gotFallingEdgeOfSof.toNat) }

/-- `if (reader_is_active == false && expect_tag_answer) { … }` on the upper parts `ci >> 1`,
`cq >> 1` of the sample bytes. -/
def sniffTagSide (s : Sniff) (ci cq : Int) : Sniff :=
  if !s.readerIsActive && s.expectTagAnswer then
    sniffTagSample s (Int.shiftRight ci 1) (Int.shiftRight cq 1)
  else s

/-- One pass of the loop on the sample `(ci, cq)`. -/
def sniffStep (s : Sniff) (x : Int × Int) : Sniff := sniffTagSide (sniffReaderSide s x.1 x.2) x.1 x.2

/-- The loop over a stream of samples. -/
def sniffRun (s : Sniff) (xs : List (Int × Int)) : Sniff := xs.foldl sniffStep s

@[simp] theorem sniffRun_nil (s : Sniff) : sniffRun s [] = s := rfl

theorem sniffRun_cons (s : Sniff) (x : Int × Int) (xs : List (Int × Int)) :
    sniffRun s (x :: xs) = sniffRun (sniffStep s x) xs := rfl

theorem sniffRun_append (s : Sniff) (xs ys : List (Int × Int)) :
    sniffRun s (xs ++ ys) = sniffRun (sniffRun s xs) ys := List.foldl_append _ _ _ _

/-! ## 2. What a reader sample does to the tag's half of the state -/

section ReaderBit

variable (s : Sniff) (bit : Bool)

@[simp] theorem sniffReaderBit_tagIsActive : (sniffReaderBit s bit).tagIsActive = s.tagIsActive := by
  unfold sniffReaderBit; split <;> rfl

/-- The UART can only reset the demodulator, never advance it. -/
theorem sniffReaderBit_demod_state :
    (sniffReaderBit s bit).demod.state.toNat ≤ s.demod.state.toNat := by
  unfold sniffReaderBit; split
  · exact Nat.zero_le _
  · exact le_refl _

end ReaderBit

/-! ## 3. The flags are never stale -/

/-- **The gating invariant** at the top of a pass: each flag is its decoder's test, a tag that
is active was expected, and the two decoders are never both past an accepted SOF. -/
structure Sniff.Gated (s : Sniff) : Prop where
  tag : s.tagIsActive = decide (s.demod.state.toNat > DemodState.gotFallingEdgeOfSof.toNat)
  reader : s.readerIsActive = decide (s.uart.state.toNat > UartState.gotFallingEdgeOfSof.toNat)
  expect : s.tagIsActive → s.expectTagAnswer
  exclusive : ¬ (s.tagIsActive ∧ s.readerIsActive)

theorem sniffInit_gated : sniffInit.Gated := ⟨rfl, rfl, nofun, nofun⟩

theorem sniffReaderSide_gated {s : Sniff} (h : s.Gated) (ci cq : Int) :
    (sniffReaderSide s ci cq).Gated := by
  unfold sniffReaderSide
  split
  · exact h
  · rename_i ht
    have hle := (sniffReaderBit_demod_state (sniffReaderBit s (envBit ci)) (envBit cq)).trans
      (sniffReaderBit_demod_state s (envBit ci))
    have hd : ¬ s.demod.state.toNat > DemodState.gotFallingEdgeOfSof.toNat := by
      simpa [ht] using h.tag
    refine ⟨?_, rfl, ?_, ?_⟩ <;> simp only [sniffReaderBit_tagIsActive, ht]
    · exact (decide_eq_false (by omega)).symm
    · exact nofun
    · exact nofun

theorem sniffTagSide_gated {s : Sniff} (h : s.Gated) (ci cq : Int) :
    (sniffTagSide s ci cq).Gated := by
  unfold sniffTagSide sniffTagSample
  split
  · rename_i hg
    simp only [Bool.and_eq_true, Bool.not_eq_true'] at hg
    split
    · exact ⟨rfl, by simp [sniffTagEof, uart14bReset, hg.1, UartState.toNat], nofun, nofun⟩
    · exact ⟨rfl, h.reader, fun _ => hg.2, by simp [hg.1]⟩
  · exact h

/-- One pass keeps the flags in step with the decoders. -/
theorem sniffStep_gated {s : Sniff} (h : s.Gated) (x : Int × Int) : (sniffStep s x).Gated :=
  sniffTagSide_gated (sniffReaderSide_gated h x.1 x.2) x.1 x.2

/-- **At the top of every pass, over any sample stream**, `tag_is_active` is
`Demod.state > DEMOD_GOT_FALLING_EDGE_OF_SOF`, `reader_is_active` is
`Uart.state > STATE_14B_GOT_FALLING_EDGE_OF_SOF`, an active tag was expected, and the tag and
the reader are never both active. -/
theorem sniffRun_gated (xs : List (Int × Int)) : (sniffRun sniffInit xs).Gated := by
  suffices ∀ s : Sniff, s.Gated → (sniffRun s xs).Gated from this _ sniffInit_gated
  induction xs with
  | nil => exact fun _ h => h
  | cons x xs ih => exact fun s h => ih _ (sniffStep_gated h x)

end Iso14443b
