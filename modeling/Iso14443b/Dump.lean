/-
# The SRx dump: `ReadSTBlock` and `ReadSTMemoryIso14443b`

`ReadSTMemoryIso14443b(numofblocks)` selects an SRx tag, reads blocks `0 … numofblocks` with one
READ_BLK each (`ReadSTBlock`), then the system block `0xFF`, all into one array `mem`, and
sends `mem` back.  Two of its integer types decide what it does.

* The loop counter is a `uint8_t`, compared with the `uint16_t` bound after `++numofblocks`.
  Up to 254 blocks the loop reads `0 … numofblocks` and stops.  From 255 on the counter wraps
  before it reaches the bound, and a tag that answers every READ_BLK keeps the reader in the
  loop for ever, reading blocks `0, 1, …, 255, 0, 1, …` (`readSTMemoryIso14443b_wraps`).
* `mem` has `(numofblocks + 1) * 4` bytes, and after `++numofblocks` the system block goes to
  `mem + numofblocks * 4`, the first byte past it.  Every store of the loop stays inside `mem`;
  this last one does not (`DumpInv`, `readSTMemoryIso14443b_system_block_outside`).
* Below 255 blocks, against a tag that answers every READ_BLK with its block and the block's
  CRC_B, the reply is the tag's memory: blocks `0 … numofblocks` in order, the system block,
  written past `mem`, in none of its bytes (`readSTMemoryIso14443b_reply`).  A READ_BLK the
  tag does not answer ends the loop: the reply is then the blocks before it and zeros, with
  `isOK` false (`readSTMemoryIso14443b_reply_fail`).

The tag is a function from everything the reader has sent to its answer to the last command,
as `Get14443bAnswerFromTag` leaves it (`Exchange.lean` connects that call to the air).
`BigBuf_malloc` is not under `src/`: its allocation is taken to succeed, with zeros in place of
the stale bytes it hands out.
-/
import Iso14443b.Reader

namespace Iso14443b

/-! ## 1. `ReadSTBlock` -/

/-- Modelled from the spec: `ISO14443B_READ_BLK`, the SRx block read. -/
def iso14443bReadBlk : UInt8 := 0x08

/-- The command `ReadSTBlock(blocknr, …)` sends: `READ_BLK blocknr CRC_B`. -/
def readBlkCmd (blocknr : UInt8) : List UInt8 :=
  addCrc14B [iso14443bReadBlk, blocknr, 0x00, 0x00] 2

/-- The READ_BLKs of blocks `0, 1, …, j - 1`, the block number taken as a `uint8_t`. -/
def readBlks (j : Nat) : List (List UInt8) :=
  (List.range j).map (fun b => readBlkCmd (UInt8.ofNat b))

theorem readBlks_succ (j : Nat) :
    readBlks (j + 1) = readBlks j ++ [readBlkCmd (UInt8.ofNat j)] := by
  simp [readBlks, List.range_succ]

/-- `ReadSTBlock`'s verdict on the answer to its READ_BLK, received into `r_block[6]`: the four
bytes it copies to `block`, or `none` (`false`) unless the answer has six bytes and a good
CRC_B. -/
def readSTBlock (a : Reply) : Option (List UInt8) :=
  if a.ret ≠ 6 then none
  else if !a.crcOk then none
  else some (a.buf.take 4)

/-- **A block that `ReadSTBlock` accepts has one to four bytes**: its CRC_B check needs two. -/
theorem readSTBlock_length {a : Reply} {block : List UInt8} (h : readSTBlock a = some block) :
    0 < block.length ∧ block.length ≤ 4 := by
  unfold readSTBlock at h
  split at h
  · cases h
  split at h
  · cases h
  cases h
  have hcrc : 2 ≤ (a.buf.take a.ret.toNat).length :=
    two_le_of_checkCrc14B (by simpa using ‹¬(!a.crcOk) = true›)
  simp only [List.length_take] at hcrc ⊢
  omega

/-! ## 2. The dump loop -/

/-- Where `ReadSTMemoryIso14443b` stands: in its `for` loop, at the READ_BLK of the system
block, or at `out:`. -/
inductive DumpPhase
  | blocks
  | system
  | done
  deriving DecidableEq, Repr

/-- The locals of `ReadSTMemoryIso14443b` between two READ_BLKs, and the commands sent so far. -/
structure Dump where
  phase : DumpPhase
  /-- The `uint8_t` loop counter. -/
  i : UInt8
  numofblocks : UInt16
  mem : Buffer
  /-- `isOK == PM3_SUCCESS`. -/
  isOK : Bool
  sent : List (List UInt8)
  deriving DecidableEq, Repr

/-- One READ_BLK of `ReadSTMemoryIso14443b`, or the test that ends its loop; `tag` answers the
last of the commands sent. -/
def dumpStep (tag : List (List UInt8) → Reply) (s : Dump) : Dump :=
  match s.phase with
  | .blocks =>
    if s.i.toNat < s.numofblocks.toNat then
      let sent := s.sent ++ [readBlkCmd s.i]
      match readSTBlock (tag sent) with
      | some block =>
        { s with i := s.i + 1, mem := s.mem.storeAll (s.i.toNat * 4) block, sent := sent }
      | none => { s with phase := .system, isOK := false, sent := sent }
    else { s with phase := .system }
  | .system =>
    let sent := s.sent ++ [readBlkCmd 0xFF]
    match readSTBlock (tag sent) with
    | some block =>
      { s with phase := .done, mem := s.mem.storeAll (s.numofblocks.toNat * 4) block,
               sent := sent }
    | none => { s with phase := .done, isOK := false, sent := sent }
  | .done => s

/-- `k` passes of the dump from `s`. -/
def dumpRun (tag : List (List UInt8) → Reply) (s : Dump) : Nat → Dump
  | 0 => s
  | k + 1 => dumpStep tag (dumpRun tag s k)

/-- `ReadSTMemoryIso14443b(numofblocks)` up to its loop: `mem` of `(numofblocks + 1) * 4` bytes,
the SRx selection `sel`, whose result it keeps in a `uint8_t`, and `++numofblocks` once that
is 0.  A failed selection goes straight to `out:`. -/
def dumpStart (numofblocks : UInt16) (sel : OpResult) : Dump :=
  let mem := Buffer.zeros ((numofblocks.toNat + 1) * 4)
  if sel.ret % 256 > 0 then ⟨.done, 0, numofblocks, mem, false, sel.sent⟩
  else ⟨.blocks, 0, numofblocks + 1, mem, true, sel.sent⟩

/-- `ReadSTMemoryIso14443b(numofblocks)` after `k` passes, given the answers `init`, `select`,
`papid` to the selection's three commands, and the tag's answer to each READ_BLK. -/
def readSTMemoryIso14443b (numofblocks : UInt16) (init select papid : Reply)
    (tag : List (List UInt8) → Reply) (k : Nat) : Dump :=
  dumpRun tag (dumpStart numofblocks (iso14443bSelectSrxCard init select papid)) k

/-- What `reply_ng(CMD_HF_SRI_READ, isOK, mem, numofblocks * 4)` sends back. -/
def Dump.reply (s : Dump) : Bool × List UInt8 :=
  (s.isOK, s.mem.bytes.take (s.numofblocks.toNat * 4))

section Step

variable {tag : List (List UInt8) → Reply} {s : Dump}

theorem dumpStep_read (hp : s.phase = .blocks) (hi : s.i.toNat < s.numofblocks.toNat)
    {block : List UInt8} (hb : readSTBlock (tag (s.sent ++ [readBlkCmd s.i])) = some block) :
    dumpStep tag s = { s with i := s.i + 1, mem := s.mem.storeAll (s.i.toNat * 4) block,
                              sent := s.sent ++ [readBlkCmd s.i] } := by
  simp only [dumpStep, hp, hi, if_true, hb]

theorem dumpStep_read_fail (hp : s.phase = .blocks) (hi : s.i.toNat < s.numofblocks.toNat)
    (hb : readSTBlock (tag (s.sent ++ [readBlkCmd s.i])) = none) :
    dumpStep tag s = { s with phase := .system, isOK := false,
                              sent := s.sent ++ [readBlkCmd s.i] } := by
  simp only [dumpStep, hp, hi, if_true, hb]

theorem dumpStep_exit (hp : s.phase = .blocks) (hi : ¬ s.i.toNat < s.numofblocks.toNat) :
    dumpStep tag s = { s with phase := .system } := by
  simp only [dumpStep, hp, hi, if_false]

theorem dumpStep_system (hp : s.phase = .system) {block : List UInt8}
    (hb : readSTBlock (tag (s.sent ++ [readBlkCmd 0xFF])) = some block) :
    dumpStep tag s = { s with phase := .done, mem := s.mem.storeAll (s.numofblocks.toNat * 4) block,
                              sent := s.sent ++ [readBlkCmd 0xFF] } := by
  simp only [dumpStep, hp, hb]

theorem dumpStep_system_fail (hp : s.phase = .system)
    (hb : readSTBlock (tag (s.sent ++ [readBlkCmd 0xFF])) = none) :
    dumpStep tag s = { s with phase := .done, isOK := false,
                              sent := s.sent ++ [readBlkCmd 0xFF] } := by
  simp only [dumpStep, hp, hb]

theorem dumpStep_done (hp : s.phase = .done) : dumpStep tag s = s := by
  simp only [dumpStep, hp]

end Step

theorem dumpStart_selected {n : UInt16} {sel : OpResult} (h : sel.ret = 0) :
    dumpStart n sel = ⟨.blocks, 0, n + 1, Buffer.zeros ((n.toNat + 1) * 4), true, sel.sent⟩ := by
  simp [dumpStart, h]

theorem uint8_ofNat_succ (k : Nat) : UInt8.ofNat k + 1 = UInt8.ofNat (k + 1) := by
  apply UInt8.toNat.inj
  show (k % 256 + 1) % 256 = (k + 1) % 256
  omega

/-! ## 3. The counter wraps -/

/-- **Past 255 blocks the loop reads for ever**: from the top of the loop with a bound of at
least 256 and a tag that answers every READ_BLK, `k` passes read blocks `0, 1, …` mod 256, one
READ_BLK each, and stay in the loop. -/
theorem dumpRun_wraps (tag : List (List UInt8) → Reply) (htag : ∀ h, (readSTBlock (tag h)).isSome)
    {s : Dump} (hp : s.phase = .blocks) (hi : s.i = 0) (h256 : 256 ≤ s.numofblocks.toNat)
    (k : Nat) :
    (dumpRun tag s k).phase = .blocks ∧ (dumpRun tag s k).i = UInt8.ofNat k ∧
      (dumpRun tag s k).numofblocks = s.numofblocks ∧
      (dumpRun tag s k).sent = s.sent ++ readBlks k := by
  induction k with
  | zero => exact ⟨hp, hi, rfl, by simp [dumpRun, readBlks]⟩
  | succ k ih =>
    obtain ⟨hp', hi', hn, hs⟩ := ih
    obtain ⟨block, hb⟩ := Option.isSome_iff_exists.mp (htag ((dumpRun tag s k).sent ++
      [readBlkCmd (dumpRun tag s k).i]))
    have hlt : (dumpRun tag s k).i.toNat < (dumpRun tag s k).numofblocks.toNat := by
      rw [hn]; exact Nat.lt_of_lt_of_le (dumpRun tag s k).i.toNat_lt_size h256
    rw [dumpRun, dumpStep_read hp' hlt hb]
    refine ⟨hp', by rw [hi', uint8_ofNat_succ], hn, ?_⟩
    rw [hs, hi', readBlks_succ, List.append_assoc]

/-- **`ReadSTMemoryIso14443b` never returns for `numofblocks` from 255 to 65534 against a tag
that answers every READ_BLK**: after any number `k` of passes it is still in its loop, and has
sent, after the selection, the READ_BLKs of blocks `0, 1, …, 255, 0, 1, …`, `k` of them. -/
theorem readSTMemoryIso14443b_wraps (n : UInt16) (hn : 255 ≤ n.toNat) (hn' : n.toNat < 65535)
    (init select papid : Reply) (hsel : (iso14443bSelectSrxCard init select papid).ret = 0)
    (tag : List (List UInt8) → Reply) (htag : ∀ h, (readSTBlock (tag h)).isSome) (k : Nat) :
    (readSTMemoryIso14443b n init select papid tag k).phase = .blocks ∧
      (readSTMemoryIso14443b n init select papid tag k).sent =
        (iso14443bSelectSrxCard init select papid).sent ++ readBlks k := by
  have h256 : 256 ≤ (n + 1).toNat := by
    show 256 ≤ (n.toNat + 1) % 65536
    omega
  have hrun := dumpRun_wraps tag htag (s := dumpStart n (iso14443bSelectSrxCard init select papid))
  rw [dumpStart_selected hsel] at hrun
  obtain ⟨hp, -, -, hs⟩ := hrun rfl rfl h256 k
  rw [readSTMemoryIso14443b, dumpStart_selected hsel]
  exact ⟨hp, hs⟩

/-- An SRx tag's answer to INITIATE: its chip id `42`. -/
def srxInit : Reply := ⟨1, [0x42]⟩

/-- Its answer to SELECT: the chip id echoed, with its CRC_B. -/
def srxSelect : Reply := ⟨3, addCrc14B [0x42] 1⟩

/-- Its answer to GET_UID: eight UID bytes and their CRC_B. -/
def srxPapid : Reply := ⟨10, addCrc14B [1, 2, 3, 4, 5, 6, 7, 8] 8⟩

/-- Its answer to every READ_BLK: the block `01 02 03 04` and its CRC_B. -/
def srxBlock : Reply := ⟨6, addCrc14B [1, 2, 3, 4] 4⟩

set_option maxRecDepth 2000 in
/-- 255 blocks asked for: after 300 passes, more than the 257 READ_BLKs the call was meant to
send, it is still reading. -/
theorem readSTMemoryIso14443b_wraps_255 :
    255 ≤ (255 : UInt16).toNat ∧ (255 : UInt16).toNat < 65535 ∧
      (iso14443bSelectSrxCard srxInit srxSelect srxPapid).ret = 0 ∧
      (readSTBlock srxBlock).isSome ∧
      (readSTMemoryIso14443b 255 srxInit srxSelect srxPapid (fun _ => srxBlock) 300).phase =
        .blocks ∧
      (readSTMemoryIso14443b 255 srxInit srxSelect srxPapid (fun _ => srxBlock) 300).sent =
        (iso14443bSelectSrxCard srxInit srxSelect srxPapid).sent ++ readBlks 300 :=
  have hsel : (iso14443bSelectSrxCard srxInit srxSelect srxPapid).ret = 0 := by decide
  have hblk : (readSTBlock srxBlock).isSome := by decide
  ⟨by decide, by decide, hsel, hblk,
    readSTMemoryIso14443b_wraps 255 (by decide) (by decide) srxInit srxSelect srxPapid hsel _
      (fun _ => hblk) 300⟩

/-! ## 4. Below 255 blocks the dump ends -/

/-- The commands a dump has sent after `base` when its counter never wrapped: the READ_BLKs of
blocks `0 … j - 1` in order (`j` is the counter while the loop runs), then, once the system
block is read, its READ_BLK. -/
def DumpSent (base : List (List UInt8)) (s : Dump) : Prop :=
  match s.phase with
  | .blocks => s.i.toNat ≤ s.numofblocks.toNat ∧ s.sent = base ++ readBlks s.i.toNat
  | .system => ∃ j ≤ s.numofblocks.toNat, s.sent = base ++ readBlks j
  | .done => ∃ j ≤ s.numofblocks.toNat, s.sent = base ++ readBlks j ++ [readBlkCmd 0xFF]

/-- The passes a dump has left before `out:` while its counter does not wrap. -/
def dumpFuel (s : Dump) : Nat :=
  match s.phase with
  | .blocks => s.numofblocks.toNat - s.i.toNat + 2
  | .system => 1
  | .done => 0

theorem phase_done_of_dumpFuel {s : Dump} (h : dumpFuel s = 0) : s.phase = .done := by
  unfold dumpFuel at h
  split at h <;> first | omega | assumption

theorem uint8_ofNat_toNat (i : UInt8) : UInt8.ofNat i.toNat = i := by
  apply UInt8.toNat.inj
  show i.toNat % 256 = i.toNat
  exact Nat.mod_eq_of_lt i.toNat_lt_size

/-- **One pass keeps `DumpSent` and spends fuel** while the bound is at most 255: the counter
then stays below 255 before each `i++`, so it never wraps. -/
theorem dumpSent_step (tag : List (List UInt8) → Reply) {base : List (List UInt8)} {s : Dump}
    (h255 : s.numofblocks.toNat ≤ 255) (hs : DumpSent base s) :
    DumpSent base (dumpStep tag s) ∧ (dumpStep tag s).numofblocks = s.numofblocks ∧
      (s.phase ≠ .done → dumpFuel (dumpStep tag s) < dumpFuel s) := by
  cases hp : s.phase with
  | blocks =>
    rw [DumpSent, hp] at hs
    obtain ⟨hle, hsent⟩ := hs
    have hread : s.sent ++ [readBlkCmd s.i] = base ++ readBlks (s.i.toNat + 1) := by
      rw [hsent, readBlks_succ, uint8_ofNat_toNat, List.append_assoc]
    by_cases hi : s.i.toNat < s.numofblocks.toNat
    · cases hb : readSTBlock (tag (s.sent ++ [readBlkCmd s.i])) with
      | none =>
        rw [dumpStep_read_fail hp hi hb]
        exact ⟨⟨s.i.toNat + 1, hi, hread⟩, rfl, fun _ => by simp only [dumpFuel, hp]; omega⟩
      | some block =>
        rw [dumpStep_read hp hi hb]
        have hsucc : (s.i + 1).toNat = s.i.toNat + 1 := by
          show (s.i.toNat + 1) % 256 = s.i.toNat + 1
          omega
        refine ⟨?_, rfl, fun _ => ?_⟩
        · simp only [DumpSent, hp, hsucc]
          exact ⟨hi, hread⟩
        · simp only [dumpFuel, hp, hsucc]
          omega
    · rw [dumpStep_exit hp hi]
      exact ⟨⟨s.i.toNat, hle, hsent⟩, rfl, fun _ => by simp only [dumpFuel, hp]; omega⟩
  | system =>
    rw [DumpSent, hp] at hs
    obtain ⟨j, hj, hsent⟩ := hs
    have hfuel : dumpFuel s = 1 := by simp only [dumpFuel, hp]
    cases hb : readSTBlock (tag (s.sent ++ [readBlkCmd 0xFF])) with
    | none =>
      rw [dumpStep_system_fail hp hb]
      exact ⟨⟨j, hj, by rw [hsent]⟩, rfl, fun _ => by rw [hfuel]; exact Nat.zero_lt_one⟩
    | some block =>
      rw [dumpStep_system hp hb]
      exact ⟨⟨j, hj, by rw [hsent]⟩, rfl, fun _ => by rw [hfuel]; exact Nat.zero_lt_one⟩
  | done =>
    rw [dumpStep_done hp]
    exact ⟨hs, rfl, fun h => absurd rfl h⟩

/-- `DumpSent` over a run, and the fuel spent: each pass that starts before `out:` spends one. -/
theorem dumpSent_run (tag : List (List UInt8) → Reply) (base : List (List UInt8)) {s : Dump}
    (h255 : s.numofblocks.toNat ≤ 255) (hs : DumpSent base s) (k : Nat) :
    DumpSent base (dumpRun tag s k) ∧ (dumpRun tag s k).numofblocks = s.numofblocks ∧
      ((dumpRun tag s k).phase = .done ∨ dumpFuel (dumpRun tag s k) + k ≤ dumpFuel s) := by
  induction k with
  | zero => exact ⟨hs, rfl, .inr (Nat.le_refl _)⟩
  | succ k ih =>
    obtain ⟨hsk, hn, hfuel⟩ := ih
    obtain ⟨hsk', hn', hdec⟩ := dumpSent_step tag (hn ▸ h255) hsk
    refine ⟨hsk', hn'.trans hn, ?_⟩
    by_cases hd : (dumpRun tag s k).phase = .done
    · exact .inl (by rw [dumpRun, dumpStep_done hd, hd])
    · have := hdec hd
      have := hfuel.resolve_left hd
      exact .inr (by rw [dumpRun]; omega)

/-- **Up to 254 blocks the dump ends, as the spec has it**: after a selection that succeeded,
whatever the tag answers to the READ_BLKs, `numofblocks + 3` passes reach `out:`, and the
commands sent after the selection are the READ_BLKs of blocks `0 … j - 1` for some
`j ≤ numofblocks + 1`, in order, then that of the system block. -/
theorem readSTMemoryIso14443b_ends (n : UInt16) (hn : n.toNat < 255) (init select papid : Reply)
    (hsel : (iso14443bSelectSrxCard init select papid).ret = 0) (tag : List (List UInt8) → Reply) :
    (readSTMemoryIso14443b n init select papid tag (n.toNat + 3)).phase = .done ∧
      ∃ j ≤ n.toNat + 1, (readSTMemoryIso14443b n init select papid tag (n.toNat + 3)).sent =
        (iso14443bSelectSrxCard init select papid).sent ++ readBlks j ++ [readBlkCmd 0xFF] := by
  have hnb : (n + 1).toNat = n.toNat + 1 := by
    show (n.toNat + 1) % 65536 = n.toNat + 1
    omega
  have hstart := dumpStart_selected (n := n) hsel
  have hnb0 : (dumpStart n (iso14443bSelectSrxCard init select papid)).numofblocks = n + 1 := by
    rw [hstart]
  have hfuel0 :
      dumpFuel (dumpStart n (iso14443bSelectSrxCard init select papid)) = n.toNat + 3 := by
    rw [hstart]
    simp only [dumpFuel, hnb, UInt8.toNat_zero]
    omega
  obtain ⟨hsent, hnum, hfuel⟩ := dumpSent_run tag (iso14443bSelectSrxCard init select papid).sent
    (s := dumpStart n _) (by rw [hnb0, hnb]; omega)
    (by rw [hstart]; exact ⟨Nat.zero_le _, (List.append_nil _).symm⟩) (n.toNat + 3)
  unfold readSTMemoryIso14443b
  have hdone : (dumpRun tag (dumpStart n (iso14443bSelectSrxCard init select papid))
      (n.toNat + 3)).phase = .done := by
    refine hfuel.elim id fun h => phase_done_of_dumpFuel ?_
    rw [hfuel0] at h
    omega
  simp only [DumpSent, hdone, hnum, hnb0, hnb] at hsent
  exact ⟨hdone, hsent⟩

/-! ## 5. Where the blocks go -/

/-- What holds of `mem` from the top of the loop after a selection that succeeded, as long as
the tag answers the READ_BLK of the system block: the bound is `n + 1`, `mem` keeps its
`(n + 1) * 4` bytes, and it has seen a store outside it exactly when the dump is done. -/
structure DumpInv (n : UInt16) (s : Dump) : Prop where
  /-- `++numofblocks` did not wrap. -/
  numofblocks : s.numofblocks.toNat = n.toNat + 1
  /-- `BigBuf_malloc((numofblocks + 1) * 4)`. -/
  length : s.mem.bytes.length = (n.toNat + 1) * 4
  /-- Every store of the loop lands inside `mem`; that of the system block does not. -/
  fault : s.mem.fault = decide (s.phase = .done)

section Inv

variable {n : UInt16} {tag : List (List UInt8) → Reply}

theorem dumpInv_start (hn : n.toNat < 65535) (sent : List (List UInt8)) :
    DumpInv n ⟨.blocks, 0, n + 1, Buffer.zeros ((n.toNat + 1) * 4), true, sent⟩ where
  numofblocks := by
    show (n.toNat + 1) % 65536 = n.toNat + 1
    omega
  length := Buffer.zeros_length _
  fault := rfl

/-- **One pass keeps `DumpInv`**: a block of the loop has at most four bytes and an index below
the bound, so it fits; the system block has at least one byte and starts at the end. -/
theorem dumpInv_step (hsys : ∀ h, (readSTBlock (tag (h ++ [readBlkCmd 0xFF]))).isSome)
    {s : Dump} (hs : DumpInv n s) : DumpInv n (dumpStep tag s) := by
  cases hp : s.phase with
  | blocks =>
    by_cases hi : s.i.toNat < s.numofblocks.toNat
    · cases hb : readSTBlock (tag (s.sent ++ [readBlkCmd s.i])) with
      | none =>
        rw [dumpStep_read_fail hp hi hb]
        exact ⟨hs.numofblocks, hs.length, by simp [hs.fault, hp]⟩
      | some block =>
        rw [dumpStep_read hp hi hb]
        have hfit : s.i.toNat * 4 + block.length ≤ s.mem.bytes.length := by
          have := (readSTBlock_length hb).2
          rw [hs.length, ← hs.numofblocks]
          omega
        exact ⟨hs.numofblocks, by simp [hs.length],
          by rw [(Buffer.storeAll_take hfit).2, hs.fault, hp]⟩
    · rw [dumpStep_exit hp hi]
      exact ⟨hs.numofblocks, hs.length, by simp [hs.fault, hp]⟩
  | system =>
    obtain ⟨block, hb⟩ := Option.isSome_iff_exists.mp (hsys s.sent)
    rw [dumpStep_system hp hb]
    refine ⟨hs.numofblocks, by simp [hs.length], ?_⟩
    rw [Buffer.storeAll_fault_of_le (by rw [hs.length, hs.numofblocks])
      (readSTBlock_length hb).1]
    rfl
  | done =>
    rw [dumpStep_done hp]
    exact hs

theorem dumpInv_run (hsys : ∀ h, (readSTBlock (tag (h ++ [readBlkCmd 0xFF]))).isSome)
    {s : Dump} (hs : DumpInv n s) (k : Nat) : DumpInv n (dumpRun tag s k) := by
  induction k with
  | zero => exact hs
  | succ k ih => exact dumpInv_step hsys ih

end Inv

/-- **The system block is written past `mem`**: for every `numofblocks` but 65535, once the
selection succeeds and the tag answers the READ_BLK of the system block, whatever it answers
to the others, a dump that reaches `out:` has stored outside the `(numofblocks + 1) * 4` bytes
it allocated. -/
theorem readSTMemoryIso14443b_system_block_outside (n : UInt16) (hn : n.toNat < 65535)
    (init select papid : Reply) (hsel : (iso14443bSelectSrxCard init select papid).ret = 0)
    (tag : List (List UInt8) → Reply)
    (hsys : ∀ h, (readSTBlock (tag (h ++ [readBlkCmd 0xFF]))).isSome) (k : Nat)
    (hdone : (readSTMemoryIso14443b n init select papid tag k).phase = .done) :
    (readSTMemoryIso14443b n init select papid tag k).mem.fault = true := by
  have hinv := dumpInv_run hsys (dumpInv_start hn (iso14443bSelectSrxCard init select papid).sent) k
  rw [readSTMemoryIso14443b, dumpStart_selected hsel, hinv.fault]
  rw [readSTMemoryIso14443b, dumpStart_selected hsel] at hdone
  simp [hdone]

set_option maxRecDepth 2000 in
/-- One block asked for, a tag that answers everything: three passes reach `out:`, and the
system block went to bytes 4 to 7 of a 4-byte `mem`. -/
theorem readSTMemoryIso14443b_system_block_outside_one :
    (0 : UInt16).toNat < 65535 ∧ (iso14443bSelectSrxCard srxInit srxSelect srxPapid).ret = 0 ∧
      (readSTBlock srxBlock).isSome ∧
      (readSTMemoryIso14443b 0 srxInit srxSelect srxPapid (fun _ => srxBlock) 3).phase = .done ∧
      (readSTMemoryIso14443b 0 srxInit srxSelect srxPapid (fun _ => srxBlock) 3).mem.fault = true :=
  have hsel : (iso14443bSelectSrxCard srxInit srxSelect srxPapid).ret = 0 := by decide
  have hblk : (readSTBlock srxBlock).isSome := by decide
  have hdone : (readSTMemoryIso14443b 0 srxInit srxSelect srxPapid (fun _ => srxBlock) 3).phase =
    .done := by decide
  ⟨by decide, hsel, hblk, hdone,
    readSTMemoryIso14443b_system_block_outside 0 (by decide) srxInit srxSelect srxPapid hsel _
      (fun _ => hblk) 3 hdone⟩


/-! ## 6. Up to 254 blocks the dump returns the tag's memory -/

/-- An answer of six bytes, a block of four and their CRC_B, passes `ReadSTBlock`. -/
theorem readSTBlock_addCrc14B {block : List UInt8} (h : block.length = 4) :
    readSTBlock ⟨6, addCrc14B block 4⟩ = some block := by
  have hlen : (addCrc14B block 4).length = 6 := length_addCrc14B h
  have htake : (addCrc14B block 4).take 4 = block := by
    simp [addCrc14B, List.take_of_length_le (le_of_eq h), h]
  simp [readSTBlock, Reply.crcOk, List.take_of_length_le (le_of_eq hlen),
    checkCrc14B_addCrc14B_of_length h, htake]

/-- Blocks of four bytes each, `0 … k - 1`, fill `4 k` bytes. -/
theorem length_flatMap_range {memory : Nat → List UInt8} {k : Nat}
    (hm : ∀ b < k, (memory b).length = 4) : ((List.range k).flatMap memory).length = k * 4 := by
  induction k with
  | zero => rfl
  | succ k ih =>
    rw [List.range_succ, List.flatMap_append, List.length_append, ih fun b hb => hm b (by omega),
      List.flatMap_singleton, hm k (by omega)]
    omega

/-- Where a dump stands after reading blocks `0 … k - 1` of `memory` after the commands `base`:
still in its loop, the counter at `k`, `mem` those blocks in order and then the zeros it started
with, every READ_BLK of them sent. -/
structure DumpReads (memory : Nat → List UInt8) (n : Nat) (base : List (List UInt8)) (k : Nat)
    (s : Dump) : Prop where
  phase : s.phase = .blocks
  i : s.i.toNat = k
  numofblocks : s.numofblocks.toNat = n + 1
  mem : s.mem.bytes = (List.range k).flatMap memory ++ List.replicate ((n + 1 - k) * 4) 0
  isOK : s.isOK = true
  sent : s.sent = base ++ readBlks k

/-- A selection that succeeded leaves the dump at the top of its loop, no block read. -/
theorem dumpReads_start (memory : Nat → List UInt8) {n : UInt16} (hn : n.toNat < 65535)
    {sel : OpResult} (hsel : sel.ret = 0) : DumpReads memory n.toNat sel.sent 0 (dumpStart n sel) := by
  rw [dumpStart_selected hsel]
  refine ⟨rfl, rfl, ?_, by simp [Buffer.zeros], rfl, by simp [readBlks]⟩
  show (n.toNat + 1) % 65536 = n.toNat + 1
  omega

section Memory

variable {memory : Nat → List UInt8} {n m : Nat} {tag : List (List UInt8) → Reply}
  (hn : n < 255) (hm : ∀ b < m, (memory b).length = 4)
  (htag : ∀ h b, b < m → tag (h ++ [readBlkCmd (UInt8.ofNat b)]) = ⟨6, addCrc14B (memory b) 4⟩)
include hn hm htag

/-- **One READ_BLK of the loop reads the next block** of a tag that answers blocks below `m`
with `memory`: it lands right after the blocks before it, and the counter does not wrap below
255. -/
theorem dumpReads_step {base : List (List UInt8)} {k : Nat} {s : Dump}
    (hs : DumpReads memory n base k s) (hk : k ≤ n) (hkm : k < m) :
    DumpReads memory n base (k + 1) (dumpStep tag s) := by
  have h4 : (n + 1 - k) * 4 - 4 = (n + 1 - (k + 1)) * 4 := by
    rw [Nat.sub_add_eq, Nat.sub_one_mul]
  have hi : s.i.toNat < s.numofblocks.toNat := by rw [hs.i, hs.numofblocks]; omega
  have hcmd : readBlkCmd s.i = readBlkCmd (UInt8.ofNat k) := by rw [← hs.i, uint8_ofNat_toNat]
  have hb : readSTBlock (tag (s.sent ++ [readBlkCmd s.i])) = some (memory k) := by
    rw [hcmd, htag _ _ hkm, readSTBlock_addCrc14B (hm k hkm)]
  have hpre : ((List.range k).flatMap memory).length = k * 4 :=
    length_flatMap_range fun b hb => hm b (by omega)
  have hfit : k * 4 + (memory k).length ≤ s.mem.bytes.length := by
    rw [hm k hkm, hs.mem, List.length_append, hpre, List.length_replicate]; omega
  have hrest : (s.mem.bytes.drop (k * 4 + (memory k).length)) =
      List.replicate ((n + 1 - (k + 1)) * 4) 0 := by
    rw [hs.mem, hm k hkm, ← hpre, List.drop_append, List.drop_replicate, h4]
  rw [dumpStep_read hs.phase hi hb]
  refine ⟨hs.phase, ?_, hs.numofblocks, ?_, hs.isOK, ?_⟩
  · show (s.i.toNat + 1) % 256 = k + 1
    rw [hs.i]; omega
  · rw [hs.i, Buffer.storeAll_bytes hfit, hrest, hs.mem, List.take_left' hpre, List.range_succ,
      List.flatMap_append, List.flatMap_singleton]
  · rw [hs.sent, hcmd, readBlks_succ, List.append_assoc]

/-- Blocks `0 … k - 1` read in the first `k` passes of the loop, for every `k ≤ n + 1` up to
`m`. -/
theorem dumpReads_run {base : List (List UInt8)} {s : Dump} (hs : DumpReads memory n base 0 s)
    (k : Nat) (hk : k ≤ n + 1) (hkm : k ≤ m) : DumpReads memory n base k (dumpRun tag s k) := by
  induction k with
  | zero => exact hs
  | succ k ih => exact dumpReads_step hn hm htag (ih (by omega) (by omega)) (by omega) (by omega)

end Memory

/-- **The system block's pass reaches `out:` and leaves the reply's bytes**: its store starts
at the end of `mem`; `isOK` falls when `ReadSTBlock` rejects its answer. -/
theorem dumpStep_system_reply (tag : List (List UInt8) → Reply) {s : Dump}
    (hp : s.phase = .system) (hlen : s.mem.bytes.length = s.numofblocks.toNat * 4) :
    (dumpStep tag s).phase = .done ∧ (dumpStep tag s).reply =
      (s.isOK && (readSTBlock (tag (s.sent ++ [readBlkCmd 0xFF]))).isSome, s.mem.bytes) := by
  have htake := List.take_of_length_le (le_of_eq hlen)
  cases hb : readSTBlock (tag (s.sent ++ [readBlkCmd 0xFF])) with
  | none => simp [dumpStep_system_fail hp hb, Dump.reply, htake]
  | some block => simp [dumpStep_system hp hb, Dump.reply, Buffer.storeAll_take_self, htake]

/-- An SRx tag whose block `b` holds `memory b`: it answers a READ_BLK with the block it names
and the block's CRC_B, and does not answer one of a block it lacks (`none`). -/
def srxTag (memory : Nat → Option (List UInt8)) (sent : List (List UInt8)) : Reply :=
  match memory ((sent.reverse.headD []).getD 1 0).toNat with
  | some block => ⟨6, addCrc14B block 4⟩
  | none => ⟨-1, []⟩

theorem srxTag_readBlk {memory : Nat → Option (List UInt8)} (h : List (List UInt8)) {b : UInt8}
    {block : List UInt8} (hb : memory b.toNat = some block) :
    srxTag memory (h ++ [readBlkCmd b]) = ⟨6, addCrc14B block 4⟩ := by
  simp [srxTag, readBlkCmd, addCrc14B, hb]

theorem srxTag_readBlk_none {memory : Nat → Option (List UInt8)} (h : List (List UInt8))
    {b : UInt8} (hb : memory b.toNat = none) : srxTag memory (h ++ [readBlkCmd b]) = ⟨-1, []⟩ := by
  simp [srxTag, readBlkCmd, addCrc14B, hb]

theorem uint8_toNat_ofNat {b : Nat} (hb : b < 256) : (UInt8.ofNat b).toNat = b :=
  Nat.mod_eq_of_lt hb

/-- **Up to 254 blocks the dump returns the tag's memory**: after a selection that succeeded,
for every tag that answers the READ_BLK of each block `b ≤ numofblocks` with its four bytes and
their CRC_B, whatever it answers to that of the system block, `numofblocks + 3` passes reach
`out:` (`phase = .done`) and the reply carries blocks `0 … numofblocks`, in order, as its
`(numofblocks + 1) * 4` bytes; `isOK` is whether `ReadSTBlock` took the system block's answer,
whose bytes went past `mem` and into none of the reply's. -/
theorem readSTMemoryIso14443b_reply (n : UInt16) (hn : n.toNat < 255) (init select papid : Reply)
    (hsel : (iso14443bSelectSrxCard init select papid).ret = 0) (memory : Nat → List UInt8)
    (hm : ∀ b ≤ n.toNat, (memory b).length = 4) (tag : List (List UInt8) → Reply)
    (htag : ∀ h b, b ≤ n.toNat →
      tag (h ++ [readBlkCmd (UInt8.ofNat b)]) = ⟨6, addCrc14B (memory b) 4⟩) :
    (readSTMemoryIso14443b n init select papid tag (n.toNat + 3)).phase = .done ∧
    (readSTMemoryIso14443b n init select papid tag (n.toNat + 3)).reply =
      ((readSTBlock (tag ((iso14443bSelectSrxCard init select papid).sent ++
          readBlks (n.toNat + 1) ++ [readBlkCmd 0xFF]))).isSome,
        (List.range (n.toNat + 1)).flatMap memory) := by
  have hm' : ∀ b < n.toNat + 1, (memory b).length = 4 := fun b hb => hm b (by omega)
  have hs := dumpReads_run hn hm' (fun h b hb => htag h b (by omega))
    (dumpReads_start memory (by omega) hsel) (n.toNat + 1) le_rfl le_rfl
  have hrun : readSTMemoryIso14443b n init select papid tag (n.toNat + 3) = dumpStep tag
      (dumpStep tag (dumpRun tag (dumpStart n (iso14443bSelectSrxCard init select papid))
        (n.toNat + 1))) := rfl
  have hmem := hs.mem
  rw [Nat.sub_self, Nat.zero_mul, List.replicate_zero, List.append_nil] at hmem
  rw [hrun, dumpStep_exit hs.phase (by rw [hs.i, hs.numofblocks]; omega)]
  refine (dumpStep_system_reply tag rfl ?_).imp_right fun h => ?_
  · rw [hmem, length_flatMap_range hm', hs.numofblocks]
  · rw [h]
    simp only [hs.isOK, hs.sent, hmem, Bool.true_and]

set_option maxRecDepth 2000 in
/-- Two blocks asked for from a tag whose block `b` holds `b 01 02 03`: the reply is both
blocks, and `isOK`. -/
theorem readSTMemoryIso14443b_reply_two :
    (1 : UInt16).toNat < 255 ∧ (iso14443bSelectSrxCard srxInit srxSelect srxPapid).ret = 0 ∧
      (readSTMemoryIso14443b 1 srxInit srxSelect srxPapid
          (srxTag fun b => some [UInt8.ofNat b, 1, 2, 3]) 4).phase = .done ∧
      (readSTMemoryIso14443b 1 srxInit srxSelect srxPapid
          (srxTag fun b => some [UInt8.ofNat b, 1, 2, 3]) 4).reply =
        (true, [0, 1, 2, 3, 1, 1, 2, 3]) := by
  have hsel : (iso14443bSelectSrxCard srxInit srxSelect srxPapid).ret = 0 := by decide
  have h := readSTMemoryIso14443b_reply 1 (by decide) srxInit srxSelect srxPapid hsel
    (fun b => [UInt8.ofNat b, 1, 2, 3]) (fun _ _ => rfl)
    (srxTag fun b => some [UInt8.ofNat b, 1, 2, 3]) fun h b hb => by
      rw [srxTag_readBlk h rfl, uint8_toNat_ofNat
        (by rw [show (1 : UInt16).toNat = 1 from rfl] at hb; omega)]
  rw [srxTag_readBlk _ rfl, readSTBlock_addCrc14B
    (show [UInt8.ofNat (0xFF : UInt8).toNat, 1, 2, 3].length = 4 from rfl)] at h
  exact ⟨by decide, hsel, h⟩

/-- **A READ_BLK the tag does not answer ends the dump with what it read**: after a selection
that succeeded, when the tag answers the READ_BLK of each block below `j ≤ numofblocks` with its
four bytes and their CRC_B and `ReadSTBlock` rejects its answer to block `j`'s, `j + 2` passes
reach `out:` (`phase = .done`), and the reply is `isOK = false` with blocks `0 … j - 1` followed by the zeros
`mem` started with, `(numofblocks + 1) * 4` bytes in all. -/
theorem readSTMemoryIso14443b_reply_fail (n : UInt16) (hn : n.toNat < 255)
    (init select papid : Reply) (hsel : (iso14443bSelectSrxCard init select papid).ret = 0)
    (memory : Nat → List UInt8) (j : Nat) (hj : j ≤ n.toNat) (hm : ∀ b < j, (memory b).length = 4)
    (tag : List (List UInt8) → Reply)
    (htag : ∀ h b, b < j → tag (h ++ [readBlkCmd (UInt8.ofNat b)]) = ⟨6, addCrc14B (memory b) 4⟩)
    (hfail : ∀ h, readSTBlock (tag (h ++ [readBlkCmd (UInt8.ofNat j)])) = none) :
    (readSTMemoryIso14443b n init select papid tag (j + 2)).phase = .done ∧
    (readSTMemoryIso14443b n init select papid tag (j + 2)).reply =
      (false, (List.range j).flatMap memory ++ List.replicate ((n.toNat + 1 - j) * 4) 0) := by
  have hs := dumpReads_run hn hm htag (dumpReads_start memory (by omega) hsel) j (by omega) le_rfl
  have hrun : readSTMemoryIso14443b n init select papid tag (j + 2) = dumpStep tag
      (dumpStep tag (dumpRun tag (dumpStart n (iso14443bSelectSrxCard init select papid)) j)) :=
    rfl
  set s := dumpRun tag (dumpStart n (iso14443bSelectSrxCard init select papid)) j
  have hb : readSTBlock (tag (s.sent ++ [readBlkCmd s.i])) = none := by
    rw [← uint8_ofNat_toNat s.i, hs.i]; exact hfail _
  rw [hrun, dumpStep_read_fail hs.phase (by rw [hs.i, hs.numofblocks]; omega) hb]
  refine (dumpStep_system_reply tag rfl ?_).imp_right fun h => ?_
  · rw [hs.mem, List.length_append, length_flatMap_range hm, List.length_replicate,
      hs.numofblocks]
    omega
  · rw [h]
    simp only [hs.mem, Bool.false_and]

set_option maxRecDepth 2000 in
/-- Two blocks asked for from a tag that has only block 0: the reply is block 0 and four zeros,
not `isOK`. -/
theorem readSTMemoryIso14443b_reply_fail_one :
    (1 : UInt16).toNat < 255 ∧ (iso14443bSelectSrxCard srxInit srxSelect srxPapid).ret = 0 ∧
      1 ≤ (1 : UInt16).toNat ∧
      (readSTMemoryIso14443b 1 srxInit srxSelect srxPapid
          (srxTag fun b => if b = 0 then some [1, 2, 3, 4] else none) 3).phase = .done ∧
      (readSTMemoryIso14443b 1 srxInit srxSelect srxPapid
          (srxTag fun b => if b = 0 then some [1, 2, 3, 4] else none) 3).reply =
        (false, [1, 2, 3, 4, 0, 0, 0, 0]) := by
  have hsel : (iso14443bSelectSrxCard srxInit srxSelect srxPapid).ret = 0 := by decide
  have h := readSTMemoryIso14443b_reply_fail 1 (by decide) srxInit srxSelect srxPapid hsel
    (fun _ => [1, 2, 3, 4]) 1 (by decide) (fun _ _ => rfl)
    (srxTag fun b => if b = 0 then some [1, 2, 3, 4] else none)
    (fun h b hb => srxTag_readBlk h (by rw [uint8_toNat_ofNat (by omega)]; simp; omega))
    fun h => by rw [srxTag_readBlk_none h rfl]; rfl
  exact ⟨by decide, hsel, by decide, h⟩

end Iso14443b
