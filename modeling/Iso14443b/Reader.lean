/-
# The reader's session: `iso14443b_select_card`, `iso14443b_select_srx_card`, `iso14443b_apdu`

A reader session is a sequence of the three operations, each one a few frames handed to
`CodeAndTransmit14443bAsReader`, each followed by a call of `Get14443bAnswerFromTag` whose
outcome the tag decides.  The operations share three globals: the ISO 14443-4 block number
`pcb_blocknum`, the frame wait time `iso14b_timeout`, and `Uart.byteCntMax`, which
`iso14b_set_maxframesize` writes.  `readerRun` runs a session over any replies (timeouts,
short frames, bad CRCs) and logs each operation with the frames it sent and what it returned.

The reference for the block number is `apdusSince`: over the log, the number of APDUs since
the last `iso14443b_select_card` that returned 0.  The outcome:

* `pcb_blocknum` IS that number mod 2 after every session (`readerRun_pcbBlocknum`), since
  only the successful end of `iso14443b_select_card` writes it besides the toggle of
  `iso14443b_apdu`, and every early return of the select leaves the globals alone
  (`iso14443bSelectCard_fail`);
* so the APDU with `k` APDUs before it since that select sends the PCB `0x0A | (k mod 2)`
  (`apdu_pcb_after_select`), whatever the tag answered to any of them;
* from a sane start every global stays in range (`readerRun_valid`): the block number is 0 or
  1, the UART limit at most `MAX_FRAME_SIZE`, the timeout at most `MAX_TIMEOUT`.
-/
import Iso14443b.Uart

namespace Iso14443b

/-! ## 1. Replies, globals and the three operations -/

/-- What one call of `Get14443bAnswerFromTag` leaves its caller: the value it returns (`-1` on
a timeout, `-2` on an overflow, else the length received) and the response buffer's bytes. -/
structure Reply where
  ret : Int
  buf : List UInt8
  deriving DecidableEq, Repr

/-- `check_crc(CRC_14443_B, response, retlen)`. -/
def Reply.crcOk (a : Reply) : Bool := checkCrc14B (a.buf.take a.ret.toNat)

/-- The globals the operations write; of the `Uart`, only `byteCntMax`. -/
structure Reader where
  pcbBlocknum : UInt8
  timeout : Nat
  uart : Uart
  deriving DecidableEq, Repr

/-- What an operation hands to `CodeAndTransmit14443bAsReader`, in order, and returns. -/
structure OpResult where
  sent : List (List UInt8)
  ret : Int
  deriving DecidableEq, Repr

/-- `MAX_TIMEOUT`, the largest frame wait time `iso14b_set_timeout` keeps. -/
def maxTimeout : Nat := 40542464

/-- `iso14b_set_timeout`. -/
def iso14bSetTimeout (r : Reader) (timeout : Nat) : Reader :=
  { r with timeout := if timeout > maxTimeout then maxTimeout else timeout }

/-- The frame size coded in the high nibble of the ATQB's protocol byte `atqb[5]`. -/
def atqbMaxFrame (b : UInt8) : Nat :=
  let maxFrame := (b >>> 4).toNat
  if maxFrame < 5 then 8 * maxFrame + 16
  else if maxFrame = 5 then 64
  else if maxFrame = 6 then 96
  else if maxFrame = 7 then 128
  else if maxFrame = 8 then 256
  else 257

/-- The WUPB `iso14443b_select_card` sends, CRC included. -/
def wupb : List UInt8 := [iso14443bReqb, 0x00, 0x08, 0x39, 0x73]

/-- The ATTRIB built from the ATQB buffer `r_pupid`: its PUPI `r_pupid[1..4]`, the protocol
type `r_pupid[10] & 0x0F` as param 3, and the CRC_B of the first nine bytes. -/
def attribOf (pupid : List UInt8) : List UInt8 :=
  addCrc14B ([iso14443bAttrib] ++ (List.range 4).map (fun i => pupid.getD (i + 1) 0) ++
    [0x00, 0x08, pupid.getD 10 0 &&& 0x0F, 0x00, 0x00, 0x00]) 9

/-- `iso14443b_select_card` (with a card record, as its only caller passes): WUPB, then ATTRIB;
a short answer returns -1, a bad CRC -2.  Only the path that returns 0 writes the globals: the
frame size and wait time read from the ATQB (`card->atqb[5]`, `card->atqb[6]`, which are
`r_pupid[10]`, `r_pupid[11]`), then `pcb_blocknum = 0`. -/
def iso14443bSelectCard (r : Reader) (atqb attrib : Reply) : Reader × OpResult :=
  if atqb.ret < 14 then (r, ⟨[wupb], -1⟩)
  else if !atqb.crcOk then (r, ⟨[wupb], -2⟩)
  else
    let cmd := attribOf atqb.buf
    if attrib.ret < 3 then (r, ⟨[wupb, cmd], -1⟩)
    else if !attrib.crcOk then (r, ⟨[wupb, cmd], -2⟩)
    else
      let r := { r with uart := iso14bSetMaxframesize r.uart (atqbMaxFrame (atqb.buf.getD 10 0)) }
      let fwt := (atqb.buf.getD 11 0 >>> 4).toNat
      let r := if fwt < 16 then iso14bSetTimeout r (302 <<< fwt) else r
      ({ r with pcbBlocknum := 0 }, ⟨[wupb, cmd], 0⟩)

/-- The INITIATE `iso14443b_select_srx_card` sends, CRC included. -/
def initSrx : List UInt8 := [iso14443bInitiate, 0x00, 0x97, 0x5b]

/-- `iso14443b_select_srx_card`: INITIATE, SELECT of the chip id, GET_UID (the first three
bytes of the SELECT buffer after a CRC over one byte).  It returns 2 on a missing or short
answer, 3 on a bad CRC, 1 when the tag selects another chip id, and writes no global. -/
def iso14443bSelectSrxCard (init select papid : Reply) : OpResult :=
  if init.ret ≤ 0 then ⟨[initSrx], 2⟩
  else
    let selectSrx := addCrc14B [iso14443bSelect, init.buf.getD 0 0, 0x00, 0x00] 2
    if select.ret ≠ 3 then ⟨[initSrx, selectSrx], 2⟩
    else if !select.crcOk then ⟨[initSrx, selectSrx], 3⟩
    else if selectSrx.getD 1 0 ≠ select.buf.getD 0 0 then ⟨[initSrx, selectSrx], 1⟩
    else
      let getUid := (addCrc14B (iso14443bGetUid :: selectSrx.drop 1) 1).take 3
      if papid.ret ≠ 10 then ⟨[initSrx, selectSrx, getUid], 2⟩
      else if !papid.crcOk then ⟨[initSrx, selectSrx, getUid], 3⟩
      else ⟨[initSrx, selectSrx, getUid], 0⟩

/-- The I-block `iso14443b_apdu` builds: PCB `0x0A | pcb_blocknum`, CID 0, the INF, CRC_B. -/
def iBlock (pcb : UInt8) (message : List UInt8) : List UInt8 :=
  addCrc14B ((0x0A ||| pcb) :: 0 :: message ++ [0, 0]) (message.length + 2)

/-- `iso14443b_apdu`: the block number toggles as soon as the I-block is built; with no
response buffer it returns 0 after sending, else the reply's length as a `uint8_t` when the
reply has at least three bytes and a good CRC, and 0 otherwise. -/
def iso14443bApdu (r : Reader) (message : List UInt8) (response : Option Reply) :
    Reader × OpResult :=
  let frame := iBlock r.pcbBlocknum message
  let r := { r with pcbBlocknum := r.pcbBlocknum ^^^ 1 }
  match response with
  | none => (r, ⟨[frame], 0⟩)
  | some a =>
    if a.ret < 3 then (r, ⟨[frame], 0⟩)
    else if !a.crcOk then (r, ⟨[frame], 0⟩)
    else (r, ⟨[frame], a.ret % 256⟩)

/-- A reader operation, with the tag's replies to each of its `Get14443bAnswerFromTag` calls
(those it never makes are ignored). -/
inductive ReaderOp
  | selectCard (atqb attrib : Reply)
  | selectSrxCard (init select papid : Reply)
  | apdu (message : List UInt8) (response : Option Reply)
  deriving DecidableEq, Repr

/-- One operation on the globals. -/
def readerStep (r : Reader) : ReaderOp → Reader × OpResult
  | .selectCard atqb attrib => iso14443bSelectCard r atqb attrib
  | .selectSrxCard init select papid => (r, iso14443bSelectSrxCard init select papid)
  | .apdu message response => iso14443bApdu r message response

/-- A session: the globals at its end, and each operation logged with its result. -/
def readerRun (r : Reader) : List ReaderOp → Reader × List (ReaderOp × OpResult)
  | [] => (r, [])
  | op :: ops =>
    let s := readerStep r op
    ((readerRun s.1 ops).1, (op, s.2) :: (readerRun s.1 ops).2)

/-! ## 2. What each operation does to the globals -/

section Ops

variable (r : Reader) (atqb attrib : Reply) (message : List UInt8) (response : Option Reply)

/-- What a call of `iso14443b_select_card` may leave: the globals as they were after an early
return; after the path that returns 0, block number 0, a UART limit within `MAX_FRAME_SIZE`,
and a timeout within `MAX_TIMEOUT` or left as it was. -/
def SelectCardEffect (r : Reader) (s : Reader × OpResult) : Prop :=
  (s.2.ret ≠ 0 ∧ s.1 = r) ∨
    (s.2.ret = 0 ∧ s.1.pcbBlocknum = 0 ∧ s.1.uart.byteCntMax ≤ maxFrameSize ∧
      (s.1.timeout ≤ maxTimeout ∨ s.1.timeout = r.timeout))

/-- **What `iso14443b_select_card` can do to the globals.** -/
theorem iso14443bSelectCard_cases : SelectCardEffect r (iso14443bSelectCard r atqb attrib) := by
  unfold iso14443bSelectCard
  by_cases h1 : atqb.ret < 14
  · rw [if_pos h1]; exact Or.inl ⟨by dsimp only; decide, rfl⟩
  rw [if_neg h1]
  by_cases h2 : (!atqb.crcOk) = true
  · rw [if_pos h2]; exact Or.inl ⟨by dsimp only; decide, rfl⟩
  rw [if_neg h2]
  by_cases h3 : attrib.ret < 3
  · rw [if_pos h3]; exact Or.inl ⟨by dsimp only; decide, rfl⟩
  rw [if_neg h3]
  by_cases h4 : (!attrib.crcOk) = true
  · rw [if_pos h4]; exact Or.inl ⟨by dsimp only; decide, rfl⟩
  rw [if_neg h4]
  refine Or.inr ⟨rfl, rfl, ?_⟩
  dsimp only [iso14bSetMaxframesize, iso14bSetTimeout]
  split_ifs <;> dsimp only [maxFrameSize] <;> omega

/-- **Every early return of `iso14443b_select_card` leaves the globals as they were.** -/
theorem iso14443bSelectCard_fail (h : (iso14443bSelectCard r atqb attrib).2.ret ≠ 0) :
    (iso14443bSelectCard r atqb attrib).1 = r :=
  ((iso14443bSelectCard_cases r atqb attrib).resolve_right fun h' => h h'.1).2

theorem iso14443bSelectCard_ok (h : (iso14443bSelectCard r atqb attrib).2.ret = 0) :
    (iso14443bSelectCard r atqb attrib).1.pcbBlocknum = 0 :=
  ((iso14443bSelectCard_cases r atqb attrib).resolve_left fun h' => h'.1 h).2.1

@[simp] theorem iso14443bApdu_fst :
    (iso14443bApdu r message response).1 = { r with pcbBlocknum := r.pcbBlocknum ^^^ 1 } := by
  unfold iso14443bApdu
  split <;> (try split_ifs) <;> rfl

@[simp] theorem iso14443bApdu_sent :
    (iso14443bApdu r message response).2.sent = [iBlock r.pcbBlocknum message] := by
  unfold iso14443bApdu
  split <;> (try split_ifs) <;> rfl

theorem iBlock_head (pcb : UInt8) : (iBlock pcb message).head? = some (0x0A ||| pcb) := by
  simp [iBlock, addCrc14B]

end Ops

@[simp] theorem readerRun_nil (r : Reader) : readerRun r [] = (r, []) := rfl

@[simp] theorem readerRun_cons (r : Reader) (op : ReaderOp) (ops : List ReaderOp) :
    readerRun r (op :: ops) =
      ((readerRun (readerStep r op).1 ops).1,
        (op, (readerStep r op).2) :: (readerRun (readerStep r op).1 ops).2) := rfl

/-! ## 3. The block number counts the APDUs since the last successful select -/

/-- The reference: over a log, the number of APDUs since the last `iso14443b_select_card` that
returned 0, or `none` while there is none. -/
def apdusSince (n : Option Nat) (e : ReaderOp × OpResult) : Option Nat :=
  match e.1 with
  | .selectCard .. => if e.2.ret = 0 then some 0 else n
  | .selectSrxCard .. => n
  | .apdu .. => n.map (· + 1)

/-- The globals agree with the reference count. -/
def PcbAgrees (r : Reader) : Option Nat → Prop
  | none => True
  | some k => r.pcbBlocknum = UInt8.ofNat (k % 2)

theorem ofNat_mod_two_xor_one (k : Nat) : UInt8.ofNat (k % 2) ^^^ 1 = UInt8.ofNat ((k + 1) % 2) := by
  rcases Nat.mod_two_eq_zero_or_one k with h | h <;> rw [Nat.add_mod, h] <;> decide

/-- One operation keeps the block number in step with the reference. -/
theorem readerStep_pcbAgrees {r : Reader} {n : Option Nat} (h : PcbAgrees r n) (op : ReaderOp) :
    PcbAgrees (readerStep r op).1 (apdusSince n (op, (readerStep r op).2)) := by
  cases op with
  | selectCard atqb attrib =>
    simp only [apdusSince, readerStep]
    split_ifs with hok
    · simp [PcbAgrees, iso14443bSelectCard_ok _ _ _ hok]
    · rwa [iso14443bSelectCard_fail _ _ _ hok]
  | selectSrxCard => exact h
  | apdu message response =>
    cases n with
    | none => trivial
    | some k =>
      simp only [PcbAgrees, apdusSince, readerStep, iso14443bApdu_fst, Option.map_some'] at h ⊢
      rw [h, ofNat_mod_two_xor_one]

/-- The reference count is kept over a whole session. -/
theorem readerRun_pcbAgrees {r : Reader} {n : Option Nat} (h : PcbAgrees r n)
    (ops : List ReaderOp) :
    PcbAgrees (readerRun r ops).1 ((readerRun r ops).2.foldl apdusSince n) := by
  induction ops generalizing r n with
  | nil => exact h
  | cons op ops ih => exact ih (readerStep_pcbAgrees h op)

/-- Each entry of a session's log is one step from globals that agree with the reference count
of the entries before it. -/
theorem readerRun_entry {r : Reader} {n : Option Nat} (h : PcbAgrees r n) {ops : List ReaderOp}
    {pre post : List (ReaderOp × OpResult)} {e : ReaderOp × OpResult}
    (hlog : (readerRun r ops).2 = pre ++ e :: post) :
    ∃ s, PcbAgrees s (pre.foldl apdusSince n) ∧ e.2 = (readerStep s e.1).2 := by
  induction ops generalizing r n pre with
  | nil => simp at hlog
  | cons op ops ih =>
    cases pre with
    | nil =>
      obtain ⟨rfl, -⟩ := List.cons.inj hlog
      exact ⟨r, h, rfl⟩
    | cons e' pre =>
      obtain ⟨rfl, hrest⟩ := List.cons.inj hlog
      exact ih (readerStep_pcbAgrees h op) hrest

/-- **`pcb_blocknum` is the number of APDUs since the last successful select, mod 2**, after
any session that has one. -/
theorem readerRun_pcbBlocknum (r : Reader) (ops : List ReaderOp) (k : Nat)
    (hk : (readerRun r ops).2.foldl apdusSince none = some k) :
    (readerRun r ops).1.pcbBlocknum = UInt8.ofNat (k % 2) := by
  simpa only [hk, PcbAgrees] using readerRun_pcbAgrees (show PcbAgrees r none from trivial) ops

/-- **The PCB of the (k+1)-th APDU after the last successful `iso14443b_select_card` is
`0x0A | (k mod 2)`**: whatever the replies, an APDU whose log prefix counts `k` APDUs since
that select sends one frame, whose first byte is that PCB, and which is the whole I-block; and
at the end of the session `pcb_blocknum` is the count of APDUs since that select, mod 2. -/
theorem apdu_pcb_after_select (r : Reader) (ops : List ReaderOp)
    (pre post : List (ReaderOp × OpResult)) (message : List UInt8) (response : Option Reply)
    (res : OpResult) (k : Nat)
    (hlog : (readerRun r ops).2 = pre ++ (.apdu message response, res) :: post)
    (hk : pre.foldl apdusSince none = some k) :
    res.sent.map List.head? = [some (0x0A ||| UInt8.ofNat (k % 2))] ∧
      res.sent = [iBlock (UInt8.ofNat (k % 2)) message] ∧
      ∀ n, (readerRun r ops).2.foldl apdusSince none = some n →
        (readerRun r ops).1.pcbBlocknum = UInt8.ofNat (n % 2) := by
  obtain ⟨s, hs, hres⟩ := readerRun_entry (show PcbAgrees r none from trivial) hlog
  rw [hk] at hs
  have hsent : res.sent = [iBlock (UInt8.ofNat (k % 2)) message] := by
    dsimp only at hres
    rw [hres, readerStep, iso14443bApdu_sent, show s.pcbBlocknum = _ from hs]
  exact ⟨by rw [hsent, List.map_singleton, iBlock_head], hsent, readerRun_pcbBlocknum r ops⟩

/-- A select that succeeds: the emulator's default ATQB, then an ATTRIB answer `00` with its
CRC_B. -/
def goodSelect : ReaderOp :=
  .selectCard ⟨14, [0x50, 0x82, 0x0d, 0xe1, 0x74, 0x20, 0x38, 0x19, 0x22, 0x00, 0x21, 0x85, 0x5e,
    0xd7]⟩ ⟨3, [0x00, 0x78, 0xF0]⟩

set_option maxRecDepth 2000 in
/-- A session from a stale block number: a good select, then two APDUs without response
buffers; the second sends PCB `0x0B`. -/
theorem apdu_pcb_after_select_second :
    (readerStep (readerRun ⟨1, 0, uart14bInit (Buffer.zeros maxFrameSize)⟩
        [goodSelect, .apdu [0x00, 0xA4] none]).1 (.apdu [0x00, 0xB0] none)).2.sent.map
        List.head? = [some (0x0A ||| UInt8.ofNat (1 % 2))] ∧
      (readerStep (readerRun ⟨1, 0, uart14bInit (Buffer.zeros maxFrameSize)⟩
        [goodSelect, .apdu [0x00, 0xA4] none]).1 (.apdu [0x00, 0xB0] none)).2.sent =
        [iBlock (UInt8.ofNat (1 % 2)) [0x00, 0xB0]] ∧
      ∀ n, (readerRun ⟨1, 0, uart14bInit (Buffer.zeros maxFrameSize)⟩
          [goodSelect, .apdu [0x00, 0xA4] none, .apdu [0x00, 0xB0] none]).2.foldl apdusSince none =
          some n →
        (readerRun ⟨1, 0, uart14bInit (Buffer.zeros maxFrameSize)⟩
          [goodSelect, .apdu [0x00, 0xA4] none, .apdu [0x00, 0xB0] none]).1.pcbBlocknum =
          UInt8.ofNat (n % 2) :=
  apdu_pcb_after_select _ _ (readerRun ⟨1, 0, uart14bInit (Buffer.zeros maxFrameSize)⟩
    [goodSelect, .apdu [0x00, 0xA4] none]).2 [] _ _ _ 1 rfl (by decide)

/-! ## 4. The globals stay in range -/

/-- The ranges the code relies on: a one-bit block number, a UART limit within the buffers of
`MAX_FRAME_SIZE` bytes, a timeout within `MAX_TIMEOUT`. -/
def Reader.Valid (r : Reader) : Prop :=
  (r.pcbBlocknum = 0 ∨ r.pcbBlocknum = 1) ∧ r.uart.byteCntMax ≤ maxFrameSize ∧ r.timeout ≤ maxTimeout

theorem readerStep_valid {r : Reader} (h : r.Valid) (op : ReaderOp) : (readerStep r op).1.Valid := by
  obtain ⟨hp, hb, ht⟩ := h
  cases op with
  | selectCard atqb attrib =>
    rcases iso14443bSelectCard_cases r atqb attrib with ⟨-, h⟩ | ⟨-, h0, hb', ht'⟩
    · rw [readerStep, h]; exact ⟨hp, hb, ht⟩
    · exact ⟨.inl h0, hb', by rcases ht' with ht' | ht' <;> simp only [readerStep] <;> omega⟩
  | selectSrxCard => exact ⟨hp, hb, ht⟩
  | apdu =>
    simp only [readerStep, iso14443bApdu_fst]
    exact ⟨by rcases hp with hp | hp <;> rw [hp] <;> dsimp only <;> decide, hb, ht⟩

/-- **From a valid start every global stays in range**, over any session. -/
theorem readerRun_valid {r : Reader} (h : r.Valid) (ops : List ReaderOp) :
    (readerRun r ops).1.Valid := by
  induction ops generalizing r with
  | nil => exact h
  | cons op ops ih => exact ih (readerStep_valid h op)

end Iso14443b
