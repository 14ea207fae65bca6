/-
# The client's command: `SendRawCommand14443B_Ex`

Every reader operation the client asks for comes through `SendRawCommand14443B_Ex`.  The flags
of the packet select, in a fixed order, a set-up of the field (`iso14443b_setup`), a new frame
wait time (`iso14b_set_timeout`), `iso14443b_select_card`, `iso14443b_select_srx_card`,
`iso14443b_apdu` and a raw exchange.  Each operation sends one `reply_mix` packet back, and a
select that fails jumps to `out`, past everything after it.  `sendRawCommand14443BEx` models the
handler over what each of its receive calls returned (`TagAnswers`), with the operations of
`Reader.lean`; `commandRun` runs any sequence of commands.

* **The handler is a reader session** (`sendRawCommand14443BEx_cutRun`): its globals and its
  log are those of `cutRun`, the session of the operations its flags select cut right after
  the first select that jumps to `out`, which is the `readerRun` of a prefix of them
  (`cutRun_eq_readerRun`).
* So over ANY sequence of commands, with any flags and any answers, the globals stay in range
  (`commandRun_valid`), and `pcb_blocknum` counts the APDUs since the last select that returned
  0, across `ISO14B_CONNECT`, which does not reset it (`commandRun_pcbBlocknum`).
* **What the packets read** (`sendRawCommand14443BEx_readsPast_iff`): with an APDU answer as the
  receive loop delivers it, the only packet that can read past its array is the raw
  exchange's, which reads `MIN(Demod.len, PM3_CMD_DATA_SIZE)` bytes of its `uint8_t buf[100]`.
  It does so exactly when more than 100 bytes were decoded, which takes a tag answer longer
  than `buf`, whose decoding has already stored past it (`demod_overflows`).
* **What the select packets carry**: against the emulator, the `card` record a standard select
  sends holds the PUPI the emulator put in its ATQB (`sendRawCommand14443BEx_emulator_pupi`).

Left out: the trigger, the trace, the LEDs and switching the field off; of `card`, the bytes of
`uid` past those a select writes; `len` is taken to be within the packet's data.
-/
import Iso14443b.Session

namespace Iso14443b

/-! ## 1. The handler -/

/-- The flags of `iso14b_command_t` the modelled blocks test, each a bit of `c->oldarg[0]`
tested with `(param & F) == F` (their values are declared outside this source). -/
structure Iso14bCommand where
  connect : Bool
  setTimeout : Bool
  selectStd : Bool
  selectSr : Bool
  apdu : Bool
  raw : Bool
  appendCrc : Bool
  deriving DecidableEq, Repr

/-- The fields of the client's `PacketCommandNG` the handler reads: the flags `oldarg[0]`,
`oldarg[1]`, whose low sixteen bits are the length, the timeout `oldarg[2]`, and the data. -/
structure PacketCommandNG where
  param : Iso14bCommand
  oldarg1 : Nat
  oldarg2 : Nat
  data : List UInt8
  deriving DecidableEq, Repr

/-- What each receive call of a command returned: two for `iso14443b_select_card`, three for
`iso14443b_select_srx_card`, one for `iso14443b_apdu` and one for the raw exchange (those a
command never makes are ignored). -/
structure TagAnswers where
  atqb : TagAnswer
  attrib : TagAnswer
  init : TagAnswer
  select : TagAnswer
  papid : TagAnswer
  apdu : TagAnswer
  raw : TagAnswer

/-- The answers of a tag that is not there: every receive call times out with `-1`, its `Demod`
as `Demod14bInit` left it on the zeroed response buffer. -/
def TagAnswers.silent : TagAnswers :=
  ⟨⟨-1, demod14bInit (Buffer.zeros 14) 14, none, none⟩,
    ⟨-1, demod14bInit (Buffer.zeros 3) 3, none, none⟩,
    ⟨-1, demod14bInit (Buffer.zeros 3) 3, none, none⟩,
    ⟨-1, demod14bInit (Buffer.zeros 3) 3, none, none⟩,
    ⟨-1, demod14bInit (Buffer.zeros 10) 10, none, none⟩,
    ⟨-1, demod14bInit (Buffer.zeros 100) 100, none, none⟩,
    ⟨-1, demod14bInit (Buffer.zeros 100) 100, none, none⟩⟩

/-- `iso14b_card_select_t` as the handler's `card` holds it: a field is `none` until a select
writes it, since `card` is not initialised; `uid` holds the bytes written at its start. -/
structure CardSelect where
  uid : Option (List UInt8)
  uidlen : Option Nat
  atqb : Option (List UInt8)
  chipid : Option UInt8
  cid : Option UInt8
  deriving DecidableEq, Repr

/-- The handler's `iso14b_card_select_t card;`, which nothing initialises. -/
def CardSelect.uninit : CardSelect := ⟨none, none, none, none, none⟩

/-- What `iso14443b_select_card(&card)` writes to `card`: past the ATQB's checks, `uidlen = 4`,
`uid = r_pupid[1..5)` and `atqb = r_pupid[5..12)`; past the ATTRIB answer's, `cid = r_attrib[0]`.
It follows the returns of `iso14443bSelectCard`. -/
def selectCardRecord (card : CardSelect) (atqb attrib : Reply) : CardSelect :=
  if atqb.ret < 14 then card
  else if !atqb.crcOk then card
  else
    let card := { card with uidlen := some 4, uid := some ((atqb.buf.drop 1).take 4),
                            atqb := some ((atqb.buf.drop 5).take 7) }
    if attrib.ret < 3 then card
    else if !attrib.crcOk then card
    else { card with cid := some (attrib.buf.getD 0 0) }

/-- What `iso14443b_select_srx_card(&card)` writes to `card`: past the INITIATE answer,
`chipid = Demod.output[0]`, which is `r_init[0]`; past the GET_UID answer's checks, `uidlen = 8`
and `uid = r_papid[0..8)`.  It follows the returns of `iso14443bSelectSrxCard`. -/
def selectSrxCardRecord (card : CardSelect) (init select papid : Reply) : CardSelect :=
  if init.ret ≤ 0 then card
  else
    let card := { card with chipid := some (init.buf.getD 0 0) }
    let selectSrx := addCrc14B [iso14443bSelect, init.buf.getD 0 0, 0x00, 0x00] 2
    if select.ret ≠ 3 then card
    else if !select.crcOk then card
    else if selectSrx.getD 1 0 ≠ select.buf.getD 0 0 then card
    else if papid.ret ≠ 10 then card
    else if !papid.crcOk then card
    else { card with uidlen := some 8, uid := some (papid.buf.take 8) }

/-- What a `reply_mix` packet sends after its status: the card record, or `len` bytes read from
an array of `size` bytes. -/
inductive ReplyData
  | card (record : CardSelect)
  | array (size len : Nat)
  deriving DecidableEq, Repr

/-- A `reply_mix(CMD_HF_ISO14443B_COMMAND, status, …)` packet. -/
structure ReplyMix where
  status : Int
  data : ReplyData
  deriving DecidableEq, Repr

/-- The packet reads past the end of its array. -/
def ReplyMix.readsPast (q : ReplyMix) : Bool :=
  match q.data with
  | .card _ => false
  | .array size len => decide (size < len)

/-- The size of the raw exchange's response array: `uint8_t buf[100]`. -/
def rawBufSize : Nat := 100

/-- The handler's state between its blocks: the globals, its `card`, the reader operations run
so far with what each returned, the packets sent back, and the frame of the raw exchange once
it ran. -/
structure CommandOut where
  reader : Reader
  card : CardSelect
  log : List (ReaderOp × OpResult)
  packets : List ReplyMix
  raw : Option (List UInt8)

/-- `status = op(…); reply_mix(…, status, …)`: one reader operation, logged, with its packet;
and the status. -/
def CommandOut.record (o : CommandOut) (op : ReaderOp) (data : Int → ReplyData) :
    CommandOut × Int :=
  let s := readerStep o.reader op
  ({ o with reader := s.1, log := o.log ++ [(op, s.2)],
            packets := o.packets ++ [⟨s.2.ret, data s.2.ret⟩] }, s.2.ret)

/-- `iso14443b_setup()`: of the globals, `Uart14bInit` on a cleared `MAX_FRAME_SIZE` buffer. -/
def iso14443bSetup (r : Reader) : Reader :=
  { r with uart := uart14bInit (Buffer.zeros maxFrameSize) }

/-- The handler's lines before the operations: `ISO14B_CONNECT` sets up the field, and
`ISO14B_SET_TIMEOUT` sets the wait time to `c->oldarg[2]` as a `uint32_t`. -/
def commandPrelude (r : Reader) (c : PacketCommandNG) : Reader :=
  let r := if c.param.connect then iso14443bSetup r else r
  if c.param.setTimeout then iso14bSetTimeout r (c.oldarg2 % 2 ^ 32) else r

/-- `if ((param & ISO14B_SELECT_STD) == ISO14B_SELECT_STD) {…}`: the select, which fills
`card`, and the packet of `card`; `goto out` (`.inr`) unless it returned 0. -/
def selectStdBlock (p : Iso14bCommand) (t : TagAnswers) (o : CommandOut) :
    CommandOut ⊕ CommandOut :=
  if p.selectStd then
    let o := { o with card := selectCardRecord o.card t.atqb.reply t.attrib.reply }
    let q := o.record (.selectCard t.atqb.reply t.attrib.reply) fun _ => .card o.card
    if q.2 ≠ 0 then .inr q.1 else .inl q.1
  else .inl o

/-- `if ((param & ISO14B_SELECT_SR) == ISO14B_SELECT_SR) {…}`: the SRx select, which fills
`card`, and the packet of `card`; `goto out` when it returned more than 0. -/
def selectSrBlock (p : Iso14bCommand) (t : TagAnswers) (o : CommandOut) :
    CommandOut ⊕ CommandOut :=
  if p.selectSr then
    let o := { o with card := selectSrxCardRecord o.card t.init.reply t.select.reply t.papid.reply }
    let q := o.record (.selectSrxCard t.init.reply t.select.reply t.papid.reply) fun _ =>
      .card o.card
    if q.2 > 0 then .inr q.1 else .inl q.1
  else .inl o

/-- `if ((param & ISO14B_APDU) == ISO14B_APDU) {…}`: the APDU into `uint8_t buf[100]`, and a
packet of `status` bytes of `buf`. -/
def apduBlock (p : Iso14bCommand) (message : List UInt8) (a : TagAnswer) (o : CommandOut) :
    CommandOut :=
  if p.apdu then (o.record (.apdu message (some a.reply)) fun s => .array apduBufSize s.toNat).1
  else o

/-- The raw exchange's packet, `reply_mix(…, status, sendlen, 0, Demod.output, sendlen)` with
`sendlen = MIN(Demod.len, PM3_CMD_DATA_SIZE)`: `Demod.output` is the exchange's `buf[100]`.
`dataSize` is `PM3_CMD_DATA_SIZE`, declared outside this source. -/
def rawPacket (dataSize : Nat) (a : TagAnswer) : ReplyMix :=
  ⟨a.ret, .array rawBufSize (min a.demod.len dataSize)⟩

/-- `if ((param & ISO14B_RAW) == ISO14B_RAW) {…}`: the frame, with its CRC_B appended under
`ISO14B_APPEND_CRC`, then `Get14443bAnswerFromTag(buf, sizeof(buf), …)` and its packet. -/
def rawBlock (dataSize : Nat) (p : Iso14bCommand) (cmd : List UInt8) (len : Nat)
    (a : TagAnswer) (o : CommandOut) : CommandOut :=
  if p.raw then
    let frame := if p.appendCrc then (addCrc14B cmd len).take (len + 2) else cmd.take len
    { o with raw := some frame, packets := o.packets ++ [rawPacket dataSize a] }
  else o

/-- `SendRawCommand14443B_Ex(c)`, with `t` what its receive calls returned. -/
def sendRawCommand14443BEx (dataSize : Nat) (r : Reader) (c : PacketCommandNG)
    (t : TagAnswers) : CommandOut :=
  let len := c.oldarg1 &&& 0xffff
  match selectStdBlock c.param t ⟨commandPrelude r c, .uninit, [], [], none⟩ with
  | .inr o => o
  | .inl o =>
    match selectSrBlock c.param t o with
    | .inr o => o
    | .inl o =>
      rawBlock dataSize c.param c.data len t.raw (apduBlock c.param (c.data.take len) t.apdu o)

/-- A sequence of commands: the globals at its end, and the reader operations each ran, in
order, with what each returned. -/
def commandRun (dataSize : Nat) (r : Reader) :
    List (PacketCommandNG × TagAnswers) → Reader × List (ReaderOp × OpResult)
  | [] => (r, [])
  | (c, t) :: cs =>
    let o := sendRawCommand14443BEx dataSize r c t
    ((commandRun dataSize o.reader cs).1, o.log ++ (commandRun dataSize o.reader cs).2)

/-! ## 2. The handler is a reader session cut at the first failed select -/

/-- The reader operations a command's flags select, in the handler's order. -/
def commandOps (c : PacketCommandNG) (t : TagAnswers) : List ReaderOp :=
  (if c.param.selectStd then [.selectCard t.atqb.reply t.attrib.reply] else []) ++
    (if c.param.selectSr then [.selectSrxCard t.init.reply t.select.reply t.papid.reply]
      else []) ++
    (if c.param.apdu then [.apdu (c.data.take (c.oldarg1 &&& 0xffff)) (some t.apdu.reply)]
      else [])

/-- A logged operation after which the handler jumps to `out`: a select card that did not
return 0, an SRx select that returned more than 0. -/
def jumpsOut : ReaderOp × OpResult → Bool
  | (.selectCard .., res) => res.ret ≠ 0
  | (.selectSrxCard .., res) => 0 < res.ret
  | (.apdu .., _) => false

/-- The abstract handler: a reader session that stops right after the first operation that
jumps to `out`. -/
def cutRun (r : Reader) : List ReaderOp → Reader × List (ReaderOp × OpResult)
  | [] => (r, [])
  | op :: ops =>
    let s := readerStep r op
    if jumpsOut (op, s.2) then (s.1, [(op, s.2)])
    else ((cutRun s.1 ops).1, (op, s.2) :: (cutRun s.1 ops).2)

/-- The cut session is the session of a prefix of the operations. -/
theorem cutRun_eq_readerRun (r : Reader) (ops : List ReaderOp) :
    cutRun r ops = readerRun r (ops.take (cutRun r ops).2.length) := by
  induction ops generalizing r with
  | nil => rfl
  | cons op ops ih =>
    simp only [cutRun]
    split_ifs
    · rfl
    · simp only [List.length_cons, List.take_succ_cons, readerRun_cons]
      rw [← ih]

/-- `o'` is the handler run on from `o`: its globals and log are those `cutRun` of `ops` leaves
after `o`'s. -/
def CommandOut.Runs (o : CommandOut) (ops : List ReaderOp) (o' : CommandOut) : Prop :=
  o'.reader = (cutRun o.reader ops).1 ∧ o'.log = o.log ++ (cutRun o.reader ops).2

@[simp] theorem record_reader (o : CommandOut) (op : ReaderOp) (d : Int → ReplyData) :
    (o.record op d).1.reader = (readerStep o.reader op).1 := rfl

@[simp] theorem record_log (o : CommandOut) (op : ReaderOp) (d : Int → ReplyData) :
    (o.record op d).1.log = o.log ++ [(op, (readerStep o.reader op).2)] := rfl

@[simp] theorem record_status (o : CommandOut) (op : ReaderOp) (d : Int → ReplyData) :
    (o.record op d).2 = (readerStep o.reader op).2.ret := rfl

variable (dataSize : Nat)

section Blocks

variable (p : Iso14bCommand) (t : TagAnswers) (o : CommandOut) (rest : List ReaderOp)
  {k : CommandOut → CommandOut}

/-- An operation that does not jump out, then the handler run on: the cut session goes on. -/
theorem record_runs {op : ReaderOp} (d : Int → ReplyData)
    (hj : jumpsOut (op, (readerStep o.reader op).2) = false)
    (hk : ∀ o' : CommandOut, o'.Runs rest (k o')) : o.Runs (op :: rest) (k (o.record op d).1) := by
  have h := hk (o.record op d).1
  simp only [CommandOut.Runs, record_reader, record_log, cutRun, hj] at h ⊢
  simpa using h

/-- An operation that jumps out: the cut session stops there. -/
theorem record_runs_out {op : ReaderOp} (d : Int → ReplyData)
    (hj : jumpsOut (op, (readerStep o.reader op).2) = true) :
    o.Runs (op :: rest) (o.record op d).1 := by
  simp [CommandOut.Runs, cutRun, hj]

theorem selectStdBlock_runs (hk : ∀ o' : CommandOut, o'.Runs rest (k o')) :
    o.Runs ((if p.selectStd then [.selectCard t.atqb.reply t.attrib.reply] else []) ++ rest)
      (match selectStdBlock p t o with | .inr o => o | .inl o => k o) := by
  unfold selectStdBlock
  cases p.selectStd
  · exact hk o
  · show CommandOut.Runs { o with card := _ } _ _
    simp only [if_true, List.singleton_append, record_status]
    split_ifs with hj
    · exact record_runs_out _ rest _ (by simpa [jumpsOut] using hj)
    · exact record_runs _ rest _ (by simpa [jumpsOut] using hj) hk

theorem selectSrBlock_runs (hk : ∀ o' : CommandOut, o'.Runs rest (k o')) :
    o.Runs ((if p.selectSr then [.selectSrxCard t.init.reply t.select.reply t.papid.reply]
        else []) ++ rest)
      (match selectSrBlock p t o with | .inr o => o | .inl o => k o) := by
  unfold selectSrBlock
  cases p.selectSr
  · exact hk o
  · show CommandOut.Runs { o with card := _ } _ _
    simp only [if_true, List.singleton_append, record_status]
    split_ifs with hj
    · exact record_runs_out _ rest _ (by simpa [jumpsOut] using hj)
    · exact record_runs _ rest _ (by simpa [jumpsOut] using hj) hk

theorem rawBlock_reader_log (cmd : List UInt8) (len : Nat) (a : TagAnswer) :
    (rawBlock dataSize p cmd len a o).reader = o.reader ∧
      (rawBlock dataSize p cmd len a o).log = o.log := by
  unfold rawBlock; split <;> exact ⟨rfl, rfl⟩

theorem rawBlock_apduBlock_runs (cmd message : List UInt8) (len : Nat) :
    o.Runs (if p.apdu then [.apdu message (some t.apdu.reply)] else [])
      (rawBlock dataSize p cmd len t.raw (apduBlock p message t.apdu o)) := by
  unfold apduBlock
  cases p.apdu <;> simp [CommandOut.Runs, cutRun, rawBlock_reader_log, jumpsOut]

end Blocks

/-- The handler, run from the prelude: the cut session of the operations its flags select. -/
theorem sendRawCommand14443BEx_runs (r : Reader) (c : PacketCommandNG) (t : TagAnswers) :
    (CommandOut.mk (commandPrelude r c) .uninit [] [] none).Runs (commandOps c t)
      (sendRawCommand14443BEx dataSize r c t) := by
  have h := selectStdBlock_runs c.param t ⟨commandPrelude r c, .uninit, [], [], none⟩ _ fun o =>
    selectSrBlock_runs c.param t o _ fun o' => rawBlock_apduBlock_runs dataSize c.param t o' c.data
      (c.data.take (c.oldarg1 &&& 0xffff)) (c.oldarg1 &&& 0xffff)
  rwa [commandOps, List.append_assoc]

/-- **`SendRawCommand14443B_Ex` is a reader session cut at the first failed select**: for every
packet and every answer, its globals and its log are those of `cutRun`, from the globals its
prelude leaves, over the operations its flags select in the order `SELECT_STD`, `SELECT_SR`,
`APDU`: the session stops right after a select card that does not return 0 or an SRx select
that returns more than 0, and the raw exchange touches no global. -/
theorem sendRawCommand14443BEx_cutRun (r : Reader) (c : PacketCommandNG) (t : TagAnswers) :
    ((sendRawCommand14443BEx dataSize r c t).reader,
        (sendRawCommand14443BEx dataSize r c t).log) =
      cutRun (commandPrelude r c) (commandOps c t) :=
  have h := sendRawCommand14443BEx_runs dataSize r c t
  Prod.ext h.1 h.2

/-- The handler is a reader session of some operations from its prelude's globals. -/
theorem sendRawCommand14443BEx_session (r : Reader) (c : PacketCommandNG) (t : TagAnswers) :
    ∃ ops, ((sendRawCommand14443BEx dataSize r c t).reader,
      (sendRawCommand14443BEx dataSize r c t).log) = readerRun (commandPrelude r c) ops := by
  obtain ⟨h1, h2⟩ := sendRawCommand14443BEx_runs dataSize r c t
  exact ⟨_, (Prod.ext h1 h2).trans (cutRun_eq_readerRun _ _)⟩

/-! ## 3. Over any sequence of commands -/

theorem commandPrelude_valid {r : Reader} (h : r.Valid) (c : PacketCommandNG) :
    (commandPrelude r c).Valid := by
  have hs : (if c.param.connect then iso14443bSetup r else r).Valid := by
    split
    · exact ⟨h.1, le_rfl, h.2.2⟩
    · exact h
  show (if c.param.setTimeout then iso14bSetTimeout _ (c.oldarg2 % 2 ^ 32) else _).Valid
  split
  · refine ⟨hs.1, hs.2.1, ?_⟩
    unfold iso14bSetTimeout; dsimp only
    split <;> omega
  · exact hs

@[simp] theorem commandPrelude_pcbBlocknum (r : Reader) (c : PacketCommandNG) :
    (commandPrelude r c).pcbBlocknum = r.pcbBlocknum := by
  simp only [commandPrelude, iso14443bSetup, iso14bSetTimeout, apply_ite Reader.pcbBlocknum,
    ite_self]

/-- **The globals stay in range over every sequence of commands**: from globals in range,
whatever the flags, lengths, timeouts and answers of the commands, the block number stays 0 or
1, the UART limit within `MAX_FRAME_SIZE` and the timeout within `MAX_TIMEOUT`. -/
theorem commandRun_valid {r : Reader} (h : r.Valid) (cs : List (PacketCommandNG × TagAnswers)) :
    (commandRun dataSize r cs).1.Valid := by
  induction cs generalizing r with
  | nil => exact h
  | cons ct cs ih =>
    obtain ⟨c, t⟩ := ct
    obtain ⟨ops, hs⟩ := sendRawCommand14443BEx_session dataSize r c t
    have hv := readerRun_valid (commandPrelude_valid h c) ops
    rw [← hs] at hv
    exact ih hv

/-- From `r`, a command that sets a timeout past `MAX_TIMEOUT` and connects, then an APDU. -/
theorem commandRun_valid_clamped :
    (⟨0, 0, uart14bInit (Buffer.zeros maxFrameSize)⟩ : Reader).Valid ∧
      (commandRun 512 ⟨0, 0, uart14bInit (Buffer.zeros maxFrameSize)⟩
        [(⟨⟨true, true, false, false, false, false, false⟩, 0, 2 ^ 40, []⟩,
          TagAnswers.silent)]).1.Valid :=
  have h : (⟨0, 0, uart14bInit (Buffer.zeros maxFrameSize)⟩ : Reader).Valid :=
    ⟨.inl rfl, le_rfl, Nat.zero_le _⟩
  ⟨h, commandRun_valid 512 h _⟩

/-- The block number agrees with the count of APDUs since the last good select over every
sequence of commands. -/
theorem commandRun_pcbAgrees {r : Reader} {n : Option Nat} (h : PcbAgrees r n)
    (cs : List (PacketCommandNG × TagAnswers)) :
    PcbAgrees (commandRun dataSize r cs).1 ((commandRun dataSize r cs).2.foldl apdusSince n) := by
  induction cs generalizing r n with
  | nil => exact h
  | cons ct cs ih =>
    obtain ⟨c, t⟩ := ct
    obtain ⟨ops, hs⟩ := sendRawCommand14443BEx_session dataSize r c t
    have hp : PcbAgrees (commandPrelude r c) n := by
      cases n with
      | none => trivial
      | some => simpa [PcbAgrees] using h
    have hrun := readerRun_pcbAgrees hp ops
    rw [← hs] at hrun
    rw [commandRun, List.foldl_append]
    exact ih hrun

/-- **`pcb_blocknum` counts the APDUs since the last good select over every sequence of
commands**: once the operations the commands ran include a select card that returned 0, the
block number is the number of APDUs after the last one, mod 2.  `ISO14B_CONNECT` does not reset
it, so an APDU after a reconnect without a select goes on from the old count. -/
theorem commandRun_pcbBlocknum (r : Reader) (cs : List (PacketCommandNG × TagAnswers)) (k : Nat)
    (hk : (commandRun dataSize r cs).2.foldl apdusSince none = some k) :
    (commandRun dataSize r cs).1.pcbBlocknum = UInt8.ofNat (k % 2) := by
  simpa only [hk, PcbAgrees] using
    commandRun_pcbAgrees dataSize (show PcbAgrees r none from trivial) cs

set_option maxRecDepth 4000 in
/-- A good select, then a command that reconnects and sends an APDU without selecting: one APDU
since the select, block number 1. -/
theorem commandRun_pcbBlocknum_reconnect :
    (commandRun 512 ⟨0, 0, uart14bInit (Buffer.zeros maxFrameSize)⟩
        [(⟨⟨false, false, true, false, false, false, false⟩, 0, 0, []⟩,
          { TagAnswers.silent with
            atqb := ⟨14, demod14bInit ⟨[0x50, 0x82, 0x0d, 0xe1, 0x74, 0x20, 0x38, 0x19, 0x22,
              0x00, 0x21, 0x85, 0x5e, 0xd7], false⟩ 14, none, none⟩
            attrib := ⟨3, demod14bInit ⟨[0x00, 0x78, 0xF0], false⟩ 3, none, none⟩ }),
         (⟨⟨true, false, false, false, true, false, false⟩, 2, 0, [0x00, 0xA4]⟩,
          TagAnswers.silent)]).2.foldl apdusSince none = some 1 ∧
      (commandRun 512 ⟨0, 0, uart14bInit (Buffer.zeros maxFrameSize)⟩
        [(⟨⟨false, false, true, false, false, false, false⟩, 0, 0, []⟩,
          { TagAnswers.silent with
            atqb := ⟨14, demod14bInit ⟨[0x50, 0x82, 0x0d, 0xe1, 0x74, 0x20, 0x38, 0x19, 0x22,
              0x00, 0x21, 0x85, 0x5e, 0xd7], false⟩ 14, none, none⟩
            attrib := ⟨3, demod14bInit ⟨[0x00, 0x78, 0xF0], false⟩ 3, none, none⟩ }),
         (⟨⟨true, false, false, false, true, false, false⟩, 2, 0, [0x00, 0xA4]⟩,
          TagAnswers.silent)]).1.pcbBlocknum = UInt8.ofNat (1 % 2) :=
  ⟨by decide, commandRun_pcbBlocknum 512 _ _ 1 (by decide)⟩

/-! ## 4. What the packets read -/

/-- Every packet that reads past its array is the raw exchange's, and that one is among the
packets once the exchange ran. -/
def CommandOut.PacketsOk (dataSize : Nat) (a : TagAnswer) (o : CommandOut) : Prop :=
  (∀ q ∈ o.packets, q.readsPast = true → o.raw.isSome = true ∧ q = rawPacket dataSize a) ∧
    (o.raw.isSome = true → rawPacket dataSize a ∈ o.packets)

/-- An APDU returns at most the length its answer came with. -/
theorem iso14443bApdu_ret_toNat_le (r : Reader) (message : List UInt8) (a : Reply) :
    (iso14443bApdu r message (some a)).2.ret.toNat ≤ a.ret.toNat := by
  dsimp only [iso14443bApdu]
  split_ifs <;> dsimp only <;> omega

section Packets

variable {a : TagAnswer} {o : CommandOut} (h : o.PacketsOk dataSize a)
include h

theorem record_packetsOk (op : ReaderOp) {d : Int → ReplyData}
    (hd : (⟨(readerStep o.reader op).2.ret, d (readerStep o.reader op).2.ret⟩ : ReplyMix).readsPast
      = false) :
    (o.record op d).1.PacketsOk dataSize a := by
  refine ⟨fun q hq hp => ?_, fun hr => List.mem_append_left _ (h.2 hr)⟩
  rcases List.mem_append.1 hq with hq | hq
  · exact h.1 q hq hp
  · rw [List.mem_singleton.1 hq, hd] at hp
    cases hp

theorem selectStdBlock_packetsOk (p : Iso14bCommand) (t : TagAnswers) :
    (Sum.elim id id (selectStdBlock p t o)).PacketsOk dataSize a := by
  dsimp only [selectStdBlock]
  split_ifs <;> simp only [Sum.elim_inl, Sum.elim_inr, id]
  all_goals first | exact h | (refine record_packetsOk dataSize ?_ _ ?_ <;> first | exact h | rfl)

theorem selectSrBlock_packetsOk (p : Iso14bCommand) (t : TagAnswers) :
    (Sum.elim id id (selectSrBlock p t o)).PacketsOk dataSize a := by
  dsimp only [selectSrBlock]
  split_ifs <;> simp only [Sum.elim_inl, Sum.elim_inr, id]
  all_goals first | exact h | (refine record_packetsOk dataSize ?_ _ ?_ <;> first | exact h | rfl)

theorem apduBlock_packetsOk (p : Iso14bCommand) (message : List UInt8) {b : TagAnswer}
    (hb : b.ret.toNat ≤ apduBufSize) : (apduBlock p message b o).PacketsOk dataSize a := by
  unfold apduBlock
  split_ifs
  · refine record_packetsOk dataSize h _ ?_
    have := iso14443bApdu_ret_toNat_le o.reader message b.reply
    simp only [ReplyMix.readsPast, decide_eq_false_iff_not, not_lt]
    exact this.trans hb
  · exact h

theorem rawBlock_packetsOk (p : Iso14bCommand) (cmd : List UInt8) (len : Nat) :
    (rawBlock dataSize p cmd len a o).PacketsOk dataSize a := by
  unfold rawBlock
  split
  · refine ⟨fun q hq _ => ⟨rfl, ?_⟩, fun _ => List.mem_append_right _ (List.mem_singleton_self _)⟩
    rcases List.mem_append.1 hq with hq | hq
    · exact (h.1 q hq ‹_›).2
    · exact List.mem_singleton.1 hq
  · exact h

end Packets

/-- The handler keeps the packet invariant when the APDU's answer fits its `buf[100]`. -/
theorem sendRawCommand14443BEx_packetsOk (r : Reader) (c : PacketCommandNG) {t : TagAnswers}
    (ht : t.apdu.ret.toNat ≤ apduBufSize) :
    (sendRawCommand14443BEx dataSize r c t).PacketsOk dataSize t.raw := by
  have h0 : (CommandOut.mk (commandPrelude r c) .uninit [] [] none).PacketsOk dataSize t.raw :=
    ⟨fun _ hq => absurd hq (List.not_mem_nil _), fun h => Bool.noConfusion h⟩
  have h1 := selectStdBlock_packetsOk dataSize h0 c.param t
  unfold sendRawCommand14443BEx
  split
  · next heq => rw [heq] at h1; exact h1
  · next heq =>
    rw [heq, Sum.elim_inl, id] at h1
    have h2 := selectSrBlock_packetsOk dataSize h1 c.param t
    split
    · next heq' => rw [heq'] at h2; exact h2
    · next heq' =>
      rw [heq', Sum.elim_inl, id] at h2
      exact rawBlock_packetsOk dataSize (apduBlock_packetsOk dataSize h2 _ _ ht) _ _ _

/-- **Only the raw exchange's packet can read past its array, and it does so exactly when more
than 100 bytes were decoded**: for every command and every answer, as long as the APDU's answer
is one the receive loop returns into `buf[100]` (whatever the samples), a packet of the handler
reads past its array if and only if the raw exchange ran and `Demod.len` is above 100. -/
theorem sendRawCommand14443BEx_readsPast_iff (hds : rawBufSize < dataSize) (r : Reader)
    (c : PacketCommandNG) (t : TagAnswers) (sspClk : Nat) (samples : List (Int × Int))
    (hapdu : get14443bAnswerFromTag (Buffer.zeros apduBufSize) 100 iso14443bReaderTimeout sspClk
      samples = some t.apdu) :
    (∃ q ∈ (sendRawCommand14443BEx dataSize r c t).packets, q.readsPast = true) ↔
      (sendRawCommand14443BEx dataSize r c t).raw.isSome = true ∧
        rawBufSize < t.raw.demod.len := by
  have hret : t.apdu.ret.toNat ≤ apduBufSize := by
    have := get14443bAnswerFromTag_ret_le _ _ _ _ _ hapdu
    rw [show (100 : UInt16).toNat = 100 from rfl] at this
    simp only [apduBufSize]; omega
  obtain ⟨h1, h2⟩ := sendRawCommand14443BEx_packetsOk dataSize r c hret
  have hraw : (rawPacket dataSize t.raw).readsPast = true ↔ rawBufSize < t.raw.demod.len := by
    simp only [rawPacket, ReplyMix.readsPast, decide_eq_true_eq, rawBufSize] at hds ⊢; omega
  constructor
  · rintro ⟨q, hq, hp⟩
    obtain ⟨hs, rfl⟩ := h1 q hq hp
    exact ⟨hs, hraw.1 hp⟩
  · rintro ⟨hs, hl⟩
    exact ⟨_, h2 hs, hraw.2 hl⟩

/-- An APDU command with a raw exchange after it, the APDU answered by silence. -/
theorem sendRawCommand14443BEx_readsPast_iff_silent :
    ∃ a, get14443bAnswerFromTag (Buffer.zeros apduBufSize) 100 iso14443bReaderTimeout 0
        (List.replicate 1701 (0, 0) ++ []) = some a ∧
      ((∃ q ∈ (sendRawCommand14443BEx 512 ⟨0, 0, uart14bInit (Buffer.zeros maxFrameSize)⟩
          ⟨⟨false, false, false, false, true, true, false⟩, 2, 0, [0x00, 0xA4]⟩
          ⟨a, a, a, a, a, a, a⟩).packets, q.readsPast = true) ↔
        (sendRawCommand14443BEx 512 ⟨0, 0, uart14bInit (Buffer.zeros maxFrameSize)⟩
          ⟨⟨false, false, false, false, true, true, false⟩, 2, 0, [0x00, 0xA4]⟩
          ⟨a, a, a, a, a, a, a⟩).raw.isSome = true ∧ rawBufSize < a.demod.len) := by
  obtain ⟨a, ha, -⟩ := get14443bAnswerFromTag_silent (Buffer.zeros apduBufSize) 100
    iso14443bReaderTimeout 0 (List.replicate 1701 (0, 0))
    (fun s hs => by rw [List.eq_of_mem_replicate hs]; decide)
    (by rw [List.length_replicate]; decide) []
  exact ⟨a, ha, sendRawCommand14443BEx_readsPast_iff 512 (by decide) _ _ ⟨a, a, a, a, a, a, a⟩
    0 _ ha⟩

/-! ## 5. What the select packets carry -/

/-- **A standard select against the emulator hands the client its PUPI**: for every PUPI above 0,
over any air, when the select's receive calls hear the emulator's ATQB and then the silence the
emulator keeps after the ATTRIB, the handler's only packet is -1 with a `card` of `uidlen = 4`,
whose `uid` is the four bytes `num_to_bytes(pupi, 4, respATQB + 1)` wrote and whose `atqb` is the
ATQB's seven protocol bytes; it has no `cid`. -/
theorem sendRawCommand14443BEx_emulator_pupi (pupi : UInt32) (hp : 0 < pupi.toNat) (r : Reader)
    (c : PacketCommandNG) (hstd : c.param.selectStd = true) (t : TagAnswers) (a₁ a₂ : Air)
    (sspClk₁ sspClk₂ : Nat)
    (h₁ : get14443bAnswerFromTag (Buffer.zeros 14) 14 iso14443bReaderTimeout sspClk₁
      (a₁.samples (some (encodedAsTag (respAtqb pupi)))) = some t.atqb)
    (h₂ : get14443bAnswerFromTag (Buffer.zeros 3) 3 iso14443bReaderTimeout sspClk₂
      (a₂.samples none) = some t.attrib) :
    (sendRawCommand14443BEx dataSize r c t).packets =
      [⟨-1, .card ⟨some (numToBytes pupi.toNat 4), some 4,
        some [0x20, 0x38, 0x19, 0x22, 0x00, 0x21, 0x85], none, none⟩⟩] := by
  obtain ⟨t₁, ht₁, hr₁⟩ := air_reply a₁ (Buffer.zeros 14) 14 sspClk₁ (some (respAtqb pupi))
    (by simp [length_respAtqb])
  obtain ⟨t₂, ht₂, hr₂⟩ := air_reply a₂ (Buffer.zeros 3) 3 sspClk₂ none (by simp)
  have hatqb : t.atqb.reply = ⟨14, respAtqb pupi⟩ := by
    rw [Option.some.inj (h₁.symm.trans ht₁), hr₁]
    exact replyOf_zeros_of_length (length_respAtqb pupi)
  have hattrib : t.attrib.reply = ⟨-1, (Buffer.zeros 3).bytes⟩ := by
    rw [Option.some.inj (h₂.symm.trans ht₂), hr₂]; rfl
  have hcrc : (⟨14, respAtqb pupi⟩ : Reply).crcOk = true := by
    simp [Reply.crcOk, List.take_of_length_le (le_of_eq (length_respAtqb pupi)),
      checkCrc14B_respAtqb]
  have hs := iso14443bSelectCard_silent_attrib (commandPrelude r c) (length_respAtqb pupi)
    (checkCrc14B_respAtqb pupi) (Buffer.zeros 3).bytes
  have hu := respAtqb_pupi pupi hp
  rw [List.drop_one] at hu
  simp [sendRawCommand14443BEx, selectStdBlock, selectCardRecord, CommandOut.record, readerStep,
    CardSelect.uninit, hstd, hatqb, hattrib, hcrc, hs, hu, respAtqb_protocol, respAtqbDefault]


/-- The emulator with PUPI `01 02 03 04`, heard from the first sample of its ATQB. -/
theorem sendRawCommand14443BEx_emulator_pupi_prompt :
    0 < (0x01020304 : UInt32).toNat ∧
      ∃ t : TagAnswers,
        get14443bAnswerFromTag (Buffer.zeros 14) 14 iso14443bReaderTimeout 0
            ((Air.prompt (100, 0) (by decide)).samples
              (some (encodedAsTag (respAtqb 0x01020304)))) = some t.atqb ∧
          get14443bAnswerFromTag (Buffer.zeros 3) 3 iso14443bReaderTimeout 0
            ((Air.prompt (100, 0) (by decide)).samples none) = some t.attrib ∧
          (sendRawCommand14443BEx 512 ⟨0, 0, uart14bInit (Buffer.zeros maxFrameSize)⟩
              ⟨⟨false, false, true, false, false, false, false⟩, 0, 0, []⟩ t).packets =
            [⟨-1, .card ⟨some [0x01, 0x02, 0x03, 0x04], some 4,
              some [0x20, 0x38, 0x19, 0x22, 0x00, 0x21, 0x85], none, none⟩⟩] := by
  obtain ⟨t₁, ht₁, -⟩ := air_reply (Air.prompt (100, 0) (by decide)) (Buffer.zeros 14) 14 0
    (some (respAtqb 0x01020304)) (by simp [length_respAtqb])
  obtain ⟨t₂, ht₂, -⟩ := air_reply (Air.prompt (100, 0) (by decide)) (Buffer.zeros 3) 3 0 none
    (by simp)
  exact ⟨by decide, ⟨t₁, t₂, t₂, t₂, t₂, t₂, t₂⟩, ht₁, ht₂,
    sendRawCommand14443BEx_emulator_pupi 512 _ (by decide) _ _ rfl ⟨t₁, t₂, t₂, t₂, t₂, t₂, t₂⟩
      _ _ _ _ ht₁ ht₂⟩

end Iso14443b
