/-
# Sessions of the reader with the emulator

`Link.lean` shows that each frame the reader codes reaches the emulator's pass, and that the
answer the pass logs reaches the reader's receive as its reply, over any air
(`exchange_over_air`).  This module composes the two programs at that level: `pairStep` runs
one reader operation against the emulator, frame by frame, with the code's own functions on
both sides, and `pairRun` a whole session of them.  As in `iso14443bApdu_simulate_acknowledge`,
an APDU's I-block stays below `MAX_FRAME_SIZE` bytes (`PairOp.apdu`): the emulator's `Uart`
drops a longer frame, and what it makes of the rest of that frame is not modelled here.

What every session returns is then a three-state automaton (`emulatorReplies`), read off the
emulator's one `switch` per frame:

* every `iso14443b_select_card` returns -1 and leaves the emulator in `SIM_ACKNOWLEDGE`;
* an `iso14443b_apdu` right after it gets the pending OK and returns 3; every other one gets no
  answer and returns 0, and leaves the emulator in `SIM_IDLE`, or `SIM_HALTED` if it was
  there.

So no session selects the emulator, and the only APDU answers a reader ever takes from it are
the stale OKs (`pairRun_emulatorReplies`).
-/
import Iso14443b.Link

namespace Iso14443b

/-! ## 1. One operation against the emulator -/

/-- The reader operations that talk to a tag of type B.  An APDU's I-block (the message with its
PCB, CID and CRC_B) is shorter than `MAX_FRAME_SIZE`: `Uart14bInit` gives the emulator's `Uart`
`byteCntMax = MAX_FRAME_SIZE`, and a frame that reaches it is dropped
(`if (Uart.byteCnt >= Uart.byteCntMax)`), so only shorter ones reach the emulator whole. -/
inductive PairOp
  | select
  | apdu (message : List UInt8) (fits : message.length + 4 < maxFrameSize)
  deriving DecidableEq, Repr

/-- The size of the response array `SendRawCommand14443B_Ex` hands `iso14443b_apdu`:
`uint8_t buf[100]`. -/
def apduBufSize : Nat := 100

/-- One reader operation against the emulator, frame by frame: each frame the reader sends, all
of them within the emulator's `byteCntMax`, runs one pass of the emulator, and the answer that
pass logs is the reply of the reader's receive, into the operation's own array (`r_pupid[14]`,
`r_attrib[3]`, the APDU's `buf[100]`).  The ATTRIB's pass runs only if `iso14443b_select_card`
sends it.  It leaves the reader's globals, the emulator's state, and what the operation
returns. -/
def pairStep (pupi : UInt32) (p : Reader × SimState) : PairOp → (Reader × SimState) × Int
  | .select =>
    let o₁ := simulateStep pupi p.2.fieldUp wupb
    let atqb := replyOf (Buffer.zeros 14) 14 o₁.answer
    let o₂ := simulateStep pupi o₁.state.fieldUp (attribOf atqb.buf)
    let res := iso14443bSelectCard p.1 atqb (replyOf (Buffer.zeros 3) 3 o₂.answer)
    ((res.1, if res.2.sent.length = 2 then o₂.state else o₁.state), res.2.ret)
  | .apdu message _ =>
    let o := simulateStep pupi p.2.fieldUp (iBlock p.1.pcbBlocknum message)
    let res := iso14443bApdu p.1 message
      (some (replyOf (Buffer.zeros apduBufSize) apduBufSize o.answer))
    ((res.1, o.state), res.2.ret)

/-- A session: the operations in order, with what each returns. -/
def pairRun (pupi : UInt32) (p : Reader × SimState) : List PairOp → (Reader × SimState) × List Int
  | [] => (p, [])
  | op :: ops =>
    let q := pairStep pupi p op
    ((pairRun pupi q.1 ops).1, q.2 :: (pairRun pupi q.1 ops).2)

/-- What a session against the emulator returns, as the abstract automaton of the emulator's
state: a selection fails and leaves an OK pending; an APDU takes the pending OK if there is one,
and leaves the emulator idle unless it was halted. -/
def emulatorReplies : SimState → List PairOp → List Int
  | _, [] => []
  | _, .select :: ops => -1 :: emulatorReplies .acknowledge ops
  | st, .apdu _ _ :: ops =>
    (if st = .acknowledge then 3 else 0) ::
      emulatorReplies (if st = .halted then .halted else .idle) ops

/-! ## 2. What the emulator makes of the reader's frames -/

/-- The PCB `0x0A | pcb_blocknum` has bit 1 set, so it is none of the command bytes with bit 1
clear. -/
theorem pcb_ne_of_testBit {b : UInt8} (hb : b.toBitVec.getLsbD 1 = false) (pcb : UInt8) :
    (0x0A ||| pcb) ≠ b := by
  intro h
  have h1 : ((0x0A : UInt8).toBitVec ||| pcb.toBitVec).getLsbD 1 = b.toBitVec.getLsbD 1 :=
    congrArg (fun x : UInt8 => x.toBitVec.getLsbD 1) h
  rw [BitVec.getLsbD_or, show (0x0A : UInt8).toBitVec.getLsbD 1 = true by decide, hb] at h1
  exact Bool.noConfusion h1

section Frames

variable (pupi : UInt32) (pcb : UInt8) (message : List UInt8)

/-- An I-block is not a REQB. -/
theorem iBlock_not_reqb :
    ¬ ((iBlock pcb message).length = 5 ∧ (iBlock pcb message).getD 0 0 = iso14443bReqb) :=
  fun h => pcb_ne_of_testBit (by decide) pcb (iBlock_head_getD pcb message ▸ h.2)

/-- **How the emulator takes an I-block**: in `SIM_ACKNOWLEDGE` it sends the OK it owes and
idles; in `SIM_IDLE` and `SIM_HALTED` it only logs it; in `SIM_WORK`, where it is neither a HLTB
nor an ATTRIB, it idles without an answer. -/
theorem simulateStep_iBlock {st : SimState} (h : st.Waiting) :
    (simulateStep pupi st (iBlock pcb message)).state =
        (if st = .halted then .halted else .idle) ∧
      (simulateStep pupi st (iBlock pcb message)).answer =
        (if st = .acknowledge then some respOk else none) := by
  have hc : simReqbCheck st (iBlock pcb message) = (st, []) :=
    simReqbCheck_of_not (iBlock_not_reqb pcb message)
  have hh : (iBlock pcb message).getD 0 0 ≠ iso14443bHalt :=
    iBlock_head_getD pcb message ▸ pcb_ne_of_testBit (by decide) pcb
  have ha : (iBlock pcb message).getD 0 0 ≠ iso14443bAttrib :=
    iBlock_head_getD pcb message ▸ pcb_ne_of_testBit (by decide) pcb
  simp only [List.getD_eq_getElem?_getD] at hh ha
  rcases h with rfl | rfl | rfl | rfl <;> simp [simulateStep, hc, hh, ha, SimOut.answer]

end Frames

/-! ## 3. Each operation, and every session -/

variable (pupi : UInt32)

/-- A good 14-byte ATQB followed by silence: `iso14443b_select_card` sends the ATTRIB and
returns -1. -/
theorem iso14443bSelectCard_silent_attrib (r : Reader) {R : List UInt8} (hl : R.length = 14)
    (hc : checkCrc14B R = true) (b : List UInt8) :
    iso14443bSelectCard r ⟨14, R⟩ ⟨-1, b⟩ = (r, ⟨[wupb, attribOf R], -1⟩) := by
  simp [iso14443bSelectCard, Reply.crcOk, List.take_of_length_le (le_of_eq hl), hc]

/-- **A selection against the emulator** returns -1, leaves the reader's globals as they were,
and leaves the emulator in `SIM_ACKNOWLEDGE`, from any state it is in. -/
theorem pairStep_select (r : Reader) (st : SimState) :
    pairStep pupi (r, st) .select = ((r, .acknowledge), -1) := by
  have hw := simulateStep_reqb pupi st.fieldUp (show wupb.length = 5 from rfl) rfl
  have hatqb : replyOf (Buffer.zeros 14) 14
      (simulateStep pupi st.fieldUp wupb).answer = ⟨14, respAtqb pupi⟩ := by
    rw [hw, show SimOut.answer _ = some (respAtqb pupi) by simp [SimOut.answer]]
    exact replyOf_zeros_of_length (length_respAtqb pupi)
  have ha := simulateStep_work_attrib pupi (length_attribOf (respAtqb pupi)) (attribOf_head _)
  have hs := iso14443bSelectCard_silent_attrib r (length_respAtqb pupi)
    (checkCrc14B_respAtqb pupi) (Buffer.zeros 3).bytes
  simp only [pairStep]
  rw [hatqb]
  simp only [hw, show SimState.work.fieldUp = .work from rfl, ha]
  rw [show replyOf (Buffer.zeros 3) 3 (SimOut.answer ⟨.acknowledge, none, []⟩) =
    ⟨-1, (Buffer.zeros 3).bytes⟩ from rfl, hs]
  rfl

/-- **An APDU against the emulator** toggles the block number, returns 3 when the emulator owes
an OK and 0 otherwise, and leaves the emulator idle, or halted if it was. -/
theorem pairStep_apdu (r : Reader) {st : SimState} (h : st.fieldUp.Waiting)
    (message : List UInt8) (hm : message.length + 4 < maxFrameSize) :
    pairStep pupi (r, st) (.apdu message hm) =
      (({ r with pcbBlocknum := r.pcbBlocknum ^^^ 1 },
          if st.fieldUp = .halted then .halted else .idle),
        if st.fieldUp = .acknowledge then 3 else 0) := by
  obtain ⟨hs, ha⟩ := simulateStep_iBlock pupi r.pcbBlocknum message h
  have hout : apduBufSize ≤ (Buffer.zeros apduBufSize).bytes.length :=
    le_of_eq (Buffer.zeros_length _).symm
  simp only [pairStep, hs, ha, iso14443bApdu_fst, iso14443bApdu_replyOf r message hout]
  by_cases hk : st.fieldUp = .acknowledge
  · simp [hk, checkCrc14B_respOk, apduBufSize, show respOk.length = 3 from rfl]
  · simp [hk]

/-- **Every session against the emulator returns what `emulatorReplies` predicts**: from any
state the emulator waits in once the field is up, every selection returns -1, and an APDU whose
I-block the emulator's `Uart` takes whole returns 3 exactly when it follows a selection directly,
0 otherwise. -/
theorem pairRun_emulatorReplies (r : Reader) {st : SimState} (h : st.fieldUp.Waiting)
    (ops : List PairOp) : (pairRun pupi (r, st) ops).2 = emulatorReplies st.fieldUp ops := by
  induction ops generalizing r st with
  | nil => rfl
  | cons op ops ih =>
    cases op with
    | select =>
      simp only [pairRun, pairStep_select pupi r st, emulatorReplies]
      exact congrArg _ (ih r (.inr (.inr (.inr rfl))))
    | apdu message hm =>
      simp only [pairRun, pairStep_apdu pupi r h message hm, emulatorReplies]
      refine congrArg _ ?_
      rw [ih _ (by split <;> simp [SimState.fieldUp, SimState.Waiting])]
      split <;> rfl

/-- From `SIM_NOFIELD`: a selection, the APDU after it, and one more. -/
theorem pairRun_emulatorReplies_noField :
    SimState.noField.fieldUp.Waiting ∧
      (pairRun 0 (⟨0, 0, uart14bInit (Buffer.zeros maxFrameSize)⟩, .noField)
          [.select, .apdu [0x00, 0xA4] (by decide), .apdu [0x00, 0xB0] (by decide)]).2 =
        [-1, 3, 0] :=
  ⟨.inl rfl,
    (pairRun_emulatorReplies 0 _ (show SimState.noField.fieldUp.Waiting from .inl rfl) _).trans rfl⟩

end Iso14443b
