/-
# The tag emulator, `SimulateIso14443bTag`

Once the field is up, each pass of the emulator's loop waits in `GetIso14443bCommandFromReader`
for one reader frame, lets a 5-byte REQB/WUPB move it to `SIM_SELECTING`, and then takes ONE
branch of its `switch (cardSTATE)`.  `simulateStep` embeds that pass as a function of the
state and the frame received, with what it transmits and what it logs; `simulateRun` chains
the passes over a sequence of frames.

Two things follow from there being a single `switch` per frame.

* The states the spec calls internal are reached only through the `switch` of the NEXT pass.
  `SIM_HALTING` is never entered: a HLTB in `SIM_WORK` goes straight to `SIM_HALTED` and the
  OK its branch would send is never sent (`simulateStep_work_halt`).  `SIM_ACKNOWLEDGE` is
  entered by an ATTRIB and survives the wait, so its OK is sent in answer to whatever frame
  comes next (`simulateStep_work_attrib`, `simulateRun_waits`).
* The wake-up test `(REQB && (cmd[2] & 8) && HALTED) || REQB` reduces to `REQB`: every 5-byte
  REQB wakes a halted tag, WUPB bit or not (`simulateStep_halted_reqb`).
-/
import Iso14443b.ToSend

namespace Iso14443b

/-! ## 1. States, answers and one pass of the loop -/

/-- Modelled from the spec: the `SIM_*` states of `cardSTATE` (§4.6), declared outside `src/`;
the code only compares them for equality. -/
inductive SimState
  | noField
  | idle
  | selecting
  | work
  | halting
  | halted
  | acknowledge
  deriving DecidableEq, Repr

/-- Modelled from the spec: `num_to_bytes(n, len, dest)`, declared outside `src/`, writes `n`
most significant byte first (the spec's `pupi = 0xDEADBEEF` gives `DE AD BE EF`). -/
def numToBytes (n len : Nat) : List UInt8 :=
  (List.range len).map fun i => UInt8.ofNat (n >>> (8 * (len - 1 - i)))

/-- The default `respATQB`. -/
def respAtqbDefault : List UInt8 :=
  [0x50, 0x82, 0x0d, 0xe1, 0x74, 0x20, 0x38, 0x19, 0x22, 0x00, 0x21, 0x85, 0x5e, 0xd7]

/-- `respATQB` after `if (pupi > 0) { num_to_bytes(pupi, 4, respATQB + 1); AddCrc14B(respATQB, 12); }`. -/
def respAtqb (pupi : UInt32) : List UInt8 :=
  if pupi.toNat > 0 then
    addCrc14B (respAtqbDefault.take 1 ++ numToBytes pupi.toNat 4 ++ respAtqbDefault.drop 5) 12
  else respAtqbDefault

/-- `respOK`, the answer to HLTB and ATTRIB. -/
def respOk : List UInt8 := [0x00, 0x78, 0xF0]

/-- The `ts->max` bytes of `ts->buf` that the emulator copies after `CodeIso14443bAsTag`. -/
def encodedAsTag (resp : List UInt8) : List UInt8 :=
  (codeIso14443bAsTag resp).buf.take (codeIso14443bAsTag resp).max.toNat

/-- What one pass of the loop leaves: the new `cardSTATE`, the bytes it hands to
`TransmitFor14443b_AsTag` if any, and its `LogTrace` entries (data, reader direction). -/
structure SimOut where
  state : SimState
  tx : Option (List UInt8)
  log : List (List UInt8 × Bool)
  deriving DecidableEq, Repr

/-- The REQB/WUPB test made before the `switch`: the state it leaves and what it logs. -/
def simReqbCheck (st : SimState) (cmd : List UInt8) : SimState × List (List UInt8 × Bool) :=
  if cmd.length = 5 ∧ ((cmd.getD 0 0 = iso14443bReqb ∧ cmd.getD 2 0 &&& 0x8 = 0x8 ∧ st = .halted) ∨
      cmd.getD 0 0 = iso14443bReqb) then (.selecting, [(cmd, true)])
  else (st, [])

/-- One pass of the simulation loop on the received frame `cmd`. -/
def simulateStep (pupi : UInt32) (st : SimState) (cmd : List UInt8) : SimOut :=
  let (st, log) := simReqbCheck st cmd
  match st with
  | .halted | .idle => ⟨st, none, log ++ [(cmd, true)]⟩
  | .selecting => ⟨.work, some (encodedAsTag (respAtqb pupi)), log ++ [(respAtqb pupi, false)]⟩
  | .halting => ⟨.halted, some (encodedAsTag respOk), log ++ [(respOk, false)]⟩
  | .acknowledge => ⟨.idle, some (encodedAsTag respOk), log ++ [(respOk, false)]⟩
  | .work =>
    if cmd.length = 7 ∧ cmd.getD 0 0 = iso14443bHalt then ⟨.halted, none, log⟩
    else if cmd.length = 11 ∧ cmd.getD 0 0 = iso14443bAttrib then ⟨.acknowledge, none, log⟩
    else ⟨.idle, none, log⟩
  | .noField => ⟨st, none, log⟩

/-- The passes of the loop over the frames received, in order. -/
def simulateRun (pupi : UInt32) : SimState → List (List UInt8) → List SimOut
  | _, [] => []
  | st, cmd :: cmds =>
    let o := simulateStep pupi st cmd
    o :: simulateRun pupi o.state cmds

/-! ## 2. What one pass does -/

section Steps

variable (pupi : UInt32) {st : SimState} {cmd : List UInt8}

theorem simReqbCheck_of_not (h : ¬ (cmd.length = 5 ∧ cmd.getD 0 0 = iso14443bReqb)) :
    simReqbCheck st cmd = (st, []) := by
  unfold simReqbCheck
  rw [if_neg]
  tauto

theorem simReqbCheck_reqb (h5 : cmd.length = 5) (hr : cmd.getD 0 0 = iso14443bReqb) :
    simReqbCheck st cmd = (.selecting, [(cmd, true)]) := by
  rw [simReqbCheck, if_pos ⟨h5, .inr hr⟩]

/-- **Any 5-byte REQB wakes a halted tag**, the WUPB bit `cmd[2] & 8` set or not: it moves to
`SIM_WORK` and transmits the ATQB. -/
theorem simulateStep_halted_reqb (h5 : cmd.length = 5) (hr : cmd.getD 0 0 = iso14443bReqb) :
    simulateStep pupi .halted cmd =
      ⟨.work, some (encodedAsTag (respAtqb pupi)), [(cmd, true), (respAtqb pupi, false)]⟩ := by
  simp [simulateStep, simReqbCheck_reqb h5 hr]

/-- REQB `05 00 00 71 FF`, whose `cmd[2] & 8` is clear. -/
theorem simulateStep_halted_reqb_nowake :
    simulateStep 0 .halted [iso14443bReqb, 0x00, 0x00, 0x71, 0xFF] =
      ⟨.work, some (encodedAsTag (respAtqb 0)),
        [([iso14443bReqb, 0x00, 0x00, 0x71, 0xFF], true), (respAtqb 0, false)]⟩ :=
  simulateStep_halted_reqb 0 rfl rfl

/-- Every other frame leaves a halted tag halted, and silent. -/
theorem simulateStep_halted_other (h : ¬ (cmd.length = 5 ∧ cmd.getD 0 0 = iso14443bReqb)) :
    simulateStep pupi .halted cmd = ⟨.halted, none, [(cmd, true)]⟩ := by
  simp [simulateStep, simReqbCheck_of_not h]

/-- A HLTB in `SIM_WORK` halts the tag at once: `SIM_HALTING` and its OK are skipped. -/
theorem simulateStep_work_halt (h7 : cmd.length = 7) (hh : cmd.getD 0 0 = iso14443bHalt) :
    simulateStep pupi .work cmd = ⟨.halted, none, []⟩ := by
  have hc : simReqbCheck .work cmd = (.work, []) := simReqbCheck_of_not (by omega)
  simp only [simulateStep, hc, h7, hh, and_self, if_true]

/-- An ATTRIB in `SIM_WORK` is not answered in its own pass: the tag waits for the next frame
in `SIM_ACKNOWLEDGE`. -/
theorem simulateStep_work_attrib (h11 : cmd.length = 11) (ha : cmd.getD 0 0 = iso14443bAttrib) :
    simulateStep pupi .work cmd = ⟨.acknowledge, none, []⟩ := by
  have hc : simReqbCheck .work cmd = (.work, []) := simReqbCheck_of_not (by omega)
  simp only [simulateStep, hc, h11, ha, and_self, if_true, if_neg (by decide : ¬ (11 = 7 ∧ iso14443bAttrib = iso14443bHalt))]

/-- **The OK is never sent in the pass that receives the HLTB or the ATTRIB it answers.** -/
theorem simulateStep_work_no_ok (pupi : UInt32) (cmd : List UInt8) :
    (cmd.length = 7 → cmd.getD 0 0 = iso14443bHalt → simulateStep pupi .work cmd = ⟨.halted, none, []⟩) ∧
      (cmd.length = 11 → cmd.getD 0 0 = iso14443bAttrib →
        simulateStep pupi .work cmd = ⟨.acknowledge, none, []⟩) :=
  ⟨simulateStep_work_halt pupi, simulateStep_work_attrib pupi⟩

/-- The HLTB `50 FF FF FF FF CC CC` and an ATTRIB, each received in `SIM_WORK`. -/
theorem simulateStep_work_no_ok_hltb_attrib :
    simulateStep 0 .work [iso14443bHalt, 0xFF, 0xFF, 0xFF, 0xFF, 0xCC, 0xCC] = ⟨.halted, none, []⟩ ∧
      simulateStep 0 .work [iso14443bAttrib, 0, 0, 0, 0, 0, 0x08, 0, 0, 0, 0] =
        ⟨.acknowledge, none, []⟩ :=
  ⟨(simulateStep_work_no_ok 0 _).1 rfl rfl, (simulateStep_work_no_ok 0 _).2 rfl rfl⟩

end Steps

/-! ## 3. The states the loop waits in -/

/-- The states in which `GetIso14443bCommandFromReader` is called once the field is up. -/
def SimState.Waiting (s : SimState) : Prop :=
  s = .idle ∨ s = .halted ∨ s = .work ∨ s = .acknowledge

/-- From any state but `SIM_NOFIELD`, a pass ends in a waiting state. -/
theorem simulateStep_waiting (pupi : UInt32) {st : SimState} (h : st ≠ .noField) (cmd : List UInt8) :
    (simulateStep pupi st cmd).state.Waiting := by
  have hc : (simReqbCheck st cmd).1 ≠ .noField := by
    unfold simReqbCheck; split
    · exact nofun
    · exact h
  unfold simulateStep
  generalize simReqbCheck st cmd = p at hc ⊢
  obtain ⟨st', log⟩ := p
  cases st' with
  | noField => exact absurd rfl hc
  | work =>
    -- HLTB, ATTRIB, anything else
    dsimp only
    split
    · exact .inr (.inl rfl)
    · split
      · exact .inr (.inr (.inr rfl))
      · exact .inl rfl
  | _ => simp [SimState.Waiting]

/-- **Every wait of a run after the field is detected** is in `SIM_IDLE`, `SIM_HALTED`,
`SIM_WORK` or `SIM_ACKNOWLEDGE`: `SIM_SELECTING` and `SIM_HALTING` never survive a pass, and
`SIM_ACKNOWLEDGE` does. -/
theorem simulateRun_waits (pupi : UInt32) (frames : List (List UInt8)) :
    ∀ o ∈ simulateRun pupi .idle frames, o.state.Waiting := by
  suffices h : ∀ st, st ≠ .noField → ∀ o ∈ simulateRun pupi st frames, o.state.Waiting from
    h _ (by decide)
  induction frames with
  | nil => simp [simulateRun]
  | cons cmd cmds ih =>
    intro st hst o ho
    simp only [simulateRun, List.mem_cons] at ho
    have hw := simulateStep_waiting pupi hst cmd
    rcases ho with rfl | ho
    · exact hw
    · exact ih _ (by rcases hw with h | h | h | h <;> rw [h] <;> decide) o ho

end Iso14443b
