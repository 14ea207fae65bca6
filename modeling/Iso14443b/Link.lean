/-
# The reader against the emulator

Both ends of ISO 14443-B are in `iso14443b.c`: `iso14443b_select_card` and `iso14443b_apdu` on a
Proxmark acting as reader, `SimulateIso14443bTag` on one acting as tag.  This module joins them
over the air and follows the two through a selection.

* The emulator's receive, `GetIso14443bCommandFromReader`, runs the UART over the SSC bytes bit
  by bit, most significant first, and returns at the bit that ends the frame, dropping the rest
  of its byte.  Whatever idle field comes first and whatever follows, it receives exactly the
  frame the reader's `CodeIso14443bAsReader` coded (`getIso14443bCommandFromReader_receives`).
* The emulator's transmit, `TransmitFor14443b_AsTag`, loads `0xFF` into the SSC ahead of the
  coded answer: two more ETUs of TR1, 22 in all.  The answer reaches the reader's
  `Get14443bAnswerFromTag` whole as long as the reader starts listening at most
  `ISO14443B_READER_TIMEOUT` samples early or 12 ETUs late (`air_reply`).

Over these two links the emulator's one `switch` per frame meets the reader:

* `iso14443b_select_card` never selects the emulator.  From any state the WUPB gets a good
  ATQB, but the ATTRIB built from it only moves the emulator to `SIM_ACKNOWLEDGE`, no answer
  comes, and the reader returns -1 (`iso14443bSelectCard_simulate`);
* the I-block that follows, whatever it carries, is answered with the OK `00 78 F0` the
  emulator owed the ATTRIB.  It has a good CRC_B, so `iso14443b_apdu` returns 3
  (`iso14443bApdu_simulate_acknowledge`).

The air between the two Proxmarks is outside the code and modelled from the spec: the field is
unmodulated while the reader sends a `0x0000` word and each 16-bit word lasts two of the
emulator's samples; the reader takes one I/Q sample from every two SSC bits the emulator sends.
-/
import Iso14443b.Exchange
import Iso14443b.Sim
import Iso14443b.UartFrame

namespace Iso14443b

/-! ## 1. The emulator's receive -/

/-- The bits `b & mask` of an SSC byte, `mask` from `0x80` down to `0x01`, in the order
`GetIso14443bCommandFromReader` hands them to `Handle14443bSampleFromReader`. -/
def maskBits (b : UInt8) : List Bool :=
  [0x80, 0x40, 0x20, 0x10, 0x08, 0x04, 0x02, 0x01].map fun mask : UInt8 => b &&& mask != 0

/-- One SSC byte: its bits through the UART until one ends the frame (`inr`); the byte's other
bits are dropped. -/
def uartByte (u : Uart) (b : UInt8) : Uart ⊕ Uart :=
  match runLoop uartStep u (maskBits b) with
  | .inl u => .inl u
  | .inr (u, _) => .inr u

/-- `GetIso14443bCommandFromReader(received, &len)` fed the SSC bytes `ssc`: `Uart14bInit`, then
byte after byte until the UART reports a frame.  It leaves the UART, whose `byteCnt` is `*len`
and whose output is `received`, and the bytes not read; `none` while it still waits. -/
def getIso14443bCommandFromReader (received : Buffer) (ssc : List UInt8) :
    Option (Uart × List UInt8) :=
  match runLoop uartByte (uart14bInit received) ssc with
  | .inl _ => none
  | .inr r => some r

/-- **The byte loop is the bit loop**: when the UART, run over the bits of the bytes in order,
reports a frame, the byte loop reports the same one, having dropped only the rest of the byte
it ends in. -/
theorem runLoop_uartByte {u v : Uart} {ssc : List UInt8} {rest : List Bool}
    (h : runLoop uartStep u (ssc.flatMap maskBits) = .inr (v, rest)) :
    ∃ rest', runLoop uartByte u ssc = .inr (v, rest') := by
  induction ssc generalizing u with
  | nil => cases h
  | cons b bs ih =>
    rw [List.flatMap_cons] at h
    cases hb : runLoop uartStep u (maskBits b) with
    | inl u' =>
      rw [runLoop_append_inl _ hb] at h
      have hstep : uartByte u b = .inl u' := by simp only [uartByte, hb]
      obtain ⟨rest', h'⟩ := ih h
      exact ⟨rest', by rw [runLoop_cons_inl _ hstep, h']⟩
    | inr p =>
      rw [runLoop_append_inr _ hb] at h
      obtain ⟨rfl, -⟩ := Prod.mk.inj (Sum.inr.inj h)
      exact ⟨bs, runLoop_cons_inr _ (by simp only [uartByte, hb]) _⟩

/-! ## 2. From the reader to the emulator -/

/-- Modelled from the spec: the two samples of the reader's field the emulator takes while one
16-bit word of `TransmitFor14443b_AsReader` goes out; `0x0000` leaves the field unmodulated (a
1), `0xffff` modulates it (a 0). -/
def wordEnvelope (w : Nat) : List Bool := List.replicate 2 (w == 0)

/-- The field the emulator samples while the reader sends the frame `f`. -/
def readerEnvelope (f : List UInt8) : List Bool :=
  (transmitFor14443bAsReader (codeIso14443bAsReader f)).flatMap wordEnvelope

/-- The two words of a symbol are four samples of it. -/
theorem flatMap_wordEnvelope (s : Bool) :
    (if s then [0x0000, 0x0000] else [0xffff, 0xffff] : List Nat).flatMap wordEnvelope =
      List.replicate 4 s := by
  cases s <;> rfl

/-- Each symbol of the reader's coded frame is four samples of the field. -/
theorem readerEnvelope_eq (f : List UInt8) :
    readerEnvelope f = etu4 (symbolsOf (codeIso14443bAsReader f).buf) := by
  obtain ⟨-, hmax⟩ := codeIso14443bAsReader_symbols f
  rw [readerEnvelope, transmitFor14443bAsReader, hmax, Int.toNat_ofNat, List.take_length, etu4,
    symbolsOf]
  simp only [List.flatMap_assoc, flatMap_wordEnvelope]

/-- Modelled from the spec: SSC bytes the emulator reads while the reader sends the frame `f`.
Their bits, most significant first, are an idle field, the frame's envelope, and whatever
follows. -/
structure SscFrame (f : List UInt8) where
  ssc : List UInt8
  idle : Nat
  after : List Bool
  bits : ssc.flatMap maskBits = List.replicate idle true ++ readerEnvelope f ++ after

/-- Modelled from the spec: the SSC byte of two symbols of the reader's frame, four samples of
each. -/
def sscByte (x y : Bool) : UInt8 := (if x then 0xF0 else 0) ||| (if y then 0x0F else 0)

/-- The SSC bytes of a run of symbols, two to a byte. -/
def packSymbols : List Bool → List UInt8
  | x :: y :: rest => sscByte x y :: packSymbols rest
  | _ => []

theorem maskBits_sscByte (x y : Bool) :
    maskBits (sscByte x y) = List.replicate 4 x ++ List.replicate 4 y := by
  cases x <;> cases y <;> rfl

theorem flatMap_maskBits_packSymbols (xs : List Bool) (h : xs.length % 2 = 0) :
    (packSymbols xs).flatMap maskBits = etu4 xs := by
  induction xs using packSymbols.induct with
  | case1 x y rest ih =>
    simp only [List.length_cons] at h
    rw [packSymbols, List.flatMap_cons, maskBits_sscByte, ih (by omega), etu4_cons, etu4_cons,
      List.append_assoc]
  | case2 xs hne =>
    match xs, hne with
    | [], _ => rfl
    | [_], _ => simp at h
    | x :: y :: rest, hne => exact absurd rfl (hne x y rest)

/-- The SSC bytes of a frame sent after `idle` bytes of unmodulated field: every frame the reader
codes has such bytes. -/
def SscFrame.packed (f : List UInt8) (idle : Nat) : SscFrame f where
  ssc := List.replicate idle 0xFF ++ packSymbols (symbolsOf (codeIso14443bAsReader f).buf)
  idle := 8 * idle
  after := []
  bits := by
    rw [List.flatMap_append, flatMap_maskBits_packSymbols _ (by simp; omega), ← readerEnvelope_eq,
      List.append_nil, List.flatMap_replicate, show maskBits 0xFF = List.replicate 8 true from rfl,
      List.flatten_replicate_replicate, Nat.mul_comm]

/-- **The emulator receives every frame the reader codes**: after any idle field, and whatever
follows, `GetIso14443bCommandFromReader` returns with `*len` the frame's length and the frame
stored from `received[0]`. -/
theorem getIso14443bCommandFromReader_receives (received : Buffer) {f : List UInt8}
    (hf : f ≠ []) (hlen : f.length < maxFrameSize) (l : SscFrame f) :
    ∃ u rest, getIso14443bCommandFromReader received l.ssc = some (u, rest) ∧
      u.byteCnt = f.length ∧ u.output = received.storeAll 0 f := by
  obtain ⟨v, hv, hc, ho⟩ :=
    uart_receives_codeIso14443bAsReader (u := uart14bInit received) rfl l.idle hf hlen
  have h := runLoop_append_inr _ hv l.after
  rw [← readerEnvelope_eq, ← l.bits] at h
  obtain ⟨rest', h'⟩ := runLoop_uartByte h
  exact ⟨v, rest', by simp only [getIso14443bCommandFromReader, h'], hc, ho⟩

/-- The WUPB, after four bytes of unmodulated field, into a zeroed `receivedCmd`. -/
theorem getIso14443bCommandFromReader_receives_wupb :
    wupb ≠ [] ∧ wupb.length < maxFrameSize ∧
      ∃ u rest, getIso14443bCommandFromReader (Buffer.zeros maxFrameSize)
          (SscFrame.packed wupb 4).ssc = some (u, rest) ∧
        u.byteCnt = wupb.length ∧ u.output = (Buffer.zeros maxFrameSize).storeAll 0 wupb :=
  ⟨by decide, by decide,
    getIso14443bCommandFromReader_receives _ (by decide) (by decide) (SscFrame.packed wupb 4)⟩

/-! ## 3. From the emulator to the reader -/

/-- `TransmitFor14443b_AsTag(response, len)`: the bytes the SSC sends, `0xFF` written to its
holding register before the response. -/
def transmitFor14443bAsTag (response : List UInt8) : List UInt8 := 0xFF :: response

/-- Every other element, from the first. -/
def everyOther {α : Type} : List α → List α
  | a :: _ :: rest => a :: everyOther rest
  | _ => []

/-- Modelled from the spec: the I/Q samples the reader's receive loop takes while the emulator's
SSC sends `bytes`, most significant bit first, four bits to an ETU: one sample from every two
bits, the subcarrier in the phase `c` for a 1 and in the opposite phase for a 0. -/
def tagAir (c : Int × Int) (bytes : List UInt8) : List (Int × Int) :=
  (everyOther (symbolsOf bytes)).map (sym c)

theorem everyOther_flatMap_replicate_four (xs : List Bool) :
    everyOther (xs.flatMap (List.replicate 4)) = xs.flatMap (List.replicate 2) := by
  induction xs with
  | nil => rfl
  | cons x xs ih => simp only [List.flatMap_cons]; exact congrArg (x :: x :: ·) ih

theorem bpsk_eq_map (c : Int × Int) (xs : List Bool) :
    bpsk c xs = (xs.flatMap (List.replicate 2)).map (sym c) := by
  simp [bpsk, List.map_flatMap]

/-- **What the reader hears of the emulator's answer**: the answer's PICC frame in BPSK, its
TR1 two ETUs longer for the `0xFF` sent first. -/
theorem tagAir_transmitFor14443bAsTag (c : Int × Int) (R : List UInt8) :
    tagAir c (transmitFor14443bAsTag (encodedAsTag R)) =
      bpsk c (List.replicate 2 true ++ tagSymbols R) := by
  obtain ⟨hsym, hmax⟩ := codeIso14443bAsTag_symbols R
  have hbuf : encodedAsTag R = (codeIso14443bAsTag R).buf := by
    rw [encodedAsTag, hmax, Int.toNat_ofNat, List.take_length]
  have hff : symbolsOf [0xFF] = List.replicate 8 true := by decide
  have h8 : ∀ ys : List Bool,
      everyOther (List.replicate 8 true ++ ys) = List.replicate 4 true ++ everyOther ys :=
    fun _ => rfl
  rw [tagAir, transmitFor14443bAsTag, hbuf, bpsk_eq_map, List.flatMap_append,
    show (0xFF : UInt8) :: (codeIso14443bAsTag R).buf = [0xFF] ++ (codeIso14443bAsTag R).buf
      from rfl, symbolsOf_append, hff, hsym, h8, everyOther_flatMap_replicate_four]
  rfl

/-- Modelled from the spec: what the reader's `Get14443bAnswerFromTag` hears, over any timing
its receive can follow.  The emulator's subcarrier reaches it as `c`, strong enough to lock
on.  Before an answer it hears `lead`, quiet and within `ISO14443B_READER_TIMEOUT`, and it may
start listening up to 12 ETUs into the answer's TR1 (`late`); after it, anything (`tail`).  With
no answer it hears `silence`, quiet and longer than the timeout. -/
structure Air where
  c : Int × Int
  lead : List (Int × Int)
  late : Nat
  tail : List (Int × Int)
  silence : List (Int × Int)
  c_locks : 8 < amplitude c.1 c.2
  lead_quiet : ∀ s ∈ lead, amplitude s.1 s.2 ≤ 8
  lead_le : (lead.length : Int) ≤ iso14443bReaderTimeout
  late_le : late ≤ 12
  silence_quiet : ∀ s ∈ silence, amplitude s.1 s.2 ≤ 8
  silence_gt : iso14443bReaderTimeout.toNat < silence.length

/-- The samples the reader's receive loop is fed when the emulator's pass transmits `tx`, or
nothing. -/
def Air.samples (a : Air) : Option (List UInt8) → List (Int × Int)
  | some tx => a.lead ++ (tagAir a.c (transmitFor14443bAsTag tx)).drop (2 * a.late) ++ a.tail
  | none => a.silence

/-- A reader that listens from the first sample of the answer, over a subcarrier `c`. -/
def Air.prompt (c : Int × Int) (hc : 8 < amplitude c.1 c.2) : Air :=
  ⟨c, [], 0, [], List.replicate 1701 (0, 0), hc, by simp, by decide, by decide,
    fun _ hs => by rw [List.eq_of_mem_replicate hs]; decide, by rw [List.length_replicate]; decide⟩

theorem bpsk_drop (c : Int × Int) (n : Nat) (xs : List Bool) :
    (bpsk c xs).drop (2 * n) = bpsk c (xs.drop n) := by
  induction xs generalizing n with
  | nil => simp [bpsk]
  | cons x xs ih =>
    cases n with
    | zero => rfl
    | succ n => rw [bpsk_cons, Nat.mul_succ, List.drop_succ_cons, ← ih]; rfl

/-- **The emulator's answer reaches the reader whole**: over any `Air`, the answer `R` the
emulator codes and transmits makes the reader's receive hand back `replyOf out max_len (some R)`,
and no answer makes it hand back `replyOf out max_len none`. -/
theorem air_reply (a : Air) (out : Buffer) (maxLen : UInt16) (sspClk : Nat)
    (answer : Option (List UInt8)) (hR : ∀ R ∈ answer, R.length < 65536) :
    ∃ t, get14443bAnswerFromTag out maxLen iso14443bReaderTimeout sspClk
        (a.samples (answer.map encodedAsTag)) = some t ∧
      t.reply = replyOf out maxLen.toNat answer := by
  cases answer with
  | none =>
    simpa [Air.samples] using get14443bAnswerFromTag_silent out maxLen iso14443bReaderTimeout
      sspClk a.silence a.silence_quiet a.silence_gt []
  | some R =>
    have hl := a.late_le
    have ht : PiccTiming (22 - a.late) 10 2 (R.map (·, 0)) 10 :=
      ⟨by omega, by omega, le_rfl, by decide, le_rfl, by decide, by simp, le_rfl, by decide⟩
    obtain ⟨t, hget, hrep⟩ := get14443bAnswerFromTag_reply out maxLen iso14443bReaderTimeout
      sspClk a.c_locks a.lead a.lead_quiet a.lead_le ht (by simpa using hR R rfl)
      (bpsk a.c (List.replicate 2 true) ++ a.tail)
    have hsyms : (List.replicate 2 true ++ tagSymbols R).drop a.late =
        piccFrame (22 - a.late) 10 2 (R.map (·, 0)) 10 ++ List.replicate 2 true := by
      rw [tagSymbols_eq_piccFrame, piccFrame, ← List.append_assoc, ← List.append_assoc,
        List.append_replicate_replicate, List.append_assoc,
        List.drop_append_of_le_length (by simp; omega), List.drop_replicate]
      simp only [piccFrame, List.append_assoc]
    refine ⟨t, ?_, by simpa [List.map_map, Function.comp_def] using hrep⟩
    rw [← hget, Option.map_some', Air.samples, tagAir_transmitFor14443bAsTag, bpsk_drop, hsyms,
      bpsk_append]
    simp only [List.append_assoc]

/-- The emulator's OK, to a reader listening from its first sample. -/
theorem air_reply_ok :
    (∀ R ∈ some respOk, R.length < 65536) ∧
      ∃ t, get14443bAnswerFromTag (Buffer.zeros 16) 16 iso14443bReaderTimeout 0
          ((Air.prompt (100, 0) (by decide)).samples ((some respOk).map encodedAsTag)) = some t ∧
        t.reply = replyOf (Buffer.zeros 16) (16 : UInt16).toNat (some respOk) :=
  ⟨by simp [respOk], air_reply _ _ _ _ (some respOk) (by simp [respOk])⟩

/-! ## 4. One pass of the emulator -/

/-- `if (cardSTATE == SIM_NOFIELD) … cardSTATE = SIM_IDLE;` with the reader's field up. -/
def SimState.fieldUp (st : SimState) : SimState := if st = .noField then .idle else st

/-- One pass of `SimulateIso14443bTag`'s loop with the reader's field up: from `SIM_NOFIELD` to
`SIM_IDLE`, then `GetIso14443bCommandFromReader` into `receivedCmd` and the pass on the `len`
bytes received.  It leaves the pass's output, the array and the SSC bytes not read. -/
def simulatePass (pupi : UInt32) (st : SimState) (received : Buffer) (ssc : List UInt8) :
    Option (SimOut × Buffer × List UInt8) :=
  match getIso14443bCommandFromReader received ssc with
  | none => none
  | some (u, rest) =>
    some (simulateStep pupi st.fieldUp (u.output.bytes.take u.byteCnt), u.output, rest)

/-- **A pass acts on the frame the reader sent**, stored at the start of `receivedCmd`. -/
theorem simulatePass_receives (pupi : UInt32) (st : SimState) (received : Buffer)
    {f : List UInt8} (hf : f ≠ []) (hlen : f.length < maxFrameSize)
    (hroom : f.length ≤ received.bytes.length) (l : SscFrame f) :
    ∃ rest, simulatePass pupi st received l.ssc =
      some (simulateStep pupi st.fieldUp f, received.storeAll 0 f, rest) := by
  obtain ⟨u, rest, hget, hc, ho⟩ := getIso14443bCommandFromReader_receives received hf hlen l
  have htake : (received.storeAll 0 f).bytes.take f.length = f := by
    simpa using (Buffer.storeAll_take (show 0 + f.length ≤ received.bytes.length by omega)).1
  exact ⟨rest, by simp only [simulatePass, hget, hc, ho, htake]⟩

/-- `AddCrc14B(data, n)` over an array of `n + 2` bytes gives a frame that passes the check. -/
theorem checkCrc14B_addCrc14B_of_length_add_two {data : List UInt8} {n : Nat}
    (h : data.length = n + 2) : checkCrc14B (addCrc14B data n) = true := by
  have heq : addCrc14B data n = addCrc14B (data.take n) n := by
    simp [addCrc14B, List.drop_of_length_le (show data.length ≤ n + 2 by omega), List.take_take,
      List.drop_of_length_le (show (data.take n).length ≤ n + 2 by simp)]
  rw [heq]
  exact checkCrc14B_addCrc14B_of_length (by simp; omega)

section Frames

variable (pupi : UInt32) {cmd : List UInt8}

/-- A 5-byte REQB or WUPB, in any state, is answered with the ATQB. -/
theorem simulateStep_reqb (st : SimState) (h5 : cmd.length = 5)
    (hr : cmd.getD 0 0 = iso14443bReqb) :
    simulateStep pupi st cmd =
      ⟨.work, some (encodedAsTag (respAtqb pupi)), [(cmd, true), (respAtqb pupi, false)]⟩ := by
  simp [simulateStep, simReqbCheck_reqb h5 hr]

/-- In `SIM_ACKNOWLEDGE`, any frame but a REQB is answered with the OK. -/
theorem simulateStep_acknowledge (h : ¬ (cmd.length = 5 ∧ cmd.getD 0 0 = iso14443bReqb)) :
    simulateStep pupi .acknowledge cmd =
      ⟨.idle, some (encodedAsTag respOk), [(respOk, false)]⟩ := by
  simp [simulateStep, simReqbCheck_of_not h]

theorem length_respAtqb : (respAtqb pupi).length = 14 := by
  unfold respAtqb; split
  · simp [addCrc14B, crcBytes, respAtqbDefault, numToBytes]
  · rfl

set_option maxRecDepth 4000 in
/-- **The ATQB has a good CRC_B**: the default one's `5E D7`, or the one computed over a
supplied PUPI. -/
theorem checkCrc14B_respAtqb : checkCrc14B (respAtqb pupi) = true := by
  unfold respAtqb; split
  · exact checkCrc14B_addCrc14B_of_length_add_two (by simp [respAtqbDefault, numToBytes])
  · decide

/-- Bytes 1 to 4 of the ATQB are the PUPI as `num_to_bytes(pupi, 4, respATQB + 1)` wrote it. -/
theorem respAtqb_pupi (hp : 0 < pupi.toNat) :
    ((respAtqb pupi).drop 1).take 4 = numToBytes pupi.toNat 4 := by
  simp [respAtqb, hp, addCrc14B, respAtqbDefault, numToBytes, List.range_succ]

/-- Bytes 5 to 11 of the ATQB are the default's, whatever the PUPI. -/
theorem respAtqb_protocol : ((respAtqb pupi).drop 5).take 7 = (respAtqbDefault.drop 5).take 7 := by
  unfold respAtqb; split
  · simp [addCrc14B, respAtqbDefault, numToBytes, List.range_succ]
  · rfl

set_option maxRecDepth 4000 in
theorem checkCrc14B_respOk : checkCrc14B respOk = true := by decide

end Frames

theorem length_attribOf (pupid : List UInt8) : (attribOf pupid).length = 11 := by
  simp [attribOf, addCrc14B, crcBytes]

theorem attribOf_head (pupid : List UInt8) : (attribOf pupid).getD 0 0 = iso14443bAttrib := rfl

theorem length_iBlock (pcb : UInt8) (message : List UInt8) :
    (iBlock pcb message).length = message.length + 4 := by
  simp [iBlock, addCrc14B, crcBytes]

theorem iBlock_head_getD (pcb : UInt8) (message : List UInt8) :
    (iBlock pcb message).getD 0 0 = 0x0A ||| pcb := by
  simp [iBlock, addCrc14B]

/-- An I-block's PCB `0x0A | pcb_blocknum` is never `ISO14443B_REQB`. -/
theorem pcb_ne_reqb (pcb : UInt8) : (0x0A ||| pcb) ≠ iso14443bReqb := by
  intro h
  have h1 : ((0x0A : UInt8).toBitVec ||| pcb.toBitVec).getLsbD 1 =
      iso14443bReqb.toBitVec.getLsbD 1 :=
    congrArg (fun x : UInt8 => x.toBitVec.getLsbD 1) h
  rw [BitVec.getLsbD_or, show (0x0A : UInt8).toBitVec.getLsbD 1 = true by decide,
    show iso14443bReqb.toBitVec.getLsbD 1 = false by decide] at h1
  exact Bool.noConfusion h1

/-- The answer a pass transmits, as its trace records it: the bytes it logs in the tag's
direction. -/
def SimOut.answer (o : SimOut) : Option (List UInt8) := (o.log.find? fun e => !e.2).map (·.1)

/-- **A pass transmits the coding of the answer it logs**, and that answer is the ATQB, the OK,
or nothing. -/
theorem simulateStep_tx (pupi : UInt32) (st : SimState) (cmd : List UInt8) :
    (simulateStep pupi st cmd).tx = (simulateStep pupi st cmd).answer.map encodedAsTag ∧
      ((simulateStep pupi st cmd).answer = none ∨
        (simulateStep pupi st cmd).answer = some (respAtqb pupi) ∨
        (simulateStep pupi st cmd).answer = some respOk) := by
  have hlog : (simReqbCheck st cmd).2 = [] ∨ (simReqbCheck st cmd).2 = [(cmd, true)] := by
    unfold simReqbCheck; split <;> simp
  unfold simulateStep
  generalize simReqbCheck st cmd = p at hlog
  obtain ⟨st', log⟩ := p
  rcases hlog with rfl | rfl <;> cases st' <;> simp only [SimOut.answer] <;>
    (try split_ifs) <;> simp

/-- **One exchange over the air**: from any state, a frame the reader codes reaches the
emulator's pass, and the answer the pass logs reaches the reader's receive as its reply. -/
theorem exchange_over_air (pupi : UInt32) (st : SimState) (received : Buffer) {f : List UInt8}
    (hf : f ≠ []) (hlen : f.length < maxFrameSize) (hroom : f.length ≤ received.bytes.length)
    (l : SscFrame f) (a : Air) (out : Buffer) (maxLen : UInt16) (sspClk : Nat) :
    ∃ rest t, simulatePass pupi st received l.ssc =
        some (simulateStep pupi st.fieldUp f, received.storeAll 0 f, rest) ∧
      get14443bAnswerFromTag out maxLen iso14443bReaderTimeout sspClk
        (a.samples (simulateStep pupi st.fieldUp f).tx) = some t ∧
      t.reply = replyOf out maxLen.toNat (simulateStep pupi st.fieldUp f).answer := by
  obtain ⟨rest, hpass⟩ := simulatePass_receives pupi st received hf hlen hroom l
  obtain ⟨htx, hans⟩ := simulateStep_tx pupi st.fieldUp f
  obtain ⟨t, ht, hr⟩ := air_reply a out maxLen sspClk (simulateStep pupi st.fieldUp f).answer
    (by rcases hans with h | h | h <;> simp [h, length_respAtqb, respOk])
  exact ⟨rest, t, hpass, htx ▸ ht, hr⟩

/-- The WUPB, from `SIM_NOFIELD`, answered into the reader's 14-byte ATQB array. -/
theorem exchange_over_air_wupb :
    wupb ≠ [] ∧ wupb.length < maxFrameSize ∧
      wupb.length ≤ (Buffer.zeros maxFrameSize).bytes.length ∧
      ∃ rest t,
        simulatePass 0 .noField (Buffer.zeros maxFrameSize) (SscFrame.packed wupb 4).ssc =
          some (simulateStep 0 SimState.noField.fieldUp wupb,
            (Buffer.zeros maxFrameSize).storeAll 0 wupb, rest) ∧
        get14443bAnswerFromTag (Buffer.zeros 14) 14 iso14443bReaderTimeout 0
          ((Air.prompt (100, 0) (by decide)).samples
            (simulateStep 0 SimState.noField.fieldUp wupb).tx) = some t ∧
        t.reply = replyOf (Buffer.zeros 14) (14 : UInt16).toNat
          (simulateStep 0 SimState.noField.fieldUp wupb).answer :=
  ⟨by decide, by decide, by rw [Buffer.zeros_length]; decide,
    exchange_over_air 0 .noField (Buffer.zeros maxFrameSize) (by decide) (by decide)
      (by rw [Buffer.zeros_length]; decide) (SscFrame.packed wupb 4)
      (Air.prompt (100, 0) (by decide)) (Buffer.zeros 14) 14 0⟩

/-! ## 5. The reader against the emulator -/

/-- An answer that fills a zeroed array exactly comes back whole. -/
theorem replyOf_zeros_of_length {R : List UInt8} {n : Nat} (h : R.length = n) :
    replyOf (Buffer.zeros n) n (some R) = ⟨n, R⟩ := by
  have htake : ((Buffer.zeros n).storeAll 0 R).bytes.take (0 + R.length) =
      (Buffer.zeros n).bytes.take 0 ++ R := (Buffer.storeAll_take (by simp [h])).1
  rw [Nat.zero_add, List.take_of_length_le (by simp [h])] at htake
  simp [replyOf, h, htake]

/-- **`iso14443b_select_card` never selects the emulator.**  From any state of
`SimulateIso14443bTag`, with the reader's field up, over any air: the WUPB makes the emulator send
its ATQB and enter `SIM_WORK`; the ATQB passes the reader's length and CRC checks; the ATTRIB
built from it moves the emulator to `SIM_ACKNOWLEDGE` without an answer, so the reader hears
nothing before its timeout and returns -1, its globals untouched. -/
theorem iso14443bSelectCard_simulate (pupi : UInt32) (st : SimState) (received : FrameArray)
    (r : Reader) (sspClk₁ sspClk₂ : Nat) (l₁ : SscFrame wupb)
    (l₂ : SscFrame (attribOf (respAtqb pupi))) (a₁ a₂ : Air) :
    ∃ rest₁ rest₂ t₁ t₂,
      simulatePass pupi st received.1 l₁.ssc =
        some (⟨.work, some (encodedAsTag (respAtqb pupi)), [(wupb, true), (respAtqb pupi, false)]⟩,
          received.1.storeAll 0 wupb, rest₁) ∧
      get14443bAnswerFromTag (Buffer.zeros 14) 14 iso14443bReaderTimeout sspClk₁
        (a₁.samples (some (encodedAsTag (respAtqb pupi)))) = some t₁ ∧
      simulatePass pupi .work (received.1.storeAll 0 wupb) l₂.ssc =
        some (⟨.acknowledge, none, []⟩,
          (received.1.storeAll 0 wupb).storeAll 0 (attribOf (respAtqb pupi)), rest₂) ∧
      get14443bAnswerFromTag (Buffer.zeros 3) 3 iso14443bReaderTimeout sspClk₂ (a₂.samples none) =
        some t₂ ∧
      iso14443bSelectCard r t₁.reply t₂.reply = (r, ⟨[wupb, attribOf (respAtqb pupi)], -1⟩) := by
  have hroom := received.2.1
  obtain ⟨rest₁, h₁⟩ := simulatePass_receives pupi st received.1 (f := wupb) (by decide)
    (by decide) (by rw [hroom]; decide) l₁
  rw [simulateStep_reqb pupi _ (show wupb.length = 5 from rfl) rfl] at h₁
  obtain ⟨rest₂, h₂⟩ := simulatePass_receives pupi .work (received.1.storeAll 0 wupb)
    (f := attribOf (respAtqb pupi)) (List.ne_nil_of_length_pos (by rw [length_attribOf]; decide))
    (by rw [length_attribOf]; decide)
    (by rw [length_attribOf, Buffer.storeAll_length, hroom]; decide) l₂
  rw [show SimState.work.fieldUp = .work from rfl,
    simulateStep_work_attrib pupi (length_attribOf _) (attribOf_head _)] at h₂
  obtain ⟨t₁, ht₁, hr₁⟩ := air_reply a₁ (Buffer.zeros 14) 14 sspClk₁ (some (respAtqb pupi))
    (by simp [length_respAtqb])
  obtain ⟨t₂, ht₂, hr₂⟩ := air_reply a₂ (Buffer.zeros 3) 3 sspClk₂ none (by simp)
  refine ⟨rest₁, rest₂, t₁, t₂, h₁, ht₁, h₂, ht₂, ?_⟩
  rw [hr₁, hr₂, show (14 : UInt16).toNat = 14 from rfl,
    replyOf_zeros_of_length (length_respAtqb pupi)]
  simp [iso14443bSelectCard, replyOf, Reply.crcOk, length_respAtqb, checkCrc14B_respAtqb,
    List.take_of_length_le (le_of_eq (length_respAtqb pupi))]

/-- **The emulator answers the next I-block with the OK it owes the ATTRIB.**  In
`SIM_ACKNOWLEDGE`, whatever APDU the reader sends, the emulator sends `00 78 F0` and falls back
to `SIM_IDLE`; the OK has a good CRC_B, so `iso14443b_apdu` takes it as the answer and returns
3. -/
theorem iso14443bApdu_simulate_acknowledge (pupi : UInt32) (received : FrameArray) (r : Reader)
    (message : List UInt8) (hm : message.length + 4 < maxFrameSize) (out : Buffer)
    (respmaxlen : UInt16) (h3 : 3 ≤ respmaxlen.toNat) (hout : respmaxlen.toNat ≤ out.bytes.length)
    (sspClk : Nat) (l : SscFrame (iBlock r.pcbBlocknum message)) (a : Air) :
    ∃ rest t,
      simulatePass pupi .acknowledge received.1 l.ssc =
        some (⟨.idle, some (encodedAsTag respOk), [(respOk, false)]⟩,
          received.1.storeAll 0 (iBlock r.pcbBlocknum message), rest) ∧
      get14443bAnswerFromTag out respmaxlen iso14443bReaderTimeout sspClk
        (a.samples (some (encodedAsTag respOk))) = some t ∧
      t.reply = replyOf out respmaxlen.toNat (some respOk) ∧
      (iso14443bApdu r message (some t.reply)).2 = ⟨[iBlock r.pcbBlocknum message], 3⟩ := by
  have hlen := length_iBlock r.pcbBlocknum message
  have hne : ¬ ((iBlock r.pcbBlocknum message).length = 5 ∧
      (iBlock r.pcbBlocknum message).getD 0 0 = iso14443bReqb) :=
    fun h => pcb_ne_reqb _ (iBlock_head_getD r.pcbBlocknum message ▸ h.2)
  obtain ⟨rest, h⟩ := simulatePass_receives pupi .acknowledge received.1
    (List.ne_nil_of_length_pos (by omega)) (by omega) (by rw [received.2.1]; omega) l
  rw [show SimState.acknowledge.fieldUp = .acknowledge from rfl,
    simulateStep_acknowledge pupi hne] at h
  obtain ⟨t, ht, hr⟩ := air_reply a out respmaxlen sspClk (some respOk) (by simp [respOk])
  refine ⟨rest, t, h, ht, hr, ?_⟩
  rw [hr, iso14443bApdu_replyOf r message hout]
  simp [show respOk.length = 3 from rfl, h3, checkCrc14B_respOk]

/-- A SELECT FILE `00 A4` from a reader fresh from `iso14443b_setup`, into a 16-byte response
buffer. -/
theorem iso14443bApdu_simulate_acknowledge_select :
    [(0x00 : UInt8), 0xA4].length + 4 < maxFrameSize ∧ 3 ≤ (16 : UInt16).toNat ∧
      (16 : UInt16).toNat ≤ (Buffer.zeros 16).bytes.length ∧
      ∃ rest t,
        simulatePass 0 .acknowledge (Buffer.zeros maxFrameSize)
            (SscFrame.packed (iBlock 0 [0x00, 0xA4]) 4).ssc =
          some (⟨.idle, some (encodedAsTag respOk), [(respOk, false)]⟩,
            (Buffer.zeros maxFrameSize).storeAll 0 (iBlock 0 [0x00, 0xA4]), rest) ∧
        get14443bAnswerFromTag (Buffer.zeros 16) 16 iso14443bReaderTimeout 0
          ((Air.prompt (100, 0) (by decide)).samples (some (encodedAsTag respOk))) = some t ∧
        t.reply = replyOf (Buffer.zeros 16) (16 : UInt16).toNat (some respOk) ∧
        (iso14443bApdu ⟨0, 0, uart14bInit (Buffer.zeros maxFrameSize)⟩ [0x00, 0xA4]
          (some t.reply)).2 = ⟨[iBlock 0 [0x00, 0xA4]], 3⟩ :=
  ⟨by decide, by decide, by rw [Buffer.zeros_length]; decide,
    iso14443bApdu_simulate_acknowledge 0 ⟨Buffer.zeros maxFrameSize, by simp, rfl⟩
      ⟨0, 0, uart14bInit (Buffer.zeros maxFrameSize)⟩ [0x00, 0xA4] (by decide) (Buffer.zeros 16) 16
      (by decide) (by rw [Buffer.zeros_length]; decide) 0
      (SscFrame.packed (iBlock 0 [0x00, 0xA4]) 4)
      (Air.prompt (100, 0) (by decide))⟩

end Iso14443b
