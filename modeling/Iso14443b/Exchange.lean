/-
# The reader's operations over the air: what a tag's answer makes them return

`Reader.lean` takes each reply as the `Reply` its call of `Get14443bAnswerFromTag` hands back.
This module says which replies the air delivers, and follows two operations through them.

**The replies.**  A tag's answer `R`, as a PICC frame after quiet samples within the timeout,
makes `Get14443bAnswerFromTag` hand back `replyOf out max_len (some R)`: `|R|` and `R` stored
from index 0 when it fits in `max_len`, `-2` when it does not (`get14443bAnswerFromTag_reply`);
no answer until the timeout hands back `replyOf out max_len none`, `-1`
(`get14443bAnswerFromTag_silent`).

Over those replies:

* `iso14443b_apdu` sends the I-block and returns `|R| mod 256`, the `uint8_t` it is declared
  to return, for a good answer, and 0 for any other (`iso14443bApdu_over_air`);
* `iso14443b_select_srx_card` returns 0 exactly when the SELECT answer echoes the chip id with
  a good CRC and the GET_UID answer has ten bytes and a good CRC: its INITIATE answer needs
  only one to three bytes, and its CRC is never checked (`iso14443bSelectSrxCard_zero_iff`).
-/
import Iso14443b.Answer
import Iso14443b.Reader

namespace Iso14443b

/-! ## 1. The replies a tag's answer makes -/

/-- `ISO14443B_READER_TIMEOUT`, the timeout of the reader's receive calls, in samples. -/
def iso14443bReaderTimeout : Int := 1700

/-- What a call of `Get14443bAnswerFromTag` hands its caller: the value it returns and the
bytes of the response buffer. -/
def TagAnswer.reply (a : TagAnswer) : Reply := ⟨a.ret, a.demod.output.bytes⟩

/-- The reply a tag's answer `R` makes in the caller's array `out` of `max_len` bytes or more
(`none`: no answer before the timeout): `|R|` if it fits, else `-2`, with `R` stored from 0. -/
def replyOf (out : Buffer) (maxLen : Nat) : Option (List UInt8) → Reply
  | none => ⟨-1, out.bytes⟩
  | some R => ⟨if R.length > maxLen then -2 else R.length, (out.storeAll 0 R).bytes⟩

section Air

variable (out : Buffer) (maxLen : UInt16) (timeout : Int) (sspClk : Nat)

/-- **A PICC frame makes `replyOf`**: after quiet samples within the timeout, the frame of a
tag's answer `R` of fewer than 65536 bytes hands back `replyOf out max_len (some R)`. -/
theorem get14443bAnswerFromTag_reply {r : Int × Int} (ha : 8 < amplitude r.1 r.2)
    (quiet : List (Int × Int)) (hq : ∀ s ∈ quiet, amplitude s.1 s.2 ≤ 8)
    (hql : (quiet.length : Int) ≤ timeout) {tr1 L H E : Nat} {chars : List (UInt8 × Nat)}
    (ht : PiccTiming tr1 L H chars E) (hk : chars.length < 65536) (rest : List (Int × Int)) :
    ∃ a, get14443bAnswerFromTag out maxLen timeout sspClk
        (quiet ++ bpsk r (piccFrame tr1 L H chars E) ++ rest) = some a ∧
      a.reply = replyOf out maxLen.toNat (some (chars.map (·.1))) := by
  obtain ⟨d', hloop, hlen, hout', hmax⟩ :=
    runLoop_answer_frame out maxLen ha quiet hq hql ht hk rest
  simp only [get14443bAnswerFromTag, hloop, hlen, hmax]
  by_cases hfit : chars.length > maxLen.toNat
  · simp [hfit, TagAnswer.reply, replyOf, hout']
  · simp [hfit, TagAnswer.reply, replyOf, hout']

/-- Quiet samples from an unsynchronised demodulator run out the timeout. -/
theorem runLoop_answer_silent {d : Demod} (hs : d.state = .unsyncd) (quiet : List (Int × Int))
    (hq : ∀ s ∈ quiet, amplitude s.1 s.2 ≤ 8) :
    ∀ n, n ≤ timeout.toNat → timeout.toNat < n + quiet.length →
      ∃ k rest, runLoop (answerStep timeout) (d, n) quiet = .inr (.timeout d k, rest) := by
  induction quiet with
  | nil => intro n hn hlt; simp at hlt; omega
  | cons s quiet ih =>
    intro n hn hlt
    have hd : handle14443bSamplesFromTag d s.1 s.2 = (d, false) := demod_quiet hs (hq s (.head _))
    by_cases hexit : timeout < (n : Int) + 1
    · have hstep : answerStep timeout (d, n) s = .inr (.timeout d (n + 1)) := by
        simp [answerStep, hd, hexit, hs, DemodState.toNat]
      exact ⟨n + 1, quiet, runLoop_cons_inr _ hstep _⟩
    · have hstep : answerStep timeout (d, n) s = .inl (d, n + 1) := by
        simp [answerStep, hd, hexit]
      rw [runLoop_cons_inl _ hstep]
      simp only [List.length_cons] at hlt
      exact ih (fun s' h' => hq s' (.tail _ h')) (n + 1) (by omega) (by omega)

/-- **No answer makes `replyOf … none`**: quiet samples past the timeout make
`Get14443bAnswerFromTag` return `-1` with the caller's array untouched. -/
theorem get14443bAnswerFromTag_silent (quiet : List (Int × Int))
    (hq : ∀ s ∈ quiet, amplitude s.1 s.2 ≤ 8) (hql : timeout.toNat < quiet.length)
    (rest : List (Int × Int)) :
    ∃ a, get14443bAnswerFromTag out maxLen timeout sspClk (quiet ++ rest) = some a ∧
      a.reply = replyOf out maxLen.toNat none := by
  obtain ⟨k, rest', hloop⟩ := runLoop_answer_silent timeout (d := demod14bInit out maxLen) rfl quiet
    hq 0 (Nat.zero_le _) (by omega)
  simp only [get14443bAnswerFromTag, runLoop_append_inr _ hloop]
  exact ⟨_, rfl, rfl⟩

end Air

/-! ## 2. `iso14443b_apdu` -/

/-- `iso14443b_apdu(message, len, response, respmaxlen)` fed `samples` after its I-block: the
call `Get14443bAnswerFromTag(response, respmaxlen, ISO14443B_READER_TIMEOUT, …)` and the
checks on what it returns; `none` while the receive loop still waits. -/
def iso14443bApduOverAir (r : Reader) (message : List UInt8) (response : Option Buffer)
    (respmaxlen : UInt16) (sspClk : Nat) (samples : List (Int × Int)) :
    Option (Reader × OpResult) :=
  match response with
  | none => some (iso14443bApdu r message none)
  | some out =>
    (get14443bAnswerFromTag out respmaxlen iso14443bReaderTimeout sspClk samples).map
      fun a => iso14443bApdu r message (some a.reply)

/-- What `iso14443b_apdu` returns for the reply a tag's answer makes. -/
theorem iso14443bApdu_replyOf (r : Reader) (message : List UInt8) {out : Buffer} {maxLen : Nat}
    (hout : maxLen ≤ out.bytes.length) (R : Option (List UInt8)) :
    (iso14443bApdu r message (some (replyOf out maxLen R))).2 =
      ⟨[iBlock r.pcbBlocknum message],
        match R with
        | none => 0
        | some R =>
          if 3 ≤ R.length ∧ R.length ≤ maxLen ∧ checkCrc14B R then R.length % 256 else 0⟩ := by
  cases R with
  | none => simp [iso14443bApdu, replyOf]
  | some R =>
    by_cases hfit : R.length ≤ maxLen
    · have htake : (out.storeAll 0 R).bytes.take R.length = R := by
        simpa using (Buffer.storeAll_take (show 0 + R.length ≤ out.bytes.length by omega)).1
      by_cases h3 : 3 ≤ R.length
      · by_cases hc : checkCrc14B R
        · simp [iso14443bApdu, replyOf, Reply.crcOk, hfit, h3, hc, htake, Nat.not_lt.mpr hfit,
            Int.not_lt.mpr (show (3 : Int) ≤ R.length by omega)]
        · simp [iso14443bApdu, replyOf, Reply.crcOk, hc, htake, Nat.not_lt.mpr hfit,
            Int.not_lt.mpr (show (3 : Int) ≤ R.length by omega)]
      · simp [iso14443bApdu, replyOf, Nat.not_lt.mpr hfit, h3, show (R.length : Int) < 3 by omega]
    · simp [iso14443bApdu, replyOf, hfit, Nat.lt_of_not_le hfit]

/-- **What `iso14443b_apdu` does with a tag's answer**: for any message, any `respmaxlen` and
any answer `R` of fewer than 65536 bytes delivered as a PICC frame after quiet samples within
`ISO14443B_READER_TIMEOUT`, it sends the I-block `0x0A | pcb_blocknum, 0, message, CRC_B`, and
returns `|R| mod 256` if `3 ≤ |R| ≤ respmaxlen` and the CRC_B is good, with `R` at the start of
the response buffer whenever it fits, and 0 otherwise. -/
theorem iso14443bApdu_over_air (r : Reader) (message : List UInt8) (out : Buffer)
    (respmaxlen : UInt16) (hout : respmaxlen.toNat ≤ out.bytes.length) (sspClk : Nat)
    {c : Int × Int} (ha : 8 < amplitude c.1 c.2) (quiet : List (Int × Int))
    (hq : ∀ s ∈ quiet, amplitude s.1 s.2 ≤ 8) (hql : (quiet.length : Int) ≤ iso14443bReaderTimeout)
    {tr1 L H E : Nat} {chars : List (UInt8 × Nat)} (ht : PiccTiming tr1 L H chars E)
    (hk : chars.length < 65536) (rest : List (Int × Int)) :
    (iso14443bApduOverAir r message (some out) respmaxlen sspClk
        (quiet ++ bpsk c (piccFrame tr1 L H chars E) ++ rest)).map (·.2) =
      some ⟨[iBlock r.pcbBlocknum message],
        if 3 ≤ chars.length ∧ chars.length ≤ respmaxlen.toNat ∧ checkCrc14B (chars.map (·.1))
        then chars.length % 256 else 0⟩ ∧
    ∃ a, get14443bAnswerFromTag out respmaxlen iso14443bReaderTimeout sspClk
        (quiet ++ bpsk c (piccFrame tr1 L H chars E) ++ rest) = some a ∧
      (chars.length ≤ respmaxlen.toNat →
        a.demod.output.bytes.take chars.length = chars.map (·.1)) := by
  obtain ⟨a, hget, hrep⟩ := get14443bAnswerFromTag_reply out respmaxlen iso14443bReaderTimeout
    sspClk ha quiet hq hql ht hk rest
  refine ⟨?_, a, hget, fun hfit => ?_⟩
  · simp only [iso14443bApduOverAir, hget, Option.map_some', hrep,
      iso14443bApdu_replyOf r message hout, List.length_map]
  · have hbuf : a.demod.output.bytes = (out.storeAll 0 (chars.map (·.1))).bytes :=
      congrArg Reply.buf hrep
    rw [hbuf]
    simpa using (Buffer.storeAll_take (show 0 + (chars.map (·.1)).length ≤ out.bytes.length by
      simp; omega)).1

/-- A good 256-byte answer (254 zero bytes and their CRC_B) into a 300-byte buffer: the APDU
returns 0, as for a failed exchange. -/
theorem iso14443bApdu_over_air_256 :
    (iso14443bApduOverAir ⟨0, 0, uart14bInit (Buffer.zeros maxFrameSize)⟩ [0x00, 0xB0]
        (some (Buffer.zeros 300)) 300 0
        ([] ++ bpsk (20, 0) (piccFrame 20 10 2
          ((addCrc14B (List.replicate 254 0) 254).map (·, 0)) 10) ++ [])).map (·.2) =
      some ⟨[iBlock 0 [0x00, 0xB0]], 0⟩ := by
  have hlen : (addCrc14B (List.replicate 254 (0 : UInt8)) 254).length = 256 :=
    length_addCrc14B (List.length_replicate 254 0)
  have hcrc := checkCrc14B_addCrc14B_of_length (List.length_replicate 254 (0 : UInt8))
  rw [(iso14443bApdu_over_air ⟨0, 0, uart14bInit (Buffer.zeros maxFrameSize)⟩ [0x00, 0xB0]
    (Buffer.zeros 300) 300 (by rw [Buffer.zeros_length]; decide) 0 (c := (20, 0)) (by decide) []
    (by simp) (by decide) (tagSymbols_timing _) (by rw [List.length_map, hlen]; decide) []).1]
  simp only [List.length_map, hlen, List.map_map, Function.comp_def, List.map_id', hcrc]
  rw [if_pos (by decide)]
  rfl

/-! ## 3. `iso14443b_select_srx_card` -/

/-- **When `iso14443b_select_srx_card` returns 0**, in terms of its three replies: a positive
INITIATE length, a 3-byte SELECT answer with a good CRC that echoes the chip id, and a 10-byte
GET_UID answer with a good CRC. -/
theorem iso14443bSelectSrxCard_ret_zero (init select papid : Reply) :
    (iso14443bSelectSrxCard init select papid).ret = 0 ↔
      0 < init.ret ∧ select.ret = 3 ∧ select.crcOk ∧ init.buf.getD 0 0 = select.buf.getD 0 0 ∧
        papid.ret = 10 ∧ papid.crcOk := by
  unfold iso14443bSelectSrxCard
  by_cases h1 : init.ret ≤ 0
  · rw [if_pos h1]; exact ⟨fun h => by simp at h, fun h => absurd h.1 (by omega)⟩
  rw [if_neg h1]
  by_cases h2 : select.ret ≠ 3
  · rw [if_pos h2]; exact ⟨fun h => by simp at h, fun h => absurd h.2.1 h2⟩
  rw [if_neg h2]
  by_cases h3 : (!select.crcOk) = true
  · rw [if_pos h3]; exact ⟨fun h => by simp at h, fun h => by simp [h.2.2.1] at h3⟩
  rw [if_neg h3]
  -- the chip id the SELECT carries is byte 0 of the INITIATE answer
  have hid : (addCrc14B [iso14443bSelect, init.buf.getD 0 0, 0x00, 0x00] 2).getD 1 0 =
      init.buf.getD 0 0 := rfl
  by_cases h4 : init.buf.getD 0 0 ≠ select.buf.getD 0 0
  · rw [hid, if_pos h4]; exact ⟨fun h => by simp at h, fun h => absurd h.2.2.2.1 h4⟩
  rw [hid, if_neg h4]
  by_cases h5 : papid.ret ≠ 10
  · rw [if_pos h5]; exact ⟨fun h => by simp at h, fun h => absurd h.2.2.2.2.1 h5⟩
  rw [if_neg h5]
  by_cases h6 : (!papid.crcOk) = true
  · rw [if_pos h6]; exact ⟨fun h => by simp at h, fun h => by simp [h.2.2.2.2.2] at h6⟩
  rw [if_neg h6]
  simp only [Bool.not_eq_true', Bool.not_eq_false, not_not] at h1 h2 h3 h4 h5 h6
  exact ⟨fun _ => ⟨by omega, h2, h3, h4, h5, h6⟩, fun _ => rfl⟩

/-- An answer that fits its array is handed back whole: its length, its CRC, its first byte. -/
theorem replyOf_fits (out : Buffer) {n : Nat} {R : List UInt8} (hR : R.length ≤ n)
    (hn : n ≤ out.bytes.length) :
    (replyOf out n (some R)).ret = R.length ∧ (replyOf out n (some R)).crcOk = checkCrc14B R ∧
      (0 < R.length → (replyOf out n (some R)).buf.getD 0 0 = R.getD 0 0) := by
  have hret : (replyOf out n (some R)).ret = R.length := by simp [replyOf, Nat.not_lt.mpr hR]
  have htake : (replyOf out n (some R)).buf.take R.length = R := by
    simpa [replyOf] using (Buffer.storeAll_take (show 0 + R.length ≤ out.bytes.length by omega)).1
  refine ⟨hret, by rw [Reply.crcOk, hret, Int.toNat_ofNat, htake], fun h => ?_⟩
  rw [List.getD_eq_getElem?_getD, ← List.getElem?_take_of_lt h, htake, List.getD_eq_getElem?_getD]

/-- A positive length comes from an answer that fits. -/
theorem replyOf_ret_pos {out : Buffer} {n : Nat} {R : Option (List UInt8)}
    (h : 0 < (replyOf out n R).ret) : ∃ A, R = some A ∧ 1 ≤ A.length ∧ A.length ≤ n := by
  cases R with
  | none => simp [replyOf] at h
  | some A =>
    simp only [replyOf] at h
    split at h
    · omega
    · exact ⟨A, rfl, by omega, by omega⟩

/-- **When `iso14443b_select_srx_card` returns 0**, for any answers (or none) to INITIATE,
SELECT and GET_UID in its arrays of 3, 3 and 10 bytes: exactly when the INITIATE answer has one
to three bytes, whatever they are; the SELECT answer has three bytes and a good CRC_B and starts
with the chip id; and the GET_UID answer has ten bytes and a good CRC_B.  The INITIATE answer's
length is not checked, nor its CRC. -/
theorem iso14443bSelectSrxCard_zero_iff (init select papid : Option (List UInt8)) :
    (iso14443bSelectSrxCard (replyOf (Buffer.zeros 3) 3 init) (replyOf (Buffer.zeros 3) 3 select)
        (replyOf (Buffer.zeros 10) 10 papid)).ret = 0 ↔
      ∃ A S U, init = some A ∧ select = some S ∧ papid = some U ∧
        1 ≤ A.length ∧ A.length ≤ 3 ∧ S.length = 3 ∧ checkCrc14B S ∧ S.getD 0 0 = A.getD 0 0 ∧
        U.length = 10 ∧ checkCrc14B U := by
  rw [iso14443bSelectSrxCard_ret_zero]
  constructor
  · rintro ⟨h1, h2, h3, h4, h5, h6⟩
    obtain ⟨A, rfl, hA1, hA3⟩ := replyOf_ret_pos h1
    obtain ⟨S, rfl, -, hS3⟩ := replyOf_ret_pos (h2 ▸ (by decide : (0 : Int) < 3))
    obtain ⟨U, rfl, -, hU10⟩ := replyOf_ret_pos (h5 ▸ (by decide : (0 : Int) < 10))
    obtain ⟨rA, -, gA⟩ := replyOf_fits (Buffer.zeros 3) hA3 (by simp)
    obtain ⟨rS, cS, gS⟩ := replyOf_fits (Buffer.zeros 3) hS3 (by simp)
    obtain ⟨rU, cU, -⟩ := replyOf_fits (Buffer.zeros 10) hU10 (by simp)
    have hS : S.length = 3 := by omega
    refine ⟨A, S, U, rfl, rfl, rfl, hA1, hA3, hS, cS ▸ h3, ?_, by omega, cU ▸ h6⟩
    rw [← gS (by omega), ← gA hA1, h4]
  · rintro ⟨A, S, U, rfl, rfl, rfl, hA1, hA3, hS, hcS, hecho, hU, hcU⟩
    obtain ⟨rA, -, gA⟩ := replyOf_fits (Buffer.zeros 3) hA3 (by simp)
    obtain ⟨rS, cS, gS⟩ := replyOf_fits (Buffer.zeros 3) hS.le (by simp)
    obtain ⟨rU, cU, -⟩ := replyOf_fits (Buffer.zeros 10) hU.le (by simp)
    refine ⟨by rw [rA]; omega, by rw [rS, hS]; rfl, by rw [cS, hcS], ?_, by rw [rU, hU]; rfl,
      by rw [cU, hcU]⟩
    rw [gA hA1, gS (by omega), hecho]

set_option maxRecDepth 2000 in
/-- The chip id alone, with no CRC, answers the INITIATE of a selection that succeeds. -/
example : (iso14443bSelectSrxCard (replyOf (Buffer.zeros 3) 3 (some [0x42]))
    (replyOf (Buffer.zeros 3) 3 (some (addCrc14B [0x42] 1)))
    (replyOf (Buffer.zeros 10) 10 (some (addCrc14B [1, 2, 3, 4, 5, 6, 7, 8] 8)))).ret = 0 := by
  decide

end Iso14443b
