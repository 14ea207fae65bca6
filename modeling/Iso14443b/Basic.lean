/-
# ISO 14443 Type B: what every part of the engine shares

`iso14443b.c` hands bytes around in caller-owned `uint8_t` arrays, appends and checks the
CRC_B of ISO 14443-3 with helpers that live outside the file, and names its command bytes and
buffer sizes with macros declared elsewhere.  This module fixes those shared pieces once.

* `Buffer` is a caller's array.  A store inside it replaces one byte.  A store outside it is
  undefined behaviour in C; the model leaves the bytes alone and raises `fault`, so that "no
  store ever leaves the array" is the statement that `fault` stays `false`.
* `crc14b`, `addCrc14B` and `checkCrc14B` are CRC_B as the spec describes it (§6): CRC-16 with
  polynomial 0x1021 reflected, initial value 0xFFFF, final XOR 0xFFFF, appended low byte first.
* the command bytes and `maxFrameSize`.
-/
import Mathlib.Data.List.Basic
import Mathlib.Tactic.IntervalCases

namespace Iso14443b

/-! ## 1. Constants declared outside `iso14443b.c` -/

/-- Modelled from the spec: `MAX_FRAME_SIZE` is declared outside `src/`.  The spec bounds
`byteCntMax ≤ MAX_FRAME_SIZE`, and `iso14b_set_maxframesize` keeps every size up to 256, the
largest entry of the spec's frame-size list, so the bound is 256. -/
def maxFrameSize : Nat := 256

/-- Modelled from the spec: `ISO14443B_REQB`, the first byte of REQB and WUPB. -/
def iso14443bReqb : UInt8 := 0x05

/-- Modelled from the spec: `ISO14443B_ATTRIB`. -/
def iso14443bAttrib : UInt8 := 0x1D

/-- Modelled from the spec: `ISO14443B_HALT`, the first byte of HLTB. -/
def iso14443bHalt : UInt8 := 0x50

/-- Modelled from the spec: `ISO14443B_INITIATE` (SRx). -/
def iso14443bInitiate : UInt8 := 0x06

/-- Modelled from the spec: `ISO14443B_SELECT` (SRx). -/
def iso14443bSelect : UInt8 := 0x0E

/-- Modelled from the spec: `ISO14443B_GET_UID` (SRx). -/
def iso14443bGetUid : UInt8 := 0x0B

/-! ## 2. Caller buffers -/

/-- A caller's byte array as the C code receives it.  `fault` records a store outside the
array, which C leaves undefined. -/
structure Buffer where
  bytes : List UInt8
  fault : Bool
  deriving DecidableEq, Repr

namespace Buffer

/-- A zero-initialised local array of `n` bytes (`uint8_t buf[n] = {0}`). -/
def zeros (n : Nat) : Buffer := ⟨List.replicate n 0, false⟩

/-- `buf[i] = x`. -/
def store (b : Buffer) (i : Nat) (x : UInt8) : Buffer :=
  if i < b.bytes.length then { b with bytes := b.bytes.set i x } else { b with fault := true }

@[simp] theorem zeros_length (n : Nat) : (zeros n).bytes.length = n := by simp [zeros]

@[simp] theorem zeros_fault (n : Nat) : (zeros n).fault = false := rfl

@[simp] theorem store_length (b : Buffer) (i : Nat) (x : UInt8) :
    (b.store i x).bytes.length = b.bytes.length := by
  unfold store; split <;> simp

theorem store_of_lt {b : Buffer} {i : Nat} (h : i < b.bytes.length) (x : UInt8) :
    b.store i x = { b with bytes := b.bytes.set i x } := if_pos h

theorem store_of_le {b : Buffer} {i : Nat} (h : b.bytes.length ≤ i) (x : UInt8) :
    b.store i x = { b with fault := true } := if_neg (Nat.not_lt.mpr h)

/-- **A store faults exactly when it leaves the array**, and a fault is never cleared. -/
@[simp] theorem store_fault (b : Buffer) (i : Nat) (x : UInt8) :
    (b.store i x).fault = (b.fault || decide (b.bytes.length ≤ i)) := by
  unfold store; split <;> simp_all

/-- **Storing at the end of a received prefix extends it**: after bytes `0 … i-1` hold `pre`,
a store at `i` inside the array makes bytes `0 … i` hold `pre ++ [x]`. -/
theorem store_take {b : Buffer} {i : Nat} {x : UInt8} {pre : List UInt8}
    (hpre : b.bytes.take i = pre) (h : i < b.bytes.length) :
    (b.store i x).bytes.take (i + 1) = pre ++ [x] := by
  rw [store_of_lt h, ← hpre]
  simp only [List.set_eq_take_append_cons_drop, h, if_true]
  simp [List.take_append_eq_append_take, List.length_take, Nat.min_eq_left (Nat.le_of_lt h)]

/-- Stores `bs` at positions `k`, `k + 1`, … in order. -/
def storeAll (out : Buffer) (k : Nat) : List UInt8 → Buffer
  | [] => out
  | b :: bs => (out.store k b).storeAll (k + 1) bs

@[simp] theorem storeAll_nil (out : Buffer) (k : Nat) : out.storeAll k [] = out := rfl

@[simp] theorem storeAll_cons (out : Buffer) (k : Nat) (b : UInt8) (bs : List UInt8) :
    out.storeAll k (b :: bs) = (out.store k b).storeAll (k + 1) bs := rfl

theorem storeAll_append (out : Buffer) (k : Nat) (bs : List UInt8) (b : UInt8) :
    out.storeAll k (bs ++ [b]) = (out.storeAll k bs).store (k + bs.length) b := by
  induction bs generalizing out k with
  | nil => rfl
  | cons c bs ih => rw [List.cons_append, storeAll_cons, ih]; simp [Nat.add_assoc, Nat.add_comm 1]

@[simp] theorem storeAll_length (out : Buffer) (k : Nat) (bs : List UInt8) :
    (out.storeAll k bs).bytes.length = out.bytes.length := by
  induction bs generalizing out k with
  | nil => rfl
  | cons b bs ih => simp [ih]

/-- **Storing a sequence that fits** leaves it, in order, after the untouched prefix, and
raises no fault. -/
theorem storeAll_take {out : Buffer} {k : Nat} {bs : List UInt8}
    (h : k + bs.length ≤ out.bytes.length) :
    (out.storeAll k bs).bytes.take (k + bs.length) = out.bytes.take k ++ bs ∧
      (out.storeAll k bs).fault = out.fault := by
  induction bs using List.reverseRecOn with
  | nil => simp
  | append_singleton bs b ih =>
    simp only [List.length_append, List.length_singleton] at h
    obtain ⟨ih1, ih2⟩ := ih (by omega)
    have hlt : k + bs.length < (out.storeAll k bs).bytes.length := by simp; omega
    rw [storeAll_append, List.length_append, List.length_singleton, ← Nat.add_assoc,
      store_take ih1 hlt, store_fault, ih2, decide_eq_false (Nat.not_le.mpr hlt)]
    simp

/-- Stores from `k` on leave the bytes before `k`, inside the array or not. -/
theorem storeAll_take_self (out : Buffer) (k : Nat) (bs : List UInt8) :
    (out.storeAll k bs).bytes.take k = out.bytes.take k := by
  induction bs generalizing out k with
  | nil => rfl
  | cons b bs ih =>
    have hs : (out.store k b).bytes.take k = out.bytes.take k := by
      unfold store; split <;> simp [List.set_take, List.set_eq_of_length_le]
    simpa [List.take_take, hs] using congrArg (List.take k) (ih (out.store k b) (k + 1))

/-- Stores of `bs` from `k` on leave the bytes after them, inside the array or not. -/
theorem storeAll_drop_self (out : Buffer) (k : Nat) (bs : List UInt8) :
    (out.storeAll k bs).bytes.drop (k + bs.length) = out.bytes.drop (k + bs.length) := by
  induction bs generalizing out k with
  | nil => rfl
  | cons b bs ih =>
    have hs : (out.store k b).bytes.drop (k + 1 + bs.length) =
        out.bytes.drop (k + 1 + bs.length) := by
      unfold store; split
      · exact List.drop_set_of_lt b out.bytes (by omega)
      · rfl
    rw [storeAll_cons, List.length_cons, show k + (bs.length + 1) = k + 1 + bs.length by omega,
      ih, hs]

/-- **Storing a sequence that fits replaces exactly its bytes**, in order, and leaves those
before and after it. -/
theorem storeAll_bytes {out : Buffer} {k : Nat} {bs : List UInt8}
    (h : k + bs.length ≤ out.bytes.length) :
    (out.storeAll k bs).bytes = out.bytes.take k ++ bs ++ out.bytes.drop (k + bs.length) := by
  rw [← (storeAll_take h).1, ← storeAll_drop_self, List.take_append_drop]

/-- A fault, once raised, survives every later store. -/
theorem storeAll_fault_of_fault {out : Buffer} (h : out.fault = true) (k : Nat)
    (bs : List UInt8) : (out.storeAll k bs).fault = true := by
  induction bs generalizing out k with
  | nil => exact h
  | cons b bs ih => exact ih (by simp [h]) _

/-- **Storing from the end of the array on faults**, as soon as there is a byte to store. -/
theorem storeAll_fault_of_le {out : Buffer} {k : Nat} (h : out.bytes.length ≤ k)
    {bs : List UInt8} (hbs : 0 < bs.length) : (out.storeAll k bs).fault = true := by
  cases bs with
  | nil => cases hbs
  | cons b bs =>
    rw [storeAll_cons]
    exact storeAll_fault_of_fault (by simp [h]) _ _

end Buffer

/-! ## 3. CRC_B -/

/-- One byte of the reflected CRC-16 update: polynomial 0x1021, reflected to 0x8408. -/
def crcUpdate (crc : Nat) (b : UInt8) : Nat :=
  (List.range 8).foldl (fun c _ => if c % 2 = 1 then c / 2 ^^^ 0x8408 else c / 2) (crc ^^^ b.toNat)

/-- Modelled from the spec: `crc14b`, computed outside `src/`: CRC-16 with polynomial 0x1021
reflected, initial value 0xFFFF and final XOR 0xFFFF. -/
def crc14b (data : List UInt8) : Nat := data.foldl crcUpdate 0xFFFF ^^^ 0xFFFF

/-- The CRC_B of `data` as it goes on the wire: low byte first. -/
def crcBytes (data : List UInt8) : List UInt8 :=
  [UInt8.ofNat (crc14b data), UInt8.ofNat (crc14b data / 256)]

/-- Modelled from the spec: `AddCrc14B(data, len)` writes the CRC_B of the first `len` bytes
into bytes `len` and `len + 1` of the array. -/
def addCrc14B (data : List UInt8) (len : Nat) : List UInt8 :=
  data.take len ++ crcBytes (data.take len) ++ data.drop (len + 2)

/-- Modelled from the spec: `check_crc(CRC_14443_B, data, len)` holds when the last two bytes
are the CRC_B of the bytes before them. -/
def checkCrc14B (data : List UInt8) : Bool :=
  2 ≤ data.length && crcBytes (data.take (data.length - 2)) == data.drop (data.length - 2)

/-- The WUPB the reader sends carries its own CRC_B, `39 73`. -/
example : addCrc14B [0x05, 0x00, 0x08, 0, 0] 3 = [0x05, 0x00, 0x08, 0x39, 0x73] := by decide

/-- **A frame with its CRC appended passes the check.** -/
theorem checkCrc14B_addCrc14B (data : List UInt8) :
    checkCrc14B (addCrc14B data data.length) = true := by
  simp [checkCrc14B, addCrc14B, crcBytes]

theorem length_addCrc14B {data : List UInt8} {n : Nat} (h : data.length = n) :
    (addCrc14B data n).length = n + 2 := by
  subst h; simp [addCrc14B, crcBytes]

theorem checkCrc14B_addCrc14B_of_length {data : List UInt8} {n : Nat} (h : data.length = n) :
    checkCrc14B (addCrc14B data n) = true := by
  subst h; exact checkCrc14B_addCrc14B data

/-- A frame that passes the check has at least its two CRC bytes. -/
theorem two_le_of_checkCrc14B {data : List UInt8} (h : checkCrc14B data = true) :
    2 ≤ data.length := by
  simp only [checkCrc14B, Bool.and_eq_true, decide_eq_true_eq] at h
  exact h.1

/-! ## 4. The decoders' shift register and sample loops -/

/-- `shiftReg >>= 1; if (bit) shiftReg |= 0x200;`: both decoders shift a 10-bit character in
from the top, so that after ten bits the first one sits at bit 0. -/
def shiftIn (s : Nat) (bit : Bool) : Nat := if bit then s >>> 1 ||| 0x200 else s >>> 1

theorem shiftIn_eq {s : Nat} (h : s < 1024) (bit : Bool) :
    shiftIn s bit = s / 2 + if bit then 512 else 0 := by
  have hs : s >>> 1 = s / 2 := by simp [Nat.shiftRight_eq_div_pow]
  cases bit
  · simp [shiftIn, hs]
  · simp only [shiftIn, if_true, hs]
    rw [Nat.or_comm, ← Nat.mul_add_lt_is_or (i := 9) (by omega) 1]
    omega

theorem shiftIn_eq_toNat {s : Nat} (h : s < 1024) (bit : Bool) :
    shiftIn s bit = s / 2 + 512 * bit.toNat := by
  rw [shiftIn_eq h]; cases bit <;> simp

/-- The stop bit `512` is set in the register of a received character. -/
theorem stop_bit_set {n : Nat} (h : n < 256) : (512 + 2 * n) &&& 0x200 ≠ 0 := by
  intro h0
  have h9 : ((512 + 2 * n) &&& 0x200).testBit 9 = false := by rw [h0]; rfl
  rw [Nat.testBit_and, Nat.testBit_to_div_mod, Nat.testBit_to_div_mod] at h9
  simp at h9
  omega

/-- **Shifting in the low bits of `n`, least significant first**, leaves them at the top of the
10-bit register. -/
theorem foldl_shiftIn_testBit (n : Nat) {j : Nat} (hj : j ≤ 8) :
    ((List.range j).map n.testBit).foldl shiftIn 0 = n % 2 ^ j * 2 ^ (10 - j) := by
  induction j with
  | zero => simp [Nat.mod_one]
  | succ j ih =>
    -- the register's scale before and after the new bit: `2 P` and `P`, with `2 ^ j * P = 512`
    have hP : 2 ^ (10 - j) = 2 * 2 ^ (10 - (j + 1)) := by
      rw [← Nat.pow_succ']; congr 1; omega
    have hQP : 2 ^ j * 2 ^ (10 - (j + 1)) = 512 := by
      rw [← Nat.pow_add, show j + (10 - (j + 1)) = 9 by omega]
    have hlt := Nat.mod_lt n (Nat.two_pow_pos j)
    rw [List.range_succ, List.map_append, List.foldl_append, ih (by omega), List.map_singleton,
      List.foldl_cons, List.foldl_nil, shiftIn_eq_toNat, Nat.toNat_testBit, Nat.mod_pow_succ, hP]
    · rw [Nat.mul_left_comm, Nat.mul_div_cancel_left _ two_pos, ← hQP, Nat.add_mul,
        Nat.mul_right_comm (2 ^ j)]
    · rw [hP]
      calc n % 2 ^ j * (2 * 2 ^ (10 - (j + 1))) < 2 ^ j * (2 * 2 ^ (10 - (j + 1))) :=
            Nat.mul_lt_mul_of_pos_right hlt (Nat.mul_pos two_pos (Nat.two_pow_pos _))
        _ = 1024 := by rw [Nat.mul_left_comm, hQP]

/-- The stop bit shifted in after a character's byte. -/
theorem shiftIn_stop (b : UInt8) : shiftIn (4 * b.toNat) true = 512 + 2 * b.toNat := by
  have := b.toNat_lt_size
  simp only [UInt8.size] at this
  rw [shiftIn_eq (by omega)]
  simp; omega

/-- Zero bits leave an empty register empty. -/
theorem foldl_shiftIn_zeros (n : Nat) : (List.replicate n false).foldl shiftIn 0 = 0 := by
  induction n with
  | zero => rfl
  | succ n ih => rw [List.replicate_succ, List.foldl_cons]; exact ih

/-- A sample loop: each sample either keeps the loop going in a new state (`inl`) or makes it
leave with a result (`inr`).  `runLoop` feeds the samples in order and reports the state the
loop is still waiting in when they run out, or the result it left with and the samples it did
not read. -/
def runLoop {σ α β : Type} (step : σ → α → σ ⊕ β) : σ → List α → σ ⊕ (β × List α)
  | s, [] => .inl s
  | s, a :: as =>
    match step s a with
    | .inl s' => runLoop step s' as
    | .inr b => .inr (b, as)

section RunLoop

variable {σ α β : Type} (step : σ → α → σ ⊕ β)

@[simp] theorem runLoop_nil (s : σ) : runLoop step s [] = .inl s := rfl

theorem runLoop_cons_inl {s s' : σ} {a : α} (h : step s a = .inl s') (as : List α) :
    runLoop step s (a :: as) = runLoop step s' as := by
  simp [runLoop, h]

theorem runLoop_cons_inr {s : σ} {b : β} {a : α} (h : step s a = .inr b) (as : List α) :
    runLoop step s (a :: as) = .inr (b, as) := by
  simp [runLoop, h]

/-- **Segments compose**: a loop still waiting after `xs` continues with `ys`. -/
theorem runLoop_append_inl {s s' : σ} {xs : List α} (h : runLoop step s xs = .inl s')
    (ys : List α) : runLoop step s (xs ++ ys) = runLoop step s' ys := by
  induction xs generalizing s with
  | nil => cases h; rfl
  | cons a as ih =>
    cases hs : step s a with
    | inl s₁ =>
      rw [runLoop_cons_inl step hs] at h
      rw [List.cons_append, runLoop_cons_inl step hs]
      exact ih h
    | inr b => rw [runLoop_cons_inr step hs] at h; cases h

/-- A loop that left during `xs` leaves the same way, with `ys` unread as well. -/
theorem runLoop_append_inr {s : σ} {xs rest : List α} {b : β}
    (h : runLoop step s xs = .inr (b, rest)) (ys : List α) :
    runLoop step s (xs ++ ys) = .inr (b, rest ++ ys) := by
  induction xs generalizing s with
  | nil => cases h
  | cons a as ih =>
    cases hs : step s a with
    | inl s₁ =>
      rw [runLoop_cons_inl step hs] at h
      rw [List.cons_append, runLoop_cons_inl step hs]
      exact ih h
    | inr b' =>
      rw [runLoop_cons_inr step hs] at h
      cases h
      rw [List.cons_append, runLoop_cons_inr step hs]

/-- **A loop still waiting after `xs ++ ys` was waiting after `xs`.** -/
theorem runLoop_prefix_inl {s t : σ} {xs ys : List α} (h : runLoop step s (xs ++ ys) = .inl t) :
    ∃ t', runLoop step s xs = .inl t' := by
  cases hx : runLoop step s xs with
  | inl t' => exact ⟨t', rfl⟩
  | inr p =>
    rw [runLoop_append_inr step (show runLoop step s xs = .inr (p.1, p.2) from hx)] at h
    cases h

end RunLoop

end Iso14443b
