/-
# The stuffbit buffer and the two frame encoders

`CodeIso14443bAsReader` and `CodeIso14443bAsTag` (`iso14443b.c`) write a frame one symbol at a
time with `tosend_stuffbit`, then turn the cursor `max` from the position of the last byte into
a length.  `TransmitFor14443b_AsReader` reads back `max` whole bytes, MSB first, and modulates
the field for every 0.

`tosend_stuffbit` lives outside `src/`; it is modelled from the spec (§3): each byte carries
eight symbols MSB first, and a byte is opened at zero when the previous one is full.  The
packing theorem `holds_stuffbits` says what the buffer then holds: the symbols pushed, followed
by the zero tail of the last byte.  Applied to the reader encoder it gives the exact symbol
stream the transmitter sends (`codeIso14443bAsReader_symbols`).

That stream is where the encoder and its own comment part ways.  The encoder pushes a fixed
run of eight 1s "to ensure that last byte is filled up", but eight 1s only fill the last byte
when the frame before them, `30 + 10 * len` symbols with the run, ends on a byte boundary,
that is when `len % 4 = 1`.  For every other length the last byte ends in zeros, and the
transmitter modulates the field once more after the EOF (`transmitFor14443bAsReader_modulates_after_eof`).
-/
import Iso14443b.Basic

namespace Iso14443b

/-! ## 1. The buffer -/

/-- Modelled from the spec: the stuffbit buffer `ToSend` (§3).  `buf` holds bytes
`0 … max`, `max` is the position of the last byte, and `bit` counts the symbols already
written into it. -/
structure ToSend where
  buf : List UInt8
  max : Int
  bit : Nat
  deriving DecidableEq, Repr

/-- Modelled from the spec: `tosend_reset`, an empty buffer whose next symbol opens byte 0. -/
def tosendReset : ToSend := ⟨[], -1, 8⟩

/-- `buf[max] |= (1 << k)`, with the `int` mask of the C expression. -/
def orBit (x : UInt8) (k : Nat) : UInt8 := UInt8.ofNat (x.toNat ||| 1 <<< k)

/-- Modelled from the spec: `tosend_stuffbit(b)`.  A full byte is followed by a fresh zero
byte; a 1 sets the symbol's bit, counted from the most significant. -/
def tosendStuffbit (ts : ToSend) (b : Bool) : ToSend :=
  let ts := if 8 ≤ ts.bit then ⟨ts.buf ++ [0], ts.max + 1, 0⟩ else ts
  let ts := if b then { ts with buf := ts.buf.modify (orBit · (7 - ts.bit)) ts.max.toNat } else ts
  { ts with bit := ts.bit + 1 }

/-- One `tosend_stuffbit` call per symbol, in order. -/
def stuffbits (ts : ToSend) (syms : List Bool) : ToSend := syms.foldl tosendStuffbit ts

@[simp] theorem stuffbits_nil (ts : ToSend) : stuffbits ts [] = ts := rfl

@[simp] theorem stuffbits_append (ts : ToSend) (a b : List Bool) :
    stuffbits ts (a ++ b) = stuffbits (stuffbits ts a) b := List.foldl_append ..

/-! ## 2. Reading the buffer back -/

/-- The eight symbols of a byte, most significant bit first, as the transmitter reads them
(`data & 0x80`, then `data <<= 1`). -/
def byteSymbols (x : UInt8) : List Bool := (List.range 8).map fun k => x.toNat.testBit (7 - k)

/-- All symbols of a byte sequence. -/
def symbolsOf (buf : List UInt8) : List Bool := buf.flatMap byteSymbols

@[simp] theorem symbolsOf_append (a b : List UInt8) :
    symbolsOf (a ++ b) = symbolsOf a ++ symbolsOf b := List.flatMap_append ..

@[simp] theorem symbolsOf_singleton (x : UInt8) : symbolsOf [x] = byteSymbols x := by
  simp [symbolsOf]

@[simp] theorem length_byteSymbols (x : UInt8) : (byteSymbols x).length = 8 := by
  simp [byteSymbols]

@[simp] theorem length_symbolsOf (buf : List UInt8) : (symbolsOf buf).length = 8 * buf.length := by
  induction buf with
  | nil => rfl
  | cons x t ih =>
    rw [← List.singleton_append, symbolsOf_append, List.length_append, ih]
    simp; omega

theorem toNat_orBit (x : UInt8) {k : Nat} (hk : k < 8) :
    (orBit x k).toNat = x.toNat ||| 2 ^ k := by
  have hx : x.toNat < 2 ^ 8 := x.toNat_lt_size
  have hk' : 2 ^ k < 2 ^ 8 := Nat.pow_lt_pow_right (by decide) hk
  rw [orBit, Nat.one_shiftLeft, UInt8.toNat_ofNat_of_lt (Nat.or_lt_two_pow hx hk')]

/-- **Setting bit `k` sets symbol `7 - k`.** -/
theorem byteSymbols_orBit (x : UInt8) {k : Nat} (hk : k < 8) :
    byteSymbols (orBit x k) = (byteSymbols x).set (7 - k) true := by
  apply List.ext_getElem (by simp)
  intro j hj _
  simp only [byteSymbols, List.length_map, List.length_range] at hj
  simp only [byteSymbols, List.getElem_map, List.getElem_range, List.getElem_set, toNat_orBit x hk,
    Nat.testBit_or, Nat.testBit_two_pow]
  by_cases h : 7 - k = j <;> simp [h] <;> omega

theorem byteSymbols_zero : byteSymbols 0 = List.replicate 8 false := by decide

theorem byteSymbols_orBit_zero : byteSymbols (orBit 0 7) = true :: List.replicate 7 false := by
  decide

theorem modify_concat (f : UInt8 → UInt8) (l : List UInt8) (a : UInt8) :
    (l ++ [a]).modify f l.length = l ++ [f a] := by
  rw [List.modify_eq_take_cons_drop (by simp)]
  simp

/-! ## 3. What the buffer holds -/

/-- `ts` holds the symbols `syms`: its bytes, read MSB first, are `syms` followed by the
unused and still zero tail of the last byte. -/
structure Holds (ts : ToSend) (syms : List Bool) : Prop where
  bit_le : ts.bit ≤ 8
  max_eq : ts.max + 1 = ts.buf.length
  length_eq : syms.length + (8 - ts.bit) = 8 * ts.buf.length
  symbols_eq : symbolsOf ts.buf = syms ++ List.replicate (8 - ts.bit) false

theorem holds_reset : Holds tosendReset [] := ⟨by decide, by decide, by decide, by decide⟩

theorem tosendStuffbit_of_eq {ts : ToSend} (hbit : ts.bit = 8) (hmax : ts.max + 1 = ts.buf.length)
    (b : Bool) :
    tosendStuffbit ts b = ⟨if b then ts.buf ++ [orBit 0 7] else ts.buf ++ [0], ts.max + 1, 1⟩ := by
  have : (ts.max + 1).toNat = ts.buf.length := by rw [hmax]; simp
  cases b <;> simp [tosendStuffbit, hbit, this, modify_concat]

theorem tosendStuffbit_of_lt {ts : ToSend} (hbit : ts.bit < 8) (b : Bool) :
    tosendStuffbit ts b =
      ⟨if b then ts.buf.modify (orBit · (7 - ts.bit)) ts.max.toNat else ts.buf, ts.max, ts.bit + 1⟩ := by
  cases b <;> simp [tosendStuffbit, Nat.not_le.mpr hbit]

/-- A full last byte: the next symbol opens a zero byte. -/
theorem holds_stuffbit_open {ts : ToSend} {syms : List Bool} (h : Holds ts syms)
    (hbit : ts.bit = 8) (b : Bool) : Holds (tosendStuffbit ts b) (syms ++ [b]) := by
  have hsym := h.symbols_eq
  have hlen := h.length_eq
  rw [hbit, Nat.sub_self, List.replicate_zero, List.append_nil] at hsym
  rw [hbit] at hlen
  rw [tosendStuffbit_of_eq hbit h.max_eq]
  refine ⟨by simp, ?_, ?_, ?_⟩ <;> cases b <;>
    simp [h.max_eq, hsym, byteSymbols_zero, byteSymbols_orBit_zero] <;> omega

/-- A partly written last byte: the next symbol goes into it. -/
theorem holds_stuffbit_fill {ts : ToSend} {syms : List Bool} (h : Holds ts syms)
    (hbit : ts.bit < 8) (b : Bool) : Holds (tosendStuffbit ts b) (syms ++ [b]) := by
  obtain ⟨init, cur, hbuf⟩ : ∃ init cur, ts.buf = init ++ [cur] := by
    rcases List.eq_nil_or_concat ts.buf with hnil | ⟨init, cur, hc⟩
    · have := h.length_eq
      simp [hnil] at this
      omega
    · exact ⟨init, cur, by simpa using hc⟩
  have hlen := h.length_eq
  have hsym := h.symbols_eq
  simp only [hbuf, symbolsOf_append, symbolsOf_singleton, List.length_append,
    List.length_singleton] at hlen hsym
  -- `syms` is the full bytes `init` followed by the first `bit` symbols of `cur`
  have hsplit : syms = symbolsOf init ++ (byteSymbols cur).take ts.bit := by
    have := congrArg (List.take syms.length) hsym
    rw [List.take_left' rfl] at this
    rw [← this, List.take_append_eq_append_take, List.take_of_length_le (by simp; omega)]
    congr 2
    simp; omega
  have hcur : byteSymbols cur =
      (byteSymbols cur).take ts.bit ++ false :: List.replicate (8 - (ts.bit + 1)) false := by
    rw [hsplit, List.append_assoc] at hsym
    rw [List.append_cancel_left hsym, show 8 - ts.bit = (8 - (ts.bit + 1)) + 1 by omega,
      List.replicate_succ, List.take_left' (by simp; omega)]
  have hmax : ts.max.toNat = init.length := by
    have := h.max_eq; rw [hbuf] at this; simp at this; omega
  rw [tosendStuffbit_of_lt hbit]
  refine ⟨by simp; omega, ?_, ?_, ?_⟩
  · cases b <;> simp [h.max_eq]
  · simp only [List.length_append, List.length_singleton, apply_ite List.length, List.length_modify,
      ite_self, hbuf]
    omega
  · cases b
    · simp only [if_false, Bool.false_eq_true, hbuf, symbolsOf_append, symbolsOf_singleton]
      rw [hcur, hsplit]
      simp
    · have htake : ((byteSymbols cur).take ts.bit).length = ts.bit := by simp; omega
      simp only [if_true, hbuf, hmax, modify_concat, symbolsOf_append, symbolsOf_singleton]
      rw [byteSymbols_orBit cur (by omega), show 7 - (7 - ts.bit) = ts.bit by omega, hcur,
        List.set_append_right _ _ (by omega), htake, Nat.sub_self, hsplit]
      simp

theorem holds_stuffbit {ts : ToSend} {syms : List Bool} (h : Holds ts syms) (b : Bool) :
    Holds (tosendStuffbit ts b) (syms ++ [b]) :=
  if hbit : ts.bit < 8 then holds_stuffbit_fill h hbit b
  else holds_stuffbit_open h (by have := h.bit_le; omega) b

/-- **The packing theorem**: pushing `bs` appends `bs` to the symbols the buffer holds. -/
theorem holds_stuffbits {ts : ToSend} {syms : List Bool} (h : Holds ts syms) (bs : List Bool) :
    Holds (stuffbits ts bs) (syms ++ bs) := by
  induction bs using List.reverseRecOn with
  | nil => simpa using h
  | append_singleton bs b ih =>
    rw [stuffbits_append, ← List.append_assoc]
    exact holds_stuffbit ih b

theorem stuffbits_bit_pos (ts : ToSend) {bs : List Bool} (hbs : bs ≠ []) :
    0 < (stuffbits ts bs).bit := by
  obtain ⟨init, b, rfl⟩ := (List.eq_nil_or_concat bs).resolve_left hbs
  simp [stuffbits, tosendStuffbit]

/-! ## 4. The encoders -/

/-- The ten symbols of one character: start bit 0, the data bits least significant first
(`(b >> k) & 1`), stop bit 1. -/
def charSymbols (b : UInt8) : List Bool := false :: (List.range 8).map b.toNat.testBit ++ [true]

@[simp] theorem length_charSymbols (b : UInt8) : (charSymbols b).length = 10 := by
  simp [charSymbols]

/-- `CodeIso14443bAsReader(cmd, len)`: one stuffbit per ETU. -/
def codeIso14443bAsReader (cmd : List UInt8) : ToSend :=
  let ts := tosendReset
  -- SOF: 10 ETUs of ZERO, then 2 ETUs of ONE
  let ts := stuffbits ts (List.replicate 10 false)
  let ts := stuffbits ts [true, true]
  -- the command, LSB first
  let ts := cmd.foldl (fun ts b => stuffbits ts (charSymbols b)) ts
  -- EOF: 10 ETUs of ZERO
  let ts := stuffbits ts (List.replicate 10 false)
  -- "ensure that last byte is filled up"
  let ts := stuffbits ts (List.replicate 8 true)
  -- "Convert from last character reference to length"
  { ts with max := ts.max + 1 }

/-- `SEND4STUFFBIT(x)`: a tag-direction symbol is four stuffbits. -/
def send4Stuffbit (ts : ToSend) (x : Bool) : ToSend := stuffbits ts (List.replicate 4 x)

/-- `CodeIso14443bAsTag(cmd, len)`: four stuffbits per ETU, after a TR1 of 20 ETUs. -/
def codeIso14443bAsTag (cmd : List UInt8) : ToSend :=
  let ts := tosendReset
  -- TR1: 20 ETUs of ONES
  let ts := (List.replicate 20 true).foldl send4Stuffbit ts
  -- SOF: 10 ETUs of ZEROS, then 2 ETUs of ONES
  let ts := (List.replicate 10 false).foldl send4Stuffbit ts
  let ts := (List.replicate 2 true).foldl send4Stuffbit ts
  -- data: start bit, `b & 1` then `b >>= 1` eight times, stop bit
  let ts := cmd.foldl (fun ts b => (charSymbols b).foldl send4Stuffbit ts) ts
  -- EOF: 10 ETUs of ZEROS, then 2 ETUs of ONES
  let ts := (List.replicate 10 false).foldl send4Stuffbit ts
  let ts := (List.replicate 2 true).foldl send4Stuffbit ts
  { ts with max := ts.max + 1 }

/-- The symbols `CodeIso14443bAsReader` pushes, in order. -/
def readerSymbols (cmd : List UInt8) : List Bool :=
  List.replicate 10 false ++ [true, true] ++ cmd.flatMap charSymbols ++
    List.replicate 10 false ++ List.replicate 8 true

@[simp] theorem length_flatMap_charSymbols (cmd : List UInt8) :
    (cmd.flatMap charSymbols).length = 10 * cmd.length := by
  induction cmd with
  | nil => rfl
  | cons b t ih => simp [List.flatMap_cons, ih]; omega

@[simp] theorem length_readerSymbols (cmd : List UInt8) :
    (readerSymbols cmd).length = 30 + 10 * cmd.length := by
  simp only [readerSymbols, List.length_append, List.length_replicate, length_flatMap_charSymbols,
    List.length_cons, List.length_nil]
  omega

theorem foldl_stuffbits (f : UInt8 → List Bool) (cmd : List UInt8) (ts : ToSend) :
    cmd.foldl (fun ts b => stuffbits ts (f b)) ts = stuffbits ts (cmd.flatMap f) := by
  induction cmd generalizing ts with
  | nil => rfl
  | cons b t ih => simp [ih]

theorem codeIso14443bAsReader_eq (cmd : List UInt8) :
    codeIso14443bAsReader cmd =
      { stuffbits tosendReset (readerSymbols cmd) with
        max := (stuffbits tosendReset (readerSymbols cmd)).max + 1 } := by
  rw [codeIso14443bAsReader, foldl_stuffbits]
  simp only [readerSymbols, stuffbits_append]

/-- **What the reader encoder leaves in the buffer**: its own symbols, then the zero tail of
the last byte, `(8 - (30 + 10 * len) % 8) % 8` symbols long; and `max` counts every byte. -/
theorem codeIso14443bAsReader_symbols (cmd : List UInt8) :
    symbolsOf (codeIso14443bAsReader cmd).buf =
        readerSymbols cmd ++ List.replicate ((8 - (30 + 10 * cmd.length) % 8) % 8) false ∧
      (codeIso14443bAsReader cmd).max = (codeIso14443bAsReader cmd).buf.length := by
  have h := holds_stuffbits holds_reset (readerSymbols cmd)
  rw [List.nil_append] at h
  have hpos := stuffbits_bit_pos tosendReset (by
    rw [← List.length_pos, length_readerSymbols]; omega : readerSymbols cmd ≠ [])
  have hlen := h.length_eq
  rw [length_readerSymbols] at hlen
  have hpad : 8 - (stuffbits tosendReset (readerSymbols cmd)).bit =
      (8 - (30 + 10 * cmd.length) % 8) % 8 := by omega
  rw [codeIso14443bAsReader_eq]
  exact ⟨by rw [← hpad]; exact h.symbols_eq, by simp [h.max_eq]⟩

/-! ## 5. Frames at ETU level -/

/-- The characters of a frame, each followed by its extra guard time of ones. -/
def charsBody (chars : List (UInt8 × Nat)) : List Bool :=
  chars.flatMap fun c => charSymbols c.1 ++ List.replicate c.2 true

theorem charsBody_append (a b : List (UInt8 × Nat)) : charsBody (a ++ b) = charsBody a ++ charsBody b :=
  List.flatMap_append ..

/-- An ISO 14443-2 frame body at ETU level: an SOF of `sofLow` zeros and `sofHigh` ones, the
characters, and an EOF of `eof` zeros. -/
def frameBody (sofLow sofHigh : Nat) (chars : List (UInt8 × Nat)) (eof : Nat) : List Bool :=
  List.replicate sofLow false ++ List.replicate sofHigh true ++ charsBody chars ++
    List.replicate eof false

/-- `CodeIso14443bAsReader` sends a PCD frame with the shortest SOF, no extra guard time and a
10-ETU EOF, followed by its eight ones. -/
theorem readerSymbols_eq_frameBody (cmd : List UInt8) :
    readerSymbols cmd = frameBody 10 2 (cmd.map (·, 0)) 10 ++ List.replicate 8 true := by
  simp only [readerSymbols, frameBody, charsBody, List.flatMap_map, List.replicate_zero, List.append_nil]
  rfl

/-- The ETUs `CodeIso14443bAsTag` sends: a TR1 of 20 ones, a PICC frame with the shortest SOF,
no extra guard time and a 10-ETU EOF, and two ones. -/
def tagSymbols (cmd : List UInt8) : List Bool :=
  List.replicate 20 true ++ frameBody 10 2 (cmd.map (·, 0)) 10 ++ List.replicate 2 true

@[simp] theorem length_flatMap_replicate (n : Nat) (l : List Bool) :
    (l.flatMap (List.replicate n)).length = n * l.length := by
  induction l with
  | nil => rfl
  | cons x l ih => simp [List.flatMap_cons, ih, Nat.mul_succ]; omega

@[simp] theorem length_tagSymbols (cmd : List UInt8) :
    (tagSymbols cmd).length = 44 + 10 * cmd.length := by
  simp only [tagSymbols, frameBody, charsBody, List.length_append, List.length_replicate,
    List.flatMap_map, List.replicate_zero, List.append_nil, length_flatMap_charSymbols]
  omega

theorem foldl_send4Stuffbit (xs : List Bool) (ts : ToSend) :
    xs.foldl send4Stuffbit ts = stuffbits ts (xs.flatMap (List.replicate 4)) := by
  induction xs generalizing ts with
  | nil => rfl
  | cons x xs ih => rw [List.foldl_cons, send4Stuffbit, ih, List.flatMap_cons, stuffbits_append]

theorem codeIso14443bAsTag_eq (cmd : List UInt8) :
    codeIso14443bAsTag cmd =
      { stuffbits tosendReset ((tagSymbols cmd).flatMap (List.replicate 4)) with
        max := (stuffbits tosendReset ((tagSymbols cmd).flatMap (List.replicate 4))).max + 1 } := by
  simp only [codeIso14443bAsTag, foldl_send4Stuffbit, foldl_stuffbits, tagSymbols, frameBody,
    charsBody, List.flatMap_append, stuffbits_append, List.flatMap_map, List.replicate_zero,
    List.append_nil, List.flatMap_assoc]

/-- **What the tag encoder leaves in the buffer**: each ETU of `tagSymbols` as four symbols,
with no tail, since `4 * (44 + 10 * len)` symbols fill whole bytes. -/
theorem codeIso14443bAsTag_symbols (cmd : List UInt8) :
    symbolsOf (codeIso14443bAsTag cmd).buf = (tagSymbols cmd).flatMap (List.replicate 4) ∧
      (codeIso14443bAsTag cmd).max = (codeIso14443bAsTag cmd).buf.length := by
  have h := holds_stuffbits holds_reset ((tagSymbols cmd).flatMap (List.replicate 4))
  rw [List.nil_append] at h
  have hpos := stuffbits_bit_pos tosendReset (by
    rw [← List.length_pos, length_flatMap_replicate, length_tagSymbols]; omega :
      (tagSymbols cmd).flatMap (List.replicate 4) ≠ [])
  have hlen := h.length_eq
  rw [length_flatMap_replicate, length_tagSymbols] at hlen
  have hpad : 8 - (stuffbits tosendReset ((tagSymbols cmd).flatMap (List.replicate 4))).bit = 0 := by
    omega
  rw [codeIso14443bAsTag_eq]
  exact ⟨by rw [h.symbols_eq, hpad, List.replicate_zero, List.append_nil], by simp [h.max_eq]⟩

/-! ## 6. The transmitter -/

/-- The 16-bit words `TransmitFor14443b_AsReader` pushes to the SSC: for each of the `max`
bytes and each of its bits, most significant first, `0x0000` for a 1 and `0xffff` (field
modulated) for a 0, twice. -/
def transmitFor14443bAsReader (ts : ToSend) : List Nat :=
  (ts.buf.take ts.max.toNat).flatMap fun data =>
    (byteSymbols data).flatMap fun s => if s then [0x0000, 0x0000] else [0xffff, 0xffff]

/-- **After the EOF and its eight 1s, the transmitter modulates the field again** whenever the
frame does not end on a byte boundary, that is for every command length `len % 4 ≠ 1`. -/
theorem transmitFor14443bAsReader_modulates_after_eof (cmd : List UInt8)
    (hlen : cmd.length % 4 ≠ 1) :
    (transmitFor14443bAsReader (codeIso14443bAsReader cmd)).getLast? = some 0xffff := by
  obtain ⟨hsym, hmax⟩ := codeIso14443bAsReader_symbols cmd
  obtain ⟨k, hk⟩ : ∃ k, (8 - (30 + 10 * cmd.length) % 8) % 8 = k + 1 :=
    ⟨(8 - (30 + 10 * cmd.length) % 8) % 8 - 1, by omega⟩
  have hwords : transmitFor14443bAsReader (codeIso14443bAsReader cmd) =
      (symbolsOf (codeIso14443bAsReader cmd).buf).flatMap
        fun s => if s then [0x0000, 0x0000] else [0xffff, 0xffff] := by
    rw [transmitFor14443bAsReader, hmax, Int.toNat_ofNat, List.take_length, symbolsOf,
      List.flatMap_assoc]
  rw [hwords, hsym, hk, List.replicate_succ', ← List.append_assoc, List.flatMap_append]
  simp

/-- The four-byte SRx INITIATE is such a command. -/
theorem transmitFor14443bAsReader_initiate_modulates_after_eof :
    [iso14443bInitiate, 0x00, 0x97, 0x5B].length % 4 ≠ 1 ∧
      (transmitFor14443bAsReader (codeIso14443bAsReader [iso14443bInitiate, 0x00, 0x97, 0x5B])).getLast? =
        some 0xffff :=
  ⟨by decide, transmitFor14443bAsReader_modulates_after_eof _ (by decide)⟩

end Iso14443b
