import CompactSchema.Proofs.Fingerprint.Register
import Mathlib.Algebra.Ring.Nat

/-!
Contract: the fingerprint of a schema is the Rabin fingerprint of a stream of bytes.

The stream is the type name, the number of fields and every field, its name before
the id of its kind. A text is the number of its bytes before its UTF-8 bytes, and a
number is four bytes, lowest first. Absorption by table goes through this stream byte
by byte, and every step is what eight shifts would do.

Owns: the stream, and that absorption by table and by bits agree on it.

Does not own: what the stream tells apart, and which streams share a fingerprint.
-/

set_option autoImplicit false

namespace CompactSchema.Fingerprint

/-! ## The stream -/

/-- The low 32 bits of a number as four bytes, lowest first. -/
def numberStream (number : Nat) : List UInt8 :=
  (List.range 4).map fun place => UInt8.ofNat (number % 2 ^ 32 / 256 ^ place)

/-- The number of bytes of a text, then its UTF-8 bytes. -/
def textStream (text : String) : List UInt8 :=
  let bytes := text.toUTF8.data.toList
  numberStream bytes.length ++ bytes

def fieldStream (field : String × Kind) : List UInt8 :=
  textStream field.1 ++ numberStream field.2.id

/-- The bytes of a type name and fields, the fields in the order given. -/
def stream (typeName : String) (fields : List (String × Kind)) : List UInt8 :=
  textStream typeName ++ numberStream fields.length ++ fields.flatMap fieldStream

theorem ofNat_shiftRight (number : Nat) {place : Nat} (inside : place < 4) :
    UInt8.ofNat (number >>> (8 * place)) = UInt8.ofNat (number % 2 ^ 32 / 256 ^ place) := by
  apply UInt8.toNat_inj.1
  rw [UInt8.toNat_ofNat', UInt8.toNat_ofNat', Nat.shiftRight_eq_div_pow]
  match place, inside with
  | 0, _ => omega
  | 1, _ => omega
  | 2, _ => omega
  | 3, _ => omega

theorem wordBytes_eq (number : Nat) : wordBytes number = numberStream number := by
  have shifted : wordBytes number =
      (List.range 4).map fun place => UInt8.ofNat (number >>> (8 * place)) := rfl
  rw [shifted, numberStream]
  apply List.map_congr_left
  intro place member
  exact ofNat_shiftRight number (List.mem_range.1 member)

/-! ## The table -/

theorem toBitVec_shiftBit (register : UInt64) :
    (shiftBit register).toBitVec = Rabin.shift register.toBitVec := by
  have low : register &&& 1 = 1 ↔ register.toBitVec.getLsbD 0 = true := by
    rw [← UInt64.toBitVec_inj, UInt64.toBitVec_and]
    show register.toBitVec &&& 1#64 = 1#64 ↔ _
    rw [BitVec.and_one_eq_setWidth_ofBool_getLsbD]
    cases register.toBitVec.getLsbD 0 <;> decide
  unfold shiftBit Rabin.shift
  by_cases odd : register.toBitVec.getLsbD 0 = true
  · rw [if_pos odd, if_pos (low.2 odd)]
    rfl
  · rw [if_neg odd, if_neg (mt low.1 odd), UInt64.xor_zero]
    rfl

theorem toBitVec_shiftBits (count : Nat) (register : UInt64) :
    (shiftBits count register).toBitVec = Rabin.shifts count register.toBitVec := by
  induction count generalizing register with
  | zero => rfl
  | succ count inductionHypothesis =>
      rw [shiftBits, inductionHypothesis, toBitVec_shiftBit, Rabin.shifts]

theorem toBitVec_table_get (byte : UInt8) :
    (table.get byte.toFin).toBitVec = Rabin.shifts 8 (byte.toBitVec.setWidth 64) := by
  have entry : table.get byte.toFin = shiftBits 8 (UInt64.ofNat byte.toNat) :=
    Vector.getElem_ofFn byte.toNat_lt
  rw [entry, toBitVec_shiftBits, UInt64.ofNat_uInt8ToNat, UInt8.toBitVec_toUInt64]

example : (Rabin.shifts 8 1, Rabin.shifts 8 128) = (0x2cf1cba6b75351fa, Rabin.polynomial) := by
  decide

/-- The byte only meets the low byte of the register, so the bits above it move down
unchanged and the table answers for the rest. -/
theorem toBitVec_absorbByte (register : UInt64) (byte : UInt8) :
    (absorbByte register byte).toBitVec = Rabin.absorb register.toBitVec byte := by
  have above : (byte.toBitVec.setWidth 64) >>> 8 = 0#64 := by
    apply BitVec.eq_of_getLsbD_eq
    intro index below
    simp
  have low : (register.toUInt8 ^^^ byte).toBitVec =
      (register.toBitVec ^^^ byte.toBitVec.setWidth 64).setWidth 8 := by
    rw [UInt8.toBitVec_xor, BitVec.setWidth_xor]
    simp
  rw [Rabin.absorb, Rabin.shifts_eight, absorbByte, UInt64.toBitVec_xor, toBitVec_table_get, low,
    BitVec.ushiftRight_xor_distrib, above, BitVec.xor_zero]
  rfl

theorem toBitVec_absorbBytes (register : UInt64) (bytes : List UInt8) :
    (absorbBytes register bytes).toBitVec = bytes.foldl Rabin.absorb register.toBitVec := by
  induction bytes generalizing register with
  | nil => rfl
  | cons byte rest inductionHypothesis =>
      rw [List.foldl_cons, ← toBitVec_absorbByte]
      exact inductionHypothesis _

/-! ## Absorbing the stream -/

theorem absorbBytes_append (register : UInt64) (first second : List UInt8) :
    absorbBytes register (first ++ second) = absorbBytes (absorbBytes register first) second :=
  List.foldl_append

theorem absorbWord_eq (register : UInt64) (number : Nat) :
    absorbWord register number = absorbBytes register (numberStream number) := by
  rw [absorbWord, wordBytes_eq]

theorem absorbText_eq (register : UInt64) (text : String) :
    absorbText register text = absorbBytes register (textStream text) := by
  rw [absorbText, absorbWord_eq, textStream, absorbBytes_append]
  rfl

theorem absorbField_eq (register : UInt64) (field : String × Kind) :
    absorbField register field = absorbBytes register (fieldStream field) := by
  rw [absorbField, absorbWord_eq, absorbText_eq, fieldStream, absorbBytes_append]

theorem foldl_absorbField (register : UInt64) (fields : List (String × Kind)) :
    fields.foldl absorbField register = absorbBytes register (fields.flatMap fieldStream) := by
  induction fields generalizing register with
  | nil => rfl
  | cons field rest inductionHypothesis =>
      rw [List.foldl_cons, inductionHypothesis, absorbField_eq, List.flatMap_cons,
        absorbBytes_append]

theorem compute_eq_absorbBytes (typeName : String) (fields : List (String × Kind)) :
    compute typeName fields = (absorbBytes seed (stream typeName fields)).toInt64 := by
  rw [compute, foldl_absorbField, absorbWord_eq, absorbText_eq, stream, absorbBytes_append,
    absorbBytes_append]

theorem compute_toBitVec (typeName : String) (fields : List (String × Kind)) :
    (compute typeName fields).toBitVec = Rabin.fingerprint (stream typeName fields) := by
  rw [compute_eq_absorbBytes, UInt64.toBitVec_toInt64, toBitVec_absorbBytes]
  rfl

/-- The schema id is the Rabin fingerprint of the stream, read as a signed number:
what absorption by table makes of a type name and fields is what shifting the bits of
their stream one by one makes of it. -/
theorem compute_eq_rabin (typeName : String) (fields : List (String × Kind)) :
    compute typeName fields = Int64.ofBitVec (Rabin.fingerprint (stream typeName fields)) := by
  rw [← compute_toBitVec, Int64.ofBitVec_toBitVec]

end CompactSchema.Fingerprint
