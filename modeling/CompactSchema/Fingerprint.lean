import CompactSchema.Entries
import CompactSchema.Kind

/-!
Contract: the 64-bit Rabin fingerprint (CRC-64-AVRO) that identifies a schema.

The fingerprint absorbs the type name, the number of fields and then, for every
field in the order given, its name and the id of its kind. A text is absorbed as
its length in bytes followed by its UTF-8 bytes; a number as four little-endian
bytes. Members of a cluster can read each other's data only because they all
derive ids in exactly this way.

Owns: the byte table, the absorption of bytes, numbers, texts and fields.

Does not own: the order of the fields of a schema.
-/

set_option autoImplicit false

namespace CompactSchema.Fingerprint

/-- Start value and feedback polynomial. -/
def seed : UInt64 := 0xc15d213aa4d7a795

/-- Shift one bit out, feeding the polynomial back if that bit is set. -/
def shiftBit (register : UInt64) : UInt64 :=
  (register >>> 1) ^^^ (if register &&& 1 = 1 then seed else 0)

/-- Shift a number of bits out. -/
def shiftBits : Nat → UInt64 → UInt64
  | 0, register => register
  | count + 1, register => shiftBits count (shiftBit register)

/-- What shifting eight bits out makes of every byte. -/
def table : Vector UInt64 256 :=
  Vector.ofFn fun byte => shiftBits 8 (UInt64.ofNat byte.val)

/-- Absorb one byte by table. -/
def absorbByte (register : UInt64) (byte : UInt8) : UInt64 :=
  (register >>> 8) ^^^ table.get (register.toUInt8 ^^^ byte).toFin

def absorbBytes (register : UInt64) (bytes : List UInt8) : UInt64 :=
  bytes.foldl absorbByte register

/-- The four low bytes of a number, lowest first. -/
def wordBytes (number : Nat) : List UInt8 :=
  [UInt8.ofNat number, UInt8.ofNat (number >>> 8), UInt8.ofNat (number >>> 16),
    UInt8.ofNat (number >>> 24)]

def absorbWord (register : UInt64) (number : Nat) : UInt64 :=
  absorbBytes register (wordBytes number)

/-- Absorb the length of a text in bytes, then its bytes. -/
def absorbText (register : UInt64) (text : String) : UInt64 :=
  absorbBytes (absorbWord register text.utf8ByteSize) text.toUTF8.data.toList

def absorbField (register : UInt64) (field : String × Kind) : UInt64 :=
  absorbWord (absorbText register field.1) field.2.id

/-- The schema id of a type name and fields, the fields in the order given. -/
def compute (typeName : String) (fields : List (String × Kind)) : Int64 :=
  (fields.foldl absorbField
    (absorbWord (absorbText seed typeName) fields.length)).toInt64

end CompactSchema.Fingerprint
