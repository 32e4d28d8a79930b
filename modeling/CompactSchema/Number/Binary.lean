import CompactSchema.Number.Power

/-!
Contract: IEEE 754 binary numbers given by their bits.

A number is kept as the bits of its encoding and is read as a sign, a natural
mantissa and a power of two, so that all work on it is exact integer arithmetic.

Owns: the two formats in use, the classification of an encoding, equality up to
NaN payloads, and the exact widening from 32 to 64 bits.

Does not own: decimal notation, see `Number.Shortest` and `Number.Style`.
-/

set_option autoImplicit false

namespace CompactSchema

/-- Widths of the fields of a binary interchange format. -/
structure BinaryFormat where
  fractionBits : Nat
  exponentBits : Nat
deriving DecidableEq, Repr

/-- What an encoding stands for. A finite number is mantissa · 2 ^ exponent. -/
inductive BinaryClass where
  | nan
  | infinite (negative : Bool)
  | finite (negative : Bool) (mantissa : Nat) (exponent : Int)
deriving DecidableEq, Repr

namespace BinaryFormat

def binary32 : BinaryFormat := ⟨23, 8⟩

def binary64 : BinaryFormat := ⟨52, 11⟩

/-- The amount by which encoded exponents exceed true ones. -/
def bias (format : BinaryFormat) : Nat := twoTo (format.exponentBits - 1) - 1

/-- The exponent field of NaN and the infinities. -/
def topExponent (format : BinaryFormat) : Nat := twoTo format.exponentBits - 1

/-- Split an encoding into sign, exponent field and fraction field. -/
def split (format : BinaryFormat) (bits : Nat) : Bool × Nat × Nat :=
  (bits / twoTo (format.fractionBits + format.exponentBits) % 2 == 1,
    bits / twoTo format.fractionBits % twoTo format.exponentBits,
    bits % twoTo format.fractionBits)

def classify (format : BinaryFormat) (bits : Nat) : BinaryClass :=
  let (negative, exponent, fraction) := format.split bits
  let unit : Int := -(format.bias + format.fractionBits : Nat)
  if exponent = format.topExponent then
    if fraction = 0 then .infinite negative else .nan
  else if exponent = 0 then .finite negative fraction (unit + 1)
  else .finite negative (twoTo format.fractionBits + fraction) (unit + exponent)

end BinaryFormat

/-- A 32-bit binary number. -/
structure Binary32 where
  bits : UInt32
deriving DecidableEq, Repr

/-- A 64-bit binary number. -/
structure Binary64 where
  bits : UInt64
deriving DecidableEq, Repr

namespace Binary32

def classify (number : Binary32) : BinaryClass :=
  BinaryFormat.binary32.classify number.bits.toNat

def isNaN (number : Binary32) : Bool := number.classify == .nan

/-- The same encoding, or both NaN. Unlike comparison of values this tells the
zeros apart and holds between a NaN and itself. -/
def same (first second : Binary32) : Bool :=
  first.bits == second.bits || (first.isNaN && second.isNaN)

end Binary32

namespace Binary64

def classify (number : Binary64) : BinaryClass :=
  BinaryFormat.binary64.classify number.bits.toNat

def isNaN (number : Binary64) : Bool := number.classify == .nan

/-- The same encoding, or both NaN. -/
def same (first second : Binary64) : Bool :=
  first.bits == second.bits || (first.isNaN && second.isNaN)

/-- The quiet NaN without payload. -/
def nan : Binary64 := ⟨0x7ff8000000000000⟩

/-- Put an encoding together. -/
def ofFields (negative : Bool) (exponent fraction : Nat) : Binary64 :=
  ⟨UInt64.ofNat ((if negative then twoTo 63 else 0) + exponent * twoTo 52 + fraction)⟩

end Binary64

/-- The same number in 64 bits. Every finite number of the narrow format is a
normal number or zero of the wide one, so nothing is rounded. -/
def Binary32.widen (number : Binary32) : Binary64 :=
  match number.classify with
  | .nan => .nan
  | .infinite negative => .ofFields negative 2047 0
  | .finite negative mantissa exponent =>
    if mantissa = 0 then .ofFields negative 0 0
    else
      let top := Nat.log2 mantissa
      .ofFields negative ((exponent + top + 1023).toNat) (mantissa * twoTo (52 - top) - twoTo 52)

end CompactSchema
