import CompactSchema.Number.Power
import CompactSchema.Text.Digits

/-!
Contract: decimals of up to 96 bits with up to 28 fraction digits.

A decimal keeps the number of fraction digits that it was given, but two
decimals are equal if they have the same value.

Owns: decimals, their equality and their text.

Does not own: arithmetic.
-/

set_option autoImplicit false

namespace CompactSchema

/-- The decimal mantissa / 10 ^ scale. -/
structure Decimal where
  mantissa : Int
  scale : Nat
  mantissa_lt : mantissa.natAbs < twoTo 96
  scale_le : scale ≤ 28
deriving DecidableEq, Repr

namespace Decimal

/-- Equality of values: 1.5 and 1.50 are the same. -/
def same (first second : Decimal) : Bool :=
  first.mantissa * tenTo second.scale == second.mantissa * tenTo first.scale

/-- All digits up to the scale, with at least one in front of the point. -/
def text (decimal : Decimal) : String :=
  let sign := if decimal.mantissa < 0 then "-" else ""
  let digits := Text.paddedDigits (decimal.scale + 1) decimal.mantissa.natAbs
  let whole := digits.length - decimal.scale
  let fraction :=
    if decimal.scale = 0 then "" else "." ++ String.ofList (digits.drop whole)
  sign ++ String.ofList (digits.take whole) ++ fraction

end Decimal

end CompactSchema
