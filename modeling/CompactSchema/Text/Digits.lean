/-!
Contract: natural numbers written with a fixed number of digits.

Owns: zero padding.

Does not own: signs.
-/

set_option autoImplicit false

namespace CompactSchema.Text

/-- The decimal digits of a number. -/
def decimalDigits (number : Nat) : List Char := Nat.toDigits 10 number

/-- The digits with zeros in front up to a width. -/
def paddedDigits (width number : Nat) : List Char :=
  let digits := decimalDigits number
  List.replicate (width - digits.length) '0' ++ digits

/-- A number with zeros in front up to a width. -/
def padded (width number : Nat) : String := String.ofList (paddedDigits width number)

end CompactSchema.Text
