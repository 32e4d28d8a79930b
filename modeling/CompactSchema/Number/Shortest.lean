import CompactSchema.Number.Power

/-!
Contract: the shortest decimal that reads back as a given binary number.

A positive number m · 2 ^ q of a binary format is what every real between the
midpoints to its two neighbours is rounded to, the midpoints included if m is
even. Of the decimals in that interval the one with the fewest digits is chosen,
and of those the nearest one. For each number of digits only the two decimals
next to the number have to be tried: if any lies in the interval, one of them
does. All comparisons are made on natural numbers.

Owns: the interval, the search, and decimals in scientific form.

Does not own: how the digits are written, see `Number.Style`.
-/

set_option autoImplicit false

namespace CompactSchema

/-- A positive decimal d.ddd · 10 ^ exponent; the last digit is not zero. -/
structure Scientific where
  digits : List Nat
  exponent : Int
deriving DecidableEq, Repr

/-- Which of two equally near decimals is chosen. -/
inductive TieRule where
  | toEven
  | up
deriving DecidableEq, Repr

namespace Scientific

/-- Decimal digits of a natural number, highest first. -/
def digitsOf (number : Nat) : List Nat :=
  (Nat.toDigits 10 number).map fun digit => digit.toNat - '0'.toNat

/-- The decimal `number · 10 ^ power`. -/
def ofNat (number : Nat) (power : Int) : Scientific :=
  let digits := digitsOf number
  ⟨(digits.reverse.dropWhile (· == 0)).reverse, power + digits.length - 1⟩

end Scientific

namespace Shortest

/-- The interval of reals that are rounded to a binary number, over a common
denominator: its ends and the number itself, and whether the ends belong to it. -/
structure Interval where
  lower : Nat
  middle : Nat
  upper : Nat
  denominator : Nat
  closed : Bool
deriving DecidableEq, Repr

/-- The interval of `mantissa · 2 ^ exponent`, in units of `10 ^ power`. The
lower neighbour of a power of two is only half as far away as the upper one;
`narrow` says that this is so. -/
def interval (mantissa : Nat) (exponent : Int) (narrow : Bool) (power : Int) : Interval :=
  let scale := twoTo (exponent - 2).toNat * tenTo (-power).toNat
  { lower := (4 * mantissa - (if narrow then 1 else 2)) * scale
    middle := 4 * mantissa * scale
    upper := (4 * mantissa + 2) * scale
    denominator := twoTo (2 - exponent).toNat * tenTo power.toNat
    closed := mantissa % 2 == 0 }

namespace Interval

/-- Whether the integer `candidate` lies in the interval. -/
def contains (range : Interval) (candidate : Nat) : Bool :=
  let scaled := candidate * range.denominator
  if range.closed then range.lower ≤ scaled && scaled ≤ range.upper
  else range.lower < scaled && scaled < range.upper

/-- The integer in the interval that is nearest to its middle, if there is one. -/
def nearest? (tie : TieRule) (range : Interval) : Option Nat :=
  let below := range.middle / range.denominator
  let distanceBelow := range.middle - below * range.denominator
  let distanceAbove := (below + 1) * range.denominator - range.middle
  match range.contains below, range.contains (below + 1) with
  | false, false => none
  | true, false => some below
  | false, true => some (below + 1)
  | true, true =>
    if distanceBelow < distanceAbove then some below
    else if distanceAbove < distanceBelow then some (below + 1)
    else
      match tie with
      | .up => some (below + 1)
      | .toEven => some (if below % 2 == 0 then below else below + 1)

end Interval

/-- The exponent of the first digit of a positive fraction. -/
def leadingExponent (numerator denominator : Nat) : Int :=
  if denominator ≤ numerator then
    ((Nat.toDigits 10 (numerator / denominator)).length : Int) - 1
  else
    let digits := (Nat.toDigits 10 (denominator / numerator)).length
    if numerator * tenTo (digits - 1) = denominator then 1 - (digits : Int) else -(digits : Int)

/-- The largest number of digits that is ever needed. -/
def digitLimit : Nat := 17

/-- The shortest decimal for `mantissa · 2 ^ exponent`, where the mantissa is
positive. Seventeen digits suffice for both formats, so the search does not come
back empty; if it did, the nearest decimal below would be taken. -/
def decimal (tie : TieRule) (mantissa : Nat) (exponent : Int) (narrow : Bool) : Scientific :=
  let leading := leadingExponent (mantissa * twoTo exponent.toNat) (twoTo (-exponent).toNat)
  let power (count : Nat) : Int := leading - count
  match (List.range digitLimit).findSome? fun count =>
      ((interval mantissa exponent narrow (power count)).nearest? tie).map
        fun number => Scientific.ofNat number (power count) with
  | some result => result
  | none =>
    let range := interval mantissa exponent narrow (power digitLimit)
    Scientific.ofNat (range.middle / range.denominator) (power digitLimit)

end Shortest

end CompactSchema
