import CompactSchema.Number.Binary
import CompactSchema.Number.Shortest

/-!
Contract: how binary numbers are written in decimal.

A style decides between positional and scientific form by the exponent of the
first digit, and fixes the spelling of the exponent, of NaN and of the
infinities. The digits are always the shortest that read back.

Owns: styles, the three in use, and the text of a number in a style.
-/

set_option autoImplicit false

namespace CompactSchema

/-- A way to write binary numbers in decimal. -/
structure NumberStyle where
  /-- Least exponent that is written in positional form. -/
  lowest : Int
  /-- Greatest exponent that is written in positional form. -/
  highest : Int
  /-- Written between the exponent mark and a non-negative exponent. -/
  exponentSign : String
  tie : TieRule
  nan : String
  infinity : String
  negativeInfinity : String
deriving DecidableEq, Repr

namespace NumberStyle

/-- JSON numbers of 64 bits. JSON has no NaN and no infinities. -/
def json64 : NumberStyle := ⟨-5, 15, "+", .toEven, "null", "null", "null"⟩

/-- JSON numbers of 32 bits. -/
def json32 : NumberStyle := ⟨-6, 12, "+", .toEven, "null", "null", "null"⟩

/-- Developer-facing text, of both widths. -/
def inspect : NumberStyle := ⟨-4, 15, "", .up, "NaN", "inf", "-inf"⟩

/-- Digits as text. -/
def digitText (digits : List Nat) : String :=
  String.ofList (digits.map fun digit => Nat.digitChar digit)

/-- Positional form. There is always a fraction. -/
def positional (number : Scientific) : String :=
  let count := number.digits.length
  if number.exponent < 0 then
    "0." ++ digitText (List.replicate (-number.exponent - 1).toNat 0 ++ number.digits)
  else
    let whole := number.exponent.toNat + 1
    if count ≤ whole then
      digitText (number.digits ++ List.replicate (whole - count) 0) ++ ".0"
    else digitText (number.digits.take whole) ++ "." ++ digitText (number.digits.drop whole)

/-- Scientific form. A single digit has no fraction. -/
def scientific (exponentSign : String) (number : Scientific) : String :=
  let fraction :=
    match number.digits.drop 1 with
    | [] => ""
    | rest => "." ++ digitText rest
  let sign := if number.exponent < 0 then "" else exponentSign
  digitText (number.digits.take 1) ++ fraction ++ "e" ++ sign ++ toString number.exponent

/-- A positive decimal in a style. -/
def decimalText (style : NumberStyle) (number : Scientific) : String :=
  if style.lowest ≤ number.exponent ∧ number.exponent ≤ style.highest then positional number
  else scientific style.exponentSign number

/-- A number of a format, classified, in a style. -/
def text (style : NumberStyle) (format : BinaryFormat) : BinaryClass → String
  | .nan => style.nan
  | .infinite false => style.infinity
  | .infinite true => style.negativeInfinity
  | .finite negative mantissa exponent =>
    let sign := if negative then "-" else ""
    if mantissa = 0 then sign ++ "0.0"
    else
      let least : Int := 1 - (format.bias + format.fractionBits : Nat)
      let narrow := mantissa == twoTo format.fractionBits && decide (least < exponent)
      sign ++ style.decimalText (Shortest.decimal style.tie mantissa exponent narrow)

def text32 (style : NumberStyle) (number : Binary32) : String :=
  style.text .binary32 number.classify

def text64 (style : NumberStyle) (number : Binary64) : String :=
  style.text .binary64 number.classify

end NumberStyle

end CompactSchema
