import CompactSchema.Calendar
import CompactSchema.Number.Power
import CompactSchema.Toml.Text
import CompactSchema.Toml.Tree

/-!
Contract: booleans, numbers and moments of TOML.

Such a value is written without quotes and brackets, so it ends where its
characters do. Integers have 64 bits. A positive number with a fraction or an
exponent has to be finite in 64 bits.

Owns: the grammar of these values.

Does not own: strings and containers.
-/

set_option autoImplicit false

namespace CompactSchema.Toml

/-! ## Digits -/

/-- Digits of a base with single underscores between them, without these. -/
def plainDigits? (base : Nat) : List Char → Option (List Char)
  | [] => none
  | [digit] => if (digitValue? base digit).isSome then some [digit] else none
  | digit :: '_' :: rest =>
    if (digitValue? base digit).isSome then (plainDigits? base rest).map (digit :: ·) else none
  | digit :: rest =>
    if (digitValue? base digit).isSome then (plainDigits? base rest).map (digit :: ·) else none

/-- Decimal digits with underscores that do not start with a needless zero. -/
def wholeDigits? (text : List Char) : Option (List Char) :=
  match plainDigits? 10 text with
  | some digits => if digits.length > 1 ∧ digits.head? = some '0' then none else some digits
  | none => none

/-- A text without its sign, and whether it is negative. -/
def splitSign : List Char → Bool × List Char
  | '-' :: rest => (true, rest)
  | '+' :: rest => (false, rest)
  | text => (false, text)

/-! ## Integers -/

/-- The magnitude of an integer without sign in a base that is named. -/
def basedNumber? : List Char → Option Nat
  | '0' :: 'x' :: rest => (plainDigits? 16 rest).bind (numberOf? 16)
  | '0' :: 'o' :: rest => (plainDigits? 8 rest).bind (numberOf? 8)
  | '0' :: 'b' :: rest => (plainDigits? 2 rest).bind (numberOf? 2)
  | _ => none

/-- An integer of any form, whatever its size. -/
def anyInteger? (text : List Char) : Option Int :=
  match basedNumber? text with
  | some number => some number
  | none =>
    let (negative, digits) := splitSign text
    ((wholeDigits? digits).bind (numberOf? 10)).map fun number =>
      if negative then -(number : Int) else number

/-- Whether an integer has 64 bits. -/
def fits (number : Int) : Bool := Int64.minValue.toInt ≤ number && number ≤ Int64.maxValue.toInt

/-! ## Numbers with a fraction or an exponent -/

/-- Whether `digits · 10 ^ exponent` is rounded to infinity in 64 bits. -/
def overflows (digits : Nat) (exponent : Int) : Bool :=
  let length : Int := (Nat.toDigits 10 digits).length
  if digits = 0 then false
  else if length + exponent > 400 then true
  else if length + exponent < 0 then false
  else
    twoTo 1024 - twoTo 970 ≤ digits * tenTo exponent.toNat / tenTo (-exponent).toNat

/-- Split a text at the first character of a class, which is dropped. -/
def splitAt? (marks : List Char) (text : List Char) : List Char × Option (List Char) :=
  match text.dropWhile (!marks.contains ·) with
  | [] => (text, none)
  | _ :: rest => (text.takeWhile (!marks.contains ·), some rest)

/-- The value of an exponent, zero if there is none. -/
def exponentOf? : Option (List Char) → Option Int
  | none => some 0
  | some text =>
    let (negative, digits) := splitSign text
    ((plainDigits? 10 digits).bind (numberOf? 10)).map fun number =>
      if negative then -(number : Int) else number

/-- The digits of a fraction, none if there is no fraction. -/
def fractionOf? : Option (List Char) → Option (List Char)
  | none => some []
  | some text => plainDigits? 10 text

/-- Whether a text is a number with a fraction or an exponent. -/
def isFloat (text : List Char) : Bool :=
  let (negative, unsigned) := splitSign text
  if unsigned = ['i', 'n', 'f'] ∨ unsigned = ['n', 'a', 'n'] then true
  else
    let (mantissa, exponent?) := splitAt? ['e', 'E'] unsigned
    let (whole, fraction?) := splitAt? ['.'] mantissa
    if exponent?.isNone && fraction?.isNone then false
    else
      match wholeDigits? whole, fractionOf? fraction?, exponentOf? exponent? with
      | some whole, some fraction, some exponent =>
        match numberOf? 10 (whole ++ fraction) with
        | some digits => negative || !overflows digits (exponent - fraction.length)
        | none => false
      | _, _, _ => false

/-! ## Moments -/

/-- A number of exactly two digits up to a limit. -/
def twoDigits? (limit : Nat) (tens ones : Char) : Option Nat :=
  match numberOf? 10 [tens, ones] with
  | some number => if number ≤ limit then some number else none
  | none => none

/-- The text after a date. -/
def skipDate? : List Char → Option (List Char)
  | a :: b :: c :: d :: '-' :: e :: f :: '-' :: g :: h :: rest =>
    match numberOf? 10 [a, b, c, d], numberOf? 10 [e, f], numberOf? 10 [g, h] with
    | some year, some month, some day =>
      if Calendar.ValidDate year month day then some rest else none
    | _, _, _ => none
  | _ => none

/-- The text after the fraction of a second, if there is one. -/
def skipSecondFraction? : List Char → Option (List Char)
  | '.' :: rest => if (rest.takeWhile isDigit).isEmpty then none else some (rest.dropWhile isDigit)
  | text => some text

/-- The text after a time of day; a second 60 is possible. -/
def skipTime? : List Char → Option (List Char)
  | a :: b :: ':' :: c :: d :: ':' :: e :: f :: rest =>
    match twoDigits? 23 a b, twoDigits? 59 c d, twoDigits? 60 e f with
    | some _, some _, some _ => skipSecondFraction? rest
    | _, _, _ => none
  | _ => none

/-- Whether a text is an offset from universal time, or empty. -/
def isOffset : List Char → Bool
  | [] => true
  | ['Z'] => true
  | ['z'] => true
  | [sign, a, b, ':', c, d] =>
    (sign == '+' || sign == '-') && (twoDigits? 23 a b).isSome && (twoDigits? 59 c d).isSome
  | _ => false

/-- Whether a text is a time of day with or without offset. -/
def isTimeWithOffset (text : List Char) : Bool :=
  match skipTime? text with
  | some rest => isOffset rest
  | none => false

/-- Whether a text is a date, a time of day or both. -/
def isMoment (text : List Char) : Bool :=
  match skipDate? text with
  | some [] => true
  | some (mark :: rest) =>
    (mark == 'T' || mark == 't' || mark == ' ') && isTimeWithOffset rest
  | none => skipTime? text == some []

/-! ## Values -/

/-- The characters of booleans, numbers and moments. -/
def isLiteralChar (char : Char) : Bool :=
  isBareKeyChar char || char == '+' || char == '.' || char == ':'

/-- The text of a boolean, number or moment and the text after it. A single
blank can join a date and a time. -/
def spanLiteral (text : List Char) : List Char × List Char :=
  let first := text.takeWhile isLiteralChar
  let rest := text.dropWhile isLiteralChar
  match skipDate? first, rest with
  | some [], ' ' :: digit :: after =>
    if isDigit digit then
      (first ++ ' ' :: (digit :: after).takeWhile isLiteralChar,
        (digit :: after).dropWhile isLiteralChar)
    else (first, rest)
  | _, _ => (first, rest)

/-- The value of a boolean, number or moment. -/
def literalNode? (text : List Char) : Option Node :=
  if text = ['t', 'r', 'u', 'e'] then some (.boolean true)
  else if text = ['f', 'a', 'l', 's', 'e'] then some (.boolean false)
  else
    match anyInteger? text with
    | some number => if fits number then some (.integer number) else none
    | none =>
      if isFloat text then some (.float (String.ofList text))
      else if isMoment text then some (.moment (String.ofList text))
      else none

end CompactSchema.Toml
