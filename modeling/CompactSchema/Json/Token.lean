/-!
Contract: the tokens of JSON text.

Text that is not JSON gives a token `fault` at the place where it stops being
so, and nothing after it, so that a reader can come upon faults in reading
order.

Owns: tokens, and the division of a text into tokens.

Does not own: how tokens nest, see `Json.Document`.
-/

set_option autoImplicit false

namespace CompactSchema.Json

inductive Token where
  | openObject
  | closeObject
  | openArray
  | closeArray
  | colon
  | comma
  | null
  | bool (bit : Bool)
  /-- A number. Only a natural number written without sign, fraction and
  exponent is known by value. -/
  | number (natural? : Option Nat)
  /-- A string. There is no content if an escape names one half of a surrogate
  pair only. -/
  | string (content? : Option String)
  /-- The text is not JSON from here on. -/
  | fault
deriving DecidableEq, Repr

/-! ## Characters -/

def isBlank (char : Char) : Bool :=
  char == ' ' || char == '\n' || char == '\t' || char == '\r'

def isDigit (char : Char) : Bool := '0' ≤ char && char ≤ '9'

def digitValue (char : Char) : Nat := char.toNat - '0'.toNat

/-- The value of a hexadecimal digit of either case. -/
def hexValue? (char : Char) : Option Nat :=
  if isDigit char then some (digitValue char)
  else if 'a' ≤ char && char ≤ 'f' then some (char.toNat - 'a'.toNat + 10)
  else if 'A' ≤ char && char ≤ 'F' then some (char.toNat - 'A'.toNat + 10)
  else none

/-- The number written by four hexadecimal digits. -/
def hexUnit? (a b c d : Char) : Option Nat :=
  match hexValue? a, hexValue? b, hexValue? c, hexValue? d with
  | some a, some b, some c, some d => some (((a * 16 + b) * 16 + c) * 16 + d)
  | _, _, _, _ => none

/-- The character of an escape with one letter. -/
def shortEscape? : Char → Option Char
  | '"' => some '"'
  | '\\' => some '\\'
  | '/' => some '/'
  | 'b' => some '\x08'
  | 'f' => some '\x0c'
  | 'n' => some '\n'
  | 'r' => some '\r'
  | 't' => some '\t'
  | _ => none

/-! ## Strings -/

/-- A part of a string: a character, or a 16-bit unit given by number. -/
inductive Piece where
  | char (char : Char)
  | unit (number : Nat)
deriving DecidableEq, Repr

/-- The parts of a string up to its closing quote, and the text after it. -/
def scanPieces : List Char → Option (List Piece × List Char)
  | [] => none
  | '"' :: rest => some ([], rest)
  | '\\' :: 'u' :: a :: b :: c :: d :: rest =>
    match hexUnit? a b c d, scanPieces rest with
    | some number, some (pieces, after) => some (.unit number :: pieces, after)
    | _, _ => none
  | '\\' :: letter :: rest =>
    match shortEscape? letter, scanPieces rest with
    | some char, some (pieces, after) => some (.char char :: pieces, after)
    | _, _ => none
  | char :: rest =>
    if char = '\\' ∨ char.toNat < 0x20 then none
    else
      match scanPieces rest with
      | some (pieces, after) => some (.char char :: pieces, after)
      | none => none

/-- The characters of a list of parts; two units of a surrogate pair make one
character, and a unit of a pair that stands alone makes none. -/
def assemble? : List Piece → Option (List Char)
  | [] => some []
  | .char char :: rest => (assemble? rest).map (char :: ·)
  | .unit high :: .unit low :: rest =>
    if 0xd800 ≤ high ∧ high < 0xdc00 then
      if 0xdc00 ≤ low ∧ low < 0xe000 then
        (assemble? rest).map
          (Char.ofNat (0x10000 + (high - 0xd800) * 0x400 + (low - 0xdc00)) :: ·)
      else none
    else if 0xdc00 ≤ high ∧ high < 0xe000 then none
    else (assemble? (.unit low :: rest)).map (Char.ofNat high :: ·)
  | .unit number :: rest =>
    if 0xd800 ≤ number ∧ number < 0xe000 then none
    else (assemble? rest).map (Char.ofNat number :: ·)

/-! ## Numbers -/

/-- The digits in front of a text, and the rest. -/
def spanDigits (text : List Char) : List Char × List Char :=
  (text.takeWhile isDigit, text.dropWhile isDigit)

/-- The number written by decimal digits. -/
def naturalOf (digits : List Char) : Nat :=
  digits.foldl (fun number digit => number * 10 + digitValue digit) 0

/-- The text after a fraction, if there is one; none if it has no digits. -/
def skipFraction? : List Char → Option (Bool × List Char)
  | '.' :: rest =>
    match spanDigits rest with
    | ([], _) => none
    | (_, after) => some (true, after)
  | text => some (false, text)

/-- The text after the sign of an exponent. -/
def skipSign : List Char → List Char
  | '+' :: rest => rest
  | '-' :: rest => rest
  | text => text

/-- The text after an exponent, if there is one; none if it has no digits. -/
def skipExponent? : List Char → Option (Bool × List Char)
  | mark :: rest =>
    if mark = 'e' ∨ mark = 'E' then
      match spanDigits (skipSign rest) with
      | ([], _) => none
      | (_, after) => some (true, after)
    else some (false, mark :: rest)
  | [] => some (false, [])

/-- A number without sign and the text after it. -/
def scanUnsigned (text : List Char) : Option (Option Nat × List Char) :=
  let (digits, rest) := spanDigits text
  if digits = [] ∨ (digits.length > 1 ∧ digits.head? = some '0') then none
  else
    match skipFraction? rest with
    | none => none
    | some (fractional, rest) =>
      match skipExponent? rest with
      | none => none
      | some (scaled, rest) =>
        some (if fractional || scaled then none else some (naturalOf digits), rest)

/-- A number and the text after it. -/
def scanNumber : List Char → Option (Option Nat × List Char)
  | '-' :: rest => (scanUnsigned rest).map fun scanned => (none, scanned.2)
  | text => scanUnsigned text

/-! ## Tokens -/

/-- The token in front of a text that does not start with a blank, and the text
after it. -/
def scanToken : List Char → Token × List Char
  | [] => (.fault, [])
  | '{' :: rest => (.openObject, rest)
  | '}' :: rest => (.closeObject, rest)
  | '[' :: rest => (.openArray, rest)
  | ']' :: rest => (.closeArray, rest)
  | ':' :: rest => (.colon, rest)
  | ',' :: rest => (.comma, rest)
  | 'n' :: 'u' :: 'l' :: 'l' :: rest => (.null, rest)
  | 't' :: 'r' :: 'u' :: 'e' :: rest => (.bool true, rest)
  | 'f' :: 'a' :: 'l' :: 's' :: 'e' :: rest => (.bool false, rest)
  | '"' :: rest =>
    match scanPieces rest with
    | some (pieces, after) => (.string ((assemble? pieces).map String.ofList), after)
    | none => (.fault, [])
  | text =>
    match scanNumber text with
    | some (natural?, after) => (.number natural?, after)
    | none => (.fault, [])

/-- The tokens of a text, each step taking at least one character. The number
of steps is the length of the text. -/
def tokensWithin : Nat → List Char → List Token
  | 0, _ => []
  | steps + 1, text =>
    match text.dropWhile isBlank with
    | [] => []
    | char :: rest =>
      match scanToken (char :: rest) with
      | (.fault, _) => [.fault]
      | (token, after) => token :: tokensWithin steps after

/-- The tokens of a text. -/
def tokens (text : List Char) : List Token := tokensWithin text.length text

end CompactSchema.Json
