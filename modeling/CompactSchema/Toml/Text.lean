/-!
Contract: blanks, comments, strings and keys of TOML text.

Owns: the scanners of these, each of which answers what it found and the text
after it, or nothing if the text does not start with it.

Does not own: other values, see `Toml.Literal`.
-/

set_option autoImplicit false

namespace CompactSchema.Toml

/-! ## Blanks and comments -/

def isBlank (char : Char) : Bool := char == ' ' || char == '\t'

def skipBlanks (text : List Char) : List Char := text.dropWhile isBlank

/-- Whether a character can stand in a comment or, the quote apart, in a string
on one line. -/
def isPrintable (char : Char) : Bool :=
  char == '\t' || (' ' ≤ char && char != '\x7f')

/-- The text after a line break. -/
def skipBreak? : List Char → Option (List Char)
  | '\n' :: rest => some rest
  | '\r' :: '\n' :: rest => some rest
  | _ => none

/-- The text after a comment, if there is one. -/
def skipComment : List Char → List Char
  | '#' :: rest => rest.dropWhile isPrintable
  | text => text

/-- The text after blanks, comments and line breaks, of which there are at most
as many as the given number. -/
def skipLinesWithin : Nat → List Char → List Char
  | 0, text => text
  | steps + 1, text =>
    let text := skipComment (skipBlanks text)
    match skipBreak? text with
    | some rest => skipLinesWithin steps rest
    | none => text

def skipLines (text : List Char) : List Char := skipLinesWithin text.length text

/-! ## Strings -/

def isDigit (char : Char) : Bool := '0' ≤ char && char ≤ '9'

/-- The value of a digit in a base up to sixteen. -/
def digitValue? (base : Nat) (char : Char) : Option Nat :=
  let value :=
    if isDigit char then char.toNat - '0'.toNat
    else if 'a' ≤ char && char ≤ 'f' then char.toNat - 'a'.toNat + 10
    else if 'A' ≤ char && char ≤ 'F' then char.toNat - 'A'.toNat + 10
    else base
  if value < base then some value else none

/-- The number written by digits of a base. -/
def numberOf? (base : Nat) (digits : List Char) : Option Nat :=
  digits.foldl (fun number? digit =>
    match number?, digitValue? base digit with
    | some number, some value => some (number * base + value)
    | _, _ => none) (some 0)

/-- The character that hexadecimal digits name, which has to exist. -/
def namedChar? (digits : List Char) : Option Char :=
  match numberOf? 16 digits with
  | some number => if number.isValidChar then some (Char.ofNat number) else none
  | none => none

def shortEscape? : Char → Option Char
  | 'b' => some '\x08'
  | 't' => some '\t'
  | 'n' => some '\n'
  | 'f' => some '\x0c'
  | 'r' => some '\r'
  | '"' => some '"'
  | '\\' => some '\\'
  | _ => none

/-- What stands after the backslash of an escape. -/
def scanEscape : List Char → Option (Char × List Char)
  | 'u' :: a :: b :: c :: d :: rest => (namedChar? [a, b, c, d]).map (·, rest)
  | 'U' :: a :: b :: c :: d :: e :: f :: g :: h :: rest =>
    (namedChar? [a, b, c, d, e, f, g, h]).map (·, rest)
  | letter :: rest => (shortEscape? letter).map (·, rest)
  | [] => none

/-- Put a character in front of what was scanned. -/
def prepend (char : Char) (scanned : Option (List Char × List Char)) :
    Option (List Char × List Char) :=
  scanned.map fun found => (char :: found.1, found.2)

/-- A string on one line with escapes, after its opening quote. -/
def scanBasicWithin : Nat → List Char → Option (List Char × List Char)
  | 0, _ => none
  | _, [] => none
  | _, '"' :: rest => some ([], rest)
  | steps + 1, '\\' :: rest =>
    match scanEscape rest with
    | some (char, rest) => prepend char (scanBasicWithin steps rest)
    | none => none
  | steps + 1, char :: rest =>
    if isPrintable char then prepend char (scanBasicWithin steps rest) else none

/-- A string on one line without escapes, after its opening quote. -/
def scanLiteral : List Char → Option (List Char × List Char)
  | [] => none
  | '\'' :: rest => some ([], rest)
  | char :: rest => if isPrintable char then prepend char (scanLiteral rest) else none

/-- The number of quotes at the end of a string over several lines, given the
number of quotes found together: three of them close the string, and up to two
before them belong to it. -/
def closingQuotes? (quotes : Nat) : Option Nat :=
  if 3 ≤ quotes ∧ quotes ≤ 5 then some (quotes - 3) else none

/-- The text after blanks and line breaks. -/
def skipSpace : List Char → List Char
  | ' ' :: rest => skipSpace rest
  | '\t' :: rest => skipSpace rest
  | '\n' :: rest => skipSpace rest
  | '\r' :: '\n' :: rest => skipSpace rest
  | text => text

/-- The text after a backslash at the end of a line: all blanks and line breaks
are skipped, and there is at least one line break. -/
def skipContinuation? (text : List Char) : Option (List Char) :=
  (skipBreak? (skipBlanks text)).map skipSpace

/-- A string over several lines, after its opening quotes; `escapes` says
whether it has escapes. -/
def scanLongWithin (quote : Char) (escapes : Bool) :
    Nat → List Char → Option (List Char × List Char)
  | 0, _ => none
  | _, [] => none
  | steps + 1, char :: rest =>
    if char = quote then
      let quotes := (rest.takeWhile (· == quote)).length + 1
      let after := rest.dropWhile (· == quote)
      if quotes < 3 then
        (scanLongWithin quote escapes steps after).map fun found =>
          (List.replicate quotes quote ++ found.1, found.2)
      else (closingQuotes? quotes).map fun kept => (List.replicate kept quote, after)
    else if escapes && char == '\\' then
      match skipContinuation? rest with
      | some after => scanLongWithin quote escapes steps after
      | none =>
        match scanEscape rest with
        | some (escaped, after) => prepend escaped (scanLongWithin quote escapes steps after)
        | none => none
    else
      match skipBreak? (char :: rest) with
      | some after => prepend '\n' (scanLongWithin quote escapes steps after)
      | none =>
        if isPrintable char then prepend char (scanLongWithin quote escapes steps rest) else none

/-- A string over several lines; a line break right after the opening quotes
does not belong to it. -/
def scanLong (quote : Char) (escapes : Bool) (text : List Char) :
    Option (List Char × List Char) :=
  let body := (skipBreak? text).getD text
  scanLongWithin quote escapes (body.length + 1) body

/-- A string on one line. -/
def scanShortString : List Char → Option (String × List Char)
  | '"' :: rest =>
    (scanBasicWithin (rest.length + 1) rest).map fun found => (String.ofList found.1, found.2)
  | '\'' :: rest => (scanLiteral rest).map fun found => (String.ofList found.1, found.2)
  | _ => none

/-- A string of any form. -/
def scanString : List Char → Option (String × List Char)
  | '"' :: '"' :: '"' :: rest =>
    (scanLong '"' true rest).map fun found => (String.ofList found.1, found.2)
  | '\'' :: '\'' :: '\'' :: rest =>
    (scanLong '\'' false rest).map fun found => (String.ofList found.1, found.2)
  | text => scanShortString text

/-! ## Keys -/

def isBareKeyChar (char : Char) : Bool :=
  isDigit char || ('a' ≤ char && char ≤ 'z') || ('A' ≤ char && char ≤ 'Z')
    || char == '_' || char == '-'

/-- One part of a key. -/
def scanSimpleKey (text : List Char) : Option (String × List Char) :=
  match text.takeWhile isBareKeyChar with
  | [] => scanShortString text
  | bare => some (String.ofList bare, text.dropWhile isBareKeyChar)

/-- The parts of a key joined by dots, with blanks around them. -/
def scanKeyWithin : Nat → List Char → Option (List String × List Char)
  | 0, _ => none
  | steps + 1, text =>
    match scanSimpleKey (skipBlanks text) with
    | none => none
    | some (part, rest) =>
      match skipBlanks rest with
      | '.' :: rest => (scanKeyWithin steps rest).map fun found => (part :: found.1, found.2)
      | rest => some ([part], rest)

/-- How many parts a key can have. -/
def keyLimit : Nat := 79

/-- A key as the path to it and its last part. -/
def scanKey (text : List Char) : Option (List String × String × List Char) :=
  match scanKeyWithin (text.length + 1) text with
  | some (parts, rest) =>
    if parts.length ≤ keyLimit then
      parts.getLast?.map fun last => (parts.dropLast, last, rest)
    else none
  | none => none

end CompactSchema.Toml
