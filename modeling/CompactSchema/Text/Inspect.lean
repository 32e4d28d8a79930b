import CompactSchema.Text.Hidden

/-!
Contract: strings in double quotes, as developer-facing text shows them.

Owns: the escapes: a backslash form for the quote, the backslash, tab, carriage
return, line feed and the null character, and the number for hidden characters.

Does not own: JSON strings, see `Json.Quoted`.
-/

set_option autoImplicit false

namespace CompactSchema.Text

/-- How one character stands in quoted text. -/
def inspectChar (char : Char) : String :=
  match char with
  | '"' => "\\\""
  | '\\' => "\\\\"
  | '\t' => "\\t"
  | '\r' => "\\r"
  | '\n' => "\\n"
  | '\x00' => "\\0"
  | _ =>
    if ' ' ≤ char ∧ char ≤ '~' then char.toString
    else if isHidden char then
      "\\u\x7b" ++ String.ofList (Nat.toDigits 16 char.toNat) ++ "\x7d"
    else char.toString

/-- A string in quotes. -/
def inspect (text : String) : String :=
  "\"" ++ String.join (text.toList.map inspectChar) ++ "\""

end CompactSchema.Text
