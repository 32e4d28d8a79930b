/-!
Contract: JSON strings.

The quote, the backslash and the control characters below the space are escaped,
five of them in a short form and the others by number; all else stands for
itself.

Owns: the written form of a string.

Does not own: reading, which accepts more forms, see `Json.Token`.
-/

set_option autoImplicit false

namespace CompactSchema.Json

/-- How one character stands in a JSON string. -/
def quoteChar (char : Char) : List Char :=
  match char with
  | '"' => ['\\', '"']
  | '\\' => ['\\', '\\']
  | '\x08' => ['\\', 'b']
  | '\x0c' => ['\\', 'f']
  | '\n' => ['\\', 'n']
  | '\r' => ['\\', 'r']
  | '\t' => ['\\', 't']
  | _ =>
    if char.toNat < 0x20 then
      ['\\', 'u', '0', '0', Nat.digitChar (char.toNat / 16), Nat.digitChar (char.toNat % 16)]
    else [char]

/-- A string in quotes. -/
def quote (text : String) : String :=
  String.ofList ('"' :: text.toList.flatMap quoteChar ++ ['"'])

/-- An array of texts. -/
def arrayText (items : List String) : String := "[" ++ ",".intercalate items ++ "]"

/-- An object with texts for values. -/
def objectText (members : List (String × String)) : String :=
  "\x7b" ++ ",".intercalate (members.map fun member => quote member.1 ++ ":" ++ member.2)
    ++ "\x7d"

end CompactSchema.Json
