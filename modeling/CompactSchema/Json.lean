import CompactSchema.Entries
import CompactSchema.Json.Quoted
import CompactSchema.Number.Style

/-!
Contract: JSON values and their compact text.

Owns: the values, with integers and 64-bit numbers told apart, and the text
without blanks.

Does not own: reading, see `Json.Document`.
-/

set_option autoImplicit false

namespace CompactSchema

/-- A JSON value. The members of an object are written as they stand. -/
inductive Json where
  | null
  | bool (bit : Bool)
  | integer (whole : Int)
  | number (double : Binary64)
  | string (text : String)
  | array (items : List Json)
  | object (members : List (String × Json))

namespace Json

/-- An object as a dictionary: its members in name order, each name once. -/
def ofMembers (members : List (String × Json)) : Json := object (Entries.ofList members)

def boolText (bit : Bool) : String := if bit then "true" else "false"

mutual

/-- The text of a value. A number that is not finite is written as null. -/
def text : Json → String
  | null => "null"
  | bool bit => boolText bit
  | integer whole => toString whole
  | number double => NumberStyle.json64.text64 double
  | string content => quote content
  | array items => arrayText (itemTexts items)
  | object members => objectText (memberTexts members)

def itemTexts : List Json → List String
  | [] => []
  | item :: items => item.text :: itemTexts items

def memberTexts : List (String × Json) → List (String × String)
  | [] => []
  | (name, value) :: members => (name, value.text) :: memberTexts members

end

end Json

end CompactSchema
