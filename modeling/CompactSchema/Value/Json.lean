import CompactSchema.Json
import CompactSchema.Value

/-!
Contract: the JSON views of values and records.

A record is an object with the type name as its only member, whose value is an
object with the fields in name order. Decimals, dates, times and timestamps are
strings, so that nothing of them is lost.

There are two views. The text is written straight from the value. The tree is a
JSON value, in which every number has 64 bits: it differs from the text in the
digits of 32-bit numbers and in nothing else.

Owns: both views.

Does not own: the developer-facing text, see `Value.Inspect`.
-/

set_option autoImplicit false

namespace CompactSchema

/-! ## The text -/

def Scalar.jsonText : Scalar → String
  | .boolean bit => Json.boolText bit
  | .int8 number => toString number.toInt
  | .int16 number => toString number.toInt
  | .int32 number => toString number.toInt
  | .int64 number => toString number.toInt
  | .float32 number => NumberStyle.json32.text32 number
  | .float64 number => NumberStyle.json64.text64 number
  | .string text => Json.quote text
  | .decimal number => Json.quote number.text
  | .time clock => Json.quote clock.text
  | .date day => Json.quote day.text
  | .timestamp moment => Json.quote moment.text
  | .timestampWithTimezone moment => Json.quote moment.text

/-- A record from the texts of its values. -/
def recordText (schema : Schema) (values : List (String × String)) : String :=
  Json.objectText [(schema.typeName, Json.objectText values)]

mutual

/-- The text of a value. -/
def Value.jsonText : Value → String
  | .null => "null"
  | .scalar leaf => leaf.jsonText
  | .compact schema values => recordText schema (Value.jsonFieldTexts values)
  | .array items => Json.arrayText (Value.jsonItemTexts items)

def Value.jsonItemTexts : List Value → List String
  | [] => []
  | item :: items => item.jsonText :: Value.jsonItemTexts items

def Value.jsonFieldTexts : List (String × Value) → List (String × String)
  | [] => []
  | (name, value) :: fields => (name, value.jsonText) :: Value.jsonFieldTexts fields

end

/-- The text of a record. -/
def Record.jsonText (record : Record) : String :=
  recordText record.schema (Value.jsonFieldTexts record.values)

/-! ## The tree -/

/-- A number that is not finite has no place in JSON and becomes null. -/
def Json.ofBinary64 (number : Binary64) : Json :=
  match number.classify with
  | .finite _ _ _ => .number number
  | _ => .null

def Scalar.toJson : Scalar → Json
  | .boolean bit => .bool bit
  | .int8 number => .integer number.toInt
  | .int16 number => .integer number.toInt
  | .int32 number => .integer number.toInt
  | .int64 number => .integer number.toInt
  | .float32 number => .ofBinary64 number.widen
  | .float64 number => .ofBinary64 number
  | .string text => .string text
  | .decimal number => .string number.text
  | .time clock => .string clock.text
  | .date day => .string day.text
  | .timestamp moment => .string moment.text
  | .timestampWithTimezone moment => .string moment.text

mutual

/-- The tree of a value. -/
def Value.toJson : Value → Json
  | .null => .null
  | .scalar leaf => leaf.toJson
  | .compact schema values =>
    .ofMembers [(schema.typeName, .ofMembers (Value.toJsonFields values))]
  | .array items => .array (Value.toJsonItems items)

def Value.toJsonItems : List Value → List Json
  | [] => []
  | item :: items => item.toJson :: Value.toJsonItems items

def Value.toJsonFields : List (String × Value) → List (String × Json)
  | [] => []
  | (name, value) :: fields => (name, value.toJson) :: Value.toJsonFields fields

end

/-- The tree of a record. -/
def Record.toJson (record : Record) : Json := record.toValue.toJson

end CompactSchema
