import CompactSchema.Value.Json

/-!
Contract: one walk over a value that writes any form of JSON.

A sink says what becomes of each kind of part and can refuse any of them; if it refuses
one, nothing is written. The text and the tree are two sinks.

Owns: sinks, the two in use, and the walk.

Does not own: what the two views of a value are, see `Value.Json`.
-/

set_option autoImplicit false

namespace CompactSchema

/-- A finite number of 32 bits, which is neither NaN nor infinite. -/
def Binary32.isFinite (number : Binary32) : Bool :=
  match number.classify with
  | .finite _ _ _ => true
  | _ => false

/-- What becomes of each kind of part of a JSON value. -/
structure Json.Sink (α : Type) where
  null : Option α
  bool : Bool → Option α
  integer : Int → Option α
  float32 : Binary32 → Option α
  float64 : Binary64 → Option α
  string : String → Option α
  array : List α → Option α
  object : List (String × α) → Option α

namespace Json.Sink

/-- The compact text. Finite numbers of 32 bits are written by `digits`. -/
def text (digits : Binary32 → String) : Sink String where
  null := some "null"
  bool bit := some (boolText bit)
  integer whole := some (toString whole)
  float32 number := some (if number.isFinite then digits number else "null")
  float64 number := some (NumberStyle.json64.text64 number)
  string content := some (quote content)
  array items := some (arrayText items)
  object members := some (objectText members)

/-- The tree. Numbers of 32 bits are widened. -/
def tree : Sink Json where
  null := some .null
  bool bit := some (.bool bit)
  integer whole := some (.integer whole)
  float32 number := some (.ofBinary64 number.widen)
  float64 number := some (.ofBinary64 number)
  string content := some (.string content)
  array items := some (.array items)
  object members := some (.ofMembers members)

end Json.Sink

variable {α : Type}

/-- Integers of all widths are written alike, and what has no form of its own in JSON is
written as a string. -/
def Scalar.writeTo (sink : Json.Sink α) : Scalar → Option α
  | .boolean bit => sink.bool bit
  | .int8 number => sink.integer number.toInt
  | .int16 number => sink.integer number.toInt
  | .int32 number => sink.integer number.toInt
  | .int64 number => sink.integer number.toInt
  | .float32 number => sink.float32 number
  | .float64 number => sink.float64 number
  | .string text => sink.string text
  | .decimal number => sink.string number.text
  | .time clock => sink.string clock.text
  | .date day => sink.string day.text
  | .timestamp moment => sink.string moment.text
  | .timestampWithTimezone moment => sink.string moment.text

mutual

/-- Write a value. A record is an object with one member, which has the name of its type
and holds the fields. -/
def Value.writeTo (sink : Json.Sink α) : Value → Option α
  | .null => sink.null
  | .scalar leaf => leaf.writeTo sink
  | .compact schema values => do
    let fields ← Value.writeFieldsTo sink values
    let body ← sink.object fields
    sink.object [(schema.typeName, body)]
  | .array items => do
    let parts ← Value.writeItemsTo sink items
    sink.array parts

def Value.writeItemsTo (sink : Json.Sink α) : List Value → Option (List α)
  | [] => some []
  | item :: items => do
    let first ← item.writeTo sink
    let rest ← Value.writeItemsTo sink items
    return first :: rest

def Value.writeFieldsTo (sink : Json.Sink α) : List (String × Value) → Option (List (String × α))
  | [] => some []
  | (name, value) :: fields => do
    let first ← value.writeTo sink
    let rest ← Value.writeFieldsTo sink fields
    return (name, first) :: rest

end

/-- Write a record. -/
def Record.writeTo (sink : Json.Sink α) (record : Record) : Option α :=
  record.toValue.writeTo sink

end CompactSchema
