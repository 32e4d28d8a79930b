import CompactSchema.Number.Style
import CompactSchema.Text.Inspect
import CompactSchema.Value

/-!
Contract: the developer-facing text of values, records and schemas.

Owns: the text, which shows every part by name and stands on one line.

Does not own: the JSON text, see `Value.Json`.
-/

set_option autoImplicit false

namespace CompactSchema

/-- A placement with its numbers by name. -/
def Placement.inspect : Placement → String
  | .unassigned => "Unassigned"
  | .bytes offset => "Fixed \x7b offset: " ++ toString offset ++ " \x7d"
  | .bit offset position =>
    "Bit \x7b offset: " ++ toString offset ++ ", bit: " ++ toString position ++ " \x7d"
  | .slot index => "Variable \x7b index: " ++ toString index ++ " \x7d"

def Descriptor.inspect (descriptor : Descriptor) : String :=
  "FieldDescriptor \x7b name: " ++ Text.inspect descriptor.name ++ ", kind: "
    ++ descriptor.kind.camelName ++ ", layout: " ++ descriptor.placement.inspect ++ " \x7d"

/-- Named parts in braces, without blanks inside the braces. -/
def inspectEntries (entries : List (String × String)) : String :=
  "\x7b" ++ ", ".intercalate (entries.map fun entry =>
    Text.inspect entry.1 ++ ": " ++ entry.2) ++ "\x7d"

def Schema.inspect (schema : Schema) : String :=
  "Schema \x7b type_name: " ++ Text.inspect schema.typeName ++ ", fields: "
    ++ inspectEntries (schema.descriptors.map fun descriptor =>
      (descriptor.name, descriptor.inspect))
    ++ ", schema_id: " ++ toString schema.id
    ++ ", fixed_size_fields_length: " ++ toString schema.fixedLength
    ++ ", number_of_var_size_fields: " ++ toString schema.slotCount ++ " \x7d"

/-- A schema and the texts of its values as a record. -/
def inspectRecord (schema : Schema) (values : List (String × String)) : String :=
  "GenericRecord \x7b inner: RecordInner \x7b schema: " ++ schema.inspect ++ ", values: "
    ++ inspectEntries values ++ " \x7d \x7d"

def Scalar.inspect : Scalar → String
  | .boolean bit => "Boolean(" ++ (if bit then "true" else "false") ++ ")"
  | .int8 number => "Int8(" ++ toString number ++ ")"
  | .int16 number => "Int16(" ++ toString number ++ ")"
  | .int32 number => "Int32(" ++ toString number ++ ")"
  | .int64 number => "Int64(" ++ toString number ++ ")"
  | .float32 number => "Float32(" ++ NumberStyle.inspect.text32 number ++ ")"
  | .float64 number => "Float64(" ++ NumberStyle.inspect.text64 number ++ ")"
  | .string text => "String(" ++ Text.inspect text ++ ")"
  | .decimal number => "Decimal(" ++ number.text ++ ")"
  | .time clock => "Time(" ++ clock.text ++ ")"
  | .date day => "Date(" ++ day.text ++ ")"
  | .timestamp moment => "Timestamp(" ++ moment.text ++ ")"
  | .timestampWithTimezone moment => "TimestampWithTimezone(" ++ moment.inspect ++ ")"

mutual

/-- The text of a value. -/
def Value.inspect : Value → String
  | .null => "Null"
  | .scalar leaf => leaf.inspect
  | .compact schema values =>
    "Compact(" ++ inspectRecord schema (Value.inspectFields values) ++ ")"
  | .array items => "Array([" ++ ", ".intercalate (Value.inspectItems items) ++ "])"

def Value.inspectItems : List Value → List String
  | [] => []
  | item :: items => item.inspect :: Value.inspectItems items

def Value.inspectFields : List (String × Value) → List (String × String)
  | [] => []
  | (name, value) :: fields => (name, value.inspect) :: Value.inspectFields fields

end

def Record.inspect (record : Record) : String :=
  inspectRecord record.schema (Value.inspectFields record.values)

end CompactSchema
