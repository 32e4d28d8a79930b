import CompactSchema.Value.Conformance
import CompactSchema.Value.Inspect

/-!
Contract: records that match their schema.

A record is made from a schema and a value for every field. Nothing else makes a
record, so every record has exactly the fields of its schema and a value in each
of them that the kind of the field accepts.

Owns: the making of a record with its errors, and the lookup of values by name.

Does not own: typed access, see `Record.Access`; building, see `Record.Builder`.
-/

set_option autoImplicit false

namespace CompactSchema

namespace Schema

/-- The first value, in name order, that the schema does not declare or that its
kind does not accept. -/
def firstUnfit? (schema : Schema) : List (String × Value) → Option SchemaError
  | [] => none
  | (name, value) :: rest =>
    match schema.kind? name with
    | none => some (.fieldNotFound name schema.text)
    | some kind =>
      if kind.accepts value then schema.firstUnfit? rest
      else some (.unfitValue value.inspect name kind)

/-- The first declared field, in name order, that has no value. -/
def firstMissing? (schema : Schema) (values : Entries String Value) : Option String :=
  schema.fieldNames.find? fun name => !Entries.has name values

end Schema

namespace Record

/-- Make a record from values in name order. A value that does not fit is
reported before a field without a value. -/
def ofValues (schema : Schema) (values : Entries String Value) : Except SchemaError Record :=
  match schema.firstUnfit? values with
  | some fault => .error fault
  | none =>
    match schema.firstMissing? values with
    | some name => .error (.missingField name schema.text)
    | none => .ok ⟨schema, values⟩

/-- The value under a name. -/
def value? (record : Record) (name : String) : Option Value := Entries.find? name record.values

/-- Whether the record holds a value under a name. -/
def hasField (record : Record) (name : String) : Bool := (record.value? name).isSome

/-- The names under which the record holds values, in order. -/
def fieldNames (record : Record) : List String := Entries.keys record.values

/-- The declared kind of a field, and `notAvailable` for any other name. -/
def fieldKind (record : Record) (name : String) : Kind :=
  (record.schema.kind? name).getD .notAvailable

/-- The error for a name that the schema does not declare. -/
def notFound (record : Record) (name : String) : SchemaError :=
  .fieldNotFound name record.schema.text

/-- The descriptor of a field. -/
def descriptor (record : Record) (name : String) : Except SchemaError Descriptor :=
  match record.schema.descriptor? name with
  | some descriptor => .ok descriptor
  | none => .error (record.notFound name)

end Record

end CompactSchema
