import CompactSchema.Record

/-!
Contract: building records field by field.

A builder for a given schema admits only declared fields with their declared
kinds and, when it builds, puts null into the nullable fields that were not set.
A builder that starts from a record keeps the values that are not set. A compact
builder has no schema; it derives one from the fields that were set. In all of
them a field can be set once.

Owns: assignments, which are typed values for a field with the kind that they
imply, and builders.

Does not own: the final check of a record, see `Record`.
-/

set_option autoImplicit false

namespace CompactSchema

/-- A typed value for a field. -/
inductive Assignment where
  | plain (type : Primitive) (payload : type.Payload)
  | nullable (type : Primitive) (payload? : Option type.Payload)
  | arrayOf (type : Primitive) (payloads? : Option (List type.Payload))
  | arrayOfNullable (type : Primitive) (payloads? : Option (List (Option type.Payload)))
  | varying (type : Varying) (payload? : Option type.Payload)
  | arrayOfVarying (type : Varying) (payloads? : Option (List (Option type.Payload)))

namespace Assignment

/-- The kind of field that takes the assignment. -/
def kind : Assignment → Kind
  | plain type _ => .plain type
  | nullable type _ => .nullable type
  | arrayOf type _ => .arrayOf type
  | arrayOfNullable type _ => .arrayOfNullable type
  | varying type _ => .varying type
  | arrayOfVarying type _ => .arrayOfVarying type

/-- An optional payload as a value. -/
def optional {α : Type} (toValue : α → Value) : Option α → Value
  | some payload => toValue payload
  | none => .null

/-- The value that is stored. -/
def value : Assignment → Value
  | plain type payload => type.toValue payload
  | nullable type payload? => optional type.toValue payload?
  | arrayOf type payloads? =>
    optional (fun payloads => .array (payloads.map type.toValue)) payloads?
  | arrayOfNullable type payloads? =>
    optional (fun payloads => .array (payloads.map (optional type.toValue))) payloads?
  | varying type payload? => optional type.toValue payload?
  | arrayOfVarying type payloads? =>
    optional (fun payloads => .array (payloads.map (optional type.toValue))) payloads?

end Assignment

/-- What a builder builds for. -/
inductive BuilderMode where
  /-- A schema is derived from the kinds of the fields that were set. -/
  | compact (typeName : String) (kinds : Entries String Kind)
  /-- Every field has to be declared; nullable ones can be left out. -/
  | bound (schema : Schema)
  /-- Every field has to be declared; all of them have a value already. -/
  | cloned (schema : Schema)

/-- A record under construction. -/
structure Builder where
  mode : BuilderMode
  values : Entries String Value
  /-- The fields set so far. -/
  written : List String

namespace Builder

def compact (typeName : String) : Builder := ⟨.compact typeName [], [], []⟩

def bound (schema : Schema) : Builder := ⟨.bound schema, [], []⟩

/-- A builder that starts from the values of a record. -/
def ofRecord (record : Record) : Builder := ⟨.cloned record.schema, record.values, []⟩

/-- The fault of setting a field of a schema to a kind: the field has to be
declared, with just this kind. -/
def mismatch? (schema : Schema) (name : String) (kind : Kind) : Option SchemaError :=
  match schema.kind? name with
  | none => some (.fieldNotFound name schema.text)
  | some declared =>
    if declared = kind then none
    else some (.kindMismatch name schema.text [kind] declared)

/-- The mode after a field has been set to a kind, if the field is admitted. -/
def receive (mode : BuilderMode) (name : String) (kind : Kind) : Except SchemaError BuilderMode :=
  match mode with
  | .compact typeName kinds => .ok (.compact typeName (Entries.insert name kind kinds))
  | .bound schema =>
    match mismatch? schema name kind with
    | some fault => .error fault
    | none => .ok (.bound schema)
  | .cloned schema =>
    match mismatch? schema name kind with
    | some fault => .error fault
    | none => .ok (.cloned schema)

/-- Set a field. That it was set before is noticed first. -/
def set (builder : Builder) (name : String) (assignment : Assignment) :
    Except SchemaError Builder :=
  if name ∈ builder.written then .error (.setTwice name)
  else
    (receive builder.mode name assignment.kind).map fun mode =>
      { mode
        values := Entries.insert name assignment.value builder.values
        written := name :: builder.written }

/-- Put null into the fields that have no value; the first of them that does not
accept null is missing. -/
def fillNulls (schema : Schema) :
    List (String × Kind) → Entries String Value → Except SchemaError (Entries String Value)
  | [], values => .ok values
  | (name, kind) :: rest, values =>
    if Entries.has name values then fillNulls schema rest values
    else if kind.acceptsNull then fillNulls schema rest (Entries.insert name .null values)
    else .error (.missingField name schema.text)

/-- Descriptors for fields given by name and kind. -/
def descriptorsOf (kinds : Entries String Kind) : List Descriptor :=
  kinds.map fun field => { name := field.1, kind := field.2 }

/-- Finish the record. -/
def build (builder : Builder) : Except SchemaError Record :=
  match builder.mode with
  | .compact typeName kinds => do
    let schema ← Schema.declare typeName (descriptorsOf kinds)
    Record.ofValues schema builder.values
  | .bound schema => do
    let values ← fillNulls schema schema.fields builder.values
    Record.ofValues schema values
  | .cloned schema => Record.ofValues schema builder.values

end Builder

end CompactSchema
