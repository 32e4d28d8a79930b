import CompactSchema.Record

/-!
Contract: typed access to the fields of a record.

Every accessor first compares the declared kind of the field with the kinds that
it can read. A primitive can be read from a plain and from a nullable field, an
array of primitives from both array kinds. An accessor that can not answer null
fails where it finds null. Access to a single element is lenient: a name that is
not declared, an array that is null and an index past the end all answer none.

Owns: the accessors by type.

Does not own: the values themselves.
-/

set_option autoImplicit false

namespace CompactSchema

/-- The kinds from which one primitive can be read. -/
def Primitive.singleKinds (type : Primitive) : List Kind := [.plain type, .nullable type]

/-- The kinds from which an array of primitives can be read. -/
def Primitive.arrayKinds (type : Primitive) : List Kind := [.arrayOf type, .arrayOfNullable type]

/-- The name of the accessor that reads one primitive. -/
def Primitive.accessor (type : Primitive) : String := "get_" ++ type.word

/-- The name of the accessor that reads an array of primitives. -/
def Primitive.arrayAccessor (type : Primitive) : String := "get_array_of_" ++ type.word

namespace Record

/-- The value of a field; null under a name that is not there. -/
def stored (record : Record) (name : String) : Value := (record.value? name).getD .null

/-- The value of a field whose declared kind is one of the given ones. -/
def read (record : Record) (name : String) (kinds : List Kind) : Except SchemaError Value :=
  match record.schema.kind? name with
  | none => .error (record.notFound name)
  | some kind =>
    if kind ∈ kinds then .ok (record.stored name)
    else .error (.kindMismatch name record.schema.text kinds kind)

/-- The items of an array; anything else has none. -/
def itemsOf? : Value → Option (List Value)
  | .array items => some items
  | _ => none

/-- An element of the array in a field; none if the name is not declared, the
array is null or it has no such index. -/
def element (record : Record) (name : String) (index : Nat) (kinds : List Kind) :
    Except SchemaError (Option Value) :=
  if record.schema.hasField name then
    (record.read name kinds).map fun value => (itemsOf? value).bind fun items => items[index]?
  else .ok none

/-- The payloads of all items, or the index of the first item without one. -/
def payloads {α : Type} (payload? : Value → Option α) (index : Nat) :
    List Value → Except Nat (List α)
  | [] => .ok []
  | item :: items =>
    match payload? item with
    | none => .error index
    | some payload => (payloads payload? (index + 1) items).map (payload :: ·)

/-! ## Primitives -/

/-- One primitive. -/
def get (record : Record) (type : Primitive) (name : String) :
    Except SchemaError type.Payload := do
  let value ← record.read name type.singleKinds
  match type.ofValue? value with
  | some payload => return payload
  | none => throw (.nullValue name type.accessor)

/-- One primitive or null. -/
def getNullable (record : Record) (type : Primitive) (name : String) :
    Except SchemaError (Option type.Payload) := do
  let value ← record.read name type.singleKinds
  return type.ofValue? value

/-- An array of primitives without null. -/
def getArrayOf (record : Record) (type : Primitive) (name : String) :
    Except SchemaError (Option (List type.Payload)) := do
  let value ← record.read name type.arrayKinds
  match itemsOf? value with
  | none => return none
  | some items =>
    match payloads type.ofValue? 0 items with
    | .ok found => return some found
    | .error index => throw (.nullInArray name type.arrayAccessor index)

/-- An array of primitives and nulls. -/
def getArrayOfNullable (record : Record) (type : Primitive) (name : String) :
    Except SchemaError (Option (List (Option type.Payload))) := do
  let value ← record.read name type.arrayKinds
  return (itemsOf? value).map fun items => items.map type.ofValue?

/-- One element of an array of primitives, which is not null. -/
def getFromArray (record : Record) (type : Primitive) (name : String) (index : Nat) :
    Except SchemaError (Option type.Payload) := do
  match ← record.element name index type.arrayKinds with
  | none => return none
  | some item =>
    match type.ofValue? item with
    | some payload => return some payload
    | none => throw (.nullInArray name type.arrayAccessor index)

/-- One element of an array of primitives, which may be null. -/
def getNullableFromArray (record : Record) (type : Primitive) (name : String) (index : Nat) :
    Except SchemaError (Option type.Payload) := do
  let item? ← record.element name index type.arrayKinds
  return item?.bind type.ofValue?

/-! ## Variable-size types -/

/-- One variable-size value or null. -/
def getVarying (record : Record) (type : Varying) (name : String) :
    Except SchemaError (Option type.Payload) := do
  let value ← record.read name [.varying type]
  return type.ofValue? value

/-- An array of variable-size values and nulls. -/
def getArrayOfVarying (record : Record) (type : Varying) (name : String) :
    Except SchemaError (Option (List (Option type.Payload))) := do
  let value ← record.read name [.arrayOfVarying type]
  return (itemsOf? value).map fun items => items.map type.ofValue?

/-- One element of an array of variable-size values. -/
def getVaryingFromArray (record : Record) (type : Varying) (name : String) (index : Nat) :
    Except SchemaError (Option type.Payload) := do
  let item? ← record.element name index [.arrayOfVarying type]
  return item?.bind type.ofValue?

/-! ## Characters -/

/-- The format has no characters, so every access to one is refused. -/
def getChar (_record : Record) (_name : String) : Except SchemaError Char :=
  .error .charAccess

def getArrayOfChar (_record : Record) (_name : String) :
    Except SchemaError (Option (List Char)) :=
  .error .charAccess

def getCharFromArray (_record : Record) (_name : String) (_index : Nat) :
    Except SchemaError (Option Char) :=
  .error .charAccess

end Record

end CompactSchema
