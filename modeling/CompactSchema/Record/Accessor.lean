import CompactSchema.Record.Access
import CompactSchema.Record.Builder

/-!
Contract: all accessors of a record, as data.

Every accessor can be named, listed and applied to a field. What it reads is
answered as a value: an absent answer is null, and an array is an array of
values.

Owns: the catalogue of accessors with their names, and their application.

Does not own: what each of them reads, see `Record.Access`.
-/

set_option autoImplicit false

namespace CompactSchema

inductive Accessor where
  | single (type : Primitive)
  | nullable (type : Primitive)
  | arrayOf (type : Primitive)
  | arrayOfNullable (type : Primitive)
  | fromArray (type : Primitive)
  | nullableFromArray (type : Primitive)
  | varying (type : Varying)
  | arrayOfVarying (type : Varying)
  | varyingFromArray (type : Varying)
  | char
  | arrayOfChar
  | charFromArray
deriving DecidableEq, Repr

namespace Accessor

/-- The accessors of one primitive type. -/
def ofPrimitive (type : Primitive) : List Accessor :=
  [single type, nullable type, arrayOf type, arrayOfNullable type, fromArray type,
    nullableFromArray type]

/-- The accessors of one variable-size type. -/
def ofVarying (type : Varying) : List Accessor :=
  [varying type, arrayOfVarying type, varyingFromArray type]

def all : List Accessor :=
  Primitive.all.flatMap ofPrimitive ++ Varying.all.flatMap ofVarying
    ++ [char, arrayOfChar, charFromArray]

/-- The catalogue is complete. -/
theorem mem_all (accessor : Accessor) : accessor ∈ all := by
  cases accessor with
  | single type => cases type <;> decide
  | nullable type => cases type <;> decide
  | arrayOf type => cases type <;> decide
  | arrayOfNullable type => cases type <;> decide
  | fromArray type => cases type <;> decide
  | nullableFromArray type => cases type <;> decide
  | varying type => cases type <;> decide
  | arrayOfVarying type => cases type <;> decide
  | varyingFromArray type => cases type <;> decide
  | char => decide
  | arrayOfChar => decide
  | charFromArray => decide

def name : Accessor → String
  | single type => type.accessor
  | nullable type => "get_nullable_" ++ type.word
  | arrayOf type => type.arrayAccessor
  | arrayOfNullable type => "get_array_of_nullable_" ++ type.word
  | fromArray type => type.accessor ++ "_from_array"
  | nullableFromArray type => "get_nullable_" ++ type.word ++ "_from_array"
  | varying type => "get_" ++ type.word
  | arrayOfVarying type => "get_array_of_" ++ type.word
  | varyingFromArray type => "get_" ++ type.word ++ "_from_array"
  | char => "get_char"
  | arrayOfChar => "get_array_of_char"
  | charFromArray => "get_char_from_array"

/-- The accessor of a name. -/
def ofName? (text : String) : Option Accessor := all.find? fun accessor => accessor.name == text

/-- A character as a value, which no field can hold. -/
def charValue (letter : Char) : Value := .scalar (.string (String.ofList [letter]))

/-- Apply an accessor to a field. Only the accessors of single elements look at
the index. -/
def read (accessor : Accessor) (record : Record) (field : String) (index : Nat) :
    Except SchemaError Value :=
  let optional {α : Type} (toValue : α → Value) := Assignment.optional toValue
  let items {α : Type} (toValue : α → Value) (found : List α) : Value := .array (found.map toValue)
  match accessor with
  | single type => (record.get type field).map type.toValue
  | nullable type => (record.getNullable type field).map (optional type.toValue)
  | arrayOf type => (record.getArrayOf type field).map (optional (items type.toValue))
  | arrayOfNullable type =>
    (record.getArrayOfNullable type field).map (optional (items (optional type.toValue)))
  | fromArray type => (record.getFromArray type field index).map (optional type.toValue)
  | nullableFromArray type =>
    (record.getNullableFromArray type field index).map (optional type.toValue)
  | varying type => (record.getVarying type field).map (optional type.toValue)
  | arrayOfVarying type =>
    (record.getArrayOfVarying type field).map (optional (items (optional type.toValue)))
  | varyingFromArray type =>
    (record.getVaryingFromArray type field index).map (optional type.toValue)
  | char => (record.getChar field).map charValue
  | arrayOfChar => (record.getArrayOfChar field).map (optional (items charValue))
  | charFromArray => (record.getCharFromArray field index).map (optional charValue)

end Accessor

end CompactSchema
