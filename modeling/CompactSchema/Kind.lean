/-!
Contract: the closed catalogue of kinds a field of a compact record can have.

A kind is a shape (plain, nullable, array, array of nullable) over one of seven
fixed-size primitive types, or a shape (single, array) over one of seven
variable-size types. One further kind, `notAvailable`, is answered for a field
that a schema does not declare and can never be declared itself.

Owns:
- the kinds, their numeric ids, names, sizes and element kinds;
- the lookup of a kind by id and by name.

Does not own: which values a kind accepts.
-/

set_option autoImplicit false

namespace CompactSchema

/-- The fixed-size types. A field of such a type can be declared nullable or not. -/
inductive Primitive where
  | boolean
  | int8
  | int16
  | int32
  | int64
  | float32
  | float64
deriving DecidableEq, Repr

/-- The variable-size types. A field of such a type can always hold null. -/
inductive Varying where
  | string
  | decimal
  | time
  | date
  | timestamp
  | timestampWithTimezone
  | compact
deriving DecidableEq, Repr

namespace Primitive

/-- Every primitive type, in the order of the kind ids. -/
def all : List Primitive :=
  [boolean, int8, int16, int32, int64, float32, float64]

theorem mem_all (primitive : Primitive) : primitive ∈ all := by
  cases primitive <;> decide

/-- The name in kind names. -/
def label : Primitive → String
  | boolean => "BOOLEAN"
  | int8 => "INT8"
  | int16 => "INT16"
  | int32 => "INT32"
  | int64 => "INT64"
  | float32 => "FLOAT32"
  | float64 => "FLOAT64"

/-- The name in developer-facing texts. -/
def camelLabel : Primitive → String
  | boolean => "Boolean"
  | int8 => "Int8"
  | int16 => "Int16"
  | int32 => "Int32"
  | int64 => "Int64"
  | float32 => "Float32"
  | float64 => "Float64"

/-- The name in the names of accessors and setters. -/
def word : Primitive → String
  | boolean => "boolean"
  | int8 => "int8"
  | int16 => "int16"
  | int32 => "int32"
  | int64 => "int64"
  | float32 => "float32"
  | float64 => "float64"

/-- Length in bytes of one value. A boolean counts as a byte here, although a
record stores it as a bit. -/
def size : Primitive → Nat
  | boolean => 1
  | int8 => 1
  | int16 => 2
  | int32 => 4
  | int64 => 8
  | float32 => 4
  | float64 => 8

/-- Id of the plain kind; the array kind has the next id. -/
def plainId : Primitive → Nat
  | boolean => 1
  | int8 => 3
  | int16 => 7
  | int32 => 9
  | int64 => 11
  | float32 => 13
  | float64 => 15

/-- Id of the nullable kind; the array of nullable kind has the next id. -/
def nullableId : Primitive → Nat
  | boolean => 33
  | int8 => 35
  | int16 => 37
  | int32 => 39
  | int64 => 41
  | float32 => 43
  | float64 => 45

end Primitive

namespace Varying

/-- Every variable-size type, in the order of the kind ids. -/
def all : List Varying :=
  [string, decimal, time, date, timestamp, timestampWithTimezone, compact]

theorem mem_all (varying : Varying) : varying ∈ all := by
  cases varying <;> decide

/-- The name in kind names. -/
def label : Varying → String
  | string => "STRING"
  | decimal => "DECIMAL"
  | time => "TIME"
  | date => "DATE"
  | timestamp => "TIMESTAMP"
  | timestampWithTimezone => "TIMESTAMP_WITH_TIMEZONE"
  | compact => "COMPACT"

/-- The name in developer-facing texts. -/
def camelLabel : Varying → String
  | string => "String"
  | decimal => "Decimal"
  | time => "Time"
  | date => "Date"
  | timestamp => "Timestamp"
  | timestampWithTimezone => "TimestampWithTimezone"
  | compact => "Compact"

/-- The name in the names of accessors and setters. -/
def word : Varying → String
  | string => "string"
  | decimal => "decimal"
  | time => "time"
  | date => "date"
  | timestamp => "timestamp"
  | timestampWithTimezone => "timestamp_with_timezone"
  | compact => "generic_record"

/-- Id of the single kind; the array kind has the next id. -/
def singleId : Varying → Nat
  | string => 17
  | decimal => 19
  | time => 21
  | date => 23
  | timestamp => 25
  | timestampWithTimezone => 27
  | compact => 29

end Varying

/-- The kind of a field. -/
inductive Kind where
  /-- Answered for a field that is not declared; itself never declared. -/
  | notAvailable
  /-- A primitive that is never null. -/
  | plain (type : Primitive)
  /-- A primitive or null. -/
  | nullable (type : Primitive)
  /-- An array of primitives, none of them null. -/
  | arrayOf (type : Primitive)
  /-- An array of primitives and nulls. -/
  | arrayOfNullable (type : Primitive)
  /-- A variable-size value or null. -/
  | varying (type : Varying)
  /-- An array of variable-size values and nulls. -/
  | arrayOfVarying (type : Varying)
deriving DecidableEq, Repr

namespace Kind

/-- Every kind that a schema can declare, in the order of the ids. -/
def all : List Kind :=
  Primitive.all.flatMap (fun type => [plain type, arrayOf type])
    ++ Varying.all.flatMap (fun type => [varying type, arrayOfVarying type])
    ++ Primitive.all.flatMap (fun type => [nullable type, arrayOfNullable type])

/-- Every kind, in the order of the ids. -/
def catalogue : List Kind := notAvailable :: all

theorem mem_catalogue (kind : Kind) : kind ∈ catalogue := by
  cases kind with
  | notAvailable => decide
  | plain type => cases type <;> decide
  | nullable type => cases type <;> decide
  | arrayOf type => cases type <;> decide
  | arrayOfNullable type => cases type <;> decide
  | varying type => cases type <;> decide
  | arrayOfVarying type => cases type <;> decide

/-- The number that stands for the kind in a schema's fingerprint. Ids 5, 6, 31
and 32 are reserved. -/
def id : Kind → Nat
  | notAvailable => 0
  | plain type => type.plainId
  | arrayOf type => type.plainId + 1
  | nullable type => type.nullableId
  | arrayOfNullable type => type.nullableId + 1
  | varying type => type.singleId
  | arrayOfVarying type => type.singleId + 1

/-- The kind with the given id; reserved and foreign numbers have none. -/
def ofId? (number : Int) : Option Kind :=
  catalogue.find? (fun kind => (kind.id : Int) == number)

/-- The name in upper case with underscores. -/
def name : Kind → String
  | notAvailable => "NOT_AVAILABLE"
  | plain type => type.label
  | nullable type => "NULLABLE_" ++ type.label
  | arrayOf type => "ARRAY_OF_" ++ type.label
  | arrayOfNullable type => "ARRAY_OF_NULLABLE_" ++ type.label
  | varying type => type.label
  | arrayOfVarying type => "ARRAY_OF_" ++ type.label

/-- The kind with the given name. -/
def ofName? (text : String) : Option Kind :=
  catalogue.find? (fun kind => kind.name == text)

/-- The name in developer-facing texts. -/
def camelName : Kind → String
  | notAvailable => "NotAvailable"
  | plain type => type.camelLabel
  | nullable type => "Nullable" ++ type.camelLabel
  | arrayOf type => "ArrayOf" ++ type.camelLabel
  | arrayOfNullable type => "ArrayOfNullable" ++ type.camelLabel
  | varying type => type.camelLabel
  | arrayOfVarying type => "ArrayOf" ++ type.camelLabel

/-- Length in bytes of a value of a fixed-size kind. -/
def fixedSize? : Kind → Option Nat
  | plain type => some type.size
  | _ => none

/-- Only the plain primitive kinds have a fixed size. -/
def isFixedSize (kind : Kind) : Bool := kind.fixedSize?.isSome

/-- Kind of the elements of an array kind. -/
def element? : Kind → Option Kind
  | arrayOf type => some (plain type)
  | arrayOfNullable type => some (nullable type)
  | arrayOfVarying type => some (varying type)
  | _ => none

def isArray (kind : Kind) : Bool := kind.element?.isSome

def isNullablePrimitive : Kind → Bool
  | nullable _ => true
  | _ => false

/-- Whether a field of this kind can hold null: all kinds that can be declared
can, except the plain primitives. -/
def acceptsNull : Kind → Bool
  | notAvailable => false
  | plain _ => false
  | _ => true

/-- A nullable primitive kind without its nullability; any other kind itself. -/
def nonNullable : Kind → Kind
  | nullable type => plain type
  | kind => kind

end Kind

end CompactSchema
