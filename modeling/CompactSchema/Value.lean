import CompactSchema.Calendar
import CompactSchema.Number.Binary
import CompactSchema.Number.Decimal
import CompactSchema.Schema

/-!
Contract: the values that the fields of a record hold.

A value is null, a scalar, a record or an array of values. It does not say
whether null was allowed or what the elements of an array should be; that is for
the kind of the field, see `Value.Conformance`.

Owns:
- scalars, values and records;
- the payload type of every primitive and variable-size type, and its passage
  into values and back.

Does not own: which values are valid records, see `Record`.
-/

set_option autoImplicit false

namespace CompactSchema

/-- A value that contains no other value. -/
inductive Scalar where
  | boolean (bit : Bool)
  | int8 (number : Int8)
  | int16 (number : Int16)
  | int32 (number : Int32)
  | int64 (number : Int64)
  | float32 (number : Binary32)
  | float64 (number : Binary64)
  | string (text : String)
  | decimal (number : Decimal)
  | time (clock : TimeOfDay)
  | date (day : Date)
  | timestamp (moment : Timestamp)
  | timestampWithTimezone (moment : ZonedTimestamp)
deriving DecidableEq

/-- A value. The values of a record stand in name order. -/
inductive Value where
  | null
  | scalar (leaf : Scalar)
  | compact (schema : Schema) (values : List (String × Value))
  | array (items : List Value)

/-- A schema with values for its fields, in name order. -/
structure Record where
  schema : Schema
  values : List (String × Value)

namespace Scalar

/-- The kind that holds just such scalars. -/
def kind : Scalar → Kind
  | boolean _ => .plain .boolean
  | int8 _ => .plain .int8
  | int16 _ => .plain .int16
  | int32 _ => .plain .int32
  | int64 _ => .plain .int64
  | float32 _ => .plain .float32
  | float64 _ => .plain .float64
  | string _ => .varying .string
  | decimal _ => .varying .decimal
  | time _ => .varying .time
  | date _ => .varying .date
  | timestamp _ => .varying .timestamp
  | timestampWithTimezone _ => .varying .timestampWithTimezone

end Scalar

namespace Value

def isNull : Value → Bool
  | null => true
  | _ => false

/-- The kind, without nullability, that holds just such values; null and arrays
have none. -/
def scalarKind? : Value → Option Kind
  | null => none
  | scalar leaf => some leaf.kind
  | compact _ _ => some (.varying .compact)
  | array _ => none

end Value

/-- What holds of null and of scalars, and of a record or an array if it holds of all
values in it, holds of every value. -/
@[elab_as_elim]
theorem Value.induction {motive : Value → Prop} (null : motive .null)
    (scalar : ∀ leaf, motive (.scalar leaf))
    (compact : ∀ schema values, (∀ field ∈ values, motive field.2) →
      motive (.compact schema values))
    (array : ∀ items, (∀ item ∈ items, motive item) → motive (.array items))
    (value : Value) : motive value :=
  @Value.rec motive (fun values => ∀ field ∈ values, motive field.2)
    (fun items => ∀ item ∈ items, motive item) (fun field => motive field.2) null scalar
    compact array (fun _ member => absurd member List.not_mem_nil)
    (fun _ _ head tail => List.forall_mem_cons.2 ⟨head, tail⟩)
    (fun _ member => absurd member List.not_mem_nil)
    (fun _ _ head tail => List.forall_mem_cons.2 ⟨head, tail⟩) (fun _ _ held => held) value

/-- A record as a value. -/
def Record.toValue (record : Record) : Value := .compact record.schema record.values

/-! ## Payloads -/

namespace Primitive

/-- The payload of a primitive type. -/
abbrev Payload : Primitive → Type
  | boolean => Bool
  | int8 => Int8
  | int16 => Int16
  | int32 => Int32
  | int64 => Int64
  | float32 => Binary32
  | float64 => Binary64

def toValue : (type : Primitive) → type.Payload → Value
  | boolean, payload => .scalar (.boolean payload)
  | int8, payload => .scalar (.int8 payload)
  | int16, payload => .scalar (.int16 payload)
  | int32, payload => .scalar (.int32 payload)
  | int64, payload => .scalar (.int64 payload)
  | float32, payload => .scalar (.float32 payload)
  | float64, payload => .scalar (.float64 payload)

/-- The payload of a value of the type; null and other values have none. -/
def ofValue? : (type : Primitive) → Value → Option type.Payload
  | boolean, .scalar (.boolean payload) => some payload
  | int8, .scalar (.int8 payload) => some payload
  | int16, .scalar (.int16 payload) => some payload
  | int32, .scalar (.int32 payload) => some payload
  | int64, .scalar (.int64 payload) => some payload
  | float32, .scalar (.float32 payload) => some payload
  | float64, .scalar (.float64 payload) => some payload
  | _, _ => none

theorem ofValue?_toValue (type : Primitive) (payload : type.Payload) :
    type.ofValue? (type.toValue payload) = some payload := by
  cases type <;> rfl

theorem ofValue?_eq_some_iff (type : Primitive) (value : Value) (payload : type.Payload) :
    type.ofValue? value = some payload ↔ value = type.toValue payload := by
  constructor
  · intro read
    cases value with
    | scalar leaf =>
        cases type <;> cases leaf <;> simp_all [ofValue?, toValue]
    | _ => cases type <;> simp [ofValue?] at read
  · rintro rfl
    exact ofValue?_toValue type payload

end Primitive

namespace Varying

/-- The payload of a variable-size type. -/
abbrev Payload : Varying → Type
  | string => String
  | decimal => Decimal
  | time => TimeOfDay
  | date => Date
  | timestamp => Timestamp
  | timestampWithTimezone => ZonedTimestamp
  | compact => Record

def toValue : (type : Varying) → type.Payload → Value
  | string, payload => .scalar (.string payload)
  | decimal, payload => .scalar (.decimal payload)
  | time, payload => .scalar (.time payload)
  | date, payload => .scalar (.date payload)
  | timestamp, payload => .scalar (.timestamp payload)
  | timestampWithTimezone, payload => .scalar (.timestampWithTimezone payload)
  | compact, payload => Record.toValue payload

/-- The payload of a value of the type; null and other values have none. -/
def ofValue? : (type : Varying) → Value → Option type.Payload
  | string, .scalar (.string payload) => some payload
  | decimal, .scalar (.decimal payload) => some payload
  | time, .scalar (.time payload) => some payload
  | date, .scalar (.date payload) => some payload
  | timestamp, .scalar (.timestamp payload) => some payload
  | timestampWithTimezone, .scalar (.timestampWithTimezone payload) => some payload
  | compact, .compact schema values => some ⟨schema, values⟩
  | _, _ => none

theorem ofValue?_toValue (type : Varying) (payload : type.Payload) :
    type.ofValue? (type.toValue payload) = some payload := by
  cases type <;> rfl

theorem ofValue?_eq_some_iff (type : Varying) (value : Value) (payload : type.Payload) :
    type.ofValue? value = some payload ↔ value = type.toValue payload := by
  constructor
  · intro read
    cases value with
    | scalar leaf =>
        cases type <;> cases leaf <;> simp_all [ofValue?, toValue]
    | compact schema values =>
        cases type <;> simp_all [ofValue?, toValue, Record.toValue]
        subst read
        exact ⟨rfl, rfl⟩
    | _ => cases type <;> simp [ofValue?] at read
  · rintro rfl
    exact ofValue?_toValue type payload

end Varying

end CompactSchema
