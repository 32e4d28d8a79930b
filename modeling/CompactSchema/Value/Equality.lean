import CompactSchema.Value

/-!
Contract: equality of values and of records.

Floats are equal if their bits are or if both are NaN, decimals if their values
are, timestamps with an offset if their instants are. All else is compared part
by part; the names of the values of two records have to agree one by one.

Owns: the comparison.

Does not own: equality of schemas, which is equality of their parts.
-/

set_option autoImplicit false

namespace CompactSchema

/-- Equality of scalars. -/
def Scalar.same : Scalar → Scalar → Bool
  | .boolean first, .boolean second => first == second
  | .int8 first, .int8 second => first == second
  | .int16 first, .int16 second => first == second
  | .int32 first, .int32 second => first == second
  | .int64 first, .int64 second => first == second
  | .float32 first, .float32 second => first.same second
  | .float64 first, .float64 second => first.same second
  | .string first, .string second => first == second
  | .decimal first, .decimal second => first.same second
  | .time first, .time second => first == second
  | .date first, .date second => first == second
  | .timestamp first, .timestamp second => first == second
  | .timestampWithTimezone first, .timestampWithTimezone second => first.same second
  | _, _ => false

mutual

/-- Equality of values. -/
def Value.same : Value → Value → Bool
  | .null, .null => true
  | .scalar first, .scalar second => first.same second
  | .compact schema values, .compact otherSchema otherValues =>
    schema == otherSchema && Value.sameFields values otherValues
  | .array items, .array others => Value.sameItems items others
  | _, _ => false

/-- Equality of arrays, element by element. -/
def Value.sameItems : List Value → List Value → Bool
  | [], [] => true
  | item :: items, other :: others => item.same other && Value.sameItems items others
  | _, _ => false

/-- Equality of the values of records, name by name. -/
def Value.sameFields : List (String × Value) → List (String × Value) → Bool
  | [], [] => true
  | (name, value) :: fields, (otherName, otherValue) :: others =>
    name == otherName && value.same otherValue && Value.sameFields fields others
  | _, _ => false

end

/-- Equality of records. -/
def Record.same (first second : Record) : Bool :=
  first.schema == second.schema && Value.sameFields first.values second.values

end CompactSchema
