import CompactSchema.Proofs.Entries
import CompactSchema.Record.Builder

/-!
Contract: what a record has to be, and that nothing else can be made.

A record conforms to its schema if it holds a value under just the declared names
and every value is one that the declared kind admits. Making a record from values
succeeds exactly for records that conform, so what is read through the schema and
what is read through the values agree under every name.

Owns: the values that a kind admits, conformance, and when a record is made from
values.

Does not own: the errors of making one, see `Proofs.Record.Assembly`, the records
inside a record, see `Proofs.Record.Validity`, and builders, see
`Proofs.Record.Chain`.
-/

set_option autoImplicit false

namespace CompactSchema

/-! ## The values of a kind -/

namespace Kind

/-- What a field of a kind can hold. -/
structure Admits (kind : Kind) (value : Value) : Prop where
  accepted : kind.accepts value = true
  null : value = .null → kind.acceptsNull = true
  noNull : ∀ type items, kind = .arrayOf type → value = .array items → .null ∉ items
  flat : ∀ items nested, value = .array items → .array nested ∉ items

theorem accepts_null (kind : Kind) : kind.accepts .null = kind.acceptsNull := by
  cases kind <;> rfl

theorem acceptsSingle_array (kind : Kind) (items : List Value) :
    kind.acceptsSingle (.array items) = false := rfl

theorem acceptsSingle_of_accepts_array {kind : Kind} {items : List Value}
    (accepted : kind.accepts (.array items) = true) :
    ∃ element, kind.element? = some element ∧
      ∀ item ∈ items, element.acceptsSingle item = true := by
  unfold accepts at accepted
  cases element : kind.element? with
  | none =>
      rw [element] at accepted
      cases accepted
  | some elementKind =>
      rw [element] at accepted
      exact ⟨elementKind, rfl, List.all_eq_true.1 accepted⟩

theorem admits_of_accepts {kind : Kind} {value : Value} (accepted : kind.accepts value = true) :
    kind.Admits value where
  accepted := accepted
  null := by
    rintro rfl
    rw [← accepts_null]
    exact accepted
  noNull := by
    rintro type items rfl rfl member
    obtain ⟨element, isElement, single⟩ := acceptsSingle_of_accepts_array accepted
    obtain rfl := Option.some.inj isElement
    cases single .null member
  flat := by
    rintro items nested rfl member
    obtain ⟨element, _, single⟩ := acceptsSingle_of_accepts_array accepted
    have refused := single (.array nested) member
    rw [acceptsSingle_array] at refused
    cases refused

end Kind

namespace Assignment

theorem acceptsSingle_optional {α : Type} {kind : Kind} {toValue : α → Value}
    (acceptsNull : kind.acceptsNull = true)
    (fits : ∀ payload, kind.acceptsSingle (toValue payload) = true) (payload? : Option α) :
    kind.acceptsSingle (optional toValue payload?) = true := by
  cases payload? with
  | none => exact acceptsNull
  | some payload => exact fits payload

theorem accepts_optional_array {α : Type} {kind element : Kind} {toValue : α → Value}
    (isElement : kind.element? = some element)
    (fits : ∀ item, element.acceptsSingle (toValue item) = true) (items? : Option (List α)) :
    kind.accepts (optional (fun items => .array (items.map toValue)) items?) = true := by
  unfold Kind.accepts
  rw [isElement]
  cases items? with
  | none => rfl
  | some items => simp [optional, fits]

theorem acceptsSingle_plain (type : Primitive) (payload : type.Payload) :
    (Kind.plain type).acceptsSingle (type.toValue payload) = true := by
  cases type <;> rfl

theorem acceptsSingle_nullable (type : Primitive) (payload : type.Payload) :
    (Kind.nullable type).acceptsSingle (type.toValue payload) = true := by
  cases type <;> rfl

theorem acceptsSingle_varying (type : Varying) (payload : type.Payload) :
    (Kind.varying type).acceptsSingle (type.toValue payload) = true := by
  cases type <;> rfl

/-- Every setter stores a value that its kind accepts. -/
theorem accepts_value (assignment : Assignment) :
    assignment.kind.accepts assignment.value = true := by
  cases assignment with
  | plain type payload => exact acceptsSingle_plain type payload
  | nullable type payload? => exact acceptsSingle_optional rfl (acceptsSingle_nullable type) payload?
  | arrayOf type payloads? => exact accepts_optional_array rfl (acceptsSingle_plain type) payloads?
  | arrayOfNullable type payloads? =>
      exact accepts_optional_array rfl
        (acceptsSingle_optional rfl (acceptsSingle_nullable type)) payloads?
  | varying type payload? => exact acceptsSingle_optional rfl (acceptsSingle_varying type) payload?
  | arrayOfVarying type payloads? =>
      exact accepts_optional_array rfl
        (acceptsSingle_optional rfl (acceptsSingle_varying type)) payloads?

theorem kind_ne_notAvailable (assignment : Assignment) : assignment.kind ≠ .notAvailable := by
  cases assignment <;> exact Kind.noConfusion

end Assignment

/-! ## Declared names -/

namespace Schema

variable {schema : Schema} {name : String}

theorem kind?_eq_some_iff {kind : Kind} :
    schema.kind? name = some kind ↔ (name, kind) ∈ schema.fields :=
  Entries.find?_eq_some_iff schema.ordered

theorem exists_kind?_iff : (∃ kind, schema.kind? name = some kind) ↔ name ∈ schema.fieldNames := by
  rw [← Option.isSome_iff_exists]
  exact Entries.has_iff

theorem kind?_eq_none_iff : schema.kind? name = none ↔ name ∉ schema.fieldNames :=
  Entries.find?_eq_none_iff

theorem firstUnfit?_eq_none_iff {values : List (String × Value)} :
    schema.firstUnfit? values = none ↔
      ∀ entry ∈ values, ∃ kind, schema.kind? entry.1 = some kind ∧ kind.accepts entry.2 = true := by
  induction values with
  | nil => simp [firstUnfit?]
  | cons entry rest inductionHypothesis =>
      obtain ⟨name, value⟩ := entry
      rw [firstUnfit?, List.forall_mem_cons, ← inductionHypothesis]
      cases schema.kind? name with
      | none => simp
      | some kind => by_cases fits : kind.accepts value = true <;> simp [fits]

theorem firstMissing?_eq_none_iff {values : Entries String Value} :
    schema.firstMissing? values = none ↔ ∀ name ∈ schema.fieldNames, name ∈ Entries.keys values := by
  rw [firstMissing?, List.find?_eq_none]
  simp [Entries.has_iff]

end Schema

/-! ## Conformance -/

namespace Record

/-- The record holds values under the declared names, of the declared kinds. -/
structure Conforms (record : Record) : Prop where
  names : record.fieldNames = record.schema.fieldNames
  admits : ∀ {name kind value}, record.schema.kind? name = some kind →
    record.value? name = some value → kind.Admits value

variable {record : Record}

theorem ordered_of_names (names : record.fieldNames = record.schema.fieldNames) :
    Entries.Ordered record.values := by
  rw [Entries.Ordered, show Entries.keys record.values = _ from names]
  exact record.schema.ordered

theorem value?_of_undeclared (names : record.fieldNames = record.schema.fieldNames)
    {name : String} (undeclared : name ∉ record.schema.fieldNames) : record.value? name = none := by
  rw [← names] at undeclared
  exact Entries.find?_eq_none_iff.2 undeclared

theorem Conforms.exists_held (conforms : record.Conforms) {name : String} {kind : Kind}
    (declared : record.schema.kind? name = some kind) :
    ∃ value, record.value? name = some value ∧ kind.accepts value = true := by
  have listed : name ∈ record.fieldNames := by
    rw [conforms.names, ← Schema.exists_kind?_iff]
    exact ⟨kind, declared⟩
  obtain ⟨value, held⟩ : ∃ value, record.value? name = some value :=
    Entries.exists_find?_of_mem_keys listed
  exact ⟨value, held, (conforms.admits declared held).accepted⟩

theorem conforms_of_lookup {schema : Schema} {values : Entries String Value}
    (ordered : Entries.Ordered values)
    (declared : ∀ {name kind}, schema.kind? name = some kind →
      ∃ value, Entries.find? name values = some value ∧ kind.accepts value = true)
    (undeclared : ∀ {name}, schema.kind? name = none → Entries.find? name values = none) :
    (⟨schema, values⟩ : Record).Conforms where
  names := by
    apply Entries.keys_eq_of_mem_iff ordered schema.ordered
    intro name
    rw [← not_iff_not, ← Entries.find?_eq_none_iff, ← Entries.find?_eq_none_iff]
    refine ⟨fun missing => ?_, undeclared⟩
    cases isKind : schema.kind? name with
    | none => exact isKind
    | some kind =>
        obtain ⟨value, found, _⟩ := declared isKind
        cases missing.symm.trans found
  admits := by
    intro name kind value isKind held
    obtain ⟨other, found, accepted⟩ := declared isKind
    obtain rfl := Option.some.inj (held.symm.trans found)
    exact Kind.admits_of_accepts accepted

theorem conforms_iff {schema : Schema} {values : Entries String Value}
    (ordered : Entries.Ordered values) :
    (⟨schema, values⟩ : Record).Conforms ↔
      schema.firstUnfit? values = none ∧ schema.firstMissing? values = none := by
  rw [Schema.firstUnfit?_eq_none_iff, Schema.firstMissing?_eq_none_iff]
  constructor
  · intro conforms
    have names : Entries.keys values = schema.fieldNames := conforms.names
    refine ⟨?_, fun name declared => names ▸ declared⟩
    rintro ⟨name, value⟩ member
    have declared : name ∈ schema.fieldNames := names ▸ Entries.mem_keys_of_mem member
    obtain ⟨kind, isKind⟩ := Schema.exists_kind?_iff.2 declared
    have found := (Entries.find?_eq_some_iff ordered).2 member
    exact ⟨kind, isKind, (conforms.admits isKind found).accepted⟩
  · rintro ⟨fits, complete⟩
    apply conforms_of_lookup ordered
    · intro name kind isKind
      obtain ⟨value, found⟩ := Entries.exists_find?_of_mem_keys
        (complete name (Schema.exists_kind?_iff.1 ⟨kind, isKind⟩))
      obtain ⟨other, isOther, accepted⟩ :=
        fits (name, value) (Entries.mem_of_find?_eq_some found)
      obtain rfl := Option.some.inj (isKind.symm.trans isOther)
      exact ⟨value, found, accepted⟩
    · intro name undeclared
      cases found : Entries.find? name values with
      | none => rfl
      | some value =>
          obtain ⟨kind, isKind, _⟩ := fits (name, value) (Entries.mem_of_find?_eq_some found)
          cases undeclared.symm.trans isKind

/-- A record is made from values exactly if it conforms to its schema. -/
theorem ofValues_ok_iff {schema : Schema} {values : Entries String Value}
    (ordered : Entries.Ordered values) :
    ofValues schema values = .ok record ↔ record = ⟨schema, values⟩ ∧ record.Conforms := by
  unfold ofValues
  constructor
  · intro made
    cases unfit : schema.firstUnfit? values with
    | some fault => simp [unfit] at made
    | none =>
        cases missing : schema.firstMissing? values with
        | some name => simp [unfit, missing] at made
        | none =>
            obtain rfl : (⟨schema, values⟩ : Record) = record := by
              simpa [unfit, missing] using made
            exact ⟨rfl, (conforms_iff ordered).2 ⟨unfit, missing⟩⟩
  · rintro ⟨rfl, conforms⟩
    obtain ⟨unfit, missing⟩ := (conforms_iff ordered).1 conforms
    simp [unfit, missing]

/-! ## The two views of a record -/

variable {name : String}

theorem Conforms.hasField_iff (conforms : record.Conforms) :
    record.hasField name = true ↔ name ∈ record.schema.fieldNames := by
  rw [← conforms.names]
  exact Entries.has_iff

theorem fieldKind_ne_notAvailable_iff :
    record.fieldKind name ≠ .notAvailable ↔ name ∈ record.schema.fieldNames := by
  rw [← Schema.exists_kind?_iff, fieldKind]
  cases declared : record.schema.kind? name with
  | none => simp
  | some kind =>
      have available := record.schema.available (name, kind) (Schema.kind?_eq_some_iff.1 declared)
      simpa using available

theorem exists_descriptor_iff :
    (∃ descriptor, record.descriptor name = .ok descriptor) ↔ name ∈ record.schema.fieldNames := by
  rw [← Schema.exists_kind?_iff, descriptor, Schema.descriptor?]
  cases record.schema.kind? name with
  | none => simp
  | some kind => simp

/-! ## A record for examples -/

/-- A point in the plane with a label that may be null. -/
def point (x y : Int32) (label : Value) : Record where
  schema := {
    typeName := "Point"
    fields := [("label", .varying .string), ("x", .plain .int32), ("y", .plain .int32)]
    named := by decide
    ordered := by decide
    available := by decide }
  values := [("label", label), ("x", .scalar (.int32 x)), ("y", .scalar (.int32 y))]

end Record

end CompactSchema
