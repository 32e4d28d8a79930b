import CompactSchema.Proofs.Calendar
import CompactSchema.Proofs.Json.Views
import CompactSchema.Proofs.Number.Decimal
import CompactSchema.Proofs.Record.Routes
import CompactSchema.Proofs.Schema.Equality
import CompactSchema.Proofs.Value.Equality

/-!
Contract: the tree of a value tells the value, if its kind is exact.

Infinities and NaN are null in JSON, and narrow floats are widened; the schema of a record
is not in its tree at all. All other kinds are exact: what has no form of its own in JSON is
written as a text from which it can be read back. Only the seconds of an offset are lost, and
that a second is a leap second, unless it is at the end of a minute.

Owns: exact kinds, and that values of these kinds and records of such fields can be told
from their trees.

Does not own: the texts of numbers, dates and times, see `Proofs.Number.Decimal` and
`Proofs.Calendar`.
-/

set_option autoImplicit false

namespace CompactSchema

/-! ## Exact kinds -/

/-- The primitives that JSON holds as they are. -/
def Primitive.isExact : Primitive → Bool
  | float32 => false
  | float64 => false
  | _ => true

/-- The variable-size types of single values, all of which JSON holds as texts. -/
def Varying.isExact : Varying → Bool
  | compact => false
  | _ => true

/-- The kinds of exact types, in every shape. -/
def Kind.isExact : Kind → Bool
  | notAvailable => false
  | plain type => type.isExact
  | nullable type => type.isExact
  | arrayOf type => type.isExact
  | arrayOfNullable type => type.isExact
  | varying type => type.isExact
  | arrayOfVarying type => type.isExact

namespace Kind

variable {kind element : Kind}

theorem isExact_nonNullable (kind : Kind) : kind.nonNullable.isExact = kind.isExact := by
  cases kind <;> rfl

theorem isExact_of_element (isElement : kind.element? = some element)
    (isExact : kind.isExact = true) : element.isExact = true := by
  cases kind <;> cases isElement <;> exact isExact

end Kind

/-! ## Conditions on the leaves of a value -/

namespace Value

/-- A condition holds of all leaves of a value, at every depth. -/
def AllLeaves (condition : Scalar → Prop) (value : Value) : Prop :=
  ∀ leaf, .scalar leaf ∈ value.parts → condition leaf

variable {condition : Scalar → Prop}

theorem allLeaves_null : null.AllLeaves condition := by
  intro leaf inside
  cases List.mem_singleton.1 inside

theorem allLeaves_scalar_iff {leaf : Scalar} :
    (scalar leaf).AllLeaves condition ↔ condition leaf := by
  constructor
  · intro all
    exact all leaf (self_mem_parts _)
  · intro holds other inside
    obtain rfl := scalar.inj (List.mem_singleton.1 inside)
    exact holds

theorem allLeaves_array_iff {items : List Value} :
    (array items).AllLeaves condition ↔ ∀ item ∈ items, item.AllLeaves condition := by
  constructor
  · intro all item listed leaf inside
    exact all leaf (mem_parts_array.2 (.inr ⟨item, listed, inside⟩))
  · intro each leaf inside
    rcases mem_parts_array.1 inside with isArray | ⟨item, listed, inItem⟩
    · cases isArray
    · exact each item listed leaf inItem

theorem allLeaves_compact_iff {schema : Schema} {values : List (String × Value)} :
    (compact schema values).AllLeaves condition ↔
      ∀ field ∈ values, field.2.AllLeaves condition := by
  constructor
  · intro all field listed leaf inside
    exact all leaf (mem_parts_compact.2 (.inr ⟨field, listed, inside⟩))
  · intro each leaf inside
    rcases mem_parts_compact.1 inside with isCompact | ⟨field, listed, inField⟩
    · cases isCompact
    · exact each field listed leaf inField

end Value

/-! ## What a text keeps -/

def Scalar.WholeMinutes : Scalar → Prop
  | .timestampWithTimezone moment => 60 ∣ moment.offset
  | _ => True

/-- All offsets in a value, at every depth, are whole minutes. -/
def Value.WholeMinutes (value : Value) : Prop := value.AllLeaves Scalar.WholeMinutes

def Scalar.LeapsAtMinuteEnd : Scalar → Prop
  | .time clock => clock.LeapsAtMinuteEnd
  | .timestamp moment => moment.time.LeapsAtMinuteEnd
  | .timestampWithTimezone moment => moment.localTime.time.LeapsAtMinuteEnd
  | _ => True

/-- All leap seconds in a value, at every depth, are at the end of a minute. -/
def Value.LeapsAtMinuteEnd (value : Value) : Prop := value.AllLeaves Scalar.LeapsAtMinuteEnd

/-- The text of a leaf keeps its offset and says whether it is a leap second. -/
def Scalar.Kept (leaf : Scalar) : Prop := leaf.WholeMinutes ∧ leaf.LeapsAtMinuteEnd

theorem Value.allLeaves_kept {value : Value} (whole : value.WholeMinutes)
    (leaps : value.LeapsAtMinuteEnd) : value.AllLeaves Scalar.Kept :=
  fun leaf inside => ⟨whole leaf inside, leaps leaf inside⟩

/-! ## Single values -/

namespace Scalar

variable {leaf other : Scalar}

theorem toJson_ne_null (isExact : leaf.kind.isExact = true) : leaf.toJson ≠ .null := by
  cases leaf with
  | float32 _ => cases isExact
  | float64 _ => cases isExact
  | _ => exact Json.noConfusion

/-- Leaves of one exact kind with the same tree are the same. -/
theorem eq_of_toJson_eq (sameKind : leaf.kind = other.kind) (isExact : leaf.kind.isExact = true)
    (kept : leaf.Kept) (otherKept : other.Kept) (isSame : leaf.toJson = other.toJson) :
    leaf = other := by
  cases leaf with
  | boolean bit =>
      cases other <;> cases sameKind
      exact congrArg boolean (Json.bool.inj isSame)
  | int8 number =>
      cases other <;> cases sameKind
      exact congrArg int8 (Int8.toInt_inj.1 (Json.integer.inj isSame))
  | int16 number =>
      cases other <;> cases sameKind
      exact congrArg int16 (Int16.toInt_inj.1 (Json.integer.inj isSame))
  | int32 number =>
      cases other <;> cases sameKind
      exact congrArg int32 (Int32.toInt_inj.1 (Json.integer.inj isSame))
  | int64 number =>
      cases other <;> cases sameKind
      exact congrArg int64 (Int64.toInt_inj.1 (Json.integer.inj isSame))
  | float32 number => cases isExact
  | float64 number => cases isExact
  | string text =>
      cases other <;> cases sameKind
      exact congrArg string (Json.string.inj isSame)
  | decimal number =>
      cases other <;> cases sameKind
      exact congrArg decimal (Decimal.text_injective (Json.string.inj isSame))
  | time clock =>
      cases other <;> cases sameKind
      exact congrArg time
        (TimeOfDay.eq_of_text_eq kept.2 otherKept.2 (Json.string.inj isSame))
  | date day =>
      cases other <;> cases sameKind
      exact congrArg date (Date.text_injective (Json.string.inj isSame))
  | timestamp moment =>
      cases other <;> cases sameKind
      exact congrArg timestamp
        (Timestamp.eq_of_text_eq kept.2 otherKept.2 (Json.string.inj isSame))
  | timestampWithTimezone moment =>
      cases other <;> cases sameKind
      exact congrArg timestampWithTimezone
        (ZonedTimestamp.eq_of_text_eq kept.2 otherKept.2 kept.1 otherKept.1
          (Json.string.inj isSame))

end Scalar

/-- Lists are told from their images if their elements are. -/
theorem eq_of_map_eq {α β : Type} {convert : α → β} {items others : List α}
    (each : ∀ item ∈ items, ∀ other ∈ others, convert item = convert other → item = other)
    (isSame : items.map convert = others.map convert) : items = others := by
  induction items generalizing others with
  | nil => exact (List.map_eq_nil_iff.1 isSame.symm).symm
  | cons item rest inductionHypothesis =>
      cases others with
      | nil => cases isSame
      | cons other otherRest =>
          obtain ⟨sameHead, sameTail⟩ := List.cons_eq_cons.1 isSame
          obtain rfl := each item List.mem_cons_self other List.mem_cons_self sameHead
          have eachRest : ∀ one ∈ rest, ∀ two ∈ otherRest, convert one = convert two → one = two :=
            fun one listed two listedToo =>
              each one (List.mem_cons_of_mem _ listed) two (List.mem_cons_of_mem _ listedToo)
          rw [inductionHypothesis eachRest sameTail]

namespace Kind

variable {kind : Kind} {first second : Value}

theorem null_or_scalar (isExact : kind.isExact = true)
    (accepted : kind.acceptsSingle first = true) :
    first = .null ∨ ∃ leaf, first = .scalar leaf ∧ leaf.kind = kind.nonNullable := by
  rcases acceptsSingle_cases accepted with ⟨isNull, _⟩ | isType
  · exact .inl isNull
  · cases first with
    | null => exact .inl rfl
    | scalar leaf => exact .inr ⟨leaf, rfl, Option.some.inj isType⟩
    | compact schema values =>
        rw [← isExact_nonNullable, ← Option.some.inj isType] at isExact
        cases isExact
    | array items => cases isType

theorem single_eq_of_toJson_eq (isExact : kind.isExact = true)
    (accepted : kind.acceptsSingle first = true) (acceptedToo : kind.acceptsSingle second = true)
    (kept : first.AllLeaves Scalar.Kept) (keptToo : second.AllLeaves Scalar.Kept)
    (isSame : first.toJson = second.toJson) : first = second := by
  have exactLeaf {leaf : Scalar} (ofKind : leaf.kind = kind.nonNullable) :
      leaf.kind.isExact = true := by
    rw [ofKind, isExact_nonNullable, isExact]
  rcases null_or_scalar isExact accepted with rfl | ⟨leaf, rfl, ofKind⟩
  · rcases null_or_scalar isExact acceptedToo with rfl | ⟨other, rfl, otherOfKind⟩
    · rfl
    · exact absurd isSame.symm (Scalar.toJson_ne_null (exactLeaf otherOfKind))
  · rcases null_or_scalar isExact acceptedToo with rfl | ⟨other, rfl, otherOfKind⟩
    · exact absurd isSame (Scalar.toJson_ne_null (exactLeaf ofKind))
    · exact congrArg Value.scalar (Scalar.eq_of_toJson_eq (ofKind.trans otherOfKind.symm)
        (exactLeaf ofKind) (Value.allLeaves_scalar_iff.1 kept)
        (Value.allLeaves_scalar_iff.1 keptToo) isSame)

/-! ## Values -/

/-- What a field of an array kind holds is null or an array of what its elements can be. -/
theorem null_or_items {element : Kind} (isElement : kind.element? = some element)
    (accepted : kind.accepts first = true) :
    first = .null ∨ ∃ items, first = .array items ∧
      ∀ item ∈ items, element.acceptsSingle item = true := by
  unfold accepts at accepted
  rw [isElement] at accepted
  cases first with
  | null => exact .inl rfl
  | scalar leaf => cases accepted
  | compact schema values => cases accepted
  | array items => exact .inr ⟨items, rfl, List.all_eq_true.1 accepted⟩

/-- Values that an exact kind accepts are told from their trees. -/
theorem eq_of_toJson_eq (isExact : kind.isExact = true) (accepted : kind.accepts first = true)
    (acceptedToo : kind.accepts second = true) (kept : first.AllLeaves Scalar.Kept)
    (keptToo : second.AllLeaves Scalar.Kept) (isSame : first.toJson = second.toJson) :
    first = second := by
  cases isElement : kind.element? with
  | none =>
      unfold accepts at accepted acceptedToo
      rw [isElement] at accepted acceptedToo
      exact single_eq_of_toJson_eq isExact accepted acceptedToo kept keptToo isSame
  | some element =>
      have elementIsExact := isExact_of_element isElement isExact
      rcases null_or_items isElement accepted with rfl | ⟨items, rfl, all⟩
      · rcases null_or_items isElement acceptedToo with rfl | ⟨others, rfl, _⟩
        · rfl
        · cases isSame
      · rcases null_or_items isElement acceptedToo with rfl | ⟨others, rfl, allOthers⟩
        · cases isSame
        · have sameItems := Json.array.inj isSame
          rw [Value.toJsonItems_eq_map, Value.toJsonItems_eq_map] at sameItems
          refine congrArg Value.array (eq_of_map_eq ?_ sameItems)
          intro item listed other listedToo
          exact single_eq_of_toJson_eq elementIsExact (all item listed)
            (allOthers other listedToo) (Value.allLeaves_array_iff.1 kept item listed)
            (Value.allLeaves_array_iff.1 keptToo other listedToo)

end Kind

/-! ## Records -/

namespace Record

/-- Valid records of one schema, all of whose kinds are exact, are told from their trees. -/
theorem eq_of_toJson_eq {first second : Record} (valid : first.Valid) (validToo : second.Valid)
    (sameSchema : first.schema = second.schema)
    (areExact : ∀ field ∈ first.schema.fields, field.2.isExact = true)
    (kept : first.toValue.AllLeaves Scalar.Kept)
    (keptToo : second.toValue.AllLeaves Scalar.Kept)
    (isSame : first.toJson = second.toJson) : first = second := by
  obtain ⟨schema, values⟩ := first
  obtain ⟨_, others⟩ := second
  obtain rfl := sameSchema
  have conforms := (valid_iff.1 valid).1
  have conformsToo := (valid_iff.1 validToo).1
  have sameTrees := isSame
  rw [toJson, toJson, toValue, toValue, Value.toJson_compact_of_valid valid,
    Value.toJson_compact_of_valid validToo] at sameTrees
  have sameFields : values.map (fun field => (field.1, field.2.toJson)) =
      others.map fun field => (field.1, field.2.toJson) := by
    simpa using sameTrees
  have sameValues : values = others := by
    refine eq_of_map_eq ?_ sameFields
    rintro ⟨name, value⟩ listed ⟨otherName, other⟩ listedToo sameField
    obtain ⟨rfl, sameTree⟩ := Prod.mk.inj sameField
    have held := (Entries.find?_eq_some_iff (ordered_of_names conforms.names)).2 listed
    have heldToo := (Entries.find?_eq_some_iff (ordered_of_names conformsToo.names)).2 listedToo
    have declared : name ∈ schema.fieldNames :=
      conforms.names ▸ Entries.mem_keys_of_mem listed
    obtain ⟨kind, isKind⟩ := Schema.exists_kind?_iff.2 declared
    have isExact := areExact (name, kind) (Schema.kind?_eq_some_iff.1 isKind)
    rw [Kind.eq_of_toJson_eq isExact (conforms.admits isKind held).accepted
      (conformsToo.admits isKind heldToo).accepted
      (Value.allLeaves_compact_iff.1 kept _ listed)
      (Value.allLeaves_compact_iff.1 keptToo _ listedToo) sameTree]
  rw [sameValues]

end Record

/-- The tree loses no exact value: two values that an exact kind accepts are equal if their
trees are, and so are two records that can be had, of equal schemas with exact kinds only.
All offsets have to be whole minutes, as the text of a timestamp gives no more of them, and all
leap seconds at the end of a minute, as any other one is written like the second after it. -/
theorem json_is_exact :
    (∀ {kind : Kind} {first second : Value}, kind.isExact = true →
      kind.accepts first = true → kind.accepts second = true →
      first.WholeMinutes → second.WholeMinutes →
      first.LeapsAtMinuteEnd → second.LeapsAtMinuteEnd →
      first.toJson = second.toJson → first.same second = true) ∧
    ∀ {first second : Record}, first.Obtainable → second.Obtainable →
      first.schema.same second.schema = true →
      (∀ field ∈ first.schema.fields, field.2.isExact = true) →
      first.toValue.WholeMinutes → second.toValue.WholeMinutes →
      first.toValue.LeapsAtMinuteEnd → second.toValue.LeapsAtMinuteEnd →
      first.toJson = second.toJson → first.same second = true := by
  constructor
  · intro kind first second isExact accepted acceptedToo whole wholeToo leaps leapsToo isSame
    rw [Kind.eq_of_toJson_eq isExact accepted acceptedToo (Value.allLeaves_kept whole leaps)
      (Value.allLeaves_kept wholeToo leapsToo) isSame]
    exact second.same_refl
  · intro first second obtainable obtainableToo sameSchema areExact whole wholeToo leaps leapsToo
      isSame
    rw [Record.eq_of_toJson_eq (Value.Obtainable.valid obtainable)
      (Value.Obtainable.valid obtainableToo) (Schema.same_iff_eq.1 sameSchema) areExact
      (Value.allLeaves_kept whole leaps) (Value.allLeaves_kept wholeToo leapsToo) isSame]
    exact Record.same_equivalence.refl second

/-- A record with a moment and an amount. -/
def Record.payment (amount moment : Value) : Record where
  schema := {
    typeName := "Payment"
    fields := [("amount", .varying .decimal), ("moment", .varying .timestampWithTimezone)]
    named := by decide
    ordered := by decide
    available := by decide }
  values := [("amount", amount), ("moment", moment)]

theorem json_is_exact_payment :
    let day : Date := ⟨2016, 12, 31, by decide⟩
    let leapSecond : TimeOfDay := ⟨23, 59, 59, 1500000000, by decide⟩
    let moment : Value := .scalar (.timestampWithTimezone ⟨⟨day, leapSecond⟩, -16200, by decide⟩)
    let amount : Value := .scalar (.decimal ⟨-150, 2, by decide, by decide⟩)
    let record := Record.payment amount moment
    let moments : Value := .array [moment, .null]
    record.Obtainable ∧ record.toValue.WholeMinutes ∧ record.toValue.LeapsAtMinuteEnd ∧
      record.same record = true ∧
      (Kind.arrayOfVarying .timestampWithTimezone).accepts moments = true ∧
      moments.WholeMinutes ∧ moments.LeapsAtMinuteEnd ∧ moments.same moments = true := by
  intro day leapSecond moment amount record moments
  have obtainable : record.Obtainable :=
    .assembled (by decide)
      (List.forall_mem_cons.2 ⟨.scalar _, List.forall_mem_singleton.2 (.scalar _)⟩)
      (show Record.ofValues record.schema record.values = .ok record from rfl)
  have ofParts {condition : Scalar → Prop} (amountHolds : amount.AllLeaves condition)
      (momentHolds : moment.AllLeaves condition) :
      record.toValue.AllLeaves condition ∧ moments.AllLeaves condition :=
    ⟨Value.allLeaves_compact_iff.2
        (List.forall_mem_cons.2 ⟨amountHolds, List.forall_mem_singleton.2 momentHolds⟩),
      Value.allLeaves_array_iff.2
        (List.forall_mem_cons.2 ⟨momentHolds, List.forall_mem_singleton.2 Value.allLeaves_null⟩)⟩
  obtain ⟨whole, momentsWhole⟩ : record.toValue.WholeMinutes ∧ moments.WholeMinutes :=
    ofParts (Value.allLeaves_scalar_iff.2 trivial)
      (Value.allLeaves_scalar_iff.2 (show (60 : Int) ∣ -16200 by decide))
  obtain ⟨leaps, momentsLeap⟩ : record.toValue.LeapsAtMinuteEnd ∧ moments.LeapsAtMinuteEnd :=
    ofParts (Value.allLeaves_scalar_iff.2 trivial) (Value.allLeaves_scalar_iff.2 fun _ => rfl)
  have areExact : ∀ field ∈ record.schema.fields, field.2.isExact = true := by decide
  have accepted : (Kind.arrayOfVarying .timestampWithTimezone).accepts moments = true := rfl
  obtain ⟨ofValues, ofRecords⟩ := json_is_exact
  exact ⟨obtainable, whole, leaps,
    ofRecords obtainable obtainable (by decide +kernel) areExact whole whole leaps leaps rfl,
    accepted, momentsWhole, momentsLeap,
    ofValues rfl accepted accepted momentsWhole momentsWhole momentsLeap momentsLeap rfl⟩

end CompactSchema
