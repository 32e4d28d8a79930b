import CompactSchema.Proofs.Record.Access
import Mathlib.Order.Bounds.Basic

/-!
Contract: the accessors to arrays agree on what an array holds.

A field that can be read as an array of a type holds null or payloads and nulls, and
nulls only if its kind says so. The accessor that answers all of it is the measure of
the others: the one without nulls fails at the first null, and the ones of single
elements answer what stands under an index, or nothing where nothing stands.

Owns: what a readable field holds as an array, the first item without a payload, and
the answers of all accessors to arrays.

Does not own: single values, see `Proofs.Record.Access`.
-/

set_option autoImplicit false

namespace CompactSchema

/-! ## What readable fields hold -/

theorem Primitive.mem_arrayKinds_iff {type : Primitive} {kind : Kind} :
    kind ∈ type.arrayKinds ↔ kind = .arrayOf type ∨ kind = .arrayOfNullable type := by
  simp [arrayKinds]

/-- A field that can be read as an array of primitives holds null or an array of
payloads and nulls, and nulls only under the kind that allows them. -/
theorem Primitive.exists_items {type : Primitive} {kind : Kind} {value : Value}
    (readable : kind ∈ type.arrayKinds) (accepted : kind.accepts value = true) :
    ∃ items? : Option (List (Option type.Payload)),
      value = (Assignment.arrayOfNullable type items?).value ∧
        ∀ items, items? = some items → none ∈ items → kind = .arrayOfNullable type := by
  obtain ⟨assignment, isKind, isValue⟩ := Kind.exists_assignment accepted
  rcases mem_arrayKinds_iff.1 readable with rfl | rfl
  · cases assignment <;> cases isKind
    rename_i payloads?
    refine ⟨payloads?.map (List.map some), ?_, ?_⟩
    · rw [← isValue]
      cases payloads? with
      | none => rfl
      | some payloads =>
          simp only [Assignment.value, Option.map_some, Assignment.optional, List.map_map]
          rfl
    · rintro items isSome isNull
      obtain ⟨payloads, _, rfl⟩ := Option.map_eq_some_iff.1 isSome
      simp at isNull
  · cases assignment <;> cases isKind
    rename_i items?
    exact ⟨items?, isValue.symm, fun _ _ _ => rfl⟩

theorem Varying.exists_items {type : Varying} {value : Value}
    (accepted : (Kind.arrayOfVarying type).accepts value = true) :
    ∃ items? : Option (List (Option type.Payload)),
      value = (Assignment.arrayOfVarying type items?).value := by
  obtain ⟨assignment, isKind, isValue⟩ := Kind.exists_assignment accepted
  cases assignment <;> cases isKind
  exact ⟨_, isValue.symm⟩

theorem Assignment.map_ofValue?_optional {α : Type} {toValue : α → Value}
    {ofValue? : Value → Option α} (inverse : ∀ payload, ofValue? (toValue payload) = some payload)
    (null : ofValue? .null = none) (items : List (Option α)) :
    (items.map (optional toValue)).map ofValue? = items := by
  rw [List.map_map]
  exact List.map_id'' (ofValue?_optional inverse null) items

namespace Record

/-! ## The first item without a payload -/

section Payloads

variable {α : Type}

/-- The payloads of a list of items are found if every item has one. If not, the search
ends at the first item without one. -/
theorem payloads_cases (payload? : Value → Option α) (start : Nat) (items : List Value) :
    (∃ found, payloads payload? start items = .ok found ∧
        items.map payload? = found.map some) ∨
      ∃ index, payloads payload? start items = .error (start + index) ∧
        IsLeast {place | (items.map payload?)[place]? = some none} index := by
  induction items generalizing start with
  | nil => exact .inl ⟨[], rfl, rfl⟩
  | cons item rest inductionHypothesis =>
      cases found : payload? item with
      | none =>
          refine .inr ⟨0, ?_, ?_, fun _ _ => Nat.zero_le _⟩
          · simp [payloads, found]
          · simp [found]
      | some payload =>
          rcases inductionHypothesis (start + 1) with ⟨others, isOk, same⟩ | ⟨index, isError, least⟩
          · exact .inl ⟨payload :: others, by simp [payloads, found, isOk, Except.map],
              by simp [found, same]⟩
          · refine .inr ⟨index + 1, ?_, ?_, ?_⟩
            · simp only [payloads, found, isError, Except.map]
              rw [Nat.add_right_comm, Nat.add_assoc]
            · simpa using least.1
            · intro place isNull
              cases place with
              | zero => simp [found] at isNull
              | succ before => exact Nat.succ_le_succ (least.2 (by simpa using isNull))

end Payloads

/-! ## Reading arrays -/

variable {record : Record} {name : String} {kinds : List Kind} {value : Value}
  {error : SchemaError}

theorem element_of_undeclared (absent : record.schema.kind? name = none) (index : Nat) :
    record.element name index kinds = .ok none := by
  simp [element, Schema.hasField, absent]

theorem element_of_declared {kind : Kind} (declared : record.schema.kind? name = some kind)
    (index : Nat) : record.element name index kinds =
      (record.read name kinds).map fun value => (itemsOf? value).bind fun items => items[index]? := by
  simp [element, Schema.hasField, declared]

theorem read_of_foreign {kind : Kind} (declared : record.schema.kind? name = some kind)
    (unreadable : kind ∉ kinds) :
    record.read name kinds = .error (.kindMismatch name record.schema.text kinds kind) :=
  read_error_iff.2 (.foreign declared unreadable)

theorem read_of_undeclared (absent : record.schema.kind? name = none) :
    record.read name kinds = .error (.fieldNotFound name record.schema.text) :=
  read_error_iff.2 (.undeclared absent)

/-- Under every index stands what the array holds there. -/
theorem element_of_items {α : Type} {kind : Kind} {toValue : α → Value} {items : List α}
    (declared : record.schema.kind? name = some kind)
    (reads : record.read name kinds = .ok (.array (items.map toValue))) (index : Nat) :
    record.element name index kinds = .ok (items[index]?.map toValue) := by
  rw [element_of_declared declared, reads, ← List.getElem?_map]
  rfl

theorem element_of_null {kind : Kind} (declared : record.schema.kind? name = some kind)
    (reads : record.read name kinds = .ok .null) (index : Nat) :
    record.element name index kinds = .ok none := by
  rw [element_of_declared declared, reads]
  rfl

theorem element_of_foreign {kind : Kind} (declared : record.schema.kind? name = some kind)
    (unreadable : kind ∉ kinds) (index : Nat) :
    record.element name index kinds =
      .error (.kindMismatch name record.schema.text kinds kind) := by
  rw [element_of_declared declared, read_of_foreign declared unreadable]
  rfl

/-! ## Arrays of primitives -/

section Primitive

variable {type : Primitive}

/-- All accessors to arrays of a primitive type fail with one error, whatever the index. -/
structure RefusesArray (record : Record) (type : Primitive) (name : String)
    (error : SchemaError) : Prop where
  all : record.getArrayOfNullable type name = .error error
  payloads : record.getArrayOf type name = .error error
  nullableAt : ∀ index, record.getNullableFromArray type name index = .error error
  payloadAt : ∀ index, record.getFromArray type name index = .error error

/-- All accessors to arrays of a primitive type answer that there is no array. -/
structure AnswersNoArray (record : Record) (type : Primitive) (name : String) : Prop where
  all : record.getArrayOfNullable type name = .ok none
  payloads : record.getArrayOf type name = .ok none
  nullableAt : ∀ index, record.getNullableFromArray type name index = .ok none
  payloadAt : ∀ index, record.getFromArray type name index = .ok none

/-- The accessors to arrays of a primitive type answer from one list of payloads and
nulls: all of it, its payloads if there is no null and else the place of the first null,
and under an index what stands there, or nothing past the end. -/
structure AnswersArray (record : Record) (type : Primitive) (name : String)
    (items : List (Option type.Payload)) : Prop where
  all : record.getArrayOfNullable type name = .ok (some items)
  payloads : none ∉ items →
    ∃ payloads, record.getArrayOf type name = .ok (some payloads) ∧ items = payloads.map some
  firstNull : none ∈ items → ∃ index, IsLeast {place | items[place]? = some none} index ∧
    record.getArrayOf type name = .error (.nullInArray name type.arrayAccessor index)
  past : ∀ index, items.length ≤ index →
    record.getNullableFromArray type name index = .ok none ∧
      record.getFromArray type name index = .ok none
  nullableAt : ∀ index item, items[index]? = some item →
    record.getNullableFromArray type name index = .ok item
  payloadAt : ∀ index payload, items[index]? = some (some payload) →
    record.getFromArray type name index = .ok (some payload)
  nullAt : ∀ index, items[index]? = some none →
    record.getFromArray type name index = .error (.nullInArray name type.arrayAccessor index)

theorem getNullableFromArray_of_element {index : Nat} {item? : Option Value}
    (reads : record.element name index type.arrayKinds = .ok item?) :
    record.getNullableFromArray type name index = .ok (item?.bind type.ofValue?) := by
  rw [getNullableFromArray, reads]
  rfl

theorem getFromArray_of_nothing {index : Nat}
    (reads : record.element name index type.arrayKinds = .ok none) :
    record.getFromArray type name index = .ok none := by
  rw [getFromArray, reads]
  rfl

theorem getFromArray_of_payload {index : Nat} {payload : type.Payload}
    (reads : record.element name index type.arrayKinds = .ok (some value))
    (found : type.ofValue? value = some payload) :
    record.getFromArray type name index = .ok (some payload) := by
  rw [getFromArray, reads]
  simp only [bind, Except.bind, found]
  rfl

theorem getFromArray_of_null {index : Nat}
    (reads : record.element name index type.arrayKinds = .ok (some value))
    (missing : type.ofValue? value = none) :
    record.getFromArray type name index =
      .error (.nullInArray name type.arrayAccessor index) := by
  rw [getFromArray, reads]
  simp only [bind, Except.bind, missing]
  rfl

theorem refusesArray_of_foreign {kind : Kind} (declared : record.schema.kind? name = some kind)
    (unreadable : kind ∉ type.arrayKinds) : record.RefusesArray type name
      (.kindMismatch name record.schema.text type.arrayKinds kind) := by
  have refused := read_of_foreign declared unreadable
  have refusedAt := element_of_foreign declared unreadable
  refine ⟨?_, ?_, fun index => ?_, fun index => ?_⟩
  · rw [getArrayOfNullable, refused]
    rfl
  · rw [getArrayOf, refused]
    rfl
  · rw [getNullableFromArray, refusedAt]
    rfl
  · rw [getFromArray, refusedAt]
    rfl

theorem answersNoArray_of_null {kind : Kind} (declared : record.schema.kind? name = some kind)
    (reads : record.read name type.arrayKinds = .ok .null) : record.AnswersNoArray type name := by
  have nothing := element_of_null declared reads
  refine ⟨?_, ?_, fun index => getNullableFromArray_of_element (nothing index),
    fun index => getFromArray_of_nothing (nothing index)⟩
  · rw [getArrayOfNullable, reads]
    rfl
  · rw [getArrayOf, reads]
    rfl

/-- The search for payloads and the look at single elements meet in the same list: an
item is null for the one just if it is for the other. -/
theorem answersArray_of_items {kind : Kind} (declared : record.schema.kind? name = some kind)
    {items : List (Option type.Payload)}
    (reads : record.read name type.arrayKinds =
      .ok (.array (items.map (Assignment.optional type.toValue)))) :
    record.AnswersArray type name items := by
  have asStored : ∀ item?, type.ofValue? (Assignment.optional type.toValue item?) = item? :=
    Assignment.ofValue?_optional type.ofValue?_toValue type.ofValue?_null
  have allStored :=
    Assignment.map_ofValue?_optional type.ofValue?_toValue type.ofValue?_null items
  have elementAt := element_of_items declared reads
  have elementPast : ∀ index, items.length ≤ index →
      record.element name index type.arrayKinds = .ok none := by
    intro index past
    rw [elementAt, List.getElem?_eq_none past, Option.map_none]
  have elementWithin : ∀ index item, items[index]? = some item →
      record.element name index type.arrayKinds =
        .ok (some (Assignment.optional type.toValue item)) := by
    intro index item stands
    rw [elementAt, stands, Option.map_some]
  have search := payloads_cases type.ofValue? 0 (items.map (Assignment.optional type.toValue))
  rw [allStored] at search
  refine ⟨?_, fun noNull => ?_, fun isNull => ?_, fun index past => ?_,
    fun index item stands => ?_, fun index payload stands => ?_, fun index stands => ?_⟩
  · rw [getArrayOfNullable, reads]
    exact congrArg (fun found => Except.ok (some found)) allStored
  · rcases search with ⟨found, isOk, same⟩ | ⟨index, _, least⟩
    · refine ⟨found, ?_, same⟩
      rw [getArrayOf, reads]
      simp only [bind, Except.bind, itemsOf?, isOk]
      rfl
    · exact absurd (List.mem_of_getElem? least.1) noNull
  · rcases search with ⟨found, _, same⟩ | ⟨index, isError, least⟩
    · simp [same] at isNull
    · refine ⟨index, least, ?_⟩
      rw [getArrayOf, reads]
      simp only [bind, Except.bind, itemsOf?, isError, Nat.zero_add]
      rfl
  · exact ⟨getNullableFromArray_of_element (elementPast index past),
      getFromArray_of_nothing (elementPast index past)⟩
  · rw [getNullableFromArray_of_element (elementWithin index item stands), Option.bind_some,
      asStored]
  · exact getFromArray_of_payload (elementWithin index (some payload) stands) (asStored _)
  · exact getFromArray_of_null (elementWithin index none stands) (asStored _)

end Primitive

/-! ## Arrays of variable-size types -/

section Varying

variable {type : Varying}

/-- Both accessors to arrays of a variable-size type fail with one error. -/
structure RefusesVaryingArray (record : Record) (type : Varying) (name : String)
    (error : SchemaError) : Prop where
  all : record.getArrayOfVarying type name = .error error
  itemAt : ∀ index, record.getVaryingFromArray type name index = .error error

/-- Both accessors to arrays of a variable-size type answer that there is no array. -/
structure AnswersNoVaryingArray (record : Record) (type : Varying) (name : String) : Prop where
  all : record.getArrayOfVarying type name = .ok none
  itemAt : ∀ index, record.getVaryingFromArray type name index = .ok none

/-- The accessors to arrays of a variable-size type answer from one list of payloads and
nulls: all of it, and under an index what stands there, or nothing past the end. -/
structure AnswersVaryingArray (record : Record) (type : Varying) (name : String)
    (items : List (Option type.Payload)) : Prop where
  all : record.getArrayOfVarying type name = .ok (some items)
  past : ∀ index, items.length ≤ index → record.getVaryingFromArray type name index = .ok none
  itemAt : ∀ index item, items[index]? = some item →
    record.getVaryingFromArray type name index = .ok item

theorem getVaryingFromArray_of_element {index : Nat} {item? : Option Value}
    (reads : record.element name index [.arrayOfVarying type] = .ok item?) :
    record.getVaryingFromArray type name index = .ok (item?.bind type.ofValue?) := by
  rw [getVaryingFromArray, reads]
  rfl

theorem refusesVaryingArray_of_foreign {kind : Kind}
    (declared : record.schema.kind? name = some kind) (unreadable : kind ≠ .arrayOfVarying type) :
    record.RefusesVaryingArray type name
      (.kindMismatch name record.schema.text [.arrayOfVarying type] kind) := by
  have foreign : kind ∉ [Kind.arrayOfVarying type] := by simpa using unreadable
  refine ⟨?_, fun index => ?_⟩
  · rw [getArrayOfVarying, read_of_foreign declared foreign]
    rfl
  · rw [getVaryingFromArray, element_of_foreign declared foreign]
    rfl

theorem answersNoVaryingArray_of_null {kind : Kind}
    (declared : record.schema.kind? name = some kind)
    (reads : record.read name [.arrayOfVarying type] = .ok .null) :
    record.AnswersNoVaryingArray type name := by
  refine ⟨?_, fun index => getVaryingFromArray_of_element (element_of_null declared reads index)⟩
  rw [getArrayOfVarying, reads]
  rfl

theorem answersVaryingArray_of_items {kind : Kind}
    (declared : record.schema.kind? name = some kind) {items : List (Option type.Payload)}
    (reads : record.read name [.arrayOfVarying type] =
      .ok (.array (items.map (Assignment.optional type.toValue)))) :
    record.AnswersVaryingArray type name items := by
  have asStored : ∀ item?, type.ofValue? (Assignment.optional type.toValue item?) = item? :=
    Assignment.ofValue?_optional type.ofValue?_toValue type.ofValue?_null
  have elementAt := element_of_items declared reads
  refine ⟨?_, fun index past => ?_, fun index item stands => ?_⟩
  · rw [getArrayOfVarying, reads]
    exact congrArg (fun found => Except.ok (some found))
      (Assignment.map_ofValue?_optional type.ofValue?_toValue type.ofValue?_null items)
  · rw [getVaryingFromArray_of_element (elementAt index), List.getElem?_eq_none past]
    rfl
  · rw [getVaryingFromArray_of_element (elementAt index), stands, Option.map_some,
      Option.bind_some, asStored]

end Varying

/-! ## The accessors agree -/

/-- On a record that can be had, all accessors to arrays of one type answer alike under
any name. Where no field is declared the ones of whole arrays report it and the ones of
single elements answer nothing; where a field of another kind is declared all fail with
the same mismatch. Everywhere else the whole array, nulls included, is answered as it is
stored, and it settles what all others answer: nothing at all if there is no array, and
from its items if there is one. A null among the items is there only under the kind that
allows nulls. -/
theorem array_access {record : Record} (obtainable : record.Obtainable) (name : String) :
    (∀ type : Primitive,
      (record.schema.kind? name = none →
        record.getArrayOf type name = .error (.fieldNotFound name record.schema.text) ∧
        record.getArrayOfNullable type name = .error (.fieldNotFound name record.schema.text) ∧
        ∀ index, record.getFromArray type name index = .ok none ∧
          record.getNullableFromArray type name index = .ok none) ∧
      (∀ kind, record.schema.kind? name = some kind →
        kind ≠ .arrayOf type → kind ≠ .arrayOfNullable type →
        record.RefusesArray type name (.kindMismatch name record.schema.text
          [.arrayOf type, .arrayOfNullable type] kind)) ∧
      ∀ kind, record.schema.kind? name = some kind →
        kind = .arrayOf type ∨ kind = .arrayOfNullable type →
        ∃ items?, record.getArrayOfNullable type name = .ok items? ∧
          record.value? name = some (Assignment.arrayOfNullable type items?).value ∧
          (items? = none → record.AnswersNoArray type name) ∧
          ∀ items, items? = some items → record.AnswersArray type name items ∧
            (none ∈ items → kind = .arrayOfNullable type)) ∧
    ∀ type : Varying,
      (record.schema.kind? name = none →
        record.getArrayOfVarying type name = .error (.fieldNotFound name record.schema.text) ∧
        ∀ index, record.getVaryingFromArray type name index = .ok none) ∧
      (∀ kind, record.schema.kind? name = some kind → kind ≠ .arrayOfVarying type →
        record.RefusesVaryingArray type name (.kindMismatch name record.schema.text
          [.arrayOfVarying type] kind)) ∧
      (record.schema.kind? name = some (.arrayOfVarying type) →
        ∃ items?, record.getArrayOfVarying type name = .ok items? ∧
          record.value? name = some (Assignment.arrayOfVarying type items?).value ∧
          (items? = none → record.AnswersNoVaryingArray type name) ∧
          ∀ items, items? = some items → record.AnswersVaryingArray type name items) := by
  have conforms : record.Conforms := (valid_iff.1 (Value.Obtainable.valid obtainable)).1
  refine ⟨fun type => ⟨fun absent => ?_, fun kind declared notPlain notNullable => ?_,
      fun kind declared readable => ?_⟩,
    fun type => ⟨fun absent => ?_, fun kind declared foreign => ?_, fun declared => ?_⟩⟩
  · have nothing : ∀ index, record.element name index type.arrayKinds = .ok none :=
      element_of_undeclared absent
    refine ⟨?_, ?_, fun index => ⟨getFromArray_of_nothing (nothing index),
      getNullableFromArray_of_element (nothing index)⟩⟩
    · rw [getArrayOf, read_of_undeclared absent]
      rfl
    · rw [getArrayOfNullable, read_of_undeclared absent]
      rfl
  · apply refusesArray_of_foreign declared
    rw [Primitive.mem_arrayKinds_iff]
    exact not_or_intro notPlain notNullable
  · have isReadable := Primitive.mem_arrayKinds_iff.2 readable
    obtain ⟨value, held, accepted⟩ := conforms.exists_held declared
    obtain ⟨items?, rfl, nullable⟩ := Primitive.exists_items isReadable accepted
    have reads := read_of_held declared held isReadable
    cases items? with
    | none =>
        have answers := answersNoArray_of_null declared reads
        exact ⟨none, answers.all, held, fun _ => answers, by simp⟩
    | some items =>
        have answers := answersArray_of_items declared reads
        refine ⟨some items, answers.all, held, by simp, ?_⟩
        rintro _ ⟨⟩
        exact ⟨answers, nullable items rfl⟩
  · have nothing : ∀ index, record.element name index [.arrayOfVarying type] = .ok none :=
      element_of_undeclared absent
    refine ⟨?_, fun index => getVaryingFromArray_of_element (nothing index)⟩
    rw [getArrayOfVarying, read_of_undeclared absent]
    rfl
  · exact refusesVaryingArray_of_foreign declared foreign
  · obtain ⟨value, held, accepted⟩ := conforms.exists_held declared
    obtain ⟨items?, rfl⟩ := Varying.exists_items accepted
    have reads := read_of_held declared held (List.mem_singleton_self _)
    cases items? with
    | none =>
        have answers := answersNoVaryingArray_of_null declared reads
        exact ⟨none, answers.all, held, fun _ => answers, by simp⟩
    | some items =>
        have answers := answersVaryingArray_of_items declared reads
        refine ⟨some items, answers.all, held, by simp, ?_⟩
        rintro _ ⟨⟩
        exact answers

/-- A record with an array of numbers and an array of texts. -/
def track (marks names : Value) : Record where
  schema := {
    typeName := "Track"
    fields := [("marks", .arrayOfNullable .int32), ("names", .arrayOfVarying .string)]
    named := by decide
    ordered := by decide
    available := by decide }
  values := [("marks", marks), ("names", names)]

theorem array_access_track :
    let marks : List (Option Int32) := [some 1, none, some 3, none]
    let record := track (Assignment.arrayOfNullable .int32 (some marks)).value .null
    record.Obtainable ∧
      record.getArrayOfNullable .int32 "marks" = .ok (some marks) ∧
      record.getArrayOf .int32 "marks" = .error (.nullInArray "marks" "get_array_of_int32" 1) ∧
      record.getFromArray .int32 "marks" 2 = .ok (some 3) ∧
      record.getFromArray .int32 "marks" 4 = .ok none ∧
      record.RefusesVaryingArray .string "marks" (.kindMismatch "marks" record.schema.text
        [.arrayOfVarying .string] (.arrayOfNullable .int32)) ∧
      record.AnswersNoVaryingArray .string "names" ∧
      record.getFromArray .int32 "times" 0 = .ok none := by
  intro marks record
  have built : (Origin.compact "Track").run [⟨"names", .arrayOfVarying .string none⟩,
      ⟨"marks", .arrayOfNullable .int32 (some [some 1, none, some 3, none])⟩] =
        .ok (track (Assignment.arrayOfNullable .int32 (some [some 1, none, some 3, none])).value
          .null) := rfl
  have marksObtainable : (Assignment.arrayOfNullable .int32 (some marks)).value.Obtainable := by
    refine .array ?_
    exact List.forall_mem_cons.2 ⟨.scalar _, List.forall_mem_cons.2 ⟨.null,
      List.forall_mem_cons.2 ⟨.scalar _, List.forall_mem_singleton.2 .null⟩⟩⟩
  have obtainable : record.Obtainable := by
    refine .built (fun _ => Origin.noConfusion) ?_ built
    exact List.forall_mem_cons.2 ⟨.null, List.forall_mem_singleton.2 marksObtainable⟩
  obtain ⟨ofPrimitive, ofVarying⟩ := array_access obtainable "marks"
  obtain ⟨items?, all, _, _, answers⟩ := (ofPrimitive .int32).2.2 _ rfl (.inr rfl)
  have reads : record.getArrayOfNullable .int32 "marks" = .ok (some marks) := rfl
  obtain rfl : items? = some marks := Except.ok.inj (all.symm.trans reads)
  obtain ⟨fromMarks, _⟩ := answers marks rfl
  have second : IsLeast {place | marks[place]? = some none} 1 := by
    refine ⟨rfl, fun place isNull => Nat.one_le_iff_ne_zero.2 ?_⟩
    rintro rfl
    cases isNull
  obtain ⟨index, least, firstNull⟩ := fromMarks.firstNull (by decide)
  obtain rfl : index = 1 := least.unique second
  obtain ⟨names?, _, stored, noNames, _⟩ :=
    ((array_access obtainable "names").2 .string).2.2 rfl
  have isNull : names? = none := by
    cases names? with
    | none => rfl
    | some names => cases stored
  exact ⟨obtainable, reads, firstNull, fromMarks.payloadAt 2 3 rfl, (fromMarks.past 4 (by decide)).2,
    (ofVarying .string).2.1 _ rfl Kind.noConfusion, noNames isNull,
    (((array_access obtainable "times").1 .int32).1 rfl |>.2.2 0).1⟩

end Record

end CompactSchema
