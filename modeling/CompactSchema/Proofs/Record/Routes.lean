import CompactSchema.Proofs.Record.Building
import Mathlib.Data.Set.List

/-!
Contract: a record does not show on which route it was made.

A kind accepts just the values that its setter can store. So the values of a record
can be set again one by one, by the setters of the declared kinds, and a builder
ends with the same record whatever the order of the calls. A builder for the schema
can leave out fields that hold null; a compact builder is told every field and then
derives the same schema.

Owns: the values of a kind as the values of its setter, the chains that restate a
record, and what the builders make of them.

Does not own: the outcomes of other chains, see `Proofs.Record.Building`.
-/

set_option autoImplicit false

namespace CompactSchema

/-! ## Values as arguments of setters -/

theorem Primitive.exists_toValue {type : Primitive} {value : Value}
    (isType : value.scalarKind? = some (.plain type)) :
    ∃ payload, type.toValue payload = value := by
  cases value with
  | scalar leaf => cases leaf <;> cases isType <;> exact ⟨_, rfl⟩
  | _ => cases isType

theorem Varying.exists_toValue {type : Varying} {value : Value}
    (isType : value.scalarKind? = some (.varying type)) :
    ∃ payload, type.toValue payload = value := by
  cases value with
  | scalar leaf => cases leaf <;> cases isType <;> exact ⟨_, rfl⟩
  | compact schema values =>
      cases isType
      exact ⟨⟨schema, values⟩, rfl⟩
  | _ => cases isType

namespace Kind

variable {kind element : Kind} {value : Value} {α : Type} {toValue : α → Value}

theorem acceptsSingle_cases (accepted : kind.acceptsSingle value = true) :
    (value = .null ∧ kind.acceptsNull = true) ∨ value.scalarKind? = some kind.nonNullable := by
  cases value with
  | null => exact .inl ⟨rfl, accepted⟩
  | _ => exact .inr (eq_of_beq accepted)

theorem exists_optional
    (present : ∀ {value : Value}, value.scalarKind? = some kind.nonNullable →
      ∃ payload, toValue payload = value)
    (accepted : kind.acceptsSingle value = true) :
    ∃ payload?, Assignment.optional toValue payload? = value := by
  rcases acceptsSingle_cases accepted with ⟨rfl, _⟩ | isType
  · exact ⟨none, rfl⟩
  · obtain ⟨payload, same⟩ := present isType
    exact ⟨some payload, same⟩

theorem exists_optional_array (isElement : kind.element? = some element)
    (each : ∀ {item : Value}, element.acceptsSingle item = true → ∃ payload, toValue payload = item)
    (accepted : kind.accepts value = true) :
    ∃ payloads? : Option (List α),
      Assignment.optional (fun payloads => .array (payloads.map toValue)) payloads? = value := by
  unfold accepts at accepted
  rw [isElement] at accepted
  cases value with
  | null => exact ⟨none, rfl⟩
  | array items =>
      have inRange : items ∈ Set.range (List.map toValue) := by
        rw [Set.range_list_map]
        exact fun item member => each (List.all_eq_true.1 accepted item member)
      obtain ⟨payloads, rfl⟩ := inRange
      exact ⟨some payloads, rfl⟩
  | _ => cases accepted

theorem notAvailable_accepts (value : Value) : notAvailable.accepts value = false := by
  cases value with
  | scalar leaf => cases leaf <;> rfl
  | _ => rfl

theorem exists_assignment (accepted : kind.accepts value = true) :
    ∃ assignment : Assignment, assignment.kind = kind ∧ assignment.value = value := by
  cases kind with
  | notAvailable =>
      rw [notAvailable_accepts] at accepted
      cases accepted
  | plain type =>
      rcases acceptsSingle_cases accepted with ⟨_, acceptsNull⟩ | isType
      · cases acceptsNull
      · obtain ⟨payload, same⟩ := type.exists_toValue isType
        exact ⟨.plain type payload, rfl, same⟩
  | nullable type =>
      obtain ⟨payload?, same⟩ := exists_optional type.exists_toValue accepted
      exact ⟨.nullable type payload?, rfl, same⟩
  | arrayOf type =>
      have each : ∀ {item}, (plain type).acceptsSingle item = true →
          ∃ payload, type.toValue payload = item := by
        intro item fits
        rcases acceptsSingle_cases fits with ⟨_, acceptsNull⟩ | isType
        · cases acceptsNull
        · exact type.exists_toValue isType
      obtain ⟨payloads?, same⟩ := exists_optional_array rfl each accepted
      exact ⟨.arrayOf type payloads?, rfl, same⟩
  | arrayOfNullable type =>
      obtain ⟨payloads?, same⟩ :=
        exists_optional_array rfl (exists_optional type.exists_toValue) accepted
      exact ⟨.arrayOfNullable type payloads?, rfl, same⟩
  | varying type =>
      obtain ⟨payload?, same⟩ := exists_optional type.exists_toValue accepted
      exact ⟨.varying type payload?, rfl, same⟩
  | arrayOfVarying type =>
      obtain ⟨payloads?, same⟩ :=
        exists_optional_array rfl (exists_optional type.exists_toValue) accepted
      exact ⟨.arrayOfVarying type payloads?, rfl, same⟩

end Kind

/-! ## Setting a record again -/

namespace Record

/-- A chain sets fields of a record to what they hold, each at most once. -/
structure RestatedBy (record : Record) (chain : List Setting) : Prop where
  distinct : (Setting.names chain).Nodup
  declared : ∀ setting ∈ chain, record.schema.kind? setting.name = some setting.assignment.kind
  held : ∀ setting ∈ chain, record.value? setting.name = some setting.assignment.value

variable {record : Record} {chain : List Setting}

/-- The fields of a record can be set again in any order and in any selection. -/
theorem Conforms.exists_restatedBy (conforms : record.Conforms) {order : List String}
    (distinct : order.Nodup) (declared : ∀ name ∈ order, name ∈ record.schema.fieldNames) :
    ∃ chain, Setting.names chain = order ∧ record.RestatedBy chain := by
  suffices each : ∃ chain, Setting.names chain = order ∧ ∀ setting ∈ chain,
      record.schema.kind? setting.name = some setting.assignment.kind ∧
        record.value? setting.name = some setting.assignment.value by
    obtain ⟨chain, rfl, fits⟩ := each
    exact ⟨chain, rfl, distinct, fun setting member => (fits setting member).1,
      fun setting member => (fits setting member).2⟩
  clear distinct
  induction order with
  | nil => exact ⟨[], rfl, fun _ member => absurd member List.not_mem_nil⟩
  | cons name rest inductionHypothesis =>
      obtain ⟨nameDeclared, restDeclared⟩ := List.forall_mem_cons.1 declared
      obtain ⟨chain, names, fits⟩ := inductionHypothesis restDeclared
      obtain ⟨kind, isKind⟩ := Schema.exists_kind?_iff.2 nameDeclared
      obtain ⟨value, isValue, accepted⟩ := conforms.exists_held isKind
      obtain ⟨assignment, rfl, rfl⟩ := Kind.exists_assignment accepted
      refine ⟨⟨name, assignment⟩ :: chain, congrArg _ names, ?_⟩
      exact List.forall_mem_cons.2 ⟨⟨isKind, isValue⟩, fits⟩

end Record

namespace Origin

variable {origin : Origin} {chain : List Setting} {record : Record}

theorem passes_of_distinct (distinct : (Setting.names chain).Nodup)
    (declared : ∀ schema, origin.schema? = some schema → ∀ setting ∈ chain,
      schema.kind? setting.name = some setting.assignment.kind) : origin.Passes chain := by
  rintro before setting after rfl error stops
  have member : setting ∈ before ++ setting :: after :=
    List.mem_append_right before List.mem_cons_self
  cases stops with
  | twice again =>
      rw [Setting.names, List.map_append, List.map_cons] at distinct
      exact (List.nodup_append.1 distinct).2.2 _ again _ List.mem_cons_self rfl
  | unknown _ given undeclared =>
      cases undeclared.symm.trans (declared _ given setting member)
  | mismatched _ given isDeclared different =>
      have same := isDeclared.symm.trans (declared _ given setting member)
      exact different (Option.some.inj same)

theorem run_of_makes (sound : origin.Sound) (passes : origin.Passes chain)
    (named : origin ≠ .compact "") (filled : origin.unfilled? chain = none)
    (makes : origin.Makes chain record) : origin.run chain = .ok record :=
  (run_builds sound passes).unique (.made named filled makes)

theorem run_bound_of_restatedBy (conforms : record.Conforms) (restated : record.RestatedBy chain)
    (others : ∀ name ∈ record.schema.fieldNames, name ∉ Setting.names chain →
      record.value? name = some .null) :
    (bound record.schema).run chain = .ok record := by
  have sound : (bound record.schema).Sound := fun _ => Origin.noConfusion
  have passes : (bound record.schema).Passes chain := by
    apply passes_of_distinct restated.distinct
    rintro _ ⟨⟩
    exact restated.declared
  have filled : (bound record.schema).unfilled? chain = none := by
    apply List.find?_eq_none.2
    rintro ⟨name, kind⟩ member unfilled
    obtain ⟨unset, notNullable⟩ : name ∉ Setting.names chain ∧ kind.acceptsNull = false := by
      simpa using unfilled
    have isNull := others name (Entries.mem_keys_of_mem member) unset
    have nullable := (conforms.admits (Schema.kind?_eq_some_iff.2 member) isNull).null rfl
    rw [notNullable] at nullable
    cases nullable
  exact run_of_makes sound passes Origin.noConfusion filled
    ⟨rfl, conforms, restated.held, fun declared unset => others _ declared unset⟩

theorem run_compact_of_restatedBy (conforms : record.Conforms) (restated : record.RestatedBy chain)
    (complete : ∀ name ∈ record.schema.fieldNames, name ∈ Setting.names chain) :
    (compact record.schema.typeName).run chain = .ok record := by
  have sound : (compact record.schema.typeName).Sound := fun _ => Origin.noConfusion
  have passes : (compact record.schema.typeName).Passes chain := by
    apply passes_of_distinct restated.distinct
    rintro _ ⟨⟩
  have describes : (compact record.schema.typeName).Describes chain record.schema := by
    refine ⟨rfl, ?_⟩
    rintro ⟨name, kind⟩
    constructor
    · intro member
      obtain ⟨setting, listed, rfl⟩ :=
        List.mem_map.1 (complete name (Entries.mem_keys_of_mem member))
      have isKind : record.schema.kind? setting.name = some kind :=
        Schema.kind?_eq_some_iff.2 member
      have sameKind := (restated.declared setting listed).symm.trans isKind
      exact ⟨setting, listed, Prod.ext rfl (Option.some.inj sameKind)⟩
    · rintro ⟨setting, listed, same⟩
      rw [← same]
      exact Schema.kind?_eq_some_iff.1 (restated.declared setting listed)
  exact run_of_makes sound passes (fun same => record.schema.named (Origin.compact.inj same)) rfl
    ⟨describes, conforms, restated.held, fun declared unset => absurd (complete _ declared) unset⟩

end Origin

/-! ## The routes agree -/

/-- A kind accepts just the values that its setter can store, and `notAvailable` accepts
none. So whatever record is made from values can be made by setters: for every
order of its fields there is a chain that sets them again, and every such chain makes
the same record, with the given schema even if it leaves out fields that hold null,
and without a schema, which is then derived with the same id, if it leaves out none. -/
theorem routes_agree :
    (∀ (kind : Kind) (value : Value), kind.accepts value = true ↔
      ∃ assignment : Assignment, assignment.kind = kind ∧ assignment.value = value) ∧
    (∀ value, Kind.notAvailable.accepts value = false) ∧
    ∀ {schema : Schema} {values : Entries String Value} {record : Record},
      Entries.Ordered values → Record.ofValues schema values = .ok record →
      (∀ order : List String, order.Nodup → (∀ name ∈ order, name ∈ schema.fieldNames) →
        ∃ chain, Setting.names chain = order ∧ record.RestatedBy chain) ∧
      ∀ chain, record.RestatedBy chain →
        ((∀ name ∈ schema.fieldNames, name ∉ Setting.names chain →
            record.value? name = some .null) →
          (Origin.bound schema).run chain = .ok record) ∧
        ((∀ name ∈ schema.fieldNames, name ∈ Setting.names chain) →
          (Origin.compact schema.typeName).run chain = .ok record ∧
            record.schema.id = schema.id) := by
  refine ⟨fun kind value => ⟨Kind.exists_assignment, ?_⟩, Kind.notAvailable_accepts, ?_⟩
  · rintro ⟨assignment, rfl, rfl⟩
    exact assignment.accepts_value
  · intro schema values record ordered made
    obtain ⟨rfl, conforms⟩ := (Record.ofValues_ok_iff ordered).1 made
    refine ⟨fun order distinct declared => conforms.exists_restatedBy distinct declared, ?_⟩
    intro chain restated
    exact ⟨Origin.run_bound_of_restatedBy conforms restated,
      fun complete => ⟨Origin.run_compact_of_restatedBy conforms restated complete, rfl⟩⟩

theorem routes_agree_point :
    let point := Record.point 3 4 .null
    let short : List Setting := [⟨"y", .plain .int32 4⟩, ⟨"x", .plain .int32 3⟩]
    let full : List Setting := ⟨"label", .varying .string none⟩ :: short
    Record.ofValues point.schema point.values = .ok point ∧
      (Origin.bound point.schema).run short = .ok point ∧
      (Origin.bound point.schema).run full = .ok point ∧
      (Origin.compact "Point").run full = .ok point := by
  intro point short full
  have made : Record.ofValues point.schema point.values = .ok point := rfl
  have routes := (routes_agree.2.2 (by decide) made).2
  have shortFits : point.RestatedBy short := by
    refine ⟨by decide, ?_, ?_⟩
    · exact List.forall_mem_cons.2 ⟨rfl, List.forall_mem_singleton.2 rfl⟩
    · exact List.forall_mem_cons.2 ⟨rfl, List.forall_mem_singleton.2 rfl⟩
  have fullFits : point.RestatedBy full := by
    refine ⟨by decide, ?_, ?_⟩
    · exact List.forall_mem_cons.2 ⟨rfl, shortFits.declared⟩
    · exact List.forall_mem_cons.2 ⟨rfl, shortFits.held⟩
  have complete : ∀ name ∈ point.schema.fieldNames, name ∈ Setting.names full := by decide
  have others : ∀ name ∈ point.schema.fieldNames, name ∉ Setting.names short →
      point.value? name = some .null := by
    have rest : ∀ name ∈ ["x", "y"], name ∈ Setting.names short := by decide
    exact List.forall_mem_cons.2
      ⟨fun _ => rfl, fun name listed absent => absurd (rest name listed) absent⟩
  exact ⟨made, (routes short shortFits).1 others,
    (routes full fullFits).1 fun name declared absent => absurd (complete name declared) absent,
    ((routes full fullFits).2 complete).1⟩

end CompactSchema
