import CompactSchema.Proofs.Record.Reading
import CompactSchema.Proofs.Record.Routes
import CompactSchema.Proofs.Record.Validity

/-!
Contract: access to single values never misreads.

An accessor finds no payload in null, and none in a value of another type. A record
that conforms to its schema holds no value of another type under a kind that the
accessor reads, so a missing payload means null and nothing else. What an accessor
answers is then told by the declared kind and the stored value alone.

Owns: the outcome of reading a field through given kinds, and of every accessor to
single values.

Does not own: arrays, and that accessors undo setters, see `Proofs.Record.Reading`.
-/

set_option autoImplicit false

namespace CompactSchema

/-! ## What readable fields hold -/

theorem Primitive.mem_singleKinds_iff {type : Primitive} {kind : Kind} :
    kind ∈ type.singleKinds ↔ kind = .plain type ∨ kind = .nullable type := by
  simp [singleKinds]

/-- What stands in a field that can be read as one primitive: null only under the
nullable kind, and otherwise a payload. -/
theorem Primitive.null_or_payload {type : Primitive} {kind : Kind} {value : Value}
    (readable : kind ∈ type.singleKinds) (accepted : kind.accepts value = true) :
    (value = .null ∧ kind = .nullable type) ∨ ∃ payload, type.toValue payload = value := by
  rcases mem_singleKinds_iff.1 readable with rfl | rfl
  · rcases Kind.acceptsSingle_cases accepted with ⟨_, acceptsNull⟩ | isType
    · cases acceptsNull
    · exact .inr (type.exists_toValue isType)
  · rcases Kind.acceptsSingle_cases accepted with ⟨isNull, _⟩ | isType
    · exact .inl ⟨isNull, rfl⟩
    · exact .inr (type.exists_toValue isType)

theorem Varying.null_or_payload {type : Varying} {value : Value}
    (accepted : (Kind.varying type).accepts value = true) :
    value = .null ∨ ∃ payload, type.toValue payload = value := by
  rcases Kind.acceptsSingle_cases accepted with ⟨isNull, _⟩ | isType
  · exact .inl isNull
  · exact .inr (type.exists_toValue isType)

namespace Record

variable {record : Record} {name : String} {kinds : List Kind} {value : Value}
  {error : SchemaError}

/-! ## Reading through kinds -/

/-- A field is declared with one of the given kinds and holds a value. -/
def Holds (record : Record) (name : String) (kinds : List Kind) (value : Value) : Prop :=
  ∃ kind ∈ kinds, record.schema.kind? name = some kind ∧ record.value? name = some value

/-- Why a field can not be read through the given kinds. -/
inductive Refused (record : Record) (name : String) (kinds : List Kind) : SchemaError → Prop where
  | undeclared (absent : record.schema.kind? name = none) :
      Refused record name kinds (.fieldNotFound name record.schema.text)
  | foreign {kind : Kind} (declared : record.schema.kind? name = some kind)
      (unreadable : kind ∉ kinds) :
      Refused record name kinds (.kindMismatch name record.schema.text kinds kind)

theorem read_ok_iff (conforms : record.Conforms) :
    record.read name kinds = .ok value ↔ record.Holds name kinds value := by
  constructor
  · intro reads
    unfold read at reads
    cases declared : record.schema.kind? name with
    | none => simp [declared] at reads
    | some kind =>
        by_cases readable : kind ∈ kinds
        · obtain ⟨other, held, _⟩ := conforms.exists_held declared
          obtain rfl : other = value := by
            simpa [declared, readable, stored, held] using reads
          exact ⟨kind, readable, declared, held⟩
        · simp [declared, readable] at reads
  · rintro ⟨kind, readable, declared, held⟩
    exact read_of_held declared held readable

theorem read_error_iff : record.read name kinds = .error error ↔ record.Refused name kinds error := by
  unfold read
  constructor
  · intro refused
    cases declared : record.schema.kind? name with
    | none =>
        obtain rfl : record.notFound name = error := by simpa [declared] using refused
        exact .undeclared declared
    | some kind =>
        by_cases readable : kind ∈ kinds
        · simp [declared, readable] at refused
        · simp only [declared, readable, if_false, Except.error.injEq] at refused
          rw [← refused]
          exact .foreign declared readable
  · intro refused
    cases refused with
    | undeclared absent => simp [absent, notFound]
    | foreign declared unreadable => simp [declared, unreadable]

theorem refused_fieldNotFound_iff {field schema : String} :
    record.Refused name kinds (.fieldNotFound field schema) ↔
      field = name ∧ schema = record.schema.text ∧ record.schema.kind? name = none := by
  constructor
  · intro refused
    cases refused with
    | undeclared absent => exact ⟨rfl, rfl, absent⟩
  · rintro ⟨rfl, rfl, absent⟩
    exact .undeclared absent

theorem refused_kindMismatch_iff {field schema : String} {allowed : List Kind} {found : Kind} :
    record.Refused name kinds (.kindMismatch field schema allowed found) ↔
      field = name ∧ schema = record.schema.text ∧ allowed = kinds ∧
        record.schema.kind? name = some found ∧ found ∉ kinds := by
  constructor
  · intro refused
    cases refused with
    | foreign declared unreadable => exact ⟨rfl, rfl, rfl, declared, unreadable⟩
  · rintro ⟨rfl, rfl, rfl, declared, unreadable⟩
    exact .foreign declared unreadable

theorem Refused.ne_nullValue (refused : record.Refused name kinds error) (field accessor : String) :
    error ≠ .nullValue field accessor := by
  cases refused <;> exact SchemaError.noConfusion

/-! ## The accessors by their reading -/

section Primitive

variable {type : Primitive} {payload : type.Payload} {payload? : Option type.Payload}

theorem get_ok_iff :
    record.get type name = .ok payload ↔
      record.read name type.singleKinds = .ok (type.toValue payload) := by
  unfold get
  cases record.read name type.singleKinds with
  | error fault => simp [bind, Except.bind]
  | ok value =>
      rw [Except.ok.injEq, ← type.ofValue?_eq_some_iff]
      cases found : type.ofValue? value <;> simp [bind, Except.bind, pure, Except.pure, found]

theorem get_error_iff :
    record.get type name = .error error ↔
      record.read name type.singleKinds = .error error ∨
        error = .nullValue name type.accessor ∧ ∃ value,
          record.read name type.singleKinds = .ok value ∧ type.ofValue? value = none := by
  unfold get
  cases record.read name type.singleKinds with
  | error fault => simp [bind, Except.bind]
  | ok value =>
      cases found : type.ofValue? value <;>
        simp [bind, Except.bind, pure, Except.pure, throw, throwThe, MonadExceptOf.throw, found,
          eq_comm]

theorem getNullable_ok_iff :
    record.getNullable type name = .ok payload? ↔ ∃ value,
      record.read name type.singleKinds = .ok value ∧ type.ofValue? value = payload? := by
  unfold getNullable
  cases record.read name type.singleKinds <;> simp [bind, Except.bind, pure, Except.pure]

theorem getNullable_error_iff :
    record.getNullable type name = .error error ↔
      record.read name type.singleKinds = .error error := by
  unfold getNullable
  cases record.read name type.singleKinds <;> simp [bind, Except.bind, pure, Except.pure]

/-! ## The outcomes -/

theorem holds_singleKinds_iff :
    record.Holds name type.singleKinds value ↔
      (record.schema.kind? name = some (.plain type) ∨
        record.schema.kind? name = some (.nullable type)) ∧ record.value? name = some value := by
  simp only [Holds, Primitive.mem_singleKinds_iff, or_and_right, exists_or, exists_eq_left]

/-- A payload is missing where the kind is nullable and null is held, and nowhere else. -/
theorem Conforms.missing_iff (conforms : record.Conforms) :
    (∃ value, record.read name type.singleKinds = .ok value ∧ type.ofValue? value = none) ↔
      record.schema.kind? name = some (.nullable type) ∧ record.value? name = some .null := by
  constructor
  · rintro ⟨value, reads, missing⟩
    obtain ⟨kind, readable, declared, held⟩ := (read_ok_iff conforms).1 reads
    have accepted := (conforms.admits declared held).accepted
    rcases type.null_or_payload readable accepted with ⟨rfl, rfl⟩ | ⟨payload, rfl⟩
    · exact ⟨declared, held⟩
    · rw [type.ofValue?_toValue] at missing
      cases missing
  · rintro ⟨declared, held⟩
    exact ⟨.null, read_of_held declared held type.nullable_mem_singleKinds, type.ofValue?_null⟩

theorem Conforms.get_ok_iff (conforms : record.Conforms) :
    record.get type name = .ok payload ↔
      (record.schema.kind? name = some (.plain type) ∨
        record.schema.kind? name = some (.nullable type)) ∧
      record.value? name = some (type.toValue payload) := by
  rw [Record.get_ok_iff, read_ok_iff conforms, holds_singleKinds_iff]

theorem Conforms.get_nullValue_iff (conforms : record.Conforms) {field accessor : String} :
    record.get type name = .error (.nullValue field accessor) ↔
      field = name ∧ accessor = type.accessor ∧
        record.schema.kind? name = some (.nullable type) ∧ record.value? name = some .null := by
  rw [get_error_iff, conforms.missing_iff, read_error_iff, SchemaError.nullValue.injEq, and_assoc]
  exact or_iff_right fun refused => refused.ne_nullValue field accessor rfl

theorem get_kindMismatch_iff {field schema : String} {allowed : List Kind} {found : Kind} :
    record.get type name = .error (.kindMismatch field schema allowed found) ↔
      field = name ∧ schema = record.schema.text ∧ allowed = [.plain type, .nullable type] ∧
        record.schema.kind? name = some found ∧ found ≠ .plain type ∧ found ≠ .nullable type := by
  rw [get_error_iff, read_error_iff, refused_kindMismatch_iff, Primitive.mem_singleKinds_iff,
    not_or]
  exact or_iff_left fun isNull => SchemaError.noConfusion isNull.1

theorem get_fieldNotFound_iff {field schema : String} :
    record.get type name = .error (.fieldNotFound field schema) ↔
      field = name ∧ schema = record.schema.text ∧ record.schema.kind? name = none := by
  rw [get_error_iff, read_error_iff, refused_fieldNotFound_iff]
  exact or_iff_left fun isNull => SchemaError.noConfusion isNull.1

theorem getNullable_some_iff :
    record.getNullable type name = .ok (some payload) ↔ record.get type name = .ok payload := by
  rw [getNullable_ok_iff, Record.get_ok_iff]
  simp only [type.ofValue?_eq_some_iff, exists_eq_right]

theorem Conforms.getNullable_none_iff (conforms : record.Conforms) :
    record.getNullable type name = .ok none ↔
      ∃ field accessor, record.get type name = .error (.nullValue field accessor) := by
  simp only [getNullable_ok_iff, conforms.missing_iff, conforms.get_nullValue_iff,
    exists_and_left, exists_eq_left]

theorem getNullable_error_iff_get :
    record.getNullable type name = .error error ↔
      record.get type name = .error error ∧ ∀ field accessor, error ≠ .nullValue field accessor := by
  rw [getNullable_error_iff, get_error_iff]
  constructor
  · intro refused
    exact ⟨.inl refused, (read_error_iff.1 refused).ne_nullValue⟩
  · rintro ⟨refused | ⟨isNull, _⟩, notNull⟩
    · exact refused
    · exact absurd isNull (notNull _ _)

end Primitive

section Varying

variable {type : Varying} {payload : type.Payload} {payload? : Option type.Payload}

theorem Conforms.getVarying_ok_iff (conforms : record.Conforms) :
    record.getVarying type name = .ok payload? ↔
      record.schema.kind? name = some (.varying type) ∧ ∃ value,
        record.value? name = some value ∧ type.ofValue? value = payload? := by
  have reads : record.getVarying type name = .ok payload? ↔ ∃ value,
      record.read name [.varying type] = .ok value ∧ type.ofValue? value = payload? := by
    unfold getVarying
    cases record.read name [.varying type] <;> simp [bind, Except.bind, pure, Except.pure]
  rw [reads]
  simp only [read_ok_iff conforms, Holds, List.mem_singleton, exists_eq_left, and_assoc,
    exists_and_left]

theorem Conforms.getVarying_some_iff (conforms : record.Conforms) :
    record.getVarying type name = .ok (some payload) ↔
      record.schema.kind? name = some (.varying type) ∧
        record.value? name = some (type.toValue payload) := by
  simp only [conforms.getVarying_ok_iff, type.ofValue?_eq_some_iff, exists_eq_right]

theorem Conforms.getVarying_none_iff (conforms : record.Conforms) :
    record.getVarying type name = .ok none ↔
      record.schema.kind? name = some (.varying type) ∧ record.value? name = some .null := by
  rw [conforms.getVarying_ok_iff]
  constructor
  · rintro ⟨declared, value, held, missing⟩
    rcases type.null_or_payload (conforms.admits declared held).accepted with rfl | ⟨payload, rfl⟩
    · exact ⟨declared, held⟩
    · rw [type.ofValue?_toValue] at missing
      cases missing
  · rintro ⟨declared, held⟩
    exact ⟨declared, .null, held, type.ofValue?_null⟩

end Varying

/-! ## No accessor misreads -/

/-- On a record that can be had, the declared kind and the stored value alone tell
what an accessor to single values answers under any name. One primitive is read as
it is stored, under both of its kinds; null is reported where the kind is nullable
and null is stored, another kind where a field is declared with one, and a missing
field where none is declared. Allowing null changes nothing but the answer to null,
and a variable-size value is read as it is stored. So no accessor takes a value that
is there for null. -/
theorem single_access {record : Record} (obtainable : record.Obtainable) (name : String) :
    (∀ type : Primitive,
      (∀ payload, record.get type name = .ok payload ↔
        (record.schema.kind? name = some (.plain type) ∨
          record.schema.kind? name = some (.nullable type)) ∧
        record.value? name = some (type.toValue payload)) ∧
      (∀ field accessor, record.get type name = .error (.nullValue field accessor) ↔
        field = name ∧ accessor = type.accessor ∧
          record.schema.kind? name = some (.nullable type) ∧ record.value? name = some .null) ∧
      (∀ field schema allowed found,
        record.get type name = .error (.kindMismatch field schema allowed found) ↔
          field = name ∧ schema = record.schema.text ∧
            allowed = [.plain type, .nullable type] ∧
            record.schema.kind? name = some found ∧
            found ≠ .plain type ∧ found ≠ .nullable type) ∧
      (∀ field schema, record.get type name = .error (.fieldNotFound field schema) ↔
        field = name ∧ schema = record.schema.text ∧ record.schema.kind? name = none) ∧
      (∀ payload, record.getNullable type name = .ok (some payload) ↔
        record.get type name = .ok payload) ∧
      (record.getNullable type name = .ok none ↔
        ∃ field accessor, record.get type name = .error (.nullValue field accessor)) ∧
      ∀ error, record.getNullable type name = .error error ↔
        record.get type name = .error error ∧
          ∀ field accessor, error ≠ .nullValue field accessor) ∧
    (∀ type : Varying,
      (∀ payload, record.getVarying type name = .ok (some payload) ↔
        record.schema.kind? name = some (.varying type) ∧
          record.value? name = some (type.toValue payload)) ∧
      (record.getVarying type name = .ok none ↔
        record.schema.kind? name = some (.varying type) ∧ record.value? name = some .null)) ∧
    ∀ value, record.value? name = some value → value ≠ .null →
      (∀ type : Primitive,
        (∀ field accessor, record.get type name ≠ .error (.nullValue field accessor)) ∧
          record.getNullable type name ≠ .ok none) ∧
      ∀ type : Varying, record.getVarying type name ≠ .ok none := by
  have conforms : record.Conforms := (valid_iff.1 (Value.Obtainable.valid obtainable)).1
  refine ⟨fun type => ?_, fun type => ?_, fun value held present => ?_⟩
  · exact ⟨fun _ => conforms.get_ok_iff, fun _ _ => conforms.get_nullValue_iff,
      fun _ _ _ _ => get_kindMismatch_iff, fun _ _ => get_fieldNotFound_iff,
      fun _ => getNullable_some_iff, conforms.getNullable_none_iff,
      fun _ => getNullable_error_iff_get⟩
  · exact ⟨fun _ => conforms.getVarying_some_iff, conforms.getVarying_none_iff⟩
  · have notNull : record.value? name ≠ some .null := by
      rw [held]
      exact fun isNull => present (Option.some.inj isNull)
    have getsNoNull : ∀ (type : Primitive) (field accessor : String),
        record.get type name ≠ .error (.nullValue field accessor) := by
      intro type field accessor isNull
      exact notNull (conforms.get_nullValue_iff.1 isNull).2.2.2
    refine ⟨fun type => ⟨getsNoNull type, fun isNone => ?_⟩,
      fun type isNone => notNull (conforms.getVarying_none_iff.1 isNone).2⟩
    obtain ⟨_, _, isNull⟩ := conforms.getNullable_none_iff.1 isNone
    exact getsNoNull type _ _ isNull

/-- A record with a nullable number, a number and a text. -/
def gauge (level text : Value) (limit : Int32) : Record where
  schema := {
    typeName := "Gauge"
    fields := [("level", .nullable .int32), ("limit", .plain .int32), ("text", .varying .string)]
    named := by decide
    ordered := by decide
    available := by decide }
  values := [("level", level), ("limit", .scalar (.int32 limit)), ("text", text)]

theorem single_access_gauge :
    let empty := gauge .null .null 7
    let full := gauge (.scalar (.int32 4)) (.scalar (.string "low")) 7
    empty.Obtainable ∧ full.Obtainable ∧
      empty.get .int32 "level" = .error (.nullValue "level" "get_int32") ∧
      empty.get .int32 "limit" = .ok 7 ∧
      empty.getNullable .int32 "level" = .ok none ∧
      empty.getVarying .string "text" = .ok none ∧
      full.get .int32 "level" = .ok 4 ∧
      full.getVarying .string "text" = .ok (some "low") ∧
      full.getNullable .int32 "level" ≠ .ok none := by
  intro empty full
  have emptyBuilt : (Origin.compact "Gauge").run [⟨"level", .nullable .int32 none⟩,
      ⟨"text", .varying .string none⟩, ⟨"limit", .plain .int32 7⟩] =
        .ok (gauge .null .null 7) := rfl
  have fullBuilt : (Origin.cloned empty).run [⟨"level", .nullable .int32 (some 4)⟩,
      ⟨"text", .varying .string (some "low")⟩] = .ok full := rfl
  have emptyObtainable : empty.Obtainable := by
    refine .built (fun _ => Origin.noConfusion) ?_ emptyBuilt
    exact List.forall_mem_cons.2 ⟨.null, List.forall_mem_cons.2
      ⟨.null, List.forall_mem_singleton.2 (.scalar _)⟩⟩
  have fullObtainable : full.Obtainable := by
    refine .built ?_ ?_ fullBuilt
    · rintro _ ⟨⟩
      exact emptyObtainable
    · exact List.forall_mem_cons.2 ⟨.scalar _, List.forall_mem_singleton.2 (.scalar _)⟩
  have emptyLevel := (single_access emptyObtainable "level").1 .int32
  have emptyLimit := (single_access emptyObtainable "limit").1 .int32
  have emptyText := (single_access emptyObtainable "text").2.1 .string
  have fullLevel := single_access fullObtainable "level"
  have fullText := (single_access fullObtainable "text").2.1 .string
  have isNull : empty.get .int32 "level" = .error (.nullValue "level" "get_int32") :=
    (emptyLevel.2.1 _ _).2 ⟨rfl, rfl, rfl, rfl⟩
  refine ⟨emptyObtainable, fullObtainable, isNull, (emptyLimit.1 7).2 ⟨.inl rfl, rfl⟩,
    emptyLevel.2.2.2.2.2.1.2 ⟨_, _, isNull⟩, emptyText.2.2 ⟨rfl, rfl⟩,
    ((fullLevel.1 .int32).1 4).2 ⟨.inr rfl, rfl⟩, (fullText.1 "low").2 ⟨rfl, rfl⟩, ?_⟩
  exact ((fullLevel.2.2 (.scalar (.int32 4)) rfl Value.noConfusion).1 .int32).2

end Record

end CompactSchema
