import CompactSchema.Proofs.Record.Routes
import Mathlib.Data.String.Basic
import Mathlib.Order.Bounds.Basic

/-!
Contract: what making a record from values comes to, exactly.

All values are looked at before any field is missed, both in name order. So the least
name whose value does not fit is reported, even if fields have no value. Only if every
value fits is it the least field without one. And if there is none either, the record
holds just the given values.

Owns: what a kind accepts at every place of an array, what is wrong with a value under a
name, and the outcome of making a record from values.

Does not own: what follows for a record that was made, see `Proofs.Record.Conformance`.
-/

set_option autoImplicit false

namespace CompactSchema

/-! ## What a kind accepts -/

namespace Kind

/-- What a field of a kind can hold: null if the kind says so, a value of the type that
the kind names, and an array of what its element kind can hold. -/
inductive Holds : Kind → Value → Prop where
  | null {kind : Kind} (nullable : kind.acceptsNull = true) : Holds kind .null
  | single {kind : Kind} {value : Value} (own : value.scalarKind? = some kind.nonNullable) :
      Holds kind value
  | array {kind element : Kind} {items : List Value} (isElement : kind.element? = some element)
      (each : ∀ item ∈ items, Holds element item) : Holds kind (.array items)

variable {kind element : Kind} {value : Value}

theorem accepts_of_not_array (notArray : kind.element? = none) :
    kind.accepts value = kind.acceptsSingle value := by
  rw [accepts, notArray]

theorem element?_of_element? (isElement : kind.element? = some element) :
    element.element? = none := by
  cases kind <;> cases isElement <;> rfl

theorem element?_of_own (own : value.scalarKind? = some kind.nonNullable) :
    kind.element? = none := by
  have sameElement : kind.nonNullable.element? = kind.element? := by cases kind <;> rfl
  rw [← sameElement]
  cases value with
  | scalar leaf => cases leaf <;> rw [← Option.some.inj own] <;> rfl
  | compact schema values => rw [← Option.some.inj own]; rfl
  | _ => cases own

theorem acceptsSingle_of_own (own : value.scalarKind? = some kind.nonNullable) :
    kind.acceptsSingle value = true := by
  cases value with
  | null => cases own
  | _ => exact beq_iff_eq.2 own

theorem holds_of_acceptsSingle (accepted : kind.acceptsSingle value = true) :
    kind.Holds value := by
  rcases acceptsSingle_cases accepted with ⟨rfl, nullable⟩ | own
  · exact .null nullable
  · exact .single own

theorem holds_of_accepts (accepted : kind.accepts value = true) : kind.Holds value := by
  cases isElement : kind.element? with
  | none =>
      rw [accepts_of_not_array isElement] at accepted
      exact holds_of_acceptsSingle accepted
  | some element =>
      rw [accepts, isElement] at accepted
      cases value with
      | null =>
          apply Holds.null
          rw [← accepts_null, accepts, isElement]
      | array items =>
          have each := List.all_eq_true.1 accepted
          exact .array isElement fun item member => holds_of_acceptsSingle (each item member)
      | _ => cases accepted

theorem accepts_of_holds (holds : kind.Holds value) : kind.accepts value = true := by
  induction holds with
  | null nullable => rw [accepts_null, nullable]
  | single own =>
      rw [accepts_of_not_array (element?_of_own own)]
      exact acceptsSingle_of_own own
  | array isElement _ inductionHypothesis =>
      rw [accepts, isElement]
      apply List.all_eq_true.2
      intro item member
      rw [← accepts_of_not_array (element?_of_element? isElement)]
      exact inductionHypothesis item member

theorem accepts_iff_holds : kind.accepts value = true ↔ kind.Holds value :=
  ⟨holds_of_accepts, accepts_of_holds⟩

end Kind

/-! ## The least key -/

/-- In an ascending list the first key with a fault is the least one. -/
theorem Entries.isLeast_of_split {κ : Type} [LinearOrder κ] {before after : List κ} {key : κ}
    {faults : Set κ} (ascends : (before ++ key :: after).Pairwise (· < ·))
    (listed : ∀ other ∈ faults, other ∈ before ++ key :: after) (faulty : key ∈ faults)
    (passed : ∀ other ∈ before, other ∉ faults) : IsLeast faults key := by
  refine ⟨faulty, fun other otherFaulty => ?_⟩
  rcases List.mem_append.1 (listed other otherFaulty) with earlier | fromKey
  · exact absurd otherFaulty (passed other earlier)
  · have above := (List.pairwise_cons.1 (List.pairwise_append.1 ascends).2.1).1
    rcases List.mem_cons.1 fromKey with rfl | later
    · exact le_rfl
    · exact (above other later).le

/-! ## What is wrong with values -/

namespace Schema

/-- What is wrong with a value under a name: the schema does not declare the name, or the
declared kind does not accept the value. The error says under which name. -/
inductive Unfit (schema : Schema) (name : String) (value : Value) : SchemaError → Prop where
  | undeclared (unknown : name ∉ schema.fieldNames) :
      Unfit schema name value (.fieldNotFound name schema.text)
  | refused {kind : Kind} (declared : schema.kind? name = some kind)
      (refused : kind.accepts value = false) :
      Unfit schema name value (.unfitValue value.inspect name kind)

/-- Values stand under just the declared names, and every kind accepts its value. -/
structure FilledBy (schema : Schema) (values : Entries String Value) : Prop where
  names : ∀ name, name ∈ Entries.keys values ↔ name ∈ schema.fieldNames
  accepted : ∀ {name kind value}, schema.kind? name = some kind → (name, value) ∈ values →
    kind.accepts value = true

/-- The names under which stand values that do not fit. -/
def unfitNames (schema : Schema) (values : Entries String Value) : Set String :=
  {name | ∃ value error, (name, value) ∈ values ∧ schema.Unfit name value error}

/-- The declared names under which no value stands. -/
def missingNames (schema : Schema) (values : Entries String Value) : Set String :=
  {name | name ∈ schema.fieldNames ∧ name ∉ Entries.keys values}

variable {schema : Schema} {name : String} {value : Value} {values : Entries String Value}
  {error : SchemaError}

theorem Unfit.unique {other : SchemaError} (first : schema.Unfit name value error)
    (second : schema.Unfit name value other) : error = other := by
  cases first with
  | undeclared unknown =>
      cases second with
      | undeclared _ => rfl
      | refused declared _ => exact absurd (exists_kind?_iff.1 ⟨_, declared⟩) unknown
  | refused declared _ =>
      cases second with
      | undeclared unknown => exact absurd (exists_kind?_iff.1 ⟨_, declared⟩) unknown
      | refused otherDeclared _ => rw [Option.some.inj (declared.symm.trans otherDeclared)]

theorem Unfit.not_accepted (unfit : schema.Unfit name value error) :
    ¬ ∃ kind, schema.kind? name = some kind ∧ kind.accepts value = true := by
  rintro ⟨kind, declared, accepted⟩
  cases unfit with
  | undeclared unknown => exact unknown (exists_kind?_iff.1 ⟨kind, declared⟩)
  | refused otherDeclared refused =>
      obtain rfl := Option.some.inj (declared.symm.trans otherDeclared)
      cases accepted.symm.trans refused

theorem accepted_or_unfit (schema : Schema) (name : String) (value : Value) :
    (∃ kind, schema.kind? name = some kind ∧ kind.accepts value = true) ∨
      ∃ error, schema.Unfit name value error := by
  cases declared : schema.kind? name with
  | none => exact .inr ⟨_, .undeclared (kind?_eq_none_iff.1 declared)⟩
  | some kind =>
      cases accepted : kind.accepts value with
      | true => exact .inl ⟨kind, rfl, accepted⟩
      | false => exact .inr ⟨_, .refused declared accepted⟩

theorem FilledBy.unfitNames_eq_empty (filled : schema.FilledBy values) :
    schema.unfitNames values = ∅ := by
  apply Set.eq_empty_iff_forall_notMem.2
  rintro name ⟨value, error, member, unfit⟩
  obtain ⟨kind, declared⟩ :=
    exists_kind?_iff.2 ((filled.names name).1 (Entries.mem_keys_of_mem member))
  exact unfit.not_accepted ⟨kind, declared, filled.accepted declared member⟩

/-! ## The first name at fault -/

theorem Unfit.firstUnfit?_cons (unfit : schema.Unfit name value error)
    (rest : List (String × Value)) :
    schema.firstUnfit? ((name, value) :: rest) = some error := by
  rw [firstUnfit?]
  cases unfit with
  | undeclared unknown => rw [kind?_eq_none_iff.2 unknown]
  | refused declared refused => simp [declared, refused]

theorem firstUnfit?_cons_of_accepted {kind : Kind} (declared : schema.kind? name = some kind)
    (accepted : kind.accepts value = true) (rest : List (String × Value)) :
    schema.firstUnfit? ((name, value) :: rest) = schema.firstUnfit? rest := by
  simp [firstUnfit?, declared, accepted]

/-- The values up to the first one that does not fit. -/
theorem exists_unfit (found : schema.firstUnfit? values = some error) :
    ∃ before name value after, values = before ++ (name, value) :: after ∧
      schema.firstUnfit? before = none ∧ schema.Unfit name value error := by
  induction values with
  | nil => cases found
  | cons entry rest inductionHypothesis =>
      obtain ⟨name, value⟩ := entry
      rcases schema.accepted_or_unfit name value with ⟨kind, declared, accepted⟩ | ⟨fault, unfit⟩
      · rw [firstUnfit?_cons_of_accepted declared accepted] at found
        obtain ⟨before, later, laterValue, after, rfl, passed, unfit⟩ := inductionHypothesis found
        refine ⟨(name, value) :: before, later, laterValue, after, rfl, ?_, unfit⟩
        rw [firstUnfit?_cons_of_accepted declared accepted, passed]
      · rw [unfit.firstUnfit?_cons rest] at found
        obtain rfl := Option.some.inj found
        exact ⟨[], name, value, rest, rfl, rfl, unfit⟩

theorem exists_isLeast_unfitNames (ordered : Entries.Ordered values)
    (found : schema.firstUnfit? values = some error) :
    ∃ name value, IsLeast (schema.unfitNames values) name ∧ (name, value) ∈ values ∧
      schema.Unfit name value error := by
  obtain ⟨before, name, value, after, rfl, passed, unfit⟩ := exists_unfit found
  have held : (name, value) ∈ before ++ (name, value) :: after :=
    List.mem_append_right _ List.mem_cons_self
  have names : Entries.keys (before ++ (name, value) :: after) =
      Entries.keys before ++ name :: Entries.keys after := Entries.keys_append _ _
  have ascends := Entries.pairwise_keys_lt ordered
  rw [names] at ascends
  have faulty : name ∈ schema.unfitNames (before ++ (name, value) :: after) :=
    ⟨value, error, held, unfit⟩
  refine ⟨name, value, Entries.isLeast_of_split ascends ?_ faulty ?_, held, unfit⟩
  · rintro other ⟨otherValue, _, member, _⟩
    rw [← names]
    exact Entries.mem_keys_of_mem member
  · -- A name has one value, so the one that passed is the one that would be at fault.
    rintro other listed ⟨otherValue, _, member, otherUnfit⟩
    obtain ⟨⟨_, earlierValue⟩, earlier, rfl⟩ := List.mem_map.1 listed
    have foundEarlier := (Entries.find?_eq_some_iff ordered).2 (List.mem_append_left _ earlier)
    have foundOther := (Entries.find?_eq_some_iff ordered).2 member
    obtain rfl := Option.some.inj (foundEarlier.symm.trans foundOther)
    exact otherUnfit.not_accepted (firstUnfit?_eq_none_iff.1 passed _ earlier)

theorem unfitNames_eq_empty (fits : schema.firstUnfit? values = none) :
    schema.unfitNames values = ∅ := by
  apply Set.eq_empty_iff_forall_notMem.2
  rintro name ⟨value, error, member, unfit⟩
  exact unfit.not_accepted (firstUnfit?_eq_none_iff.1 fits (name, value) member)

theorem isLeast_missingNames (found : schema.firstMissing? values = some name) :
    IsLeast (schema.missingNames values) name := by
  obtain ⟨missing, before, after, split, passed⟩ := List.find?_eq_some_iff_append.1 found
  have ascends := Entries.pairwise_keys_lt schema.ordered
  rw [show Entries.keys schema.fields = _ from split] at ascends
  have unset : name ∉ Entries.keys values := by
    rw [← Entries.has_iff]
    simpa using missing
  apply Entries.isLeast_of_split ascends
  · rintro other ⟨declared, _⟩
    rw [← split]
    exact declared
  · refine ⟨?_, unset⟩
    rw [split]
    exact List.mem_append_right _ List.mem_cons_self
  · rintro other earlier ⟨_, otherUnset⟩
    exact otherUnset (Entries.has_iff.1 (by simpa using passed other earlier))

end Schema

/-! ## The outcome -/

namespace Record

/-- What making a record from values comes to. -/
inductive Assembly (schema : Schema) (values : Entries String Value) :
    Except SchemaError Record → Prop where
  | made (filled : schema.FilledBy values) : Assembly schema values (.ok ⟨schema, values⟩)
  | unfit {name : String} {value : Value} {error : SchemaError}
      (least : IsLeast (schema.unfitNames values) name) (held : (name, value) ∈ values)
      (unfit : schema.Unfit name value error) : Assembly schema values (.error error)
  | missing {name : String} (fits : schema.unfitNames values = ∅)
      (least : IsLeast (schema.missingNames values) name) :
      Assembly schema values (.error (.missingField name schema.text))

variable {schema : Schema} {values : Entries String Value}

theorem assembly_ofValues (ordered : Entries.Ordered values) :
    Assembly schema values (ofValues schema values) := by
  rw [ofValues]
  cases unfit : schema.firstUnfit? values with
  | some error =>
      obtain ⟨name, value, least, held, fault⟩ := Schema.exists_isLeast_unfitNames ordered unfit
      exact .unfit least held fault
  | none =>
      cases missing : schema.firstMissing? values with
      | some name =>
          exact .missing (Schema.unfitNames_eq_empty unfit) (Schema.isLeast_missingNames missing)
      | none =>
          have conforms := (conforms_iff ordered).2 ⟨unfit, missing⟩
          have names : Entries.keys values = schema.fieldNames := conforms.names
          refine .made ⟨fun name => by rw [names], fun declared member => ?_⟩
          exact (conforms.admits declared ((Entries.find?_eq_some_iff ordered).2 member)).accepted

/-- The outcomes exclude each other, and each has one result. -/
theorem Assembly.unique (ordered : Entries.Ordered values)
    {first second : Except SchemaError Record} (isFirst : Assembly schema values first)
    (isSecond : Assembly schema values second) : first = second := by
  have notUnfit : ∀ {name}, schema.unfitNames values = ∅ →
      ¬ IsLeast (schema.unfitNames values) name := by
    intro name fits least
    exact Set.notMem_empty name (fits ▸ least.1)
  cases isFirst with
  | made filled =>
      cases isSecond with
      | made _ => rfl
      | unfit least _ _ => exact absurd least (notUnfit filled.unfitNames_eq_empty)
      | missing _ least => exact absurd ((filled.names _).2 least.1.1) least.1.2
  | unfit least held unfit =>
      cases isSecond with
      | made filled => exact absurd least (notUnfit filled.unfitNames_eq_empty)
      | unfit otherLeast otherHeld otherUnfit =>
          obtain rfl := least.unique otherLeast
          have found := (Entries.find?_eq_some_iff ordered).2 held
          have otherFound := (Entries.find?_eq_some_iff ordered).2 otherHeld
          obtain rfl := Option.some.inj (found.symm.trans otherFound)
          rw [unfit.unique otherUnfit]
      | missing fits _ => exact absurd least (notUnfit fits)
  | missing fits least =>
      cases isSecond with
      | made filled => exact absurd ((filled.names _).2 least.1.1) least.1.2
      | unfit otherLeast _ _ => exact absurd otherLeast (notUnfit fits)
      | missing _ otherLeast => rw [least.unique otherLeast]

/-- A kind accepts just what it can hold, at every place of an array. And making a record
from values has exactly the outcome that the schema and the values say. The record holds
just these if their names are the declared ones and every kind accepts its value. Else the
error is that of the least name whose value does not fit, and if all values fit, that of
the least declared name without a value. -/
theorem ofValues_eq_iff (schema : Schema) (ordered : Entries.Ordered values) :
    (∀ (kind : Kind) (value : Value), kind.accepts value = true ↔ kind.Holds value) ∧
      ∀ result, ofValues schema values = result ↔ Assembly schema values result := by
  refine ⟨fun _ _ => Kind.accepts_iff_holds, fun result => ?_⟩
  constructor
  · rintro rfl
    exact assembly_ofValues ordered
  · exact fun isResult => (assembly_ofValues ordered).unique ordered isResult

/-- A number, an array of numbers and a text. -/
def series : Schema where
  typeName := "Series"
  fields := [("count", .plain .int32), ("marks", .arrayOf .int32), ("tag", .varying .string)]
  named := by decide
  ordered := by decide
  available := by decide

theorem ofValues_eq_iff_series :
    let marks : Value := .array [.scalar (.int32 1), .null]
    let faulty : Entries String Value := [("marks", marks), ("zone", .null)]
    let short : Entries String Value := [("marks", .null)]
    let full : Entries String Value :=
      [("count", .scalar (.int32 2)), ("marks", .null), ("tag", .null)]
    (Entries.Ordered faulty ∧ Entries.Ordered short ∧ Entries.Ordered full) ∧
      ¬ (Kind.arrayOf .int32).Holds marks ∧
      ofValues series faulty =
        .error (.unfitValue marks.inspect "marks" (.arrayOf .int32)) ∧
      Assembly series short (.error (.missingField "count" series.text)) ∧
      Assembly series full (.ok ⟨series, full⟩) := by
  intro marks faulty short full
  have faultyOrdered : Entries.Ordered faulty := by decide
  have shortOrdered : Entries.Ordered short := by decide
  have fullOrdered : Entries.Ordered full := by decide
  obtain ⟨accepts_iff, outcome⟩ := ofValues_eq_iff series faultyOrdered
  have notHeld : ¬ (Kind.arrayOf .int32).Holds marks := by
    rw [← accepts_iff]
    decide
  have held : ("marks", marks) ∈ faulty := List.mem_cons_self
  have unfit : series.Unfit "marks" marks
      (.unfitValue marks.inspect "marks" (.arrayOf .int32)) := .refused rfl rfl
  -- The number and the text are missing and the zone is unknown, but the marks come first.
  have least : IsLeast (series.unfitNames faulty) "marks" := by
    refine ⟨⟨marks, _, held, unfit⟩, ?_⟩
    rintro name ⟨value, _, member, _⟩
    have above : ∀ entry ∈ faulty, "marks" ≤ entry.1 := by decide
    exact above (name, value) member
  exact ⟨⟨faultyOrdered, shortOrdered, fullOrdered⟩, notHeld,
    (outcome _).2 (.unfit least held unfit),
    ((ofValues_eq_iff series shortOrdered).2 _).1 rfl,
    ((ofValues_eq_iff series fullOrdered).2 _).1 rfl⟩

end Record

end CompactSchema
