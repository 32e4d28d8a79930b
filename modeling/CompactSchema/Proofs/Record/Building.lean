import CompactSchema.Proofs.Record.Chain
import CompactSchema.Proofs.Schema.Declaration
import Mathlib.Data.List.Find

/-!
Contract: what building a record comes to, exactly.

A chain that stops decides the outcome. After a chain that passes, a compact
builder fails just if its type name is empty, a builder for a schema just if a
field that can not be null was not set, and a builder that starts from a record
not at all. A record that is built has the schema and the values that the calls and
the origin say, so the outcome is a relation of the chain alone.

Owns: the outcomes of a chain followed by building, and that a run has just the
outcome that the relation gives it.

Does not own: where a chain stops, see `Proofs.Record.Chain`.
-/

set_option autoImplicit false

namespace CompactSchema

/-! ## Outcomes -/

namespace Origin

/-- The schema of the records that are built after a chain. -/
def Describes (chain : List Setting) : Origin → Schema → Prop
  | .compact typeName, schema => schema.typeName = typeName ∧
      ∀ field, field ∈ schema.fields ↔
        ∃ setting ∈ chain, (setting.name, setting.assignment.kind) = field
  | .bound given, schema => schema = given
  | .cloned source, schema => schema = source.schema

/-- What a field holds that was not set. -/
def default? (name : String) : Origin → Option Value
  | .compact _ => none
  | .bound _ => some .null
  | .cloned source => source.value? name

/-- The first field, in name order, that can not be null and was not set. -/
def unfilled? (chain : List Setting) : Origin → Option (String × Kind)
  | .bound schema => List.find?
      (fun field => decide (field.1 ∉ Setting.names chain) && !field.2.acceptsNull) schema.fields
  | _ => none

/-- The record that is built after a chain. -/
structure Makes (origin : Origin) (chain : List Setting) (record : Record) : Prop where
  describes : origin.Describes chain record.schema
  conforms : record.Conforms
  set : ∀ setting ∈ chain, record.value? setting.name = some setting.assignment.value
  unset : ∀ {name}, name ∈ record.schema.fieldNames → name ∉ Setting.names chain →
    record.value? name = origin.default? name

/-- What building comes to after a chain that passes. -/
inductive Builds (origin : Origin) (chain : List Setting) : Except SchemaError Record → Prop where
  | unnamed (compact : origin = .compact "") : Builds origin chain (.error .emptyTypeName)
  | missing {schema : Schema} {field : String × Kind} (bound : origin = .bound schema)
      (unfilled : origin.unfilled? chain = some field) :
      Builds origin chain (.error (.missingField field.1 schema.text))
  | made {record : Record} (named : origin ≠ .compact "")
      (filled : origin.unfilled? chain = none) (makes : origin.Makes chain record) :
      Builds origin chain (.ok record)

/-- What setting fields and building comes to. -/
inductive Outcome (origin : Origin) (chain : List Setting) : Except SchemaError Record → Prop where
  | stopped {before after : List Setting} {setting : Setting} {error : SchemaError}
      (split : chain = before ++ setting :: after) (passes : origin.Passes before)
      (stops : origin.Stops before setting error) : Outcome origin chain (.error error)
  | built {result : Except SchemaError Record} (passes : origin.Passes chain)
      (builds : origin.Builds chain result) : Outcome origin chain result

end Origin

/-! ## Declaring the schema of a compact record -/

namespace Schema

theorem declare_descriptorsOf {typeName : String} {kinds : Entries String Kind}
    (named : typeName ≠ "") (ordered : Entries.Ordered kinds)
    (available : ∀ field ∈ kinds, field.2 ≠ .notAvailable) :
    ∃ schema, declare typeName (Builder.descriptorsOf kinds) = .ok schema ∧
      schema.typeName = typeName ∧ schema.fields = kinds := by
  apply declare_of_ordered named _ ordered available
  rw [Builder.descriptorsOf, List.map_map]
  exact List.map_id kinds

end Schema

/-! ## Filling in null -/

namespace Builder

/-- A field without a value that can not be null. -/
def lacks (values : Entries String Value) (field : String × Kind) : Bool :=
  !Entries.has field.1 values && !field.2.acceptsNull

theorem find?_lacks_insert {name : String} {fields : Entries String Kind}
    (other : name ∉ Entries.keys fields) (value : Value) (values : Entries String Value) :
    List.find? (lacks (Entries.insert name value values)) fields =
      List.find? (lacks values) fields := by
  apply List.find?_congr
  intro field member
  have different : name ≠ field.1 := fun same => other (same ▸ Entries.mem_keys_of_mem member)
  rw [lacks, lacks, Entries.has, Entries.has, Entries.find?_insert, if_neg different]

theorem fillNulls_of_lacks {schema : Schema} {fields : Entries String Kind}
    {values : Entries String Value} {field : String × Kind}
    (distinct : (Entries.keys fields).Nodup)
    (found : List.find? (lacks values) fields = some field) :
    fillNulls schema fields values = .error (.missingField field.1 schema.text) := by
  induction fields generalizing values with
  | nil => cases found
  | cons head rest inductionHypothesis =>
      obtain ⟨name, kind⟩ := head
      obtain ⟨once, restDistinct⟩ := List.nodup_cons.1 distinct
      rw [List.find?_cons, lacks] at found
      rw [fillNulls]
      by_cases held : Entries.has name values = true
      · rw [if_pos held]
        exact inductionHypothesis restDistinct (by simpa [held] using found)
      · by_cases nullable : kind.acceptsNull = true
        · rw [if_neg held, if_pos nullable]
          apply inductionHypothesis restDistinct
          rw [find?_lacks_insert once]
          simpa [nullable] using found
        · obtain rfl : (name, kind) = field := by simpa [held, nullable] using found
          rw [if_neg held, if_neg nullable]

theorem fillNulls_of_complete (schema : Schema) {fields : Entries String Kind}
    {values : Entries String Value} (distinct : (Entries.keys fields).Nodup)
    (ordered : Entries.Ordered values) (complete : List.find? (lacks values) fields = none) :
    ∃ filled, fillNulls schema fields values = .ok filled ∧ Entries.Ordered filled ∧
      ∀ name, Entries.find? name filled = (Entries.find? name values).or
        (if name ∈ Entries.keys fields then some .null else none) := by
  induction fields generalizing values with
  | nil => exact ⟨values, rfl, ordered, fun name => by simp [Entries.keys]⟩
  | cons head rest inductionHypothesis =>
      obtain ⟨name, kind⟩ := head
      obtain ⟨once, restDistinct⟩ := List.nodup_cons.1 distinct
      have listed : ∀ {other}, other ∈ Entries.keys ((name, kind) :: rest) ↔
          other = name ∨ other ∈ Entries.keys rest := List.mem_cons
      rw [List.find?_cons, lacks] at complete
      rw [fillNulls]
      by_cases held : Entries.has name values = true
      · rw [if_pos held]
        obtain ⟨filled, succeeded, filledOrdered, lookup⟩ :=
          inductionHypothesis restDistinct ordered (by simpa [held] using complete)
        refine ⟨filled, succeeded, filledOrdered, fun other => ?_⟩
        rw [lookup]
        by_cases same : other = name
        · obtain ⟨value, found⟩ := Option.isSome_iff_exists.1 held
          simp [same, found]
        · simp only [listed, same, false_or]
      · by_cases nullable : kind.acceptsNull = true
        · rw [if_neg held, if_pos nullable]
          obtain ⟨filled, succeeded, filledOrdered, lookup⟩ :=
            inductionHypothesis restDistinct (Entries.ordered_insert name .null ordered) (by
              rw [find?_lacks_insert once]
              simpa [nullable] using complete)
          refine ⟨filled, succeeded, filledOrdered, fun other => ?_⟩
          rw [lookup, Entries.find?_insert]
          by_cases same : other = name
          · have missing : Entries.find? name values = none := by simpa [Entries.has] using held
            simp [listed, same, missing]
          · simp only [listed, same, Ne.symm same, false_or, if_false]
        · simp [held, nullable] at complete

end Builder

namespace Origin

variable {origin : Origin} {chain : List Setting} {builder : Builder} {kinds : Entries String Kind}

/-! ## Building -/

/-- Values make a record if the schema declares what was set and all other fields
have an admissible default. -/
theorem ofValues_of_lookup {schema : Schema} {values : Entries String Value}
    (describes : origin.Describes chain schema) (ordered : Entries.Ordered values)
    (declares : ∀ setting ∈ chain, schema.kind? setting.name = some setting.assignment.kind)
    (set : ∀ setting ∈ chain, Entries.find? setting.name values = some setting.assignment.value)
    (unset : ∀ {name kind}, name ∉ Setting.names chain → schema.kind? name = some kind →
      ∃ value, origin.default? name = some value ∧ Entries.find? name values = some value ∧
        kind.accepts value = true)
    (undeclared : ∀ {name}, name ∉ Setting.names chain → schema.kind? name = none →
      Entries.find? name values = none) :
    Record.ofValues schema values = .ok ⟨schema, values⟩ ∧ origin.Makes chain ⟨schema, values⟩ := by
  have conforms : (⟨schema, values⟩ : Record).Conforms := by
    apply Record.conforms_of_lookup ordered
    · intro name kind isKind
      by_cases named : name ∈ Setting.names chain
      · obtain ⟨setting, member, rfl⟩ := List.mem_map.1 named
        obtain rfl := Option.some.inj (isKind.symm.trans (declares setting member))
        exact ⟨_, set setting member, setting.assignment.accepts_value⟩
      · obtain ⟨value, _, found, accepted⟩ := unset named isKind
        exact ⟨value, found, accepted⟩
    · intro name isNone
      by_cases named : name ∈ Setting.names chain
      · obtain ⟨setting, member, rfl⟩ := List.mem_map.1 named
        cases isNone.symm.trans (declares setting member)
      · exact undeclared named isNone
  refine ⟨(Record.ofValues_ok_iff ordered).2 ⟨rfl, conforms⟩, describes, conforms, set, ?_⟩
  intro name declared named
  obtain ⟨kind, isKind⟩ := Schema.exists_kind?_iff.2 declared
  obtain ⟨value, isDefault, found, _⟩ := unset named isKind
  exact found.trans isDefault.symm

theorem builds_compact {typeName : String}
    (tracks : (Origin.compact typeName).Tracks chain builder kinds) :
    (Origin.compact typeName).Builds chain builder.build := by
  have kindsOrdered := tracks.kinds.ordered
  rw [Builder.build, tracks.mode]
  by_cases named : typeName = ""
  · subst named
    exact .unnamed rfl
  · have available : ∀ field ∈ kinds, field.2 ≠ .notAvailable := by
      rintro ⟨name, kind⟩ member
      have found := (Entries.find?_eq_some_iff kindsOrdered).2 member
      obtain ⟨setting, _, _, rfl⟩ := tracks.kinds.find?_eq_some_iff.1 found
      exact setting.assignment.kind_ne_notAvailable
    obtain ⟨schema, declared, sameName, rfl⟩ :=
      Schema.declare_descriptorsOf named kindsOrdered available
    have describes : (Origin.compact typeName).Describes chain schema := by
      refine ⟨sameName, ?_⟩
      rintro ⟨name, kind⟩
      rw [← Entries.find?_eq_some_iff kindsOrdered, tracks.kinds.find?_eq_some_iff]
      simp only [Prod.mk.injEq]
    obtain ⟨made, makes⟩ := ofValues_of_lookup describes tracks.values.ordered tracks.kinds.set
      tracks.values.set
      (fun unset isKind => by cases (tracks.kinds.unset unset).symm.trans isKind)
      (fun unset _ => tracks.values.unset unset)
    show (Origin.compact typeName).Builds chain
      (Schema.declare typeName (Builder.descriptorsOf schema.fields) >>=
        (Record.ofValues · builder.values))
    rw [declared]
    show (Origin.compact typeName).Builds chain (Record.ofValues schema builder.values)
    rw [made]
    exact .made (fun same => named (Origin.compact.inj same)) rfl makes

theorem unfilled?_bound {schema : Schema}
    (tracks : (Origin.bound schema).Tracks chain builder kinds) :
    (Origin.bound schema).unfilled? chain =
      List.find? (Builder.lacks builder.values) schema.fields := by
  apply List.find?_congr
  rintro ⟨name, kind⟩ _
  have held : Entries.has name builder.values = decide (name ∈ Setting.names chain) := by
    by_cases named : name ∈ Setting.names chain
    · obtain ⟨setting, member, rfl⟩ := List.mem_map.1 named
      rw [Entries.has, tracks.values.set setting member, decide_eq_true named]
      rfl
    · rw [Entries.has, tracks.values.unset named, decide_eq_false named]
      rfl
  simp [Builder.lacks, held]

theorem builds_bound {schema : Schema} (passes : (Origin.bound schema).Passes chain)
    (tracks : (Origin.bound schema).Tracks chain builder kinds) :
    (Origin.bound schema).Builds chain builder.build := by
  have distinct : (Entries.keys schema.fields).Nodup := Entries.nodup_keys schema.ordered
  have sameLack := unfilled?_bound tracks
  rw [Builder.build, tracks.mode]
  show (Origin.bound schema).Builds chain
    (Builder.fillNulls schema schema.fields builder.values >>= Record.ofValues schema)
  cases unfilled : (Origin.bound schema).unfilled? chain with
  | some field =>
      rw [Builder.fillNulls_of_lacks distinct (sameLack.symm.trans unfilled)]
      exact .missing rfl unfilled
  | none =>
      -- What was set keeps its value, since null is put only where there is none.
      obtain ⟨filled, succeeded, filledOrdered, lookup⟩ := Builder.fillNulls_of_complete
        schema distinct tracks.values.ordered (sameLack.symm.trans unfilled)
      have set : ∀ setting ∈ chain,
          Entries.find? setting.name filled = some setting.assignment.value := by
        intro setting member
        rw [lookup, tracks.values.set setting member]
        rfl
      have describes : (Origin.bound schema).Describes chain schema := rfl
      obtain ⟨made, makes⟩ := ofValues_of_lookup describes filledOrdered
        (fun _ member => passes.kind? rfl member) set
        (fun {name kind} unset isKind => by
          have complete := List.find?_eq_none.1 unfilled (name, kind)
            (Schema.kind?_eq_some_iff.1 isKind)
          have nullable : kind.acceptsNull = true := by simpa [unset] using complete
          refine ⟨.null, rfl, ?_, ?_⟩
          · rw [lookup, tracks.values.unset unset]
            exact if_pos (Schema.exists_kind?_iff.1 ⟨kind, isKind⟩)
          · rw [Kind.accepts_null, nullable])
        (fun {name} unset isNone => by
          rw [lookup, tracks.values.unset unset]
          exact if_neg (Schema.kind?_eq_none_iff.1 isNone))
      rw [succeeded]
      show (Origin.bound schema).Builds chain (Record.ofValues schema filled)
      rw [made]
      exact .made Origin.noConfusion unfilled makes

theorem builds_cloned {source : Record} (conforms : source.Conforms)
    (passes : (Origin.cloned source).Passes chain)
    (tracks : (Origin.cloned source).Tracks chain builder kinds) :
    (Origin.cloned source).Builds chain builder.build := by
  rw [Builder.build, tracks.mode]
  have describes : (Origin.cloned source).Describes chain source.schema := rfl
  obtain ⟨made, makes⟩ := ofValues_of_lookup describes tracks.values.ordered
    (fun _ member => passes.kind? rfl member) tracks.values.set
    (fun {name kind} unset isKind => by
      obtain ⟨value, held, accepted⟩ := conforms.exists_held isKind
      exact ⟨value, held, (tracks.values.unset unset).trans held, accepted⟩)
    (fun {name} unset isNone => (tracks.values.unset unset).trans
      (Record.value?_of_undeclared conforms.names (Schema.kind?_eq_none_iff.1 isNone)))
  show (Origin.cloned source).Builds chain (Record.ofValues source.schema builder.values)
  rw [made]
  exact .made Origin.noConfusion rfl makes

/-! ## The outcome of a run -/

theorem Makes.unique {first second : Record} (makesFirst : origin.Makes chain first)
    (makesSecond : origin.Makes chain second) : first = second := by
  have sameSchema : first.schema = second.schema := by
    have firstDescribes := makesFirst.describes
    have secondDescribes := makesSecond.describes
    cases origin with
    | compact typeName =>
        apply Schema.eq_of_fields (firstDescribes.1.trans secondDescribes.1.symm)
        apply Entries.eq_of_ascending Prod.fst (List.pairwise_map.1 first.schema.ordered)
          (List.pairwise_map.1 second.schema.ordered)
        intro field
        rw [firstDescribes.2, secondDescribes.2]
    | bound given => exact Eq.trans firstDescribes (Eq.symm secondDescribes)
    | cloned source => exact Eq.trans firstDescribes (Eq.symm secondDescribes)
  obtain ⟨schema, values⟩ := first
  obtain ⟨_, otherValues⟩ := second
  cases sameSchema
  congr 1
  apply Entries.eq_of_find?_eq (Record.ordered_of_names makesFirst.conforms.names)
    (Record.ordered_of_names makesSecond.conforms.names)
  intro name
  by_cases named : name ∈ Setting.names chain
  · obtain ⟨setting, member, rfl⟩ := List.mem_map.1 named
    exact (makesFirst.set setting member).trans (makesSecond.set setting member).symm
  · by_cases declared : name ∈ schema.fieldNames
    · exact (makesFirst.unset declared named).trans (makesSecond.unset declared named).symm
    · exact (Record.value?_of_undeclared makesFirst.conforms.names declared).trans
        (Record.value?_of_undeclared makesSecond.conforms.names declared).symm

theorem Builds.unique {first second : Except SchemaError Record}
    (buildsFirst : origin.Builds chain first) (buildsSecond : origin.Builds chain second) :
    first = second := by
  cases buildsFirst with
  | unnamed compact =>
      cases buildsSecond with
      | unnamed _ => rfl
      | missing bound _ => cases compact.symm.trans bound
      | made named _ _ => exact absurd compact named
  | missing bound unfilled =>
      cases buildsSecond with
      | unnamed compact => cases compact.symm.trans bound
      | missing otherBound otherUnfilled =>
          obtain rfl := Origin.bound.inj (bound.symm.trans otherBound)
          obtain rfl := Option.some.inj (unfilled.symm.trans otherUnfilled)
          rfl
      | made _ filled _ => cases filled.symm.trans unfilled
  | made named filled makes =>
      cases buildsSecond with
      | unnamed compact => exact absurd compact named
      | missing _ unfilled => cases filled.symm.trans unfilled
      | made _ _ otherMakes => rw [makes.unique otherMakes]

theorem run_builds (sound : origin.Sound) (passes : origin.Passes chain) :
    origin.Builds chain (origin.run chain) := by
  obtain ⟨last, kinds, built, tracks⟩ := run_of_passes sound passes
  rw [built]
  cases origin with
  | compact typeName => exact builds_compact tracks
  | bound schema => exact builds_bound passes tracks
  | cloned source => exact builds_cloned (sound source rfl) passes tracks

theorem passes_of_run (sound : origin.Sound) {record : Record}
    (made : origin.run chain = .ok record) : origin.Passes chain := by
  rcases passes_or_stops origin chain with
    passes | ⟨before, setting, after, error, rfl, passes, stops⟩
  · exact passes
  · cases made.symm.trans (run_of_stops sound passes stops after)

/-- A run that succeeds has made the record that the chain and the origin say. -/
theorem makes_of_run (sound : origin.Sound) {record : Record}
    (made : origin.run chain = .ok record) : origin.Makes chain record := by
  have builds := run_builds sound (passes_of_run sound made)
  rw [made] at builds
  cases builds with
  | made _ _ makes => exact makes

/-- Setting fields and building has exactly the outcome that the calls and the origin say:
the error of the first call at fault, or the error of building, or the one record
that holds what was set and the defaults of the origin. -/
theorem run_eq_iff (sound : origin.Sound) {result : Except SchemaError Record} :
    origin.run chain = result ↔ origin.Outcome chain result := by
  constructor
  · rintro rfl
    rcases passes_or_stops origin chain with
      passes | ⟨before, setting, after, error, split, passes, stops⟩
    · exact .built passes (run_builds sound passes)
    · rw [split, run_of_stops sound passes stops]
      exact .stopped rfl passes stops
  · intro outcome
    cases outcome with
    | stopped split passes stops => rw [split, run_of_stops sound passes stops]
    | built passes builds => exact (run_builds sound passes).unique builds

theorem run_eq_iff_point :
    let source := Record.point 3 4 (.scalar (.string "home"))
    let moved : List Setting := [⟨"x", .plain .int32 5⟩]
    source.Conforms ∧
      (Origin.cloned source).Outcome moved (.ok (Record.point 5 4 (.scalar (.string "home")))) ∧
      (Origin.cloned source).Outcome (moved ++ moved) (.error (.setTwice "x")) ∧
      (Origin.bound source.schema).Outcome moved
        (.error (.missingField "y" source.schema.text)) := by
  intro source moved
  have ordered : Entries.Ordered source.values := by decide
  have made : Record.ofValues source.schema source.values = .ok source := rfl
  have conforms : source.Conforms := ((Record.ofValues_ok_iff ordered).1 made).2
  have sound : (Origin.cloned source).Sound := by
    rintro _ ⟨⟩
    exact conforms
  have boundSound : (Origin.bound source.schema).Sound := by
    rintro _ ⟨⟩
  exact ⟨conforms, (run_eq_iff sound).1 rfl, (run_eq_iff sound).1 rfl,
    (run_eq_iff boundSound).1 rfl⟩

end Origin

end CompactSchema
