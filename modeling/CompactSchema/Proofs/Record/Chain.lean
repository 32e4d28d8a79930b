import CompactSchema.Proofs.Record.Conformance
import Mathlib.Data.List.Induction

/-!
Contract: what a chain of setters makes of a builder.

A chain stops at the first call that is at fault: the field was set before, the
schema does not declare it, or it declares it with another kind, looked for in
this order. Until then the builder keeps step with the chain. Every field that was
set has its value and its kind, every other one what the builder started with.

Owns: chains of setters, what they start from, where they stop, and the state of
the builder after a chain that passes.

Does not own: what the builder then builds, see `Proofs.Record.Building`.
-/

set_option autoImplicit false

namespace CompactSchema

/-! ## Chains -/

/-- The call of a setter. -/
structure Setting where
  name : String
  assignment : Assignment

def Setting.names (chain : List Setting) : List String := chain.map Setting.name

/-- Call setters one after another, up to the first that fails. -/
def Builder.setAll : List Setting → Builder → Except SchemaError Builder
  | [], builder => .ok builder
  | setting :: rest, builder => do
    let next ← builder.set setting.name setting.assignment
    setAll rest next

/-- What a builder starts from. -/
inductive Origin where
  | compact (typeName : String)
  | bound (schema : Schema)
  | cloned (source : Record)

namespace Origin

def builder : Origin → Builder
  | .compact typeName => .compact typeName
  | .bound schema => .bound schema
  | .cloned source => .ofRecord source

def run (origin : Origin) (chain : List Setting) : Except SchemaError Record := do
  let builder ← origin.builder.setAll chain
  builder.build

def schema? : Origin → Option Schema
  | .compact _ => none
  | .bound schema => some schema
  | .cloned source => some source.schema

def values : Origin → Entries String Value
  | .cloned source => source.values
  | _ => []

/-- The mode of a builder that has seen fields of some kinds. -/
def mode (kinds : Entries String Kind) : Origin → BuilderMode
  | .compact typeName => .compact typeName kinds
  | .bound schema => .bound schema
  | .cloned source => .cloned source.schema

/-- A record that is built from conforms to its schema. -/
def Sound (origin : Origin) : Prop := ∀ source, origin = .cloned source → source.Conforms

/-! ## Where a chain stops -/

/-- A call fails after other calls that did not. -/
inductive Stops (origin : Origin) (before : List Setting) (setting : Setting) :
    SchemaError → Prop where
  | twice (again : setting.name ∈ Setting.names before) :
      Stops origin before setting (.setTwice setting.name)
  | unknown {schema : Schema} (fresh : setting.name ∉ Setting.names before)
      (given : origin.schema? = some schema) (undeclared : schema.kind? setting.name = none) :
      Stops origin before setting (.fieldNotFound setting.name schema.text)
  | mismatched {schema : Schema} {declared : Kind} (fresh : setting.name ∉ Setting.names before)
      (given : origin.schema? = some schema) (isDeclared : schema.kind? setting.name = some declared)
      (different : declared ≠ setting.assignment.kind) :
      Stops origin before setting
        (.kindMismatch setting.name schema.text [setting.assignment.kind] declared)

/-- No call of a chain fails. -/
def Passes (origin : Origin) (chain : List Setting) : Prop :=
  ∀ before setting after, chain = before ++ setting :: after →
    ∀ error, ¬ origin.Stops before setting error

variable {origin : Origin} {before chain : List Setting} {setting : Setting}

theorem passes_nil : origin.Passes [] := by
  intro before setting after split
  cases before <;> cases split

theorem Passes.concat (passes : origin.Passes before)
    (clear : ∀ error, ¬ origin.Stops before setting error) :
    origin.Passes (before ++ [setting]) := by
  intro first other after split
  -- The call in question is the new one or lies in the chain that passes.
  rcases List.eq_nil_or_concat after with rfl | ⟨between, last, rfl⟩
  · obtain ⟨rfl, same⟩ := List.append_inj' split rfl
    obtain rfl := (List.cons.inj same).1
    exact clear
  · apply passes first other between
    rw [List.concat_eq_append, ← List.cons_append, ← List.append_assoc] at split
    exact (List.append_inj' split rfl).1

theorem Passes.of_append {after : List Setting} (passes : origin.Passes (before ++ after)) :
    origin.Passes before := by
  rintro first other between rfl
  exact passes first other (between ++ after) (by simp)

/-- A chain passes, or there is a first call that fails. -/
theorem passes_or_stops (origin : Origin) (chain : List Setting) :
    origin.Passes chain ∨ ∃ before setting after error, chain = before ++ setting :: after ∧
      origin.Passes before ∧ origin.Stops before setting error := by
  induction chain using List.reverseRecOn with
  | nil => exact .inl passes_nil
  | append_singleton before setting inductionHypothesis =>
      rcases inductionHypothesis with passes | ⟨first, other, after, error, rfl, passes, stops⟩
      · by_cases stuck : ∃ error, origin.Stops before setting error
        · obtain ⟨error, stops⟩ := stuck
          exact .inr ⟨before, setting, [], error, rfl, passes, stops⟩
        · exact .inl (passes.concat (not_exists.1 stuck))
      · exact .inr ⟨first, other, after ++ [setting], error, by simp, passes, stops⟩

theorem Passes.kind? (passes : origin.Passes chain) {schema : Schema}
    (given : origin.schema? = some schema) (member : setting ∈ chain) :
    schema.kind? setting.name = some setting.assignment.kind := by
  obtain ⟨before, after, split⟩ := List.append_of_mem member
  have clear := passes before setting after split
  by_cases again : setting.name ∈ Setting.names before
  · exact absurd (.twice again) (clear _)
  · cases declared : schema.kind? setting.name with
    | none => exact absurd (.unknown again given declared) (clear _)
    | some kind =>
        by_cases same : kind = setting.assignment.kind
        · rw [same]
        · exact absurd (.mismatched again given declared same) (clear _)

end Origin

/-! ## Keeping step -/

theorem Setting.mem_names {setting : Setting} {chain : List Setting} (member : setting ∈ chain) :
    setting.name ∈ names chain :=
  List.mem_map_of_mem member

/-- A dictionary has an entry for every call of a chain, and otherwise what it had
at the start. -/
structure Setting.Recorded {α : Type} (chain : List Setting) (image : Setting → α)
    (start entries : Entries String α) : Prop where
  ordered : Entries.Ordered entries
  set : ∀ setting ∈ chain, Entries.find? setting.name entries = some (image setting)
  unset : ∀ {name}, name ∉ names chain → Entries.find? name entries = Entries.find? name start

theorem Setting.Recorded.insert {α : Type} {chain : List Setting} {image : Setting → α}
    {start entries : Entries String α} (recorded : Recorded chain image start entries)
    {setting : Setting} (fresh : setting.name ∉ names chain) :
    Recorded (chain ++ [setting]) image start
      (Entries.insert setting.name (image setting) entries) where
  ordered := Entries.ordered_insert _ _ recorded.ordered
  set := by
    intro other member
    rw [Entries.find?_insert]
    rcases List.mem_append.1 member with earlier | last
    · rw [if_neg]
      · exact recorded.set other earlier
      · intro same
        exact fresh (same ▸ mem_names earlier)
    · obtain rfl := List.mem_singleton.1 last
      rw [if_pos rfl]
  unset := by
    intro name absent
    rw [names, List.map_append, List.mem_append, not_or] at absent
    rw [Entries.find?_insert, if_neg]
    · exact recorded.unset absent.1
    · intro same
      exact absent.2 (same ▸ List.mem_cons_self)

theorem Setting.Recorded.find?_eq_some_iff {α : Type} {chain : List Setting}
    {image : Setting → α} {entries : Entries String α}
    (recorded : Recorded chain image [] entries) {name : String} {item : α} :
    Entries.find? name entries = some item ↔
      ∃ setting ∈ chain, setting.name = name ∧ image setting = item := by
  constructor
  · intro found
    by_cases named : name ∈ names chain
    · obtain ⟨setting, member, rfl⟩ := List.mem_map.1 named
      exact ⟨setting, member, rfl, Option.some.inj ((recorded.set setting member).symm.trans found)⟩
    · cases (recorded.unset named).symm.trans found
  · rintro ⟨setting, member, rfl, rfl⟩
    exact recorded.set setting member

namespace Origin

variable {origin : Origin} {before chain : List Setting} {setting : Setting}
  {builder : Builder}

/-- The builder after the calls of a chain. The kinds are those that a compact
builder keeps; in the other modes they are only in the proof. -/
structure Tracks (origin : Origin) (chain : List Setting) (builder : Builder)
    (kinds : Entries String Kind) : Prop where
  mode : builder.mode = origin.mode kinds
  written : ∀ {name}, name ∈ builder.written ↔ name ∈ Setting.names chain
  values : Setting.Recorded chain (·.assignment.value) origin.values builder.values
  kinds : Setting.Recorded chain (·.assignment.kind) [] kinds

theorem tracks_nil (sound : origin.Sound) : origin.Tracks [] origin.builder [] where
  mode := by cases origin <;> rfl
  written := by
    intro name
    cases origin <;> simp [builder, Builder.compact, Builder.bound, Builder.ofRecord, Setting.names]
  values := by
    have same : origin.builder.values = origin.values := by cases origin <;> rfl
    refine ⟨?_, fun _ member => absurd member List.not_mem_nil, fun _ => by rw [same]⟩
    cases origin with
    | cloned source => exact Record.ordered_of_names (sound source rfl).names
    | _ => exact Entries.ordered_nil
  kinds := ⟨Entries.ordered_nil, fun _ member => absurd member List.not_mem_nil, fun _ => rfl⟩

theorem receive_mode (origin : Origin) (kinds : Entries String Kind) (name : String)
    (kind : Kind) :
    Builder.receive (origin.mode kinds) name kind =
      match origin.schema?.bind fun schema => Builder.mismatch? schema name kind with
      | some fault => .error fault
      | none => .ok (origin.mode (Entries.insert name kind kinds)) := by
  cases origin with
  | compact _ => rfl
  | bound _ => rfl
  | cloned _ => rfl

theorem set_of_stops {kinds : Entries String Kind} {error : SchemaError}
    (tracks : origin.Tracks before builder kinds) (stops : origin.Stops before setting error) :
    builder.set setting.name setting.assignment = .error error := by
  rw [Builder.set]
  cases stops with
  | twice again => rw [if_pos (tracks.written.2 again)]
  | unknown fresh given undeclared =>
      rw [if_neg (mt tracks.written.1 fresh), tracks.mode, receive_mode, given, Option.bind_some,
        Builder.mismatch?, undeclared]
      rfl
  | mismatched fresh given isDeclared different =>
      rw [if_neg (mt tracks.written.1 fresh), tracks.mode, receive_mode, given, Option.bind_some,
        Builder.mismatch?, isDeclared]
      dsimp only
      rw [if_neg different]
      rfl

theorem set_of_clear {kinds : Entries String Kind} (tracks : origin.Tracks before builder kinds)
    (passes : origin.Passes (before ++ [setting])) :
    ∃ next, builder.set setting.name setting.assignment = .ok next ∧
      origin.Tracks (before ++ [setting]) next
        (Entries.insert setting.name setting.assignment.kind kinds) := by
  have fresh : setting.name ∉ Setting.names before := fun again =>
    passes before setting [] rfl _ (.twice again)
  have matched : (origin.schema?.bind fun schema =>
      Builder.mismatch? schema setting.name setting.assignment.kind) = none := by
    cases given : origin.schema? with
    | none => rfl
    | some schema =>
        have declared := passes.kind? given (List.mem_append_right before List.mem_cons_self)
        rw [Option.bind_some, Builder.mismatch?, declared]
        exact if_pos rfl
  refine ⟨⟨origin.mode (Entries.insert setting.name setting.assignment.kind kinds),
    Entries.insert setting.name setting.assignment.value builder.values,
    setting.name :: builder.written⟩, ?_, ?_⟩
  · rw [Builder.set, if_neg (mt tracks.written.1 fresh), tracks.mode, receive_mode, matched]
    rfl
  · refine ⟨rfl, ?_, tracks.values.insert fresh, tracks.kinds.insert fresh⟩
    intro name
    rw [List.mem_cons, tracks.written, Setting.names, Setting.names, List.map_append,
      List.mem_append, List.map_singleton, List.mem_singleton, or_comm]

theorem setAll_of_passes {kinds : Entries String Kind} (tracks : origin.Tracks before builder kinds)
    (passes : origin.Passes (before ++ chain)) :
    ∃ last kinds, builder.setAll chain = .ok last ∧ origin.Tracks (before ++ chain) last kinds := by
  induction chain generalizing before builder kinds with
  | nil =>
      rw [List.append_nil]
      exact ⟨builder, kinds, rfl, tracks⟩
  | cons setting rest inductionHypothesis =>
      rw [List.append_cons] at passes ⊢
      obtain ⟨next, called, tracksNext⟩ := set_of_clear tracks passes.of_append
      obtain ⟨last, kinds, finished, tracksLast⟩ := inductionHypothesis tracksNext passes
      refine ⟨last, kinds, ?_, tracksLast⟩
      rw [Builder.setAll, called]
      exact finished

theorem setAll_append (before after : List Setting) (builder : Builder) :
    builder.setAll (before ++ after) = builder.setAll before >>= Builder.setAll after := by
  induction before generalizing builder with
  | nil => rfl
  | cons setting rest inductionHypothesis =>
      rw [List.cons_append, Builder.setAll, Builder.setAll, bind_assoc]
      simp only [inductionHypothesis]

theorem run_of_passes (sound : origin.Sound) (passes : origin.Passes chain) :
    ∃ last kinds, origin.run chain = last.build ∧ origin.Tracks chain last kinds := by
  obtain ⟨last, kinds, finished, tracks⟩ :=
    setAll_of_passes (tracks_nil sound) passes
  refine ⟨last, kinds, ?_, tracks⟩
  rw [run, finished]
  rfl

theorem run_of_stops (sound : origin.Sound) (passes : origin.Passes before) {error : SchemaError}
    (stops : origin.Stops before setting error) (after : List Setting) :
    origin.run (before ++ setting :: after) = .error error := by
  obtain ⟨last, kinds, finished, tracks⟩ :=
    setAll_of_passes (tracks_nil sound) passes
  rw [run, setAll_append, finished]
  show (do
    let next ← last.set setting.name setting.assignment
    Builder.setAll after next) >>= Builder.build = _
  rw [set_of_stops tracks stops]
  rfl

end Origin

end CompactSchema
