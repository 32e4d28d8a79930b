import CompactSchema.Proofs.Entries
import CompactSchema.Registry

/-!
Contract: what a registry keeps while schemas are registered.

A registry only ever changes by taking in a schema whose id is free.
`Registry.GrowsBy` is the closure of that one step. Everything that holds of a
registry over time is read off it: entries stay under their own ids, an entry is
never replaced, and an id that no offered schema has is left alone.

Owns: lookup in a registry and the listing of its schemas, and the growth of a registry
with its laws.

Does not own: which calls make a registry grow, see `Proofs.Service`.
-/

set_option autoImplicit false

namespace CompactSchema

namespace Registry

/-! ## Lookup -/

theorem id_of_find? {registry : Registry} {schemaId : Int64} {schema : Schema}
    (held : registry.find? schemaId = some schema) : schema.id = schemaId :=
  registry.keyed (schemaId, schema) (Entries.mem_of_find?_eq_some held)

theorem eq_of_entries {first second : Registry} (same : first.entries = second.entries) :
    first = second := by
  cases first
  cases second
  cases same
  rfl

/-- A registry is known by what it answers under each id. -/
theorem eq_of_find?_eq {first second : Registry}
    (same : ∀ schemaId, first.find? schemaId = second.find? schemaId) : first = second :=
  eq_of_entries (Entries.eq_of_find?_eq first.ordered second.ordered same)

theorem find?_insert (registry : Registry) (schema : Schema) (schemaId : Int64) :
    (registry.insert schema).find? schemaId =
      if schema.id = schemaId then some schema else registry.find? schemaId :=
  Entries.find?_insert schema.id schemaId schema registry.entries

theorem find?_insert_self (registry : Registry) (schema : Schema) :
    (registry.insert schema).find? schema.id = some schema := by
  rw [find?_insert, if_pos rfl]

/-! ## Listing -/

/-- The first schema of a list that has an id. -/
def listed? (schemaId : Int64) (schemas : List Schema) : Option Schema :=
  schemas.find? fun schema => decide (schema.id = schemaId)

theorem listed?_cons (schemaId : Int64) (schema : Schema) (schemas : List Schema) :
    listed? schemaId (schema :: schemas) =
      if schema.id = schemaId then some schema else listed? schemaId schemas := by
  by_cases same : schema.id = schemaId <;> simp [listed?, same]

theorem listed?_append (schemaId : Int64) (first second : List Schema) :
    listed? schemaId (first ++ second) = (listed? schemaId first).or (listed? schemaId second) :=
  List.find?_append

theorem listed?_eq_none_iff {schemaId : Int64} {schemas : List Schema} :
    listed? schemaId schemas = none ↔ ∀ schema ∈ schemas, schema.id ≠ schemaId := by
  simp [listed?]

theorem listed?_eq_some {schemaId : Int64} {schemas : List Schema} {schema : Schema}
    (found : listed? schemaId schemas = some schema) :
    schema ∈ schemas ∧ schema.id = schemaId := by
  rw [listed?] at found
  have hit := List.find?_some found
  exact ⟨List.mem_of_find?_eq_some found, of_decide_eq_true hit⟩

variable {registry : Registry}

theorem mem_schemas_iff {schema : Schema} :
    schema ∈ registry.schemas ↔ registry.find? schema.id = some schema := by
  rw [schemas, List.mem_map]
  constructor
  · rintro ⟨⟨schemaId, _⟩, member, rfl⟩
    have keyed := registry.keyed _ member
    rw [keyed]
    exact (Entries.find?_eq_some_iff registry.ordered).2 member
  · intro found
    exact ⟨_, (Entries.find?_eq_some_iff registry.ordered).1 found, rfl⟩

theorem eq_of_mem_schemas {first second : Schema}
    (firstListed : first ∈ registry.schemas) (secondListed : second ∈ registry.schemas)
    (same : first.id = second.id) : first = second := by
  rw [mem_schemas_iff] at firstListed secondListed
  rw [same, secondListed] at firstListed
  exact Option.some.inj firstListed.symm

/-- The schemas are listed in ascending order of their ids. -/
theorem ascends (registry : Registry) :
    registry.schemas.Pairwise fun first second => first.id < second.id := by
  rw [schemas, List.pairwise_map]
  apply (List.pairwise_map.1 registry.ordered).imp_of_mem
  intro first second firstMember secondMember below
  rw [registry.keyed first firstMember, registry.keyed second secondMember]
  exact Std.compare_eq_lt.1 below

theorem listed?_schemas (registry : Registry) (schemaId : Int64) :
    listed? schemaId registry.schemas = registry.find? schemaId := by
  cases found : listed? schemaId registry.schemas with
  | some schema =>
      obtain ⟨member, rfl⟩ := listed?_eq_some found
      exact (mem_schemas_iff.1 member).symm
  | none =>
      cases held : registry.find? schemaId with
      | none => rfl
      | some schema =>
          obtain rfl := id_of_find? held
          exact absurd rfl (listed?_eq_none_iff.1 found schema (mem_schemas_iff.2 held))

/-! ## Growth -/

/-- `GrowsBy offered earlier later`: the later registry comes from the earlier one
by taking in some offered schemas, each while its id was free. -/
inductive GrowsBy (offered : Schema → Prop) (earlier : Registry) : Registry → Prop where
  | refl : GrowsBy offered earlier earlier
  | insert {registry : Registry} {schema : Schema} (grows : GrowsBy offered earlier registry)
      (free : registry.find? schema.id = none) (allowed : offered schema) :
      GrowsBy offered earlier (registry.insert schema)

namespace GrowsBy

variable {offered : Schema → Prop} {earlier later : Registry}

theorem trans {latest : Registry} (first : earlier.GrowsBy offered later)
    (second : later.GrowsBy offered latest) : earlier.GrowsBy offered latest := by
  induction second with
  | refl => exact first
  | insert _ free allowed inductionHypothesis => exact .insert inductionHypothesis free allowed

theorem mono {more : Schema → Prop} (weaker : ∀ schema, offered schema → more schema)
    (grows : earlier.GrowsBy offered later) : earlier.GrowsBy more later := by
  induction grows with
  | refl => exact .refl
  | insert _ free allowed inductionHypothesis =>
      exact .insert inductionHypothesis free (weaker _ allowed)

/-- The first registration wins. -/
theorem keeps (grows : earlier.GrowsBy offered later) {schemaId : Int64} {schema : Schema}
    (held : earlier.find? schemaId = some schema) : later.find? schemaId = some schema := by
  induction grows with
  | refl => exact held
  | @insert registry added _ free _ inductionHypothesis =>
      have different : added.id ≠ schemaId := by
        intro same
        rw [same, inductionHypothesis] at free
        cases free
      rw [find?_insert, if_neg different]
      exact inductionHypothesis

/-- A registered schema was there before or is one of the offered ones. -/
theorem origin (grows : earlier.GrowsBy offered later) {schemaId : Int64} {schema : Schema}
    (held : later.find? schemaId = some schema) :
    earlier.find? schemaId = some schema ∨ (offered schema ∧ schema.id = schemaId) := by
  induction grows with
  | refl => exact .inl held
  | @insert registry added _ _ allowed inductionHypothesis =>
      rw [find?_insert] at held
      by_cases same : added.id = schemaId
      · rw [if_pos same] at held
        obtain rfl := Option.some.inj held
        exact .inr ⟨allowed, same⟩
      · rw [if_neg same] at held
        exact inductionHypothesis held

/-- An id that no offered schema has keeps what is under it, also nothing. -/
theorem frame (grows : earlier.GrowsBy offered later) {schemaId : Int64}
    (untouched : ∀ schema, offered schema → schema.id ≠ schemaId) :
    later.find? schemaId = earlier.find? schemaId := by
  cases held : later.find? schemaId with
  | some schema =>
      rcases grows.origin held with before | ⟨allowed, same⟩
      · exact before.symm
      · exact absurd same (untouched schema allowed)
  | none =>
      cases before : earlier.find? schemaId with
      | none => rfl
      | some schema =>
          rw [grows.keeps before] at held
          cases held

end GrowsBy

end Registry

/-! ## Schemas for examples -/

/-- A schema without fields. -/
def Schema.fieldless (typeName : String) (named : typeName ≠ "") : Schema where
  typeName
  fields := []
  named
  ordered := Entries.ordered_nil
  available := fun _ member => absurd member List.not_mem_nil

end CompactSchema
