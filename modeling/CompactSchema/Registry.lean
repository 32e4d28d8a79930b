import CompactSchema.Schema

/-!
Contract: schemas under their ids.

The first schema that takes an id keeps it. Registering an equal schema again
changes nothing, and a different schema with the same id is refused.

Owns: the registry, in ascending order of ids and each schema under its own, and the
verdict on a schema that is to be registered.

Does not own: who registers, see `Service`.
-/

set_option autoImplicit false

namespace CompactSchema

/-- Schemas under their ids. The ids ascend strictly and every schema stands under its own
id. -/
structure Registry where
  entries : Entries Int64 Schema
  ordered : Entries.Ordered entries
  keyed : ∀ entry ∈ entries, entry.2.id = entry.1
deriving DecidableEq

/-- What a registry makes of a schema that is to be registered. -/
inductive Verdict where
  /-- Its id is free. -/
  | fresh
  /-- It is registered already. -/
  | known (existing : Schema)
  /-- A different schema has its id. -/
  | taken (existing : Schema)

namespace Registry

def empty : Registry where
  entries := []
  ordered := Entries.ordered_nil
  keyed := fun _ member => absurd member List.not_mem_nil

/-- The schema under an id. -/
def find? (registry : Registry) (schemaId : Int64) : Option Schema :=
  Entries.find? schemaId registry.entries

/-- The ids in use, in ascending order. -/
def ids (registry : Registry) : List Int64 := Entries.keys registry.entries

/-- The registered schemas, in ascending order of their ids. -/
def schemas (registry : Registry) : List Schema := registry.entries.map Prod.snd

def size (registry : Registry) : Nat := registry.entries.length

theorem keyed_insert (registry : Registry) (schema : Schema) :
    ∀ entry ∈ Entries.insert schema.id schema registry.entries, entry.2.id = entry.1 := by
  intro entry member
  rcases Entries.mem_of_mem_insert member with new | old
  · rw [new]
  · exact registry.keyed entry old

/-- Put a schema under its id. -/
def insert (registry : Registry) (schema : Schema) : Registry where
  entries := Entries.insert schema.id schema registry.entries
  ordered := Entries.ordered_insert _ _ registry.ordered
  keyed := registry.keyed_insert schema

def verdict (registry : Registry) (schema : Schema) : Verdict :=
  match registry.find? schema.id with
  | none => .fresh
  | some existing => if existing = schema then .known existing else .taken existing

end Registry

end CompactSchema
