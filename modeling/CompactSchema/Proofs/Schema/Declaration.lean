import CompactSchema.Proofs.Entries
import CompactSchema.Schema

/-!
Contract: which fields declare which schema.

A schema is declared by its own fields, each once, in whatever order. All else that
can be handed to a declaration is refused: an empty type name, a field of a kind that
can not be declared, and a name that repeats.

Owns: the equality of schemas, and the outcome of a declaration.

Does not own: which refusal is reported first, see `Schema.firstFault?`.
-/

set_option autoImplicit false

namespace CompactSchema

/-! ## Declarations -/

/-- Name and kind. -/
def Descriptor.field (descriptor : Descriptor) : String × Kind := (descriptor.name, descriptor.kind)

namespace Schema

/-- A schema is known by its type name and the set of its fields. -/
theorem eq_of_mem_iff {first second : Schema} (sameName : first.typeName = second.typeName)
    (sameFields : ∀ field, field ∈ first.fields ↔ field ∈ second.fields) : first = second :=
  eq_of_fields sameName (Entries.eq_of_ascending Prod.fst (List.pairwise_map.1 first.ordered)
    (List.pairwise_map.1 second.ordered) sameFields)

theorem map_field_descriptors (schema : Schema) :
    schema.descriptors.map Descriptor.field = schema.fields := by
  rw [descriptors, List.map_map]
  exact List.map_id schema.fields

theorem firstFault?_eq_none_iff {typeName : String} {declared : List String}
    {descriptors : List Descriptor} : firstFault? typeName declared descriptors = none ↔
      (∀ descriptor ∈ descriptors, descriptor.kind ≠ .notAvailable) ∧
        (∀ name ∈ declared, name ∉ descriptors.map Descriptor.name) ∧
        (descriptors.map Descriptor.name).Nodup := by
  induction descriptors generalizing declared with
  | nil => simp [firstFault?]
  | cons head rest inductionHypothesis =>
      rw [firstFault?]
      by_cases headAvailable : head.kind = .notAvailable
      · simp [headAvailable]
      · by_cases repeated : head.name ∈ declared
        · rw [if_neg headAvailable, if_pos repeated]
          simp only [reduceCtorEq, false_iff]
          exact fun faultless => faultless.2.1 head.name repeated List.mem_cons_self
        · rw [if_neg headAvailable, if_neg repeated, inductionHypothesis]
          simp only [List.mem_cons, forall_eq_or_imp, List.map_cons, List.nodup_cons, not_or]
          grind

theorem declare_eq_ok_iff {typeName : String} {descriptors : List Descriptor} {schema : Schema} :
    declare typeName descriptors = .ok schema ↔
      schema.typeName = typeName ∧ (descriptors.map Descriptor.field).Perm schema.fields := by
  have names : Entries.keys (descriptors.map Descriptor.field) = descriptors.map Descriptor.name :=
    List.map_map
  constructor
  · intro succeeded
    unfold declare at succeeded
    split at succeeded
    · cases succeeded
    · split at succeeded
      · cases succeeded
      · rename_i faultless
        cases succeeded
        have distinct := (firstFault?_eq_none_iff.1 faultless).2.2
        exact ⟨rfl, (Entries.perm_ofList (names ▸ distinct)).symm⟩
  · rintro ⟨rfl, same⟩
    have distinct : (Entries.keys (descriptors.map Descriptor.field)).Nodup :=
      (same.map Prod.fst).nodup_iff.2 (Entries.nodup_keys schema.ordered)
    have available : ∀ descriptor ∈ descriptors, descriptor.kind ≠ .notAvailable :=
      fun descriptor member =>
        schema.available _ (same.mem_iff.1 (List.mem_map_of_mem member))
    have faultless : firstFault? schema.typeName [] descriptors = none :=
      firstFault?_eq_none_iff.2 ⟨available, by simp, names ▸ distinct⟩
    unfold declare
    rw [dif_neg schema.named]
    split
    · rename_i faulty
      cases faultless.symm.trans faulty
    · refine congrArg Except.ok (eq_of_fields rfl ?_)
      exact Entries.eq_of_perm (Entries.ordered_ofList _) schema.ordered
        ((Entries.perm_ofList distinct).trans same)

theorem declare_of_ordered {typeName : String} {descriptors : List Descriptor}
    {kinds : Entries String Kind} (named : typeName ≠ "")
    (listed : descriptors.map (fun descriptor => (descriptor.name, descriptor.kind)) = kinds)
    (ordered : Entries.Ordered kinds) (available : ∀ field ∈ kinds, field.2 ≠ .notAvailable) :
    ∃ schema, declare typeName descriptors = .ok schema ∧ schema.typeName = typeName ∧
      schema.fields = kinds :=
  ⟨{ typeName, fields := kinds, named, ordered, available },
    declare_eq_ok_iff.2 ⟨rfl, List.Perm.of_eq listed⟩, rfl, rfl⟩

end Schema

end CompactSchema
