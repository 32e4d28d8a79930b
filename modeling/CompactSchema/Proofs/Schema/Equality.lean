import CompactSchema.Proofs.Schema.Declaration
import CompactSchema.Schema.Json

/-!
Contract: a schema is its type name and its set of fields, and nothing more.

Of two declarations with the same type name and the same fields, in any order and with
any placements, either both are refused as invalid or both give one and the same schema.
Schemas are compared by their ids, type names and listed fields. The ids follow from the
rest and the listed fields are the set in name order, so the comparison is finer than
neither and coarser than neither.

Owns: which declarations are refused, and with which category of error, the comparison of
schemas, and that the order of a declaration is lost.

Does not own: which fault of a refused declaration is reported, see `Schema.firstFault?`.
-/

set_option autoImplicit false

namespace CompactSchema

theorem Descriptor.beq_iff {first second : Descriptor} :
    (first == second) = true ↔ first.field = second.field := by
  change Descriptor.sameField first second = true ↔ _
  unfold Descriptor.sameField Descriptor.field
  simp

namespace Schema

/-! ## Which declarations are refused -/

/-- A type name and fields that make a schema. -/
structure Declarable (typeName : String) (descriptors : List Descriptor) : Prop where
  named : typeName ≠ ""
  distinct : (descriptors.map Descriptor.name).Nodup
  available : ∀ descriptor ∈ descriptors, descriptor.kind ≠ .notAvailable

variable {typeName : String} {descriptors others : List Descriptor}

theorem map_fst_field (descriptors : List Descriptor) :
    (descriptors.map Descriptor.field).map Prod.fst = descriptors.map Descriptor.name :=
  List.map_map

theorem invalidField_of_firstFault? {declared : List String} {fault : SchemaError}
    (found : firstFault? typeName declared descriptors = some fault) :
    ∃ detail, fault = .invalidField detail := by
  induction descriptors generalizing declared with
  | nil => simp [firstFault?] at found
  | cons head rest inductionHypothesis =>
      unfold firstFault? at found
      split at found
      · exact ⟨_, (Option.some.inj found).symm⟩
      · split at found
        · exact ⟨_, (Option.some.inj found).symm⟩
        · exact inductionHypothesis found

theorem declarable_of_declare {schema : Schema}
    (declared : declare typeName descriptors = .ok schema) : Declarable typeName descriptors := by
  obtain ⟨sameName, sameFields⟩ := declare_eq_ok_iff.1 declared
  refine ⟨?_, ?_, ?_⟩
  · rw [← sameName]
    exact schema.named
  · rw [← map_fst_field, (sameFields.map Prod.fst).nodup_iff]
    exact Entries.nodup_keys schema.ordered
  · intro descriptor member
    exact schema.available _ (sameFields.mem_iff.1 (List.mem_map_of_mem member))

/-- A declaration gives a schema or is refused as invalid. -/
theorem declare_cases (typeName : String) (descriptors : List Descriptor) :
    (Declarable typeName descriptors ∧ ∃ schema, declare typeName descriptors = .ok schema) ∨
      (¬ Declarable typeName descriptors ∧
        ∃ detail, declare typeName descriptors = .error (.invalidField detail)) := by
  cases outcome : declare typeName descriptors with
  | ok schema => exact .inl ⟨declarable_of_declare outcome, schema, rfl⟩
  | error error =>
      refine .inr ⟨?_, ?_⟩
      · intro declarable
        have faultless : firstFault? typeName [] descriptors = none :=
          firstFault?_eq_none_iff.2 ⟨declarable.available, by simp, declarable.distinct⟩
        unfold declare at outcome
        rw [dif_neg declarable.named] at outcome
        split at outcome
        · rename_i found
          exact absurd (faultless.symm.trans found) (by simp)
        · exact absurd outcome (by simp)
      · unfold declare at outcome
        split at outcome
        · exact ⟨_, outcome.symm⟩
        · split at outcome
          · rename_i found
            obtain ⟨detail, isInvalid⟩ := invalidField_of_firstFault? found
            exact ⟨detail, by rw [← isInvalid]; exact outcome.symm⟩
          · exact absurd outcome (by simp)

theorem declarable_of_perm
    (same : (descriptors.map Descriptor.field).Perm (others.map Descriptor.field))
    (declarable : Declarable typeName descriptors) : Declarable typeName others := by
  refine ⟨declarable.named, ?_, ?_⟩
  · rw [← map_fst_field, ← (same.map Prod.fst).nodup_iff, map_fst_field]
    exact declarable.distinct
  · intro other member
    have listed : other.field ∈ descriptors.map Descriptor.field :=
      same.mem_iff.2 (List.mem_map_of_mem member)
    obtain ⟨descriptor, given, sameField⟩ := List.mem_map.1 listed
    have sameKind : descriptor.kind = other.kind := congrArg Prod.snd sameField
    rw [← sameKind]
    exact declarable.available descriptor given

theorem declare_eq_of_perm {schema : Schema}
    (same : (descriptors.map Descriptor.field).Perm (others.map Descriptor.field))
    (declared : declare typeName descriptors = .ok schema) :
    declare typeName others = .ok schema := by
  obtain ⟨sameName, sameFields⟩ := declare_eq_ok_iff.1 declared
  exact declare_eq_ok_iff.2 ⟨sameName, same.symm.trans sameFields⟩

/-! ## The comparison of schemas -/

variable {schema other : Schema}

theorem descriptors_beq_iff {first second : List Descriptor} :
    (first == second) = true ↔
      first.map Descriptor.field = second.map Descriptor.field := by
  induction first generalizing second with
  | nil => cases second <;> simp
  | cons head rest inductionHypothesis =>
      cases second with
      | nil => simp
      | cons otherHead otherRest =>
          rw [List.cons_beq_cons, Bool.and_eq_true, Descriptor.beq_iff, inductionHypothesis,
            List.map_cons, List.map_cons, List.cons.injEq]

theorem same_iff_eq : schema.same other = true ↔ schema = other := by
  unfold same
  constructor
  · intro isSame
    simp only [Bool.and_eq_true, beq_iff_eq, descriptors_beq_iff] at isSame
    obtain ⟨⟨_, sameName⟩, sameFields⟩ := isSame
    apply eq_of_fields sameName
    rw [← map_field_descriptors, ← map_field_descriptors, sameFields]
  · intro equal
    subst equal
    simp [descriptors_beq_iff]

theorem same_iff_of_declare {otherName : String}
    (declared : declare typeName descriptors = .ok schema)
    (declaredToo : declare otherName others = .ok other) :
    schema.same other = true ↔ typeName = otherName ∧
      ∀ field, field ∈ descriptors.map Descriptor.field ↔ field ∈ others.map Descriptor.field := by
  obtain ⟨sameName, sameFields⟩ := declare_eq_ok_iff.1 declared
  obtain ⟨sameNameToo, sameFieldsToo⟩ := declare_eq_ok_iff.1 declaredToo
  rw [same_iff_eq, ← sameName, ← sameNameToo]
  simp only [sameFields.mem_iff, sameFieldsToo.mem_iff]
  constructor
  · intro equal
    subst equal
    exact ⟨rfl, fun _ => Iff.rfl⟩
  · intro structural
    exact eq_of_mem_iff structural.1 structural.2

/-- All that is derived from two schemas agrees, placements and texts included. -/
structure Indistinguishable (schema other : Schema) : Prop where
  id : schema.id = other.id
  descriptors : schema.descriptors = other.descriptors
  descriptor : ∀ name, schema.descriptor? name = other.descriptor? name
  fixedLength : schema.fixedLength = other.fixedLength
  slotCount : schema.slotCount = other.slotCount
  text : schema.text = other.text
  jsonText : schema.jsonText = other.jsonText

theorem indistinguishable_of_same (isSame : schema.same other = true) :
    schema.Indistinguishable other := by
  have equal := same_iff_eq.1 isSame
  subst equal
  exact ⟨rfl, rfl, fun _ => rfl, rfl, rfl, rfl, rfl⟩

/-- A declaration depends on nothing but its type name and the set of its fields. It gives
a schema just if the type name is not empty, no name repeats and no field is of the kind
that can not be declared, and is refused as invalid otherwise. The same fields in another
order and with other placements are refused alike, or give a schema that is the same in
all that is derived from it. Two declared schemas compare as equal just if their type
names and their sets of fields are equal, and then they agree in what the comparison does
not look at. -/
theorem declaration_is_structural :
    (∀ (typeName : String) (descriptors : List Descriptor),
      ((∃ schema, declare typeName descriptors = .ok schema) ↔
        Declarable typeName descriptors) ∧
      (¬ Declarable typeName descriptors →
        ∃ detail, declare typeName descriptors = .error (.invalidField detail))) ∧
    (∀ {typeName : String} {descriptors others : List Descriptor},
      (descriptors.map Descriptor.field).Perm (others.map Descriptor.field) →
      (∀ schema, declare typeName descriptors = .ok schema →
        ∃ other, declare typeName others = .ok other ∧ schema.same other = true ∧
          schema.Indistinguishable other) ∧
      (∀ error, declare typeName descriptors = .error error →
        ∃ detail, declare typeName others = .error (.invalidField detail))) ∧
    (∀ {typeName otherName : String} {descriptors others : List Descriptor}
      {schema other : Schema},
      declare typeName descriptors = .ok schema → declare otherName others = .ok other →
      (schema.same other = true ↔ typeName = otherName ∧
        ∀ field, field ∈ descriptors.map Descriptor.field ↔
          field ∈ others.map Descriptor.field) ∧
      (schema.same other = true → schema.Indistinguishable other)) := by
  refine ⟨?_, ?_, ?_⟩
  · intro typeName descriptors
    rcases declare_cases typeName descriptors with ⟨declarable, gives⟩ | ⟨faulty, refused⟩
    · exact ⟨iff_of_true gives declarable, fun faulty => absurd declarable faulty⟩
    · refine ⟨iff_of_false ?_ faulty, fun _ => refused⟩
      intro gives
      obtain ⟨schema, declared⟩ := gives
      exact faulty (declarable_of_declare declared)
  · intro typeName descriptors others permuted
    constructor
    · intro schema declared
      have isSame : schema.same schema = true := same_iff_eq.2 rfl
      exact ⟨schema, declare_eq_of_perm permuted declared, isSame,
        indistinguishable_of_same isSame⟩
    · intro error refused
      rcases declare_cases typeName others with ⟨declarable, _⟩ | ⟨_, refusedToo⟩
      · rcases declare_cases typeName descriptors with ⟨_, gives⟩ | ⟨faulty, _⟩
        · obtain ⟨schema, declared⟩ := gives
          exact absurd (declared.symm.trans refused) (by simp)
        · exact absurd (declarable_of_perm permuted.symm declarable) faulty
      · exact refusedToo
  · intro typeName otherName descriptors others schema other declared declaredToo
    exact ⟨same_iff_of_declare declared declaredToo, indistinguishable_of_same⟩

theorem declaration_is_structural_point :
    let given : List Descriptor := [⟨"y", .plain .int32, .bytes 40⟩, ⟨"x", .plain .int32, .slot 2⟩]
    let reordered : List Descriptor := [{ name := "x", kind := .plain .int32 },
      { name := "y", kind := .plain .int32 }]
    let repeated : List Descriptor := given ++ reordered
    ∃ schema other : Schema, declare "Point" given = .ok schema ∧
      declare "Point" reordered = .ok other ∧ schema.same other = true ∧
      schema.descriptors = other.descriptors ∧ schema.jsonText = other.jsonText ∧
      ∃ detail, declare "Point" repeated = .error (.invalidField detail) := by
  intro given reordered repeated
  obtain ⟨outcome, ofPerm, ofBoth⟩ := declaration_is_structural
  have permuted : (given.map Descriptor.field).Perm (reordered.map Descriptor.field) :=
    .swap _ _ _
  have repeats : ¬ Declarable "Point" repeated := by
    intro declarable
    exact absurd declarable.distinct (by decide)
  have declarable : Declarable "Point" given := ⟨by decide, by decide, by decide⟩
  obtain ⟨schema, declared⟩ := (outcome "Point" given).1.2 declarable
  obtain ⟨other, declaredToo, _⟩ := (ofPerm permuted).1 schema declared
  obtain ⟨structural, agree⟩ := ofBoth declared declaredToo
  have isSame : schema.same other = true := structural.2 ⟨rfl, fun _ => permuted.mem_iff⟩
  exact ⟨schema, other, declared, declaredToo, isSame, (agree isSame).descriptors,
    (agree isSame).jsonText, (outcome "Point" repeated).2 repeats⟩

end Schema

end CompactSchema
