import CompactSchema.Proofs.Record.Building

/-!
Contract: every record that can be had is valid, with all records inside it.

Records come into being in two ways, from values that were put together freely and
from a builder. Both check the record at the end, and a builder adds nothing to the
parts but null. So validity is kept by each way, and a record of any depth that was
made by any number of them is valid throughout.

Owns: the records that can be had, validity at every depth, and that reading
through the schema and through the values agree.

Does not own: conformance of one record, see `Proofs.Record.Conformance`.
-/

set_option autoImplicit false

namespace CompactSchema

/-! ## What can be had -/

/-- The values that can be had: free ones, and records made from such values or
built on such records. An array can hold anything as long as it is in no record. -/
inductive Value.Obtainable : Value → Prop where
  | null : Obtainable .null
  | scalar (leaf : Scalar) : Obtainable (.scalar leaf)
  | array {items : List Value} (parts : ∀ item ∈ items, Obtainable item) :
      Obtainable (.array items)
  | assembled {schema : Schema} {values : Entries String Value} {record : Record}
      (ordered : Entries.Ordered values) (parts : ∀ entry ∈ values, Obtainable entry.2)
      (made : Record.ofValues schema values = .ok record) : Obtainable record.toValue
  | built {origin : Origin} {chain : List Setting} {record : Record}
      (sources : ∀ source, origin = .cloned source → Obtainable source.toValue)
      (parts : ∀ setting ∈ chain, Obtainable setting.assignment.value)
      (made : origin.run chain = .ok record) : Obtainable record.toValue

/-- Every record at any depth of a value conforms to its own schema. -/
inductive Value.Valid : Value → Prop where
  | null : Valid .null
  | scalar (leaf : Scalar) : Valid (.scalar leaf)
  | array {items : List Value} (parts : ∀ item ∈ items, Valid item) : Valid (.array items)
  | compact {schema : Schema} {values : List (String × Value)}
      (conforms : (⟨schema, values⟩ : Record).Conforms)
      (parts : ∀ entry ∈ values, Valid entry.2) : Valid (.compact schema values)

def Record.Obtainable (record : Record) : Prop := record.toValue.Obtainable

def Record.Valid (record : Record) : Prop := record.toValue.Valid

theorem Record.valid_iff {record : Record} :
    record.Valid ↔ record.Conforms ∧ ∀ entry ∈ record.values, entry.2.Valid := by
  constructor
  · intro valid
    cases valid with
    | compact conforms parts => exact ⟨conforms, parts⟩
  · rintro ⟨conforms, parts⟩
    exact .compact conforms parts

/-! ## Every way keeps validity -/

/-- A record that is built holds what was set, null, and what its source held. -/
theorem Origin.Makes.valid {origin : Origin} {chain : List Setting} {record : Record}
    (makes : origin.Makes chain record)
    (sources : ∀ source, origin = .cloned source → source.Valid)
    (parts : ∀ setting ∈ chain, setting.assignment.value.Valid) : record.Valid := by
  have ordered := Record.ordered_of_names makes.conforms.names
  refine Record.valid_iff.2 ⟨makes.conforms, ?_⟩
  rintro ⟨name, value⟩ member
  have held : record.value? name = some value := (Entries.find?_eq_some_iff ordered).2 member
  by_cases named : name ∈ Setting.names chain
  · obtain ⟨setting, listed, rfl⟩ := List.mem_map.1 named
    obtain rfl := Option.some.inj ((makes.set setting listed).symm.trans held)
    exact parts setting listed
  · have declared : name ∈ record.schema.fieldNames :=
      makes.conforms.names ▸ Entries.mem_keys_of_mem member
    have isDefault := (makes.unset declared named).symm.trans held
    cases origin with
    | compact _ => cases isDefault
    | bound _ =>
        obtain rfl := Option.some.inj isDefault
        exact .null
    | cloned source =>
        have sourceParts := (Record.valid_iff.1 (sources source rfl)).2
        exact sourceParts (name, value) (Entries.mem_of_find?_eq_some isDefault)

theorem Value.Obtainable.valid {value : Value} (obtainable : value.Obtainable) : value.Valid := by
  induction obtainable with
  | null => exact .null
  | scalar leaf => exact .scalar leaf
  | array _ inductionHypothesis => exact .array inductionHypothesis
  | assembled ordered _ made inductionHypothesis =>
      obtain ⟨rfl, conforms⟩ := (Record.ofValues_ok_iff ordered).1 made
      exact .compact conforms inductionHypothesis
  | built _ _ made sourcesValid partsValid =>
      have sound : Origin.Sound _ := fun source isSource =>
        (Record.valid_iff.1 (sourcesValid source isSource)).1
      exact (Origin.makes_of_run sound made).valid sourcesValid partsValid

/-! ## Records that can be had -/

/-- Every record that can be had is valid at every depth: it holds values under
just the names that its schema declares, each admitted by its kind, and the records
inside it are valid as well. So its names are those of the schema, in order, and
under every name the schema and the values agree on whether there is a field. -/
theorem valid_of_obtainable {record : Record} (obtainable : record.Obtainable) :
    record.Conforms ∧ (∀ entry ∈ record.values, entry.2.Valid) ∧
    record.fieldNames = record.schema.fieldNames ∧
    ∀ name,
      (record.fieldKind name ≠ .notAvailable ↔ record.hasField name = true) ∧
      (record.hasField name = true ↔ ∃ value, record.value? name = some value) ∧
      ((∃ value, record.value? name = some value) ↔
        ∃ descriptor, record.descriptor name = .ok descriptor) := by
  have valid : record.Valid := Value.Obtainable.valid obtainable
  obtain ⟨conforms, parts⟩ := Record.valid_iff.1 valid
  refine ⟨conforms, parts, conforms.names, fun name => ?_⟩
  have held : record.hasField name = true ↔ ∃ value, record.value? name = some value :=
    Option.isSome_iff_exists
  refine ⟨?_, held, ?_⟩
  · rw [Record.fieldKind_ne_notAvailable_iff, conforms.hasField_iff]
  · rw [← held, conforms.hasField_iff, Record.exists_descriptor_iff]

/-- A record with a record in one field and an array of records in the other. -/
def Record.holder (many one : Value) : Record where
  schema := {
    typeName := "Holder"
    fields := [("many", .arrayOfVarying .compact), ("one", .varying .compact)]
    named := by decide
    ordered := by decide
    available := by decide }
  values := [("many", many), ("one", one)]

theorem valid_of_obtainable_holder :
    let part := Record.point 3 4 .null
    let last := Record.holder (.array [part.toValue, .null]) .null
    last.Obtainable ∧ last.Conforms ∧ (∀ entry ∈ last.values, entry.2.Valid) ∧
      last.fieldNames = ["many", "one"] ∧
      (last.fieldKind "many" ≠ .notAvailable ↔ last.hasField "many" = true) := by
  intro part last
  let first := Record.holder (.array [part.toValue, .null]) part.toValue
  have partMade : Record.ofValues part.schema part.values = .ok part := rfl
  have firstBuilt : (Origin.compact "Holder").run [
      ⟨"one", .varying .compact (some (Record.point 3 4 .null))⟩,
      ⟨"many", .arrayOfVarying .compact (some [some (Record.point 3 4 .null), none])⟩] =
        .ok (Record.holder (.array [(Record.point 3 4 .null).toValue, .null])
          (Record.point 3 4 .null).toValue) := rfl
  have lastBuilt : (Origin.cloned first).run [⟨"one", .varying .compact none⟩] = .ok last := rfl
  have partObtainable : part.toValue.Obtainable := by
    apply Value.Obtainable.assembled (by decide) _ partMade
    exact List.forall_mem_cons.2 ⟨.null, List.forall_mem_cons.2
      ⟨.scalar _, List.forall_mem_singleton.2 (.scalar _)⟩⟩
  have manyObtainable : (Value.array [part.toValue, .null]).Obtainable :=
    .array (List.forall_mem_cons.2 ⟨partObtainable, List.forall_mem_singleton.2 .null⟩)
  have firstObtainable : first.toValue.Obtainable := by
    refine .built (fun _ => Origin.noConfusion) ?_ firstBuilt
    exact List.forall_mem_cons.2 ⟨partObtainable, List.forall_mem_singleton.2 manyObtainable⟩
  have lastObtainable : last.Obtainable := by
    refine .built ?_ ?_ lastBuilt
    · rintro _ ⟨⟩
      exact firstObtainable
    · exact List.forall_mem_singleton.2 .null
  obtain ⟨conforms, parts, names, views⟩ := valid_of_obtainable lastObtainable
  exact ⟨lastObtainable, conforms, parts, names, (views "many").1⟩

end CompactSchema
