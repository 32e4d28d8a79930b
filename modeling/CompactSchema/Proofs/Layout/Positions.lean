import CompactSchema.Proofs.Layout.Assignment
import CompactSchema.Schema

/-!
Contract: where each field of a schema lies.

Numbers, booleans and variable-size fields are laid out one after the other, each list
for itself and each field as long as it is. A field lies where the fields before it in
its list end. Every field is in one of the lists, so its placement is the one it gets
there.

Owns: that every field is listed once, and the placement of a field as the length of what
stands before it.

Does not own: that the fields together fill the section, see `Proofs.Layout.Tiling`.
-/

set_option autoImplicit false

namespace CompactSchema.Layout

/-! ## The three lists -/

variable {fields : Entries String Kind} {name : String} {width : Nat}

theorem isNumber_iff {kind : Kind} :
    kind.isNumber = true ↔ ∃ type, kind = .plain type ∧ type ≠ .boolean := by
  cases kind <;> simp [Kind.isNumber, Kind.isFixedSize, Kind.fixedSize?]

theorem mem_byteFields_iff :
    (name, width) ∈ byteFields fields ↔
      ∃ type, (name, .plain type) ∈ fields ∧ type ≠ .boolean ∧ type.size = width := by
  simp only [byteFields, List.mem_map, mem_numbersInOrder_iff, isNumber_iff]
  constructor
  · rintro ⟨⟨_, _⟩, ⟨member, type, rfl, notBoolean⟩, same⟩
    obtain ⟨rfl, rfl⟩ := Prod.mk.inj same
    exact ⟨type, member, notBoolean, rfl⟩
  · rintro ⟨type, member, notBoolean, rfl⟩
    exact ⟨_, ⟨member, type, rfl, notBoolean⟩, rfl⟩

theorem mem_bitFields_iff : name ∈ bitFields fields ↔ (name, .plain .boolean) ∈ fields := by
  simp only [bitFields, Entries.keys, List.mem_map, List.mem_filter, decide_eq_true_eq]
  constructor
  · rintro ⟨⟨_, _⟩, ⟨member, rfl⟩, rfl⟩
    exact member
  · exact fun member => ⟨_, ⟨member, rfl⟩, rfl⟩

theorem mem_slotFields_iff :
    name ∈ slotFields fields ↔ ∃ kind, (name, kind) ∈ fields ∧ kind.isFixedSize = false := by
  simp only [slotFields, Entries.keys, List.mem_map, List.mem_filter, Bool.not_eq_true']
  constructor
  · rintro ⟨⟨_, kind⟩, ⟨member, variableSize⟩, rfl⟩
    exact ⟨kind, member, variableSize⟩
  · rintro ⟨kind, member, variableSize⟩
    exact ⟨_, ⟨member, variableSize⟩, rfl⟩

theorem keys_placements (fields : Entries String Kind) :
    Entries.keys (placements fields) =
      Entries.keys (byteFields fields) ++ bitFields fields ++ slotFields fields := by
  rw [placements, sectionPlacements, Entries.keys_append, Entries.keys_append, keys_layOut,
    keys_layOut, keys_layOut, List.map_id, List.map_id]
  rfl

theorem perm_keys_byteFields (fields : Entries String Kind) :
    (Entries.keys (byteFields fields)).Perm (Entries.keys (numberFields fields)) := by
  rw [← widestFirst_numberFields]
  exact (List.mergeSort_perm _ _).map Prod.fst

theorem mem_keys_placements_iff :
    name ∈ Entries.keys (placements fields) ↔ name ∈ Entries.keys fields := by
  rw [keys_placements, ← mem_names_group, group_eq, Groups.names, List.mem_append,
    List.mem_append, (perm_keys_byteFields fields).mem_iff, List.mem_append, List.mem_append]
  rfl

theorem mem_placements_slot_iff {index : Nat} :
    (name, .slot index) ∈ placements fields ↔ (slotFields fields)[index]? = some name := by
  rw [placements, sectionPlacements, List.mem_append, List.mem_append, mem_layOut_iff,
    mem_layOut_iff, mem_layOut_iff]
  constructor
  · rintro ((⟨_, _, _, _, placed⟩ | ⟨_, _, _, _, placed⟩) | ⟨before, item, after, split, placed⟩)
    · cases placed
    · cases placed
    · cases placed
      rw [split]
      simp
  · intro found
    obtain ⟨below, rfl⟩ := List.getElem?_eq_some_iff.1 found
    have split : slotFields fields = (slotFields fields).take index ++
        (slotFields fields)[index] :: (slotFields fields).drop (index + 1) := by
      rw [← List.drop_eq_getElem_cons below, List.take_append_drop]
    exact .inr ⟨_, _, _, split, by simp [Nat.min_eq_left (Nat.le_of_lt below)]⟩

/-! ## Every field once -/

section

variable (distinct : (Entries.keys fields).Nodup)

include distinct

theorem kind_unique {first second : Kind} (member : (name, first) ∈ fields)
    (again : (name, second) ∈ fields) : first = second := by
  rw [← Entries.find?_eq_some_iff_of_nodup distinct] at member again
  exact Option.some.inj (member.symm.trans again)

theorem nodup_keys_filter (test : String × Kind → Bool) :
    (Entries.keys (fields.filter test)).Nodup :=
  distinct.sublist (List.filter_sublist.map Prod.fst)

theorem nodup_keys_byteFields : (Entries.keys (byteFields fields)).Nodup := by
  have sameKeys : Entries.keys (numberFields fields) =
      Entries.keys (fields.filter fun field => field.2.isNumber) := List.map_map
  rw [(perm_keys_byteFields fields).nodup_iff, sameKeys]
  exact nodup_keys_filter distinct _

theorem nodup_keys_placements : (Entries.keys (placements fields)).Nodup := by
  rw [keys_placements, List.nodup_append, List.nodup_append]
  refine ⟨⟨nodup_keys_byteFields distinct, nodup_keys_filter distinct _, ?_⟩,
    nodup_keys_filter distinct _, ?_⟩
  · rintro name inBytes _ inBits rfl
    obtain ⟨⟨_, width⟩, stored, rfl⟩ := List.mem_map.1 inBytes
    obtain ⟨type, member, notBoolean, _⟩ := mem_byteFields_iff.1 stored
    obtain rfl := Kind.plain.inj (kind_unique distinct member (mem_bitFields_iff.1 inBits))
    exact notBoolean rfl
  · rintro name inSection _ inSlots rfl
    obtain ⟨kind, member, variableSize⟩ := mem_slotFields_iff.1 inSlots
    rcases List.mem_append.1 inSection with inBytes | inBits
    · obtain ⟨⟨_, width⟩, stored, rfl⟩ := List.mem_map.1 inBytes
      obtain ⟨type, again, _⟩ := mem_byteFields_iff.1 stored
      obtain rfl := kind_unique distinct member again
      cases variableSize
    · obtain rfl := kind_unique distinct member (mem_bitFields_iff.1 inBits)
      cases variableSize

end

end CompactSchema.Layout

namespace CompactSchema.Schema

open Layout

variable {schema : Schema} {name : String}

theorem placement_of_mem {placement : Placement}
    (placed : (name, placement) ∈ placements schema.fields) :
    schema.placement name = placement := by
  have distinct := nodup_keys_placements (Entries.nodup_keys schema.ordered)
  have declared : name ∈ Entries.keys (unplaced schema.fields) := by
    rw [← keys_kinds, kinds_unplaced]
    exact mem_keys_placements_iff.1 (Entries.mem_keys_of_mem placed)
  rw [← kinds_unplaced schema.fields] at placed distinct
  rw [Schema.placement, schema.laidOut]
  exact placement_assign distinct placed declared

theorem placement_mem {kind : Kind} (member : (name, kind) ∈ schema.fields) :
    (name, schema.placement name) ∈ placements schema.fields := by
  obtain ⟨placement, found⟩ := Entries.exists_find?_of_mem_keys
    (mem_keys_placements_iff.2 (Entries.mem_keys_of_mem member))
  have placed := Entries.mem_of_find?_eq_some found
  rwa [placement_of_mem placed]

theorem fixedLength_eq (schema : Schema) :
    schema.fixedLength = sectionLength schema.fields := by
  rw [fixedLength, schema.laidOut, assign_eq, kinds_unplaced]

theorem slotCount_eq (schema : Schema) :
    schema.slotCount = (slotFields schema.fields).length := by
  rw [slotCount, schema.laidOut, assign_eq, kinds_unplaced]

/-- A number lies where the numbers before it in storage order end. -/
theorem placement_of_bytes {before after : List (String × Nat)} {width : Nat}
    (split : byteFields schema.fields = before ++ (name, width) :: after) :
    schema.placement name = .bytes (totalWidth before) := by
  apply placement_of_mem
  rw [placements, sectionPlacements, List.mem_append, List.mem_append, mem_layOut_iff]
  exact .inl (.inl ⟨before, _, after, split, by rw [totalWidth, Nat.zero_add]⟩)

/-- A boolean is the bit that the number of booleans before it says. -/
theorem placement_of_bits {before after : List String}
    (split : bitFields schema.fields = before ++ name :: after) :
    schema.placement name = bitAt (bytesLength schema.fields) before.length := by
  apply placement_of_mem
  rw [placements, sectionPlacements, List.mem_append, List.mem_append]
  exact .inl (.inr ((mem_layOut_iff _ _ _).2 ⟨before, _, after, split, by simp⟩))

end CompactSchema.Schema
