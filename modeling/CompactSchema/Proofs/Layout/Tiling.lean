import CompactSchema.Proofs.Layout.Positions
import Mathlib.Algebra.BigOperators.Ring.List

/-!
Contract: the fields of a schema fill the fixed-size section of a record.

Seen bit by bit, the section is one list of fields: the numbers with eight bits to the
byte, then the booleans with one bit each. A field starts where those before it end, so
every bit up to the end of the list belongs to exactly one field. What is left of the
last byte is less than a byte. A number is aligned because all fields before it have
lengths that are multiples of its own.

Owns: which bits a field occupies, and that bits, alignment and slots come out exact.

Does not own: the offset of a single field, see `Proofs.Layout.Positions`.
-/

set_option autoImplicit false

namespace CompactSchema

/-! ## What a field occupies -/

/-- Number of bits of the fixed-size section that a field takes. -/
def Kind.bitLength : Kind → Nat
  | .plain .boolean => 1
  | kind => 8 * kind.fixedSize?.getD 0

/-- The first bit of the fixed-size section that a field takes. -/
def Placement.firstBit? : Placement → Option Nat
  | .bytes offset => some (8 * offset)
  | .bit offset inByte => some (8 * offset + inByte)
  | _ => none

/-- The bit at a position of the fixed-size section belongs to the field. -/
def Descriptor.Occupies (descriptor : Descriptor) (position : Nat) : Prop :=
  ∃ first, descriptor.placement.firstBit? = some first ∧ first ≤ position ∧
    position < first + descriptor.kind.bitLength

/-- The form of placement that a kind has: a bit of a byte for booleans, whole bytes at
a multiple of the size for numbers, a slot for all other kinds. -/
inductive Placement.Suits : Kind → Placement → Prop where
  | bit {offset bit : Nat} (inside : bit < 8) : Suits (.plain .boolean) (.bit offset bit)
  | bytes {type : Primitive} {offset : Nat} (notBoolean : type ≠ .boolean)
      (aligned : type.size ∣ offset) : Suits (.plain type) (.bytes offset)
  | slot {kind : Kind} {index : Nat} (variableSize : kind.isFixedSize = false) :
      Suits kind (.slot index)

namespace Layout

/-! ## Covering a stretch -/

/-- A position belongs to a named item when the items are laid out one after the other. -/
def Covers (items : List (String × Nat)) (name : String) (position : Nat) : Prop :=
  ∃ before length after, items = before ++ (name, length) :: after ∧
    (before.map Prod.snd).sum ≤ position ∧ position < (before.map Prod.snd).sum + length

variable {items : List (String × Nat)} {name : String} {position : Nat}

theorem Covers.lt_sum (covers : Covers items name position) :
    position < (items.map Prod.snd).sum := by
  obtain ⟨before, length, after, rfl, _, inside⟩ := covers
  simp only [List.map_append, List.map_cons, List.sum_append, List.sum_cons]
  omega

theorem covers_cons_iff {head : String × Nat} :
    Covers (head :: items) name position ↔
      (name = head.1 ∧ position < head.2) ∨
        (head.2 ≤ position ∧ Covers items name (position - head.2)) := by
  constructor
  · rintro ⟨before, length, after, split, above, below⟩
    cases before with
    | nil =>
        obtain ⟨rfl, rfl⟩ := List.cons.inj split
        exact .inl ⟨rfl, by simpa using below⟩
    | cons first others =>
        obtain ⟨rfl, rfl⟩ := List.cons.inj split
        simp only [List.map_cons, List.sum_cons] at above below
        exact .inr ⟨by omega, others, length, after, rfl, by omega, by omega⟩
  · rintro (⟨rfl, inside⟩ | ⟨beyond, before, length, after, rfl, above, below⟩)
    · exact ⟨[], head.2, items, rfl, by simp, by simpa using inside⟩
    · refine ⟨head :: before, length, after, rfl, ?_, ?_⟩ <;>
        simp only [List.map_cons, List.sum_cons] <;> omega

/-- Up to the sum of the lengths, every position belongs to one item and to no other. -/
theorem existsUnique_covers (inside : position < (items.map Prod.snd).sum) :
    ∃! name, Covers items name position := by
  induction items generalizing position with
  | nil => simp at inside
  | cons head rest inductionHypothesis =>
      rw [List.map_cons, List.sum_cons] at inside
      by_cases inHead : position < head.2
      · refine ⟨head.1, covers_cons_iff.2 (.inl ⟨rfl, inHead⟩), fun other covers => ?_⟩
        rcases covers_cons_iff.1 covers with ⟨same, _⟩ | ⟨beyond, _⟩
        · exact same
        · omega
      · obtain ⟨name, covers, unique⟩ :=
          inductionHypothesis (show position - head.2 < _ by omega)
        refine ⟨name, covers_cons_iff.2 (.inr ⟨by omega, covers⟩), fun other coversToo => ?_⟩
        rcases covers_cons_iff.1 coversToo with ⟨_, inside⟩ | ⟨_, later⟩
        · omega
        · exact unique other later

/-! ## The section bit by bit -/

/-- The fields of the fixed-size section with their lengths in bits, in storage order. -/
def sectionFields (fields : Entries String Kind) : List (String × Nat) :=
  (byteFields fields).map (fun field => (field.1, 8 * field.2)) ++
    (bitFields fields).map fun name => (name, 1)

variable {fields : Entries String Kind}

theorem sum_bits_bytes (stored : List (String × Nat)) :
    ((stored.map fun field => (field.1, 8 * field.2)).map Prod.snd).sum =
      8 * totalWidth stored := by
  rw [totalWidth, List.map_map, ← List.sum_map_mul_left]
  rfl

theorem sum_sectionFields (fields : Entries String Kind) :
    ((sectionFields fields).map Prod.snd).sum =
      8 * bytesLength fields + (bitFields fields).length := by
  rw [sectionFields, List.map_append, List.sum_append, sum_bits_bytes, bytesLength, List.map_map,
    Function.comp_def, List.map_const', List.sum_replicate_nat, Nat.mul_one]

theorem firstBits_bytes (offset : Nat) (stored : List (String × Nat)) :
    (layOut Prod.fst Prod.snd Placement.bytes offset stored).map
        (Prod.map id Placement.firstBit?) =
      layOut Prod.fst Prod.snd some (8 * offset)
        (stored.map fun field => (field.1, 8 * field.2)) := by
  induction stored generalizing offset with
  | nil => rfl
  | cons head rest inductionHypothesis =>
      rw [layOut, List.map_cons, inductionHypothesis, Nat.mul_add, List.map_cons, layOut]
      rfl

theorem firstBit?_bitAt (base used : Nat) :
    (bitAt base used).firstBit? = some (8 * base + used) := by
  rw [bitAt, Placement.firstBit?]
  congr 1
  omega

theorem firstBits_bits (base used : Nat) (names : List String) :
    (layOut id (fun _ => 1) (bitAt base) used names).map (Prod.map id Placement.firstBit?) =
      layOut Prod.fst Prod.snd some (8 * base + used) (names.map fun name => (name, 1)) := by
  induction names generalizing used with
  | nil => rfl
  | cons head rest inductionHypothesis =>
      rw [layOut, List.map_cons, inductionHypothesis, Prod.map_apply, firstBit?_bitAt]
      rfl

theorem firstBits_placements (fields : Entries String Kind) :
    (sectionPlacements fields).map (Prod.map id Placement.firstBit?) =
      layOut Prod.fst Prod.snd some 0 (sectionFields fields) := by
  rw [sectionPlacements, List.map_append, firstBits_bytes, firstBits_bits, sectionFields,
    layOut_append, sum_bits_bytes, Nat.zero_add]
  rfl

theorem firstBit?_slots {names : List String} {name : String} {placement : Placement}
    (placed : (name, placement) ∈ layOut id (fun _ => 1) Placement.slot 0 names) :
    placement.firstBit? = none := by
  rw [mem_layOut_iff] at placed
  obtain ⟨_, _, _, _, same⟩ := placed
  obtain ⟨_, rfl⟩ := Prod.mk.inj same
  rfl

theorem mem_sectionFields_iff {length : Nat} :
    (name, length) ∈ sectionFields fields ↔
      ∃ kind, (name, kind) ∈ fields ∧ kind.isFixedSize = true ∧ kind.bitLength = length := by
  simp only [sectionFields, List.mem_append, List.mem_map, Prod.mk.injEq]
  constructor
  · rintro (⟨⟨_, width⟩, stored, rfl, rfl⟩ | ⟨_, stored, rfl, rfl⟩)
    · obtain ⟨type, member, notBoolean, rfl⟩ := mem_byteFields_iff.1 stored
      refine ⟨_, member, rfl, ?_⟩
      cases type <;> first | rfl | contradiction
    · exact ⟨_, mem_bitFields_iff.1 stored, rfl, rfl⟩
  · rintro ⟨kind, member, fixed, rfl⟩
    obtain ⟨type, rfl⟩ : ∃ type, kind = .plain type := by
      cases kind with
      | plain type => exact ⟨type, rfl⟩
      | _ => cases fixed
    by_cases boolean : type = .boolean
    · subst boolean
      exact .inr ⟨name, mem_bitFields_iff.2 member, rfl, rfl⟩
    · refine .inl ⟨_, mem_byteFields_iff.2 ⟨type, member, boolean, rfl⟩, rfl, ?_⟩
      cases type <;> first | rfl | contradiction

/-! ## Alignment -/

/-- All widths are powers of two, so the smaller of two divides the larger. -/
theorem byteLength_dvd {wide narrow : Kind} (wideNumber : wide.isNumber = true)
    (narrowNumber : narrow.isNumber = true) (narrower : narrow.byteLength ≤ wide.byteLength) :
    narrow.byteLength ∣ wide.byteLength := by
  obtain ⟨first, rfl, _⟩ := isNumber_iff.1 wideNumber
  obtain ⟨second, rfl, _⟩ := isNumber_iff.1 narrowNumber
  revert narrower
  cases first <;> cases second <;> decide

/-- In storage order the width of a field divides the widths of those before it. -/
theorem pairwise_byteFields (fields : Entries String Kind) :
    (byteFields fields).Pairwise fun first second => second.2 ∣ first.2 := by
  rw [byteFields, List.pairwise_map]
  apply (pairwise_byteLength fields).imp_of_mem
  intro first second inFirst inSecond narrower
  exact byteLength_dvd (mem_numbersInOrder_iff.1 inFirst).2 (mem_numbersInOrder_iff.1 inSecond).2
    narrower

theorem dvd_totalWidth {stored : List (String × Nat)} {width : Nat}
    (divides : ∀ field ∈ stored, width ∣ field.2) : width ∣ totalWidth stored := by
  apply List.dvd_sum
  intro length listed
  obtain ⟨field, member, rfl⟩ := List.mem_map.1 listed
  exact divides field member

theorem aligned_of_split {before after : List (String × Nat)} {width : Nat}
    (split : byteFields fields = before ++ (name, width) :: after) : width ∣ totalWidth before := by
  have divides := pairwise_byteFields fields
  rw [split, List.pairwise_append] at divides
  exact dvd_totalWidth fun field member =>
    divides.2.2 field member (name, width) List.mem_cons_self

end Layout

namespace Schema

open Layout

variable {schema : Schema} {descriptor : Descriptor}

theorem mem_descriptors_iff :
    descriptor ∈ schema.descriptors ↔ (descriptor.name, descriptor.kind) ∈ schema.fields ∧
      descriptor.placement = schema.placement descriptor.name := by
  simp only [descriptors, List.mem_map]
  constructor
  · rintro ⟨field, member, rfl⟩
    exact ⟨member, rfl⟩
  · rintro ⟨member, placed⟩
    exact ⟨_, member, by rw [← placed]⟩

theorem descriptor_unique {other : Descriptor} (member : descriptor ∈ schema.descriptors)
    (again : other ∈ schema.descriptors) (sameName : descriptor.name = other.name) :
    descriptor = other := by
  obtain ⟨declared, placed⟩ := mem_descriptors_iff.1 member
  obtain ⟨declaredToo, placedToo⟩ := mem_descriptors_iff.1 again
  have sameKind : descriptor.kind = other.kind :=
    Layout.kind_unique (Entries.nodup_keys schema.ordered) declared (sameName ▸ declaredToo)
  have samePlacement : descriptor.placement = other.placement := by
    rw [placed, placedToo, sameName]
  cases descriptor
  cases other
  simp_all

theorem placed_of_mem (member : descriptor ∈ schema.descriptors) :
    (descriptor.name, descriptor.placement) ∈ placements schema.fields := by
  obtain ⟨declared, placed⟩ := mem_descriptors_iff.1 member
  rw [placed]
  exact placement_mem declared

theorem exists_descriptor_of_mem {name : String} {kind : Kind}
    (declared : (name, kind) ∈ schema.fields) :
    ∃ descriptor ∈ schema.descriptors, descriptor.name = name ∧ descriptor.kind = kind :=
  ⟨⟨name, kind, schema.placement name⟩, mem_descriptors_iff.2 ⟨declared, rfl⟩, rfl, rfl⟩

theorem occupies_iff (member : descriptor ∈ schema.descriptors) {position : Nat} :
    descriptor.Occupies position ↔
      Covers (sectionFields schema.fields) descriptor.name position := by
  obtain ⟨declared, placed⟩ := mem_descriptors_iff.1 member
  have length_eq : ∀ {length}, (descriptor.name, length) ∈ sectionFields schema.fields →
      descriptor.kind.bitLength = length := by
    intro length stored
    obtain ⟨kind, declaredToo, _, rfl⟩ := mem_sectionFields_iff.1 stored
    rw [kind_unique (Entries.nodup_keys schema.ordered) declared declaredToo]
  constructor
  · rintro ⟨first, isFirst, above, below⟩
    have inSection : (descriptor.name, descriptor.placement) ∈ sectionPlacements schema.fields := by
      rcases List.mem_append.1 (placed_of_mem member) with stored | slot
      · exact stored
      · cases (firstBit?_slots slot).symm.trans isFirst
    have laid : (descriptor.name, descriptor.placement.firstBit?) ∈
        layOut Prod.fst Prod.snd some 0 (sectionFields schema.fields) := by
      rw [← firstBits_placements]
      exact List.mem_map_of_mem inSection
    obtain ⟨before, item, after, split, same⟩ := (mem_layOut_iff _ _ _).1 laid
    obtain ⟨sameName, sameFirst⟩ := Prod.mk.inj same
    have stored : (descriptor.name, item.2) ∈ sectionFields schema.fields := by
      rw [split, sameName]
      exact List.mem_append_cons_self
    rw [isFirst, Nat.zero_add] at sameFirst
    obtain rfl := Option.some.inj sameFirst
    rw [length_eq stored] at below
    exact ⟨before, item.2, after, sameName ▸ split, above, below⟩
  · rintro ⟨before, length, after, split, above, below⟩
    have laid : (descriptor.name, some (before.map Prod.snd).sum) ∈
        layOut Prod.fst Prod.snd some 0 (sectionFields schema.fields) :=
      (mem_layOut_iff _ _ _).2 ⟨before, _, after, split, by rw [Nat.zero_add]⟩
    rw [← firstBits_placements] at laid
    obtain ⟨entry, inSection, same⟩ := List.mem_map.1 laid
    obtain ⟨sameName, isFirst⟩ := Prod.mk.inj same
    have stored : (descriptor.name, length) ∈ sectionFields schema.fields :=
      split ▸ List.mem_append_cons_self
    refine ⟨_, ?_, above, (length_eq stored).symm ▸ below⟩
    rw [placed, ← isFirst, ← placement_of_mem (List.mem_append_left _ inSection)]
    exact congrArg _ (congrArg _ sameName.symm)

theorem slot_iff (member : descriptor ∈ schema.descriptors) {index : Nat} :
    descriptor.placement = .slot index ↔
      (slotFields schema.fields)[index]? = some descriptor.name := by
  rw [← mem_placements_slot_iff]
  constructor
  · intro isSlot
    rw [← isSlot]
    exact placed_of_mem member
  · intro placed
    rw [(mem_descriptors_iff.1 member).2, placement_of_mem placed]

theorem suits_of_mem (member : descriptor ∈ schema.descriptors) :
    descriptor.placement.Suits descriptor.kind := by
  obtain ⟨declared, placed⟩ := mem_descriptors_iff.1 member
  cases fixed : descriptor.kind.isFixedSize with
  | false =>
      obtain ⟨index, found⟩ :=
        List.mem_iff_getElem?.1 (mem_slotFields_iff.2 ⟨_, declared, fixed⟩)
      rw [(slot_iff member).2 found]
      exact .slot fixed
  | true =>
      obtain ⟨type, isPlain⟩ : ∃ type, descriptor.kind = .plain type := by
        cases isKind : descriptor.kind with
        | plain type => exact ⟨type, rfl⟩
        | _ =>
            rw [isKind] at fixed
            cases fixed
      rw [isPlain] at declared ⊢
      rw [placed]
      by_cases boolean : type = .boolean
      · subst boolean
        obtain ⟨before, after, split⟩ := List.append_of_mem (mem_bitFields_iff.2 declared)
        rw [placement_of_bits split]
        exact .bit (Nat.mod_lt _ (by decide))
      · obtain ⟨before, after, split⟩ :=
          List.append_of_mem (mem_byteFields_iff.2 ⟨type, declared, boolean, rfl⟩)
        rw [placement_of_bytes split]
        exact .bytes boolean (aligned_of_split split)

/-- What holds of one name only holds of one field only. -/
theorem existsUnique_descriptor {property : Descriptor → Prop} {ofName : String → Prop}
    (same : ∀ descriptor ∈ schema.descriptors, property descriptor ↔ ofName descriptor.name)
    (declared : ∀ name, ofName name → ∃ kind, (name, kind) ∈ schema.fields)
    (once : ∃! name, ofName name) :
    ∃! descriptor, descriptor ∈ schema.descriptors ∧ property descriptor := by
  obtain ⟨name, holds, unique⟩ := once
  obtain ⟨kind, member⟩ := declared name holds
  obtain ⟨descriptor, listed, rfl, _⟩ := exists_descriptor_of_mem member
  refine ⟨descriptor, ⟨listed, (same descriptor listed).2 holds⟩, ?_⟩
  rintro other ⟨listedToo, holdsToo⟩
  exact descriptor_unique listedToo listed (unique _ ((same other listedToo).1 holdsToo))

/-- Bits are left over only behind a boolean. -/
theorem exists_last_bit (schema : Schema) (unused : (bitFields schema.fields).length ≠ 0) :
    ∃ descriptor ∈ schema.descriptors, descriptor.kind = .plain .boolean ∧
      descriptor.Occupies
        (8 * bytesLength schema.fields + (bitFields schema.fields).length - 1) := by
  obtain nothing | ⟨before, name, split⟩ := List.eq_nil_or_concat (bitFields schema.fields)
  · rw [nothing] at unused
    exact absurd rfl unused
  · have stored : name ∈ bitFields schema.fields := by
      rw [split, List.concat_eq_append]
      exact List.mem_append_right before List.mem_cons_self
    obtain ⟨descriptor, member, rfl, isBoolean⟩ :=
      exists_descriptor_of_mem (mem_bitFields_iff.1 stored)
    rw [List.concat_eq_append] at split
    refine ⟨descriptor, member, isBoolean, 8 * bytesLength schema.fields + before.length, ?_, ?_⟩
    · rw [(mem_descriptors_iff.1 member).2, placement_of_bits split, firstBit?_bitAt]
    · rw [split, isBoolean, List.length_append, List.length_singleton, Kind.bitLength]
      omega

/-- The placements of a schema are exact. Every field is placed in the form that its
kind has, numbers at multiples of their size. Of the fixed-size section every bit
belongs to exactly one field up to a point in the last byte; the rest is less than a
byte, belongs to no field and follows on a boolean. The slots are numbered without
gaps and none is given twice. -/
theorem layout_tiles (schema : Schema) :
    (∀ descriptor ∈ schema.descriptors, descriptor.placement.Suits descriptor.kind) ∧
    (∃ used, used ≤ 8 * schema.fixedLength ∧ 8 * schema.fixedLength < used + 8 ∧
      (∀ position < used,
        ∃! descriptor, descriptor ∈ schema.descriptors ∧ descriptor.Occupies position) ∧
      (∀ descriptor ∈ schema.descriptors, ∀ position,
        descriptor.Occupies position → position < used) ∧
      (used < 8 * schema.fixedLength → ∃ descriptor ∈ schema.descriptors,
        descriptor.kind = .plain .boolean ∧ descriptor.Occupies (used - 1))) ∧
    (∀ index < schema.slotCount,
      ∃! descriptor, descriptor ∈ schema.descriptors ∧ descriptor.placement = .slot index) ∧
    (∀ descriptor ∈ schema.descriptors, ∀ index,
      descriptor.placement = .slot index → index < schema.slotCount) := by
  have used_eq := sum_sectionFields schema.fields
  have length_eq : schema.fixedLength =
      bytesLength schema.fields + ((bitFields schema.fields).length + 7) / 8 :=
    schema.fixedLength_eq
  refine ⟨fun _ member => suits_of_mem member,
    ⟨((sectionFields schema.fields).map Prod.snd).sum, by omega, by omega, ?_, ?_, ?_⟩, ?_, ?_⟩
  · intro position inside
    refine existsUnique_descriptor (fun _ member => occupies_iff member) ?_
      (existsUnique_covers inside)
    rintro name ⟨before, length, after, split, _⟩
    have stored : (name, length) ∈ sectionFields schema.fields :=
      split ▸ List.mem_append_cons_self
    obtain ⟨kind, member, _⟩ := mem_sectionFields_iff.1 stored
    exact ⟨kind, member⟩
  · intro descriptor member position occupied
    exact ((occupies_iff member).1 occupied).lt_sum
  · intro unused
    rw [used_eq]
    exact schema.exists_last_bit (by omega)
  · intro index below
    rw [schema.slotCount_eq] at below
    have given : (slotFields schema.fields)[index]? = some (slotFields schema.fields)[index] :=
      List.getElem?_eq_getElem below
    have once : ∃! name, (slotFields schema.fields)[index]? = some name :=
      ⟨_, given, fun name found => Option.some.inj (found.symm.trans given)⟩
    refine existsUnique_descriptor (fun _ member => slot_iff member) ?_ once
    intro name found
    obtain ⟨kind, member, _⟩ := mem_slotFields_iff.1 (List.mem_of_getElem? found)
    exact ⟨kind, member⟩
  · intro descriptor member index isSlot
    rw [schema.slotCount_eq]
    exact (List.getElem?_eq_some_iff.1 ((slot_iff member).1 isSlot)).1

end Schema

end CompactSchema
