import CompactSchema.Proofs.Fingerprint.Stream
import CompactSchema.Proofs.Record.Building

/-!
Contract: a change to a schema within eight bytes of its stream changes the id.

What stands before the change brings both registers to the same state, eight bytes
fit a register without loss, and absorbing what stands after them loses nothing. The
kind of a field is four bytes of the stream, so a field can not change its kind
without a change of the id.

Owns: which changes of a stream the fingerprint is sure to show.

Does not own: changes of the length of the stream, or in distant places of it, which
can collide.
-/

set_option autoImplicit false

namespace CompactSchema

namespace Kind

theorem id_injective : Function.Injective id := by
  intro first second same
  have distinct : (catalogue.map id).Nodup := by decide
  exact List.inj_on_of_nodup_map distinct first.mem_catalogue second.mem_catalogue same

theorem id_lt (kind : Kind) : kind.id < 2 ^ 32 := by
  have bounded : ∀ kind ∈ catalogue, kind.id < 2 ^ 32 := by decide
  exact bounded kind kind.mem_catalogue

end Kind

namespace Fingerprint

/-! ## Windows of a stream -/

/-- Streams agree everywhere but in eight bytes in a row. -/
def AgreeOutside (start : Nat) (first second : List UInt8) : Prop :=
  ∀ index, index < start ∨ start + 8 ≤ index → first[index]? = second[index]?

theorem agreeOutside_iff {start : Nat} {first second : List UInt8} :
    AgreeOutside start first second ↔
      first.take start = second.take start ∧ first.drop (start + 8) = second.drop (start + 8) := by
  constructor
  · intro agree
    constructor
    · apply List.ext_getElem?
      intro index
      by_cases inside : index < start
      · rw [List.getElem?_take_of_lt inside, List.getElem?_take_of_lt inside]
        exact agree index (.inl inside)
      · rw [List.getElem?_take_eq_none (by omega), List.getElem?_take_eq_none (by omega)]
    · apply List.ext_getElem?
      intro index
      rw [List.getElem?_drop, List.getElem?_drop]
      exact agree _ (.inr (by omega))
  · rintro ⟨sameBefore, sameAfter⟩ index (inside | beyond)
    · rw [← List.getElem?_take_of_lt inside, sameBefore, List.getElem?_take_of_lt inside]
    · obtain ⟨later, rfl⟩ := Nat.exists_eq_add_of_le beyond
      rw [← List.getElem?_drop, sameAfter, List.getElem?_drop]

theorem split_window (start : Nat) (bytes : List UInt8) :
    bytes = bytes.take start ++ (bytes.drop start).take 8 ++ bytes.drop (start + 8) := by
  rw [← List.drop_drop, List.append_assoc, List.take_append_drop, List.take_append_drop]

namespace Rabin

theorem fingerprint_ne {window other : List UInt8} (sameLength : window.length = other.length)
    (short : window.length ≤ 8) (different : window ≠ other) (before after : List UInt8) :
    fingerprint (before ++ window ++ after) ≠ fingerprint (before ++ other ++ after) := by
  intro same
  have otherShort : other.length ≤ 8 := sameLength ▸ short
  simp only [fingerprint, List.foldl_append] at same
  have sameWindow := foldl_absorb_injective after same
  generalize before.foldl absorb polynomial = register at sameWindow
  rw [foldl_absorb short, foldl_absorb otherShort, ← sameLength] at sameWindow
  have sameWord : word window = word other :=
    (BitVec.xor_right_inj _).1 (shifts_injective _ sameWindow)
  exact different (word_injective sameLength short sameWord)

theorem fingerprint_ne_of_agreeOutside {start : Nat} {first second : List UInt8}
    (sameLength : first.length = second.length) (different : first ≠ second)
    (agree : AgreeOutside start first second) : fingerprint first ≠ fingerprint second := by
  obtain ⟨sameBefore, sameAfter⟩ := agreeOutside_iff.1 agree
  have differentWindow : (first.drop start).take 8 ≠ (second.drop start).take 8 := by
    intro same
    apply different
    rw [split_window start first, sameBefore, same, sameAfter, ← split_window]
  rw [split_window start first, split_window start second, sameBefore, sameAfter]
  apply fingerprint_ne _ (List.length_take_le _ _) differentWindow
  rw [List.length_take, List.length_take, List.length_drop, List.length_drop, sameLength]

end Rabin

theorem compute_ne_iff {typeName otherName : String} {fields others : List (String × Kind)} :
    compute typeName fields ≠ compute otherName others ↔
      Rabin.fingerprint (stream typeName fields) ≠ Rabin.fingerprint (stream otherName others) := by
  rw [← compute_toBitVec, ← compute_toBitVec, Ne, Ne, Int64.toBitVec_inj]

/-! ## The kind of a field in the stream -/

theorem length_numberStream (number : Nat) : (numberStream number).length = 4 := by
  rw [numberStream, List.length_map, List.length_range]

theorem numberStream_injective {first second : Nat} (firstFits : first < 2 ^ 32)
    (secondFits : second < 2 ^ 32) (same : numberStream first = numberStream second) :
    first = second := by
  have byte : ∀ place < 4, first % 2 ^ 32 / 256 ^ place % 256 =
      second % 2 ^ 32 / 256 ^ place % 256 := by
    intro place inside
    exact UInt8.toNat_inj.2 (List.map_inj_left.1 same place (List.mem_range.2 inside))
  have lowest := byte 0 (by decide)
  have lower := byte 1 (by decide)
  have higher := byte 2 (by decide)
  have highest := byte 3 (by decide)
  omega

theorem stream_append (typeName name : String) (kind : Kind)
    (before after : List (String × Kind)) :
    stream typeName (before ++ (name, kind) :: after) =
      (textStream typeName ++ numberStream (before.length + after.length + 1) ++
          before.flatMap fieldStream ++ textStream name) ++
        numberStream kind.id ++ after.flatMap fieldStream := by
  simp [stream, fieldStream, Nat.add_assoc]

theorem compute_ne_of_kind_ne {first second : Kind} (different : first ≠ second)
    (typeName name : String) (before after : List (String × Kind)) :
    compute typeName (before ++ (name, first) :: after) ≠
      compute typeName (before ++ (name, second) :: after) := by
  rw [compute_ne_iff, stream_append, stream_append]
  apply Rabin.fingerprint_ne
  · rw [length_numberStream, length_numberStream]
  · rw [length_numberStream]
    decide
  · intro same
    exact different (Kind.id_injective (numberStream_injective first.id_lt second.id_lt same))

end Fingerprint

/-! ## Declaring a field with another kind -/

/-- The descriptor with another kind, if it is the field of the given name. -/
def Descriptor.retype (name : String) (kind : Kind) (descriptor : Descriptor) : Descriptor :=
  if descriptor.name = name then { descriptor with kind } else descriptor

namespace Schema

/-- The bytes of which the id is the fingerprint. -/
def stream (schema : Schema) : List UInt8 := Fingerprint.stream schema.typeName schema.fields

variable {schema : Schema} {name : String} {old kind : Kind}

theorem map_retype (schema : Schema) (name : String) (kind : Kind) :
    (schema.descriptors.map (Descriptor.retype name kind)).map
        (fun descriptor => (descriptor.name, descriptor.kind)) =
      schema.fields.map fun field => (field.1, if field.1 = name then kind else field.2) := by
  rw [descriptors, List.map_map, List.map_map]
  apply List.map_congr_left
  intro field _
  rw [Function.comp_apply, Function.comp_apply, Descriptor.retype]
  split <;> rfl

theorem map_retype_of_split {before after : Entries String Kind}
    (split : schema.fields = before ++ (name, old) :: after) :
    (schema.descriptors.map (Descriptor.retype name kind)).map
        (fun descriptor => (descriptor.name, descriptor.kind)) =
      before ++ (name, kind) :: after := by
  have distinct := Entries.nodup_keys schema.ordered
  rw [split, Entries.keys, List.map_append, List.map_cons, List.nodup_middle,
    ← List.map_append] at distinct
  have kept : ∀ fields ⊆ before ++ after,
      fields.map (fun field => (field.1, if field.1 = name then kind else field.2)) = fields := by
    intro fields listed
    apply (List.map_congr_left _).trans (List.map_id fields)
    intro field member
    have other : field.1 ≠ name := fun same =>
      (List.nodup_cons.1 distinct).1 (List.mem_map.2 ⟨field, listed member, same⟩)
    rw [if_neg other, id_eq]
  rw [map_retype, split, List.map_append, List.map_cons, if_pos rfl,
    kept before (List.subset_append_left before after),
    kept after (List.subset_append_right before after)]

/-- A field can be declared with any other kind, and nothing else changes. -/
theorem declare_retype (declared : schema.kind? name = some old)
    (available : kind ≠ .notAvailable) :
    ∃ before after, schema.fields = before ++ (name, old) :: after ∧
      ∃ retyped, declare schema.typeName (schema.descriptors.map (Descriptor.retype name kind)) =
        .ok retyped ∧ retyped.typeName = schema.typeName ∧
        retyped.fields = before ++ (name, kind) :: after := by
  obtain ⟨before, after, split⟩ := List.append_of_mem (kind?_eq_some_iff.1 declared)
  have ordered := schema.ordered
  have wasAvailable := schema.available
  rw [split, Entries.Ordered, Entries.keys, List.map_append, List.map_cons] at ordered
  rw [split, List.forall_mem_append, List.forall_mem_cons] at wasAvailable
  refine ⟨before, after, split,
    declare_of_ordered schema.named (map_retype_of_split split) ?_ ?_⟩
  · rw [Entries.Ordered, Entries.keys, List.map_append, List.map_cons]
    exact ordered
  · rw [List.forall_mem_append, List.forall_mem_cons]
    exact ⟨wasAvailable.1, available, wasAvailable.2.2⟩

/-! ## Local changes -/

/-- A change within eight bytes of the stream changes the id. The kind of a field is
four bytes of it: whatever field is declared with another kind, the schema is still
valid and its id is another. -/
theorem id_ne_of_local_change :
    (∀ (first second : Schema) (start : Nat), first.stream.length = second.stream.length →
      first.stream ≠ second.stream →
      Fingerprint.AgreeOutside start first.stream second.stream → first.id ≠ second.id) ∧
    (∀ (schema : Schema) (name : String) (old kind : Kind), schema.kind? name = some old →
      kind ≠ old → kind ≠ .notAvailable →
      ∃ retyped, declare schema.typeName
        (schema.descriptors.map (Descriptor.retype name kind)) = .ok retyped ∧
          retyped.id ≠ schema.id) := by
  constructor
  · intro first second start sameLength different agree
    exact Fingerprint.compute_ne_iff.2
      (Fingerprint.Rabin.fingerprint_ne_of_agreeOutside sameLength different agree)
  · intro schema name old kind declared different available
    obtain ⟨before, after, split, retyped, succeeded, sameName, fields⟩ :=
      declare_retype declared available
    refine ⟨retyped, succeeded, ?_⟩
    rw [id, id, sameName, split, fields]
    exact Fingerprint.compute_ne_of_kind_ne different _ _ _ _

theorem id_ne_of_local_change_point :
    let point := (Record.point 3 4 .null).schema
    let joint : Schema := { point with typeName := "Joint", named := by decide }
    (Fingerprint.AgreeOutside 4 point.stream joint.stream ∧ point.id ≠ joint.id) ∧
      point.kind? "x" = some (.plain .int32) ∧
      ∃ retyped, declare "Point"
        (point.descriptors.map (Descriptor.retype "x" (.plain .int64))) = .ok retyped ∧
          retyped.id ≠ point.id := by
  intro point joint
  have agree : Fingerprint.AgreeOutside 4 point.stream joint.stream :=
    Fingerprint.agreeOutside_iff.2 ⟨by decide, by decide⟩
  have declared : point.kind? "x" = some (.plain .int32) := rfl
  exact ⟨⟨agree, id_ne_of_local_change.1 point joint 4 (by decide) (by decide) agree⟩, declared,
    id_ne_of_local_change.2 point "x" _ (.plain .int64) declared (by decide) (by decide)⟩

end Schema

end CompactSchema
