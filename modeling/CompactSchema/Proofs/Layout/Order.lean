import CompactSchema.Proofs.Layout.Positions
import CompactSchema.Proofs.Schema.Declaration

/-!
Contract: the placement of a field, computed from the fields that were declared.

Fields come in name order and the sort by width is stable, so the storage order is a
strict order, and what stands before a field is what belongs before it: for a number the
wider ones and those of its width with a smaller name, for a boolean or a variable-size
field those of its own sort with a smaller name. Sums and counts do not depend on the
order in which fields are given, so they can be taken over the declaration as it stands.

Owns: the offset, bit and slot of every field as a sum or a count over a declaration, and
that one sort of field is laid out without regard to the others.

Does not own: that the placements do not overlap, see `Proofs.Layout.Tiling`.
-/

set_option autoImplicit false

namespace CompactSchema

universe u

/-! ## Sums and counts over declared fields -/

namespace Layout

/-- The bytes that the numbers among fields take together. -/
def numberBytes (fields : List (String × Kind)) : Nat :=
  ((fields.filter fun field => field.2.isNumber).map fun field => field.2.byteLength).sum

/-- A field is wider than another, or it is as wide and has the smaller name. -/
def StoredBefore (field other : String × Kind) : Prop :=
  other.2.byteLength < field.2.byteLength ∨
    (field.2.byteLength = other.2.byteLength ∧ field.1 < other.1)

instance (field other : String × Kind) : Decidable (StoredBefore field other) :=
  inferInstanceAs (Decidable (_ ∨ _))

/-- The booleans among fields. -/
def booleanCount (fields : List (String × Kind)) : Nat :=
  fields.countP fun field => field.2 = .plain .boolean

/-- The booleans with a smaller name. -/
def booleansBefore (fields : List (String × Kind)) (name : String) : Nat :=
  booleanCount (fields.filter fun field => field.1 < name)

/-- The variable-size fields among fields. -/
def variableCount (fields : List (String × Kind)) : Nat :=
  fields.countP fun field => !field.2.isFixedSize

/-- The variable-size fields with a smaller name. -/
def variablesBefore (fields : List (String × Kind)) (name : String) : Nat :=
  variableCount (fields.filter fun field => field.1 < name)

/-! ## What stands before an item of a sorted list -/

section

variable {β : Type u} {precedes : β → β → Prop} [DecidableRel precedes]

/-- In a sorted list the items before an item are those that belong before it. -/
theorem filter_of_sorted
    (asymmetric : ∀ first second, precedes first second → ¬ precedes second first)
    {before after : List β} {item : β} (sorted : (before ++ item :: after).Pairwise precedes) :
    (before ++ item :: after).filter (fun other => precedes other item) = before := by
  rw [List.pairwise_append, List.pairwise_cons] at sorted
  obtain ⟨_, ⟨itemFirst, _⟩, beforeFirst⟩ := sorted
  have kept : before.filter (fun other => precedes other item) = before := by
    apply List.filter_eq_self.2
    intro other member
    exact decide_eq_true (beforeFirst other member item List.mem_cons_self)
  have dropped : (item :: after).filter (fun other => precedes other item) = [] := by
    apply List.filter_eq_nil_iff.2
    intro other member
    rw [decide_eq_true_eq]
    rcases List.mem_cons.1 member with rfl | later
    · exact fun below => asymmetric other other below below
    · exact asymmetric item other (itemFirst other later)
  rw [List.filter_append, kept, dropped, List.append_nil]

end

/-! ## Storage order -/

section

variable {fields : Entries String Kind} {field : String × Kind}

theorem pairwise_name_lt (ordered : Entries.Ordered fields) :
    fields.Pairwise fun first second => first.1 < second.1 :=
  List.pairwise_map.1 (Entries.pairwise_keys_lt ordered)

theorem totalWidth_map (stored : Entries String Kind) :
    totalWidth (stored.map fun field => (field.1, field.2.byteLength)) =
      (stored.map fun field => field.2.byteLength).sum := by
  rw [totalWidth, List.map_map]
  rfl

theorem StoredBefore.asymmetric (first second : String × Kind)
    (before : StoredBefore first second) : ¬ StoredBefore second first := by
  unfold StoredBefore at before ⊢
  intro after
  rcases before with wider | ⟨asWide, smaller⟩
  · omega
  · rcases after with wider | ⟨_, larger⟩
    · omega
    · exact String.lt_asymm smaller larger

/-- The sort looks at the widths alone, and orders the names by being stable. -/
theorem pairwise_numbersInOrder (ordered : Entries.Ordered fields) :
    (numbersInOrder fields).Pairwise StoredBefore := by
  rw [List.pairwise_iff_forall_sublist]
  intro first second inOrder
  have narrower : second.2.byteLength ≤ first.2.byteLength :=
    List.rel_of_pairwise_cons ((pairwise_byteLength fields).sublist inOrder) List.mem_cons_self
  rcases Nat.lt_or_eq_of_le narrower with wider | asWide
  · exact .inl wider
  -- Two numbers of one width stand as they do in the list of that width.
  · have ofWidth := inOrder.filter fun field => field.2.byteLength = first.2.byteLength
    rw [filter_numbersInOrder] at ofWidth
    have sorted := (((pairwise_name_lt ordered).filter _).filter _).sublist ofWidth
    simp only [asWide, List.filter_cons, decide_true, if_true, List.filter_nil] at sorted
    exact .inr ⟨asWide.symm, List.rel_of_pairwise_cons sorted List.mem_cons_self⟩

theorem bytesLength_eq (fields : Entries String Kind) :
    bytesLength fields = numberBytes fields := by
  unfold bytesLength numberBytes
  rw [byteFields, totalWidth_map]
  exact ((perm_numbersInOrder fields).map _).sum_nat

theorem totalWidth_before (ordered : Entries.Ordered fields)
    {before after : Entries String Kind}
    (split : numbersInOrder fields = before ++ field :: after) :
    totalWidth (before.map fun field => (field.1, field.2.byteLength)) =
      numberBytes (fields.filter fun other => StoredBefore other field) := by
  have sorted := pairwise_numbersInOrder ordered
  rw [split] at sorted
  have isBefore := filter_of_sorted StoredBefore.asymmetric sorted
  rw [← split] at isBefore
  unfold numberBytes
  rw [totalWidth_map, ← isBefore, List.filter_comm]
  exact (((perm_numbersInOrder fields).filter _).map _).sum_nat

/-! ## Name order -/

/-- Among the names of the fields of one sort, in order, the place of a name is the number
of such fields with a smaller name. -/
theorem length_before (ordered : Entries.Ordered fields) {test : String × Kind → Bool}
    {name : String} {before after : List String}
    (split : Entries.keys (fields.filter test) = before ++ name :: after) :
    before.length = (fields.filter fun field => field.1 < name).countP test := by
  have sorted : (Entries.keys (fields.filter test)).Pairwise (· < ·) :=
    List.pairwise_map.2 ((pairwise_name_lt ordered).filter test)
  rw [split] at sorted
  have isBefore := filter_of_sorted (fun _ _ => String.lt_asymm) sorted
  rw [← split] at isBefore
  rw [← isBefore, List.countP_eq_length_filter, List.filter_comm, Entries.keys,
    List.filter_map, List.length_map]
  rfl

theorem length_bitFields (fields : Entries String Kind) :
    (bitFields fields).length = booleanCount fields := by
  rw [bitFields, Entries.keys, List.length_map, booleanCount, List.countP_eq_length_filter]

theorem length_slotFields (fields : Entries String Kind) :
    (slotFields fields).length = variableCount fields := by
  rw [slotFields, Entries.keys, List.length_map, variableCount, List.countP_eq_length_filter]

end

/-! ## The order in which fields are given -/

section

variable {fields others : List (String × Kind)}

theorem numberBytes_eq_of_perm (same : fields.Perm others) :
    numberBytes fields = numberBytes others :=
  ((same.filter _).map _).sum_nat

theorem booleansBefore_eq_of_perm (same : fields.Perm others) (name : String) :
    booleansBefore fields name = booleansBefore others name :=
  (same.filter _).countP_eq _

theorem variablesBefore_eq_of_perm (same : fields.Perm others) (name : String) :
    variablesBefore fields name = variablesBefore others name :=
  (same.filter _).countP_eq _

/-! ## The fields of one sort -/

theorem numberBytes_filter_eq
    (same : (fields.filter fun field => field.2.isNumber) =
      others.filter fun field => field.2.isNumber) (test : String × Kind → Bool) :
    numberBytes (fields.filter test) = numberBytes (others.filter test) := by
  unfold numberBytes
  rw [List.filter_comm, same, List.filter_comm]

theorem booleansBefore_eq
    (same : (fields.filter fun field => decide (field.2 = .plain .boolean)) =
      others.filter fun field => decide (field.2 = .plain .boolean)) (name : String) :
    booleansBefore fields name = booleansBefore others name := by
  unfold booleansBefore booleanCount
  rw [List.countP_eq_length_filter, List.filter_comm, same, List.filter_comm,
    ← List.countP_eq_length_filter]

end

end Layout

/-! ## The placement of every field -/

namespace Schema

open Layout

/-- Every placement in a schema is what the given fields add up to. -/
structure LaidOutBy (schema : Schema) (fields : List (String × Kind)) : Prop where
  /-- A number lies behind the numbers that are wider, or as wide with a smaller name. -/
  number : ∀ field ∈ fields, field.2.isNumber = true →
    schema.descriptor? field.1 = some ⟨field.1, field.2,
      .bytes (numberBytes (fields.filter fun other => StoredBefore other field))⟩
  /-- A boolean is the bit behind the numbers that its place among the booleans says. -/
  boolean : ∀ field ∈ fields, field.2 = .plain .boolean →
    schema.descriptor? field.1 = some ⟨field.1, field.2,
      .bit (numberBytes fields + booleansBefore fields field.1 / 8)
        (booleansBefore fields field.1 % 8)⟩
  /-- A variable-size field has the slot that its place among its like says. -/
  slot : ∀ field ∈ fields, field.2.isFixedSize = false →
    schema.descriptor? field.1 = some ⟨field.1, field.2, .slot (variablesBefore fields field.1)⟩
  /-- The section is as long as the numbers, and as many bytes as the booleans need. -/
  fixedLength : schema.fixedLength = numberBytes fields + (booleanCount fields + 7) / 8
  slotCount : schema.slotCount = variableCount fields

variable {schema : Schema} {field : String × Kind}

theorem descriptor?_of_mem (member : field ∈ schema.fields) :
    schema.descriptor? field.1 = some ⟨field.1, field.2, schema.placement field.1⟩ := by
  have declared : schema.kind? field.1 = some field.2 :=
    (Entries.find?_eq_some_iff schema.ordered).2 member
  rw [descriptor?, declared]
  rfl

theorem placement_of_number (member : field ∈ schema.fields) (number : field.2.isNumber = true) :
    schema.placement field.1 =
      .bytes (numberBytes (schema.fields.filter fun other => StoredBefore other field)) := by
  obtain ⟨before, after, split⟩ :=
    List.append_of_mem (mem_numbersInOrder_iff.2 ⟨member, number⟩)
  rw [← totalWidth_before schema.ordered split]
  apply placement_of_bytes
  rw [byteFields, split, List.map_append, List.map_cons]

theorem placement_of_boolean (member : field ∈ schema.fields)
    (boolean : field.2 = .plain .boolean) :
    schema.placement field.1 =
      .bit (numberBytes schema.fields + booleansBefore schema.fields field.1 / 8)
        (booleansBefore schema.fields field.1 % 8) := by
  have listed : field.1 ∈ bitFields schema.fields := by
    rw [mem_bitFields_iff, ← boolean]
    exact member
  obtain ⟨before, after, split⟩ := List.append_of_mem listed
  rw [placement_of_bits split, bitAt, bytesLength_eq, booleansBefore, booleanCount,
    ← length_before schema.ordered split]

theorem placement_of_variable (member : field ∈ schema.fields)
    (variableSize : field.2.isFixedSize = false) :
    schema.placement field.1 = .slot (variablesBefore schema.fields field.1) := by
  obtain ⟨before, after, split⟩ :=
    List.append_of_mem (mem_slotFields_iff.2 ⟨field.2, member, variableSize⟩)
  rw [variablesBefore, variableCount, ← length_before schema.ordered split]
  apply placement_of_mem
  rw [mem_placements_slot_iff, split]
  simp

theorem laidOutBy_of_perm {fields : List (String × Kind)} (same : fields.Perm schema.fields) :
    schema.LaidOutBy fields where
  number := by
    intro field given number
    have member := same.mem_iff.1 given
    rw [descriptor?_of_mem member, placement_of_number member number,
      numberBytes_eq_of_perm (same.filter _)]
  boolean := by
    intro field given boolean
    have member := same.mem_iff.1 given
    rw [descriptor?_of_mem member, placement_of_boolean member boolean,
      numberBytes_eq_of_perm same, booleansBefore_eq_of_perm same]
  slot := by
    intro field given variableSize
    have member := same.mem_iff.1 given
    rw [descriptor?_of_mem member, placement_of_variable member variableSize,
      variablesBefore_eq_of_perm same]
  fixedLength := by
    rw [schema.fixedLength_eq, sectionLength, bytesLength_eq, length_bitFields,
      numberBytes_eq_of_perm same, booleanCount, booleanCount, same.countP_eq]
  slotCount := by
    rw [schema.slotCount_eq, length_slotFields, variableCount, variableCount, same.countP_eq]

/-! ## One sort of field without regard to the others -/

variable {other : Schema}

theorem filter_fields_eq {test : String × Kind → Bool}
    (same : ∀ field, test field = true → (field ∈ schema.fields ↔ field ∈ other.fields)) :
    schema.fields.filter test = other.fields.filter test := by
  apply Entries.eq_of_ascending Prod.fst
  · exact (List.pairwise_map.1 schema.ordered).filter test
  · exact (List.pairwise_map.1 other.ordered).filter test
  · intro field
    rw [List.mem_filter, List.mem_filter]
    exact and_congr_left (same field)

theorem filter_isNumber_eq
    (same : ∀ field, field.2.isFixedSize = true → (field ∈ schema.fields ↔ field ∈ other.fields)) :
    (schema.fields.filter fun field => field.2.isNumber) =
      other.fields.filter fun field => field.2.isNumber := by
  apply filter_fields_eq
  intro field number
  exact same field (Bool.and_eq_true_iff.1 number).1

theorem filter_boolean_eq
    (same : ∀ field, field.2.isFixedSize = true → (field ∈ schema.fields ↔ field ∈ other.fields)) :
    (schema.fields.filter fun field => decide (field.2 = .plain .boolean)) =
      other.fields.filter fun field => decide (field.2 = .plain .boolean) := by
  apply filter_fields_eq
  intro field boolean
  apply same field
  rw [of_decide_eq_true boolean]
  rfl

theorem numberBytes_fields_eq
    (same : ∀ field, field.2.isFixedSize = true → (field ∈ schema.fields ↔ field ∈ other.fields)) :
    numberBytes schema.fields = numberBytes other.fields := by
  unfold numberBytes
  rw [filter_isNumber_eq same]

theorem descriptor?_eq_of_fixedSize
    (same : ∀ field, field.2.isFixedSize = true → (field ∈ schema.fields ↔ field ∈ other.fields))
    (member : field ∈ schema.fields) (fixed : field.2.isFixedSize = true) :
    schema.descriptor? field.1 = other.descriptor? field.1 := by
  have memberToo := (same field fixed).1 member
  rw [descriptor?_of_mem member, descriptor?_of_mem memberToo]
  by_cases boolean : field.2 = .plain .boolean
  · rw [placement_of_boolean member boolean, placement_of_boolean memberToo boolean,
      numberBytes_fields_eq same, booleansBefore_eq (filter_boolean_eq same)]
  · have number : field.2.isNumber = true := by simp [Kind.isNumber, fixed, boolean]
    rw [placement_of_number member number, placement_of_number memberToo number,
      numberBytes_filter_eq (filter_isNumber_eq same)]

theorem fixedLength_eq_of_fixedSize
    (same : ∀ field, field.2.isFixedSize = true → (field ∈ schema.fields ↔ field ∈ other.fields)) :
    schema.fixedLength = other.fixedLength := by
  rw [(laidOutBy_of_perm (.refl schema.fields)).fixedLength,
    (laidOutBy_of_perm (.refl other.fields)).fixedLength, numberBytes_fields_eq same,
    booleanCount, booleanCount, List.countP_eq_length_filter, List.countP_eq_length_filter,
    filter_boolean_eq same]

theorem slotFields_eq
    (same : ∀ name, name ∈ slotFields schema.fields ↔ name ∈ slotFields other.fields) :
    slotFields schema.fields = slotFields other.fields := by
  apply Entries.keys_eq_of_mem_iff _ _ same
  · exact schema.ordered.sublist (List.filter_sublist.map Prod.fst)
  · exact other.ordered.sublist (List.filter_sublist.map Prod.fst)

theorem placement_eq_of_variableSize
    (same : ∀ name, name ∈ slotFields schema.fields ↔ name ∈ slotFields other.fields)
    {name : String} (variableSize : name ∈ slotFields schema.fields) :
    schema.placement name = other.placement name := by
  obtain ⟨index, found⟩ := List.mem_iff_getElem?.1 variableSize
  have foundToo := found
  rw [slotFields_eq same] at foundToo
  rw [placement_of_mem (mem_placements_slot_iff.2 found),
    placement_of_mem (mem_placements_slot_iff.2 foundToo)]

/-- Every field of a declared schema lies where the declared fields say, in whatever order
and with whatever placements they were handed over: a number behind all wider ones and
those of its width with a smaller name, a boolean at the bit and a variable-size field at
the slot that its place among its like says. So the fixed-size fields alone say where they
lie, and so do the names of the variable-size fields. -/
theorem placements_follow_order :
    (∀ {typeName : String} {descriptors : List Descriptor} {schema : Schema},
      declare typeName descriptors = .ok schema →
        schema.LaidOutBy (descriptors.map Descriptor.field)) ∧
    (∀ {schema other : Schema},
      (∀ field, field.2.isFixedSize = true →
        (field ∈ schema.fields ↔ field ∈ other.fields)) →
      (∀ field ∈ schema.fields, field.2.isFixedSize = true →
        schema.descriptor? field.1 = other.descriptor? field.1) ∧
      schema.fixedLength = other.fixedLength) ∧
    (∀ {schema other : Schema},
      (∀ name, (∃ kind, (name, kind) ∈ schema.fields ∧ kind.isFixedSize = false) ↔
        ∃ kind, (name, kind) ∈ other.fields ∧ kind.isFixedSize = false) →
      (∀ field ∈ schema.fields, field.2.isFixedSize = false →
        schema.placement field.1 = other.placement field.1) ∧
      schema.slotCount = other.slotCount) := by
  refine ⟨?_, ?_, ?_⟩
  · intro typeName descriptors schema declared
    exact laidOutBy_of_perm (declare_eq_ok_iff.1 declared).2
  · intro schema other same
    exact ⟨fun field member fixed => descriptor?_eq_of_fixedSize same member fixed,
      fixedLength_eq_of_fixedSize same⟩
  · intro schema other same
    have sameNames : ∀ name,
        name ∈ slotFields schema.fields ↔ name ∈ slotFields other.fields := by
      intro name
      rw [mem_slotFields_iff, mem_slotFields_iff]
      exact same name
    constructor
    · intro field member variableSize
      exact placement_eq_of_variableSize sameNames
        (mem_slotFields_iff.2 ⟨field.2, member, variableSize⟩)
    · rw [schema.slotCount_eq, other.slotCount_eq, slotFields_eq sameNames]

/-- Fields of every sort, out of order and with placements from elsewhere. -/
def mixed (text : Varying) : List Descriptor :=
  [⟨"g", .varying text, .bytes 3⟩, ⟨"e", .plain .boolean, .slot 0⟩, ⟨"a", .plain .int8, .bytes 0⟩,
    ⟨"d", .plain .boolean, .bit 9 9⟩, ⟨"f", .nullable .int32, .unassigned⟩,
    ⟨"c", .plain .int32, .bytes 0⟩, ⟨"b", .plain .int64, .unassigned⟩]

theorem placements_follow_order_mixed :
    ∃ schema other : Schema,
      declare "Mixed" (mixed .string) = .ok schema ∧ declare "Other" (mixed .date) = .ok other ∧
      schema.descriptor? "a" = some ⟨"a", .plain .int8, .bytes 12⟩ ∧
      schema.descriptor? "e" = some ⟨"e", .plain .boolean, .bit 13 1⟩ ∧
      schema.descriptor? "g" = some ⟨"g", .varying .string, .slot 1⟩ ∧
      schema.fixedLength = 14 ∧ schema.slotCount = 2 ∧
      schema.descriptor? "e" = other.descriptor? "e" ∧
      schema.placement "g" = other.placement "g" := by
  obtain ⟨ofDeclared, ofFixedSize, ofVariableSize⟩ := placements_follow_order
  obtain ⟨schema, declared, fields⟩ : ∃ schema : Schema,
      declare "Mixed" (mixed .string) = .ok schema ∧ schema.fields = [("a", .plain .int8),
        ("b", .plain .int64), ("c", .plain .int32), ("d", .plain .boolean),
        ("e", .plain .boolean), ("f", .nullable .int32), ("g", .varying .string)] :=
    ⟨_, rfl, rfl⟩
  obtain ⟨other, declaredToo, fieldsToo⟩ : ∃ schema : Schema,
      declare "Other" (mixed .date) = .ok schema ∧ schema.fields = [("a", .plain .int8),
        ("b", .plain .int64), ("c", .plain .int32), ("d", .plain .boolean),
        ("e", .plain .boolean), ("f", .nullable .int32), ("g", .varying .date)] :=
    ⟨_, rfl, rfl⟩
  have laidOut := ofDeclared declared
  have sameFixedSize : ∀ field, field.2.isFixedSize = true →
      (field ∈ schema.fields ↔ field ∈ other.fields) := by
    rintro ⟨name, kind⟩ fixed
    cases kind with
    | plain type => simp [fields, fieldsToo]
    | _ => cases fixed
  have sameVariable : ∀ name,
      (∃ kind, (name, kind) ∈ schema.fields ∧ kind.isFixedSize = false) ↔
        ∃ kind, (name, kind) ∈ other.fields ∧ kind.isFixedSize = false := by
    intro name
    rw [← mem_slotFields_iff, ← mem_slotFields_iff, fields, fieldsToo]
    exact Iff.rfl
  refine ⟨schema, other, declared, declaredToo, ?_, ?_, ?_, ?_, ?_, ?_, ?_⟩
  · exact laidOut.number ("a", .plain .int8) (by decide) rfl
  · exact laidOut.boolean ("e", .plain .boolean) (by decide) rfl
  · exact laidOut.slot ("g", .varying .string) (by decide) rfl
  · exact laidOut.fixedLength
  · exact laidOut.slotCount
  · exact (ofFixedSize sameFixedSize).1 ("e", .plain .boolean) (by simp [fields]) rfl
  · exact (ofVariableSize sameVariable).1 ("g", .varying .string) (by simp [fields]) rfl

end Schema

end CompactSchema
