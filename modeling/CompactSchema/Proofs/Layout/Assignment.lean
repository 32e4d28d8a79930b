import CompactSchema.Proofs.Entries
import CompactSchema.Schema.Layout
import Mathlib.Algebra.Ring.Nat
import Mathlib.Data.List.Nodup

/-!
Contract: what the walks over a table of fields come to.

The state of a walk moves on by the length of each item, so it is known beforehand as a
sum over the items before. The placements that a walk gives can be listed without a
table, and each field that is listed once has the listed placement in the end, whatever
stood in the table before. For the booleans the byte and the count of bits move on
together: both follow from the count.

Owns: the three groups as lists, the stable sort of the numbers, the list of all
placements, and that the layout is what the list says.

Does not own: the placement of a single field, see `Proofs.Layout.Positions`.
-/

set_option autoImplicit false

namespace CompactSchema

universe u v w

namespace Kind

/-- Length in bytes of a value; variable-size kinds have none. -/
def byteLength (kind : Kind) : Nat := kind.fixedSize?.getD 0

/-- A fixed-size kind other than boolean. -/
def isNumber (kind : Kind) : Bool := kind.isFixedSize && kind != .plain .boolean

end Kind

namespace Layout

/-! ## Laying out one after the other -/

section

variable {β : Type u} {γ : Type v} (name : β → String) (length : β → Nat) (place : Nat → γ)

/-- Items laid out one after the other from a start. -/
def layOut : Nat → List β → Entries String γ
  | _, [] => []
  | start, item :: rest => (name item, place start) :: layOut (start + length item) rest

theorem keys_layOut (start : Nat) (items : List β) :
    Entries.keys (layOut name length place start items) = items.map name := by
  induction items generalizing start with
  | nil => rfl
  | cons item rest inductionHypothesis => exact congrArg _ (inductionHypothesis _)

theorem layOut_append (start : Nat) (items others : List β) :
    layOut name length place start (items ++ others) =
      layOut name length place start items ++
        layOut name length place (start + (items.map length).sum) others := by
  induction items generalizing start with
  | nil => rfl
  | cons item rest inductionHypothesis =>
      rw [List.cons_append, layOut, inductionHypothesis, layOut, List.map_cons, List.sum_cons,
        Nat.add_assoc, List.cons_append]

theorem mem_layOut_iff {start : Nat} {items : List β} {entry : String × γ} :
    entry ∈ layOut name length place start items ↔
      ∃ before item after, items = before ++ item :: after ∧
        entry = (name item, place (start + (before.map length).sum)) := by
  induction items generalizing start with
  | nil => simp [layOut]
  | cons head rest inductionHypothesis =>
      rw [layOut, List.mem_cons, inductionHypothesis]
      constructor
      · rintro (rfl | ⟨before, item, after, rfl, rfl⟩)
        · exact ⟨[], head, rest, rfl, by simp⟩
        · exact ⟨head :: before, item, after, rfl, by simp [Nat.add_assoc]⟩
      · rintro ⟨before, item, after, split, rfl⟩
        cases before with
        | nil =>
            obtain ⟨rfl, rfl⟩ := List.cons.inj split
            exact .inl (by simp)
        | cons first others =>
            obtain ⟨rfl, rfl⟩ := List.cons.inj split
            exact .inr ⟨others, item, after, rfl, by simp [Nat.add_assoc]⟩

end

/-! ## The walks -/

/-- Write placements into a table one after the other. -/
def overwrite (placed : Entries String Placement) (table : PlacedFields) : PlacedFields :=
  placed.foldl (fun table entry => place entry.1 entry.2 table) table

theorem overwrite_append (first second : Entries String Placement) (table : PlacedFields) :
    overwrite (first ++ second) table = overwrite second (overwrite first table) :=
  List.foldl_append

/-- A walk whose state follows from a position writes what is laid out from its start. -/
theorem run_eq_overwrite {β : Type u} {σ : Type v} {walk : Walk β σ} {length : β → Nat}
    {state : Nat → σ}
    (moves : ∀ position item, walk.next (state position) item = state (position + length item))
    (start : Nat) (items : List β) (table : PlacedFields) :
    walk.run items (state start) table =
      (state (start + (items.map length).sum),
        overwrite (layOut walk.name length (fun position => walk.placement (state position))
          start items) table) := by
  induction items generalizing start table with
  | nil => rfl
  | cons item rest inductionHypothesis =>
      rw [Walk.run, moves, inductionHypothesis, List.map_cons, List.sum_cons, Nat.add_assoc]
      rfl

theorem run_numberWalk (numbers : List (String × Nat)) (table : PlacedFields) :
    numberWalk.run numbers 0 table =
      ((numbers.map Prod.snd).sum,
        overwrite (layOut Prod.fst Prod.snd .bytes 0 numbers) table) := by
  have moves : ∀ (position : Nat) (number : String × Nat),
      numberWalk.next (id position) number = id (position + number.2) := fun _ _ => rfl
  have run := run_eq_overwrite moves 0 numbers table
  rw [Nat.zero_add] at run
  exact run

/-- The bit at a place behind an offset, eight bits to the byte. -/
def bitAt (base place : Nat) : Placement := .bit (base + place / 8) (place % 8)

theorem BitPosition.next_eq (base used : Nat) :
    BitPosition.next ⟨base + used / 8, used⟩ = ⟨base + (used + 1) / 8, used + 1⟩ := by
  unfold BitPosition.next
  have byte : (if (used + 1) % 8 = 0 then base + used / 8 + 1 else base + used / 8) =
      base + (used + 1) / 8 := by
    split <;> omega
  simp only [byte]

theorem BitPosition.close_eq (base used : Nat) :
    BitPosition.close ⟨base + used / 8, used⟩ = base + (used + 7) / 8 := by
  have byte : (if used % 8 ≠ 0 then base + used / 8 + 1 else base + used / 8) =
      base + (used + 7) / 8 := by
    split <;> omega
  exact byte

theorem run_booleanWalk (base : Nat) (names : List String) (table : PlacedFields) :
    booleanWalk.run names ⟨base, 0⟩ table =
      (⟨base + names.length / 8, names.length⟩,
        overwrite (layOut id (fun _ => 1) (bitAt base) 0 names) table) := by
  have moves : ∀ (used : Nat) (name : String),
      booleanWalk.next ⟨base + used / 8, used⟩ name = ⟨base + (used + 1) / 8, used + 1⟩ :=
    fun used _ => BitPosition.next_eq base used
  have run := run_eq_overwrite moves 0 names table
  rw [List.map_const', List.sum_replicate_nat, Nat.zero_add, Nat.mul_one] at run
  exact run

theorem run_variableWalk (names : List String) (table : PlacedFields) :
    (variableWalk.run names 0 table).2 =
      overwrite (layOut id (fun _ => 1) .slot 0 names) table := by
  have moves : ∀ (index : Nat) (name : String),
      variableWalk.next (id index) name = id (index + 1) := fun _ _ => rfl
  exact congrArg Prod.snd (run_eq_overwrite moves 0 names table)

/-! ## The groups -/

/-- The numbers among fields, in name order. -/
def numberFields (fields : Entries String Kind) : List (String × Nat) :=
  (fields.filter fun field => field.2.isNumber).map fun field => (field.1, field.2.byteLength)

/-- The names of the booleans, in storage order. -/
def bitFields (fields : Entries String Kind) : List String :=
  Entries.keys (fields.filter fun field => decide (field.2 = .plain .boolean))

/-- The names of the variable-size fields, in slot order. -/
def slotFields (fields : Entries String Kind) : List String :=
  Entries.keys (fields.filter fun field => !field.2.isFixedSize)

theorem Groups.add_eq (groups : Groups) (name : String) (kind : Kind) :
    groups.add name kind =
      ⟨groups.numbers ++ numberFields [(name, kind)], groups.booleans ++ bitFields [(name, kind)],
        groups.varying ++ slotFields [(name, kind)]⟩ := by
  cases groups
  cases kind with
  | plain type =>
      cases type <;> simp [Groups.add, numberFields, bitFields, slotFields, Entries.keys,
        Kind.isNumber, Kind.isFixedSize, Kind.fixedSize?, Kind.byteLength]
  | _ =>
      simp [Groups.add, numberFields, bitFields, slotFields, Entries.keys, Kind.isNumber,
        Kind.isFixedSize, Kind.fixedSize?]

theorem group_eq (fields : Entries String Kind) :
    group fields = ⟨numberFields fields, bitFields fields, slotFields fields⟩ := by
  have general : ∀ (rest : Entries String Kind) (groups : Groups),
      rest.foldl (fun groups field => groups.add field.1 field.2) groups =
        ⟨groups.numbers ++ numberFields rest, groups.booleans ++ bitFields rest,
          groups.varying ++ slotFields rest⟩ := by
    intro rest
    induction rest with
    | nil => simp [numberFields, bitFields, slotFields, Entries.keys]
    | cons head rest inductionHypothesis =>
        intro groups
        have split : head :: rest = [head] ++ rest := rfl
        rw [List.foldl_cons, inductionHypothesis, Groups.add_eq, split]
        simp only [numberFields, bitFields, slotFields, Entries.keys, List.filter_append,
          List.map_append, List.append_assoc]
  exact general fields {}

/-! ## Storage order -/

/-- A field is at least as wide as another. -/
def atLeastAsWide (first second : String × Kind) : Bool :=
  decide (second.2.byteLength ≤ first.2.byteLength)

theorem atLeastAsWide_trans (first second third : String × Kind)
    (wider : atLeastAsWide first second) (widerStill : atLeastAsWide second third) :
    atLeastAsWide first third :=
  decide_eq_true ((of_decide_eq_true widerStill).trans (of_decide_eq_true wider))

theorem atLeastAsWide_total (first second : String × Kind) :
    atLeastAsWide first second || atLeastAsWide second first := by
  simpa [atLeastAsWide] using Nat.le_total _ _

/-- The numbers among fields, in storage order. -/
def numbersInOrder (fields : Entries String Kind) : Entries String Kind :=
  (fields.filter fun field => field.2.isNumber).mergeSort atLeastAsWide

/-- The numbers with their widths, in storage order. -/
def byteFields (fields : Entries String Kind) : List (String × Nat) :=
  (numbersInOrder fields).map fun field => (field.1, field.2.byteLength)

theorem widestFirst_numberFields (fields : Entries String Kind) :
    widestFirst (numberFields fields) = byteFields fields := by
  symm
  apply List.map_mergeSort
  intro first _ second _
  rfl

theorem perm_numbersInOrder (fields : Entries String Kind) :
    (numbersInOrder fields).Perm (fields.filter fun field => field.2.isNumber) :=
  List.mergeSort_perm _ _

theorem mem_numbersInOrder_iff {fields : Entries String Kind} {field : String × Kind} :
    field ∈ numbersInOrder fields ↔ field ∈ fields ∧ field.2.isNumber = true := by
  rw [(perm_numbersInOrder fields).mem_iff, List.mem_filter]

/-- In storage order no field is wider than one before it. -/
theorem pairwise_byteLength (fields : Entries String Kind) :
    (numbersInOrder fields).Pairwise
      fun first second => second.2.byteLength ≤ first.2.byteLength :=
  (List.pairwise_mergeSort atLeastAsWide_trans atLeastAsWide_total _).imp of_decide_eq_true

/-- The sort is stable: fields of one width stay in the order in which they are. -/
theorem filter_numbersInOrder (fields : Entries String Kind) (width : Nat) :
    ((numbersInOrder fields).filter fun field => field.2.byteLength = width) =
      (fields.filter fun field => field.2.isNumber).filter
        fun field => field.2.byteLength = width := by
  let ofWidth (field : String × Kind) : Bool := field.2.byteLength = width
  let numbers := fields.filter fun field => field.2.isNumber
  -- Fields of one width are in order as they are, so the sort keeps their list.
  have sorted : (numbers.filter ofWidth).Pairwise (atLeastAsWide · ·) := by
    apply List.pairwise_of_forall_mem_list
    intro first inFirst second inSecond
    have firstWidth := of_decide_eq_true (List.mem_filter.1 inFirst).2
    have secondWidth := of_decide_eq_true (List.mem_filter.1 inSecond).2
    exact decide_eq_true (Nat.le_of_eq (secondWidth.trans firstWidth.symm))
  have kept : (numbers.filter ofWidth).Sublist (numbersInOrder fields) :=
    List.sublist_mergeSort atLeastAsWide_trans atLeastAsWide_total sorted List.filter_sublist
  have keptFiltered := kept.filter ofWidth
  rw [List.filter_filter] at keptFiltered
  simp only [Bool.and_self] at keptFiltered
  exact (keptFiltered.eq_of_length ((perm_numbersInOrder fields).filter _).length_eq.symm).symm

/-! ## The layout as a list of placements -/

/-- The bytes that items take together. -/
def totalWidth (stored : List (String × Nat)) : Nat := (stored.map Prod.snd).sum

/-- Length of the part of the fixed-size section that is stored in whole bytes. -/
def bytesLength (fields : Entries String Kind) : Nat := totalWidth (byteFields fields)

/-- Length in bytes of the fixed-size section, the bits included. -/
def sectionLength (fields : Entries String Kind) : Nat :=
  bytesLength fields + ((bitFields fields).length + 7) / 8

/-- The placements in the fixed-size section. -/
def sectionPlacements (fields : Entries String Kind) : Entries String Placement :=
  layOut Prod.fst Prod.snd .bytes 0 (byteFields fields) ++
    layOut id (fun _ => 1) (bitAt (bytesLength fields)) 0 (bitFields fields)

/-- The placement of every field. -/
def placements (fields : Entries String Kind) : Entries String Placement :=
  sectionPlacements fields ++ layOut id (fun _ => 1) .slot 0 (slotFields fields)

/-- The running offset, the count of bits with its corrections and the sorted list come to
this. -/
theorem assign_eq (table : PlacedFields) :
    assign table =
      { fields := overwrite (placements (kinds table)) table
        fixedLength := sectionLength (kinds table)
        slotCount := (slotFields (kinds table)).length } := by
  simp only [assign, group_eq, widestFirst_numberFields, run_numberWalk, run_booleanWalk,
    run_variableWalk, BitPosition.close_eq, placements, sectionPlacements, overwrite_append]
  rfl

theorem find?_place (name other : String) (placement : Placement) (table : PlacedFields) :
    Entries.find? other (place name placement table) =
      if name = other then (Entries.find? other table).map fun field => (field.1, placement)
      else Entries.find? other table := by
  induction table with
  | nil => simp [place, Entries.find?]
  | cons head rest inductionHypothesis =>
      obtain ⟨first, kind, old⟩ := head
      rw [place] at inductionHypothesis
      rw [place, List.map_cons]
      by_cases written : first = name
      · subst written
        by_cases hit : first = other <;> simp [Entries.find?, hit, inductionHypothesis]
      · by_cases hit : first = other
        · subst hit
          simp [Entries.find?, written, Ne.symm written]
        · simp [Entries.find?, written, hit, inductionHypothesis]

theorem find?_overwrite_of_notMem {name : String} {placed : Entries String Placement}
    (absent : name ∉ Entries.keys placed) (table : PlacedFields) :
    Entries.find? name (overwrite placed table) = Entries.find? name table := by
  induction placed generalizing table with
  | nil => rfl
  | cons head rest inductionHypothesis =>
      rw [Entries.keys, List.map_cons, List.mem_cons, not_or] at absent
      exact (inductionHypothesis absent.2 _).trans
        ((find?_place _ _ _ _).trans (if_neg (Ne.symm absent.1)))

/-- A placement that is listed once is the one that is found. -/
theorem find?_overwrite_of_mem {name : String} {placement : Placement}
    {placed : Entries String Placement} (distinct : (Entries.keys placed).Nodup)
    (listed : (name, placement) ∈ placed) (table : PlacedFields) :
    Entries.find? name (overwrite placed table) =
      (Entries.find? name table).map fun field => (field.1, placement) := by
  induction placed generalizing table with
  | nil => cases listed
  | cons head rest inductionHypothesis =>
      rw [Entries.keys, List.map_cons, List.nodup_cons] at distinct
      have after : overwrite (head :: rest) table = overwrite rest (place head.1 head.2 table) :=
        rfl
      rw [after]
      rcases List.mem_cons.1 listed with rfl | later
      · rw [find?_overwrite_of_notMem distinct.1, find?_place, if_pos rfl]
      · have other : head.1 ≠ name := by
          intro same
          exact distinct.1 (same ▸ Entries.mem_keys_of_mem later)
        rw [inductionHypothesis distinct.2 later, find?_place, if_neg other]

/-- In a laid out table a field lies where it is listed. -/
theorem placement_assign {name : String} {placement : Placement} {table : PlacedFields}
    (distinct : (Entries.keys (placements (kinds table))).Nodup)
    (listed : (name, placement) ∈ placements (kinds table))
    (declared : name ∈ Entries.keys table) : (assign table).placement name = placement := by
  obtain ⟨field, found⟩ := Entries.exists_find?_of_mem_keys declared
  rw [assign_eq, Layout.placement, find?_overwrite_of_mem distinct listed, found]
  rfl

end Layout

end CompactSchema
