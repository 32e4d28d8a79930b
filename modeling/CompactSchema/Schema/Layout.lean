import CompactSchema.Entries
import CompactSchema.Kind

/-!
Contract: where the fields of a schema lie in an encoded record.

The fixed-size section holds the numbers, widest first, fields of one width in
name order, and after them the booleans as bits, eight to a byte. All other
fields have a slot in the table of variable-size fields. The layout goes through
the fields with a running position and writes each placement over the one that
the field had.

Owns: placements, the layout of a table of fields, and that it does not depend on
the placements from before.

Does not own: the encoding of the values.
-/

set_option autoImplicit false

namespace CompactSchema

universe u v

/-- Where a field lies in an encoded record. -/
inductive Placement where
  /-- Not laid out, as a field outside a schema. -/
  | unassigned
  /-- Whole bytes from an offset in the fixed-size section. -/
  | bytes (offset : Nat)
  /-- One bit of a byte of the fixed-size section. -/
  | bit (offset bit : Nat)
  /-- A slot in the table of variable-size fields. -/
  | slot (index : Nat)
deriving DecidableEq, Repr

/-- Fields with their kinds and placements, in name order. -/
abbrev PlacedFields := Entries String (Kind × Placement)

/-- A table of fields that has been laid out. -/
structure Layout where
  fields : PlacedFields
  /-- Length in bytes of the fixed-size section, the bits included. -/
  fixedLength : Nat
  /-- Number of variable-size fields. -/
  slotCount : Nat

namespace Layout

/-! ## Tables of fields -/

/-- Names and kinds of the fields of a table. -/
def kinds (table : PlacedFields) : Entries String Kind :=
  table.map fun entry => (entry.1, entry.2.1)

/-- Fields as a table in which none has a place yet. -/
def unplaced (fields : Entries String Kind) : PlacedFields :=
  fields.map fun field => (field.1, field.2, .unassigned)

theorem kinds_unplaced (fields : Entries String Kind) : kinds (unplaced fields) = fields := by
  rw [kinds, unplaced, List.map_map]
  exact List.map_id fields

/-- Write the placement of a field over the one that stands in a table. -/
def place (name : String) (placement : Placement) (table : PlacedFields) : PlacedFields :=
  table.map fun entry => if entry.1 = name then (entry.1, entry.2.1, placement) else entry

/-- How items of one group are placed, each where a state says that moves on with it. -/
structure Walk (β : Type u) (σ : Type v) where
  name : β → String
  placement : σ → Placement
  next : σ → β → σ

/-- Place items one after the other. Gives the state behind the last one, and the table. -/
def Walk.run {β : Type u} {σ : Type v} (walk : Walk β σ) :
    List β → σ → PlacedFields → σ × PlacedFields
  | [], state, table => (state, table)
  | item :: rest, state, table =>
    walk.run rest (walk.next state item) (place (walk.name item) (walk.placement state) table)

/-! ## The three groups of fields -/

/-- The fields by the way in which they are stored, each group in name order. -/
structure Groups where
  /-- The fields stored in whole bytes, with their widths. -/
  numbers : List (String × Nat) := []
  /-- The fields stored as bits. -/
  booleans : List String := []
  /-- The fields stored behind the fixed-size section. -/
  varying : List String := []

/-- Put a field at the end of its group. -/
def Groups.add (groups : Groups) (name : String) (kind : Kind) : Groups :=
  match kind with
  | .plain .boolean => { groups with booleans := groups.booleans ++ [name] }
  | kind =>
    match kind.fixedSize? with
    | some width => { groups with numbers := groups.numbers ++ [(name, width)] }
    | none => { groups with varying := groups.varying ++ [name] }

/-- Go through fields and put each into its group. -/
def group (fields : Entries String Kind) : Groups :=
  fields.foldl (fun groups field => groups.add field.1 field.2) {}

/-- The wider fields first; fields of one width stay in the order in which they are. -/
def widestFirst (numbers : List (String × Nat)) : List (String × Nat) :=
  numbers.mergeSort fun first second => decide (second.2 ≤ first.2)

/-! ## The layout -/

/-- Numbers lie one behind the other. The state is the offset. -/
def numberWalk : Walk (String × Nat) Nat where
  name := Prod.fst
  placement := .bytes
  next := fun offset number => offset + number.2

/-- Where the next bit goes. -/
structure BitPosition where
  /-- The byte that is being filled. -/
  offset : Nat
  /-- Number of bits given so far. -/
  used : Nat

/-- Behind one more bit. A byte is left with its last bit. -/
def BitPosition.next (position : BitPosition) : BitPosition :=
  let used := position.used + 1
  { offset := if used % 8 = 0 then position.offset + 1 else position.offset
    used }

/-- The offset behind the bits. A byte that was begun counts as a whole one. -/
def BitPosition.close (position : BitPosition) : Nat :=
  if position.used % 8 ≠ 0 then position.offset + 1 else position.offset

def booleanWalk : Walk String BitPosition where
  name := id
  placement := fun position => .bit position.offset (position.used % 8)
  next := fun position _ => position.next

/-- Variable-size fields have slots of their own. The state is the index. -/
def variableWalk : Walk String Nat where
  name := id
  placement := .slot
  next := fun index _ => index + 1

/-- Lay a table of fields out. -/
def assign (table : PlacedFields) : Layout :=
  let groups := group (kinds table)
  let numbers := numberWalk.run (widestFirst groups.numbers) 0 table
  let booleans := booleanWalk.run groups.booleans ⟨numbers.1, 0⟩ numbers.2
  let varying := variableWalk.run groups.varying 0 booleans.2
  { fields := varying.2
    fixedLength := booleans.1.close
    slotCount := groups.varying.length }

/-- Where a field of a laid out table lies; unassigned if there is none of the name. -/
def placement (layout : Layout) (name : String) : Placement :=
  ((Entries.find? name layout.fields).map Prod.snd).getD .unassigned

/-! ## Placements from before -/

def Groups.names (groups : Groups) : List String :=
  groups.numbers.map Prod.fst ++ groups.booleans ++ groups.varying

theorem Groups.mem_names_add {groups : Groups} {name other : String} {kind : Kind} :
    other ∈ (groups.add name kind).names ↔ other ∈ groups.names ∨ other = name := by
  unfold Groups.add
  split
  · simp only [Groups.names, List.mem_append, List.mem_singleton]
    grind
  · split <;>
      simp only [Groups.names, List.map_append, List.map_cons, List.map_nil, List.mem_append,
        List.mem_singleton] <;> grind

/-- Every field is in one of the groups. -/
theorem mem_names_group {fields : Entries String Kind} {name : String} :
    name ∈ (group fields).names ↔ name ∈ Entries.keys fields := by
  have general : ∀ (rest : Entries String Kind) (groups : Groups),
      name ∈ (rest.foldl (fun groups field => groups.add field.1 field.2) groups).names ↔
        name ∈ groups.names ∨ name ∈ rest.map Prod.fst := by
    intro rest
    induction rest with
    | nil => simp
    | cons head rest inductionHypothesis =>
        intro groups
        rw [List.foldl_cons, inductionHypothesis, Groups.mem_names_add, List.map_cons,
          List.mem_cons, or_assoc]
  exact (general fields {}).trans (by simp [Groups.names, Entries.keys])

/-- What a table says of a field, the placement only if it has been given. -/
def seen (given : List String) (entry : String × Kind × Placement) :
    String × Kind × Option Placement :=
  (entry.1, entry.2.1, if entry.1 ∈ given then some entry.2.2 else none)

/-- Two tables have the same fields and agree in the placements that have been given. -/
def Agree (given : List String) (first second : PlacedFields) : Prop :=
  first.map (seen given) = second.map (seen given)

section

variable {given : List String} {first second : PlacedFields}

theorem agree_of_kinds_eq (same : kinds first = kinds second) : Agree [] first second := by
  have blank : ∀ table : PlacedFields,
      table.map (seen []) = (kinds table).map fun field => (field.1, field.2, none) := by
    intro table
    rw [kinds, List.map_map]
    rfl
  rw [Agree, blank, blank, same]

theorem Agree.place (agree : Agree given first second) (name : String) (placement : Placement) :
    Agree (name :: given) (place name placement first) (place name placement second) := by
  have after : ∀ table : PlacedFields,
      (Layout.place name placement table).map (seen (name :: given)) =
        (table.map (seen given)).map fun entry =>
          (entry.1, entry.2.1, if entry.1 = name then some placement else entry.2.2) := by
    intro table
    rw [Layout.place, List.map_map, List.map_map]
    apply List.map_congr_left
    intro entry _
    by_cases hit : entry.1 = name <;> simp [seen, hit]
  rw [Agree, after, after, agree]

theorem Agree.run {β : Type u} {σ : Type v} (agree : Agree given first second)
    (walk : Walk β σ) (items : List β) (state : σ) :
    (walk.run items state first).1 = (walk.run items state second).1 ∧
      Agree ((items.map walk.name).reverse ++ given) (walk.run items state first).2
        (walk.run items state second).2 := by
  induction items generalizing state given first second with
  | nil => exact ⟨rfl, agree⟩
  | cons item rest inductionHypothesis =>
      have later := inductionHypothesis (agree.place (walk.name item) (walk.placement state))
        (walk.next state item)
      simpa [Walk.run] using later

theorem Agree.keys_eq (agree : Agree given first second) :
    Entries.keys first = Entries.keys second := by
  have keysSeen : ∀ table : PlacedFields,
      Entries.keys table = (table.map (seen given)).map Prod.fst := by
    intro table
    rw [List.map_map]
    rfl
  rw [keysSeen, keysSeen, agree]

/-- Tables that agree in all placements are the same. -/
theorem Agree.eq (agree : Agree given first second)
    (all : ∀ name ∈ Entries.keys first, name ∈ given) : first = second := by
  have restored : ∀ table : PlacedFields, (∀ name ∈ Entries.keys table, name ∈ given) →
      (table.map (seen given)).map
        (fun entry => (entry.1, entry.2.1, entry.2.2.getD .unassigned)) = table := by
    intro table allGiven
    rw [List.map_map]
    apply (List.map_congr_left _).trans (List.map_id table)
    intro entry member
    have isGiven : entry.1 ∈ given := allGiven entry.1 (List.mem_map_of_mem member)
    simp [seen, isGiven]
  rw [← restored first all, ← restored second (agree.keys_eq ▸ all), agree]

end

theorem keys_place (name : String) (placement : Placement) (table : PlacedFields) :
    Entries.keys (place name placement table) = Entries.keys table := by
  rw [place, Entries.keys, List.map_map]
  apply List.map_congr_left
  intro entry _
  rw [Function.comp_apply]
  split <;> rfl

theorem keys_run {β : Type u} {σ : Type v} (walk : Walk β σ) (items : List β) (state : σ)
    (table : PlacedFields) : Entries.keys (walk.run items state table).2 = Entries.keys table := by
  induction items generalizing state table with
  | nil => rfl
  | cons item rest inductionHypothesis => rw [Walk.run, inductionHypothesis, keys_place]

theorem keys_kinds (table : PlacedFields) : Entries.keys (kinds table) = Entries.keys table := by
  rw [kinds, Entries.keys, List.map_map]
  rfl

/-- A layout depends on the names and kinds of the fields only, since every placement from
before is written over. -/
theorem assign_eq_of_kinds_eq {first second : PlacedFields} (same : kinds first = kinds second) :
    assign first = assign second := by
  let groups := group (kinds second)
  let numbers := widestFirst groups.numbers
  obtain ⟨sameOffset, numbersAgree⟩ := (agree_of_kinds_eq same).run numberWalk numbers 0
  obtain ⟨samePosition, booleansAgree⟩ := numbersAgree.run booleanWalk groups.booleans
    ⟨(numberWalk.run numbers 0 second).1, 0⟩
  obtain ⟨_, varyingAgree⟩ := booleansAgree.run variableWalk groups.varying 0
  have sameFields := varyingAgree.eq <| by
    intro name member
    rw [keys_run, keys_run, keys_run, ← keys_kinds, same, ← mem_names_group] at member
    simp only [Groups.names, List.mem_append, List.mem_map] at member
    simp only [numbers, widestFirst, List.mem_append, List.mem_reverse, List.mem_map,
      List.mem_mergeSort, List.not_mem_nil, or_false]
    rcases member with (number | boolean) | other
    · exact .inr (.inr number)
    · exact .inr (.inl ⟨name, boolean, rfl⟩)
    · exact .inl ⟨name, other, rfl⟩
  unfold assign
  rw [same]
  simp only [Layout.mk.injEq, and_true]
  rw [sameOffset]
  exact ⟨sameFields, congrArg BitPosition.close samePosition⟩

end Layout

end CompactSchema
