/-!
Contract: dictionaries as lists of entries in strictly ascending key order.

The order of the entries is the order in which a dictionary is listed, printed
and searched for the first fault, so two dictionaries with the same entries are
the same list.

Owns: insertion, lookup, the keys, and the order invariant that insertion keeps.

Does not own: what the keys mean.
-/

set_option autoImplicit false

namespace CompactSchema

universe u v

/-- Keys with their values. -/
abbrev Entries (κ : Type u) (α : Type v) := List (κ × α)

namespace Entries

variable {κ : Type u} {α : Type v}

def keys (entries : Entries κ α) : List κ := entries.map Prod.fst

/-- The value under a key. -/
def find? [DecidableEq κ] (key : κ) : Entries κ α → Option α
  | [] => none
  | (other, value) :: rest => if other = key then some value else find? key rest

/-- Whether there is a value under a key. -/
def has [DecidableEq κ] (key : κ) (entries : Entries κ α) : Bool :=
  (find? key entries).isSome

/-- Put a value under a key, in its place in the order, replacing a value that
is already there. -/
def insert [Ord κ] (key : κ) (value : α) : Entries κ α → Entries κ α
  | [] => [(key, value)]
  | (other, old) :: rest =>
    match compare key other with
    | .lt => (key, value) :: (other, old) :: rest
    | .eq => (key, value) :: rest
    | .gt => (other, old) :: insert key value rest

/-- The entries of a list in key order; a later entry replaces an earlier one
with the same key. -/
def ofList [Ord κ] (pairs : List (κ × α)) : Entries κ α :=
  pairs.foldl (fun entries pair => insert pair.1 pair.2 entries) []

/-- The keys ascend strictly, so that none repeats. -/
def Ordered [Ord κ] (entries : Entries κ α) : Prop :=
  (keys entries).Pairwise (fun first second => compare first second = .lt)

instance [Ord κ] (entries : Entries κ α) : Decidable (Ordered entries) := by
  unfold Ordered
  infer_instance

/-! ## What insertion does -/

theorem find?_insert [Ord κ] [DecidableEq κ] [Std.LawfulEqOrd κ]
    (key other : κ) (value : α) (entries : Entries κ α) :
    find? other (insert key value entries) =
      if key = other then some value else find? other entries := by
  induction entries with
  | nil => simp [insert, find?]
  | cons head rest inductionHypothesis =>
      obtain ⟨first, old⟩ := head
      cases order : compare key first with
      | lt => simp [insert, find?, order]
      | eq =>
          have same : key = first := Std.LawfulEqOrd.eq_of_compare order
          subst same
          by_cases hit : key = other <;> simp [insert, find?, hit]
      | gt =>
          have different : key ≠ first := by
            intro same
            subst same
            simp at order
          by_cases hit : first = other
          · subst hit
            simp [insert, find?, order, different]
          · simp [insert, find?, order, hit, inductionHypothesis]

theorem mem_keys_insert [Ord κ] [Std.LawfulEqOrd κ]
    (key other : κ) (value : α) (entries : Entries κ α) :
    other ∈ keys (insert key value entries) ↔ other = key ∨ other ∈ keys entries := by
  induction entries with
  | nil => simp [insert, keys]
  | cons head rest inductionHypothesis =>
      obtain ⟨first, old⟩ := head
      cases order : compare key first with
      | lt => simp [insert, keys, order]
      | eq =>
          have same : key = first := Std.LawfulEqOrd.eq_of_compare order
          subst same
          simp [insert, keys]
      | gt =>
          simp only [keys] at inductionHypothesis
          simp only [insert, order, keys, List.map_cons, List.mem_cons, inductionHypothesis]
          grind

theorem ordered_nil [Ord κ] : Ordered ([] : Entries κ α) := List.Pairwise.nil

theorem ordered_insert [Ord κ] [Std.TransOrd κ] [Std.LawfulEqOrd κ]
    (key : κ) (value : α) {entries : Entries κ α} (ordered : Ordered entries) :
    Ordered (insert key value entries) := by
  induction entries with
  | nil => simp [insert, Ordered, keys]
  | cons head rest inductionHypothesis =>
      obtain ⟨first, old⟩ := head
      have firstBelow : ∀ later ∈ keys rest, compare first later = .lt :=
        (List.pairwise_cons.1 ordered).1
      have restOrdered : Ordered rest := (List.pairwise_cons.1 ordered).2
      cases order : compare key first with
      | lt =>
          simp only [insert, order]
          refine List.pairwise_cons.2 ⟨?_, ordered⟩
          intro later member
          rcases List.mem_cons.1 member with same | later'
          · simpa [same] using order
          · exact Std.TransCmp.lt_trans order (firstBelow later later')
      | eq =>
          have same : key = first := Std.LawfulEqOrd.eq_of_compare order
          subst same
          simp only [insert, order]
          exact List.pairwise_cons.2 ⟨firstBelow, restOrdered⟩
      | gt =>
          simp only [insert, order]
          refine List.pairwise_cons.2 ⟨?_, inductionHypothesis restOrdered⟩
          intro later member
          rcases (mem_keys_insert key later value rest).1 member with same | later'
          · subst same
            exact Std.OrientedCmp.lt_of_gt order
          · exact firstBelow later later'

theorem ordered_ofList [Ord κ] [Std.TransOrd κ] [Std.LawfulEqOrd κ]
    (pairs : List (κ × α)) : Ordered (ofList pairs) := by
  have general : ∀ (rest : List (κ × α)) (entries : Entries κ α), Ordered entries →
      Ordered (rest.foldl (fun entries pair => insert pair.1 pair.2 entries) entries) := by
    intro rest
    induction rest with
    | nil => exact fun _ ordered => ordered
    | cons head rest inductionHypothesis =>
        exact fun entries ordered =>
          inductionHypothesis _ (ordered_insert head.1 head.2 ordered)
  exact general pairs [] ordered_nil

theorem map_insert [Ord κ] {β : Type v} (convert : α → β) (key : κ) (value : α)
    (entries : Entries κ α) :
    (insert key value entries).map (fun entry => (entry.1, convert entry.2)) =
      insert key (convert value) (entries.map fun entry => (entry.1, convert entry.2)) := by
  induction entries with
  | nil => rfl
  | cons head rest inductionHypothesis =>
      obtain ⟨first, old⟩ := head
      cases order : compare key first <;> simp [insert, order, inductionHypothesis]

theorem map_ofList [Ord κ] {β : Type v} (convert : α → β) (pairs : List (κ × α)) :
    (ofList pairs).map (fun entry => (entry.1, convert entry.2)) =
      ofList (pairs.map fun pair => (pair.1, convert pair.2)) := by
  have general : ∀ (rest : List (κ × α)) (entries : Entries κ α),
      (rest.foldl (fun entries pair => insert pair.1 pair.2 entries) entries).map
          (fun entry => (entry.1, convert entry.2)) =
        (rest.map fun pair => (pair.1, convert pair.2)).foldl
          (fun entries pair => insert pair.1 pair.2 entries)
          (entries.map fun entry => (entry.1, convert entry.2)) := by
    intro rest
    induction rest with
    | nil => exact fun _ => rfl
    | cons head rest inductionHypothesis =>
        intro entries
        rw [List.foldl_cons, inductionHypothesis, map_insert, List.map_cons, List.foldl_cons]
  exact general pairs []

theorem mem_of_mem_insert [Ord κ] {key : κ} {value : α} {entry : κ × α}
    {entries : Entries κ α} (member : entry ∈ insert key value entries) :
    entry = (key, value) ∨ entry ∈ entries := by
  induction entries with
  | nil => simpa [insert] using member
  | cons head rest inductionHypothesis =>
      obtain ⟨first, old⟩ := head
      unfold insert at member
      grind

theorem mem_of_mem_ofList [Ord κ] {pairs : List (κ × α)} {entry : κ × α}
    (member : entry ∈ ofList pairs) : entry ∈ pairs := by
  have general : ∀ (rest : List (κ × α)) (entries : Entries κ α),
      entry ∈ rest.foldl (fun entries pair => insert pair.1 pair.2 entries) entries →
      entry ∈ entries ∨ entry ∈ rest := by
    intro rest
    induction rest with
    | nil => exact fun _ member => .inl member
    | cons head rest inductionHypothesis =>
        intro entries member
        rcases inductionHypothesis _ member with found | found
        · rcases mem_of_mem_insert found with same | old
          · exact .inr (by simp [same])
          · exact .inl old
        · exact .inr (List.mem_cons_of_mem _ found)
  simpa using general pairs [] member

end Entries

end CompactSchema
