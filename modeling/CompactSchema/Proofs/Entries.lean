import CompactSchema.Entries
import Mathlib.Data.List.Sort

/-!
Contract: when two dictionaries are the same list.

The keys of a dictionary ascend strictly, so a dictionary is known by what it
answers under each key, and its list of keys by which keys it has.

Owns: lookup against membership, the equality of dictionaries, and what a dictionary
that is made of a list holds.

Does not own: insertion and the order it keeps, see `Entries`.
-/

set_option autoImplicit false

namespace CompactSchema.Entries

universe u v

variable {κ : Type u} {α : Type v}

/-! ## Lookup and membership -/

theorem mem_of_find?_eq_some [DecidableEq κ] {key : κ} {value : α} {entries : Entries κ α}
    (found : find? key entries = some value) : (key, value) ∈ entries := by
  induction entries with
  | nil => simp [find?] at found
  | cons head rest inductionHypothesis =>
      obtain ⟨other, first⟩ := head
      by_cases hit : other = key
      · subst hit
        rw [find?, if_pos rfl] at found
        rw [Option.some.inj found]
        exact List.mem_cons_self
      · rw [find?, if_neg hit] at found
        exact List.mem_cons_of_mem _ (inductionHypothesis found)

theorem find?_eq_none_iff [DecidableEq κ] {key : κ} {entries : Entries κ α} :
    find? key entries = none ↔ key ∉ keys entries := by
  induction entries with
  | nil => simp [find?, keys]
  | cons head rest inductionHypothesis =>
      obtain ⟨other, first⟩ := head
      by_cases hit : other = key
      · simp [find?, keys, hit]
      · have different : key ≠ other := fun same => hit same.symm
        rw [find?, if_neg hit, inductionHypothesis]
        simp [keys, different]

theorem has_iff [DecidableEq κ] {key : κ} {entries : Entries κ α} :
    has key entries = true ↔ key ∈ keys entries := by
  rw [has, Option.isSome_iff_ne_none, Ne, find?_eq_none_iff, not_not]

theorem exists_find?_of_mem_keys [DecidableEq κ] {key : κ} {entries : Entries κ α}
    (listed : key ∈ keys entries) : ∃ value, find? key entries = some value :=
  Option.isSome_iff_exists.1 (has_iff.2 listed)

theorem mem_keys_of_mem {entry : κ × α} {entries : Entries κ α} (member : entry ∈ entries) :
    entry.1 ∈ keys entries :=
  List.mem_map_of_mem member

theorem keys_append (first second : Entries κ α) :
    keys (first ++ second) = keys first ++ keys second :=
  List.map_append

theorem find?_eq_some_iff_of_nodup [DecidableEq κ] {key : κ} {value : α}
    {entries : Entries κ α} (distinct : (keys entries).Nodup) :
    find? key entries = some value ↔ (key, value) ∈ entries := by
  refine ⟨mem_of_find?_eq_some, fun member => ?_⟩
  induction entries with
  | nil => cases member
  | cons head rest inductionHypothesis =>
      obtain ⟨other, first⟩ := head
      obtain ⟨once, restDistinct⟩ := List.nodup_cons.1 distinct
      rcases List.mem_cons.1 member with same | later
      · obtain ⟨rfl, rfl⟩ := Prod.mk.inj same
        rw [find?, if_pos rfl]
      · have listed : key ∈ keys rest := mem_keys_of_mem later
        have different : other ≠ key := by
          rintro rfl
          exact once listed
        rw [find?, if_neg different]
        exact inductionHypothesis restDistinct later

section

variable [Ord κ] [Std.LawfulEqOrd κ]

theorem ne_of_lt {first second : κ} (below : compare first second = .lt) : first ≠ second := by
  rintro rfl
  rw [Std.ReflOrd.compare_self] at below
  cases below

theorem nodup_keys {entries : Entries κ α} (ordered : Ordered entries) : (keys entries).Nodup :=
  List.Pairwise.imp ne_of_lt ordered

theorem find?_eq_some_iff [DecidableEq κ] {key : κ} {value : α} {entries : Entries κ α}
    (ordered : Ordered entries) : find? key entries = some value ↔ (key, value) ∈ entries :=
  find?_eq_some_iff_of_nodup (nodup_keys ordered)

/-! ## Equality -/

variable [Std.TransOrd κ]

/-- Lists that ascend by the same key and have the same members are equal. -/
theorem eq_of_ascending {β : Type v} (place : β → κ) {first second : List β}
    (firstAscends : first.Pairwise fun left right => compare (place left) (place right) = .lt)
    (secondAscends : second.Pairwise fun left right => compare (place left) (place right) = .lt)
    (same : ∀ item, item ∈ first ↔ item ∈ second) : first = second := by
  have irreflexive : Std.Irrefl fun left right => compare (place left) (place right) = .lt :=
    ⟨fun _ below => ne_of_lt below rfl⟩
  have antisymmetric : Std.Antisymm fun left right =>
      compare (place left) (place right) = .lt := by
    constructor
    intro left right below above
    exact absurd rfl (ne_of_lt (Std.TransCmp.lt_trans below above))
  exact firstAscends.eq_of_mem_iff secondAscends same

theorem keys_eq_of_mem_iff {β : Type v} {first : Entries κ α} {second : Entries κ β}
    (firstOrdered : Ordered first) (secondOrdered : Ordered second)
    (same : ∀ key, key ∈ keys first ↔ key ∈ keys second) : keys first = keys second :=
  eq_of_ascending id firstOrdered secondOrdered same

theorem eq_of_find?_eq [DecidableEq κ] {first second : Entries κ α} (firstOrdered : Ordered first)
    (secondOrdered : Ordered second) (same : ∀ key, find? key first = find? key second) :
    first = second := by
  apply eq_of_ascending Prod.fst (List.pairwise_map.1 firstOrdered)
    (List.pairwise_map.1 secondOrdered)
  rintro ⟨key, value⟩
  rw [← find?_eq_some_iff firstOrdered, ← find?_eq_some_iff secondOrdered, same]

/-- Two dictionaries with the same entries are the same list. -/
theorem eq_of_perm {first second : Entries κ α} (firstOrdered : Ordered first)
    (secondOrdered : Ordered second) (same : first.Perm second) : first = second :=
  eq_of_ascending Prod.fst (List.pairwise_map.1 firstOrdered)
    (List.pairwise_map.1 secondOrdered) fun _ => same.mem_iff

end

/-! ## Entries with distinct keys -/

section

variable [Ord κ] [Std.LawfulEqOrd κ]

theorem perm_insert {key : κ} {entries : Entries κ α} (fresh : key ∉ keys entries) (value : α) :
    (insert key value entries).Perm ((key, value) :: entries) := by
  induction entries with
  | nil => exact .refl _
  | cons head rest inductionHypothesis =>
      obtain ⟨other, old⟩ := head
      have different : key ≠ other := List.ne_of_not_mem_cons fresh
      have restFresh : key ∉ keys rest := List.not_mem_of_not_mem_cons fresh
      cases order : compare key other with
      | lt => rw [insert, order]
      | eq => exact absurd (Std.LawfulEqOrd.eq_of_compare order) different
      | gt =>
          rw [insert, order]
          exact ((inductionHypothesis restFresh).cons _).trans (.swap _ _ _)

theorem perm_ofList {pairs : List (κ × α)} (distinct : (keys pairs).Nodup) :
    (ofList pairs).Perm pairs := by
  have general : ∀ (rest : List (κ × α)) (entries : Entries κ α),
      (keys (entries ++ rest)).Nodup →
      (rest.foldl (fun entries pair => insert pair.1 pair.2 entries) entries).Perm
        (entries ++ rest) := by
    intro rest
    induction rest with
    | nil => simp
    | cons head later inductionHypothesis =>
        intro entries distinctHere
        have fresh : head.1 ∉ keys entries := by
          rw [keys_append] at distinctHere
          exact fun again =>
            (List.nodup_append.1 distinctHere).2.2 head.1 again head.1 List.mem_cons_self rfl
        have inserted : (insert head.1 head.2 entries ++ later).Perm (entries ++ head :: later) :=
          ((perm_insert fresh head.2).append_right later).trans List.perm_middle.symm
        rw [List.foldl_cons]
        exact (inductionHypothesis _ ((inserted.map Prod.fst).nodup_iff.2 distinctHere)).trans
          inserted
  exact general pairs [] distinct

/-- A list that is in order already is the dictionary that is made of it. -/
theorem ofList_of_ordered [Std.TransOrd κ] {entries : Entries κ α} (ordered : Ordered entries) :
    ofList entries = entries :=
  eq_of_perm (ordered_ofList entries) ordered (perm_ofList (nodup_keys ordered))

end

theorem pairwise_keys_lt {entries : Entries String α} (ordered : Ordered entries) :
    (keys entries).Pairwise fun first second => first < second :=
  List.Pairwise.imp compareOfLessAndEq_eq_lt.1 ordered

theorem ordered_map_iff [Ord κ] {β : Type v} (convert : α → β) {entries : Entries κ α} :
    Ordered (entries.map fun entry => (entry.1, convert entry.2)) ↔ Ordered entries := by
  rw [Ordered, Ordered, keys, keys, List.map_map]
  rfl

end CompactSchema.Entries
