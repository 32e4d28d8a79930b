import CompactSchema.Json.Reader
import Mathlib.Data.List.Forall2

/-!
Contract: when a reader accepts a document.

A list is accepted just if each of its items is, and an object with two known names just
if either is given once. The place of a member among the others does not matter, and what
stands under other names is only asked to be JSON.

Owns: acceptance by the readers of strings, lists and objects with two known names.

Does not own: which fault is found first in a document that is refused.
-/

set_option autoImplicit false

namespace CompactSchema.Json

universe u

variable {α β σ : Type}

theorem bind_eq_ok_iff {ε : Type u} {first : Except ε α} {next : α → Except ε β} {result : β} :
    (first >>= next) = .ok result ↔ ∃ value, first = .ok value ∧ next value = .ok result := by
  cases first with
  | error => simp [bind, Except.bind]
  | ok => simp [bind, Except.bind]

namespace Reader

theorem string_eq_ok_iff {document : Document} {content : String} :
    string document = .ok content ↔ document = .string (some content) := by
  unfold string
  split <;> simp_all

theorem skip_eq_ok_iff {document : Document} {done : Unit} :
    skip document = .ok done ↔ document.isWhole = true := by
  unfold skip
  split <;> simp_all

theorem ended_eq_ok_iff {closed : Bool} {done : Unit} :
    ended closed = .ok done ↔ closed = true := by
  unfold ended
  split <;> simp_all

theorem items_eq_ok_iff {item : Document → Except ReadError α} {documents : List Document}
    {values : List α} : items item documents = .ok values ↔
      List.Forall₂ (fun document value => item document = .ok value) documents values := by
  induction documents generalizing values with
  | nil => simp [items, List.forall₂_nil_left_iff, eq_comm]
  | cons document documents inductionHypothesis =>
      rw [items, bind_eq_ok_iff, List.forall₂_cons_left_iff]
      simp only [bind_eq_ok_iff, inductionHypothesis]
      constructor
      · rintro ⟨first, readFirst, rest, readRest, same⟩
        cases same
        exact ⟨first, rest, readFirst, readRest, rfl⟩
      · rintro ⟨first, rest, readFirst, readRest, rfl⟩
        exact ⟨first, readFirst, rest, readRest, rfl⟩

theorem list_eq_ok_iff {item : Document → Except ReadError α} {document : Document}
    {values : List α} : list item document = .ok values ↔ ∃ documents,
      document = .array documents true ∧
        List.Forall₂ (fun document value => item document = .ok value) documents values := by
  cases document with
  | array documents closed =>
      rw [list]
      simp only [bind_eq_ok_iff, ended_eq_ok_iff, items_eq_ok_iff]
      constructor
      · rintro ⟨_, readItems, _, rfl, same⟩
        cases same
        exact ⟨documents, rfl, readItems⟩
      · rintro ⟨_, same, readItems⟩
        cases same
        exact ⟨values, readItems, (), rfl, rfl⟩
  | _ => simp [list]

theorem once_eq_ok_iff {name : String} {sofar result : Option α} {value : Except ReadError α} :
    once name sofar value = .ok result ↔
      sofar = none ∧ ∃ content, value = .ok content ∧ result = some content := by
  cases sofar with
  | some => simp [once]
  | none => cases value <;> simp [once, Except.map, eq_comm]

theorem required_eq_ok_iff {name : String} {sofar : Option α} {value : α} :
    required name sofar = .ok value ↔ sofar = some value := by
  cases sofar <;> simp [required]

theorem text_eq_ok_iff {reader : Document → Except ReadError α} {content : String} {value : α} :
    text reader content = .ok value ↔
      reader (read content).document = .ok value ∧ (read content).complete = true := by
  rw [text]
  simp only [bind_eq_ok_iff, ended_eq_ok_iff]
  constructor
  · rintro ⟨_, accepted, _, complete, same⟩
    cases same
    exact ⟨accepted, complete⟩
  · rintro ⟨accepted, complete⟩
    exact ⟨value, accepted, (), complete, rfl⟩

end Reader

/-! ## Objects with two known names -/

/-- The values under a name, in order. -/
def valuesNamed (name : String) (members : List (Option String × Document)) : List Document :=
  (members.filter fun member => member.1 = some name).map Prod.snd

theorem valuesNamed_cons_self (name : String) (value : Document)
    (members : List (Option String × Document)) :
    valuesNamed name ((some name, value) :: members) = value :: valuesNamed name members := by
  simp [valuesNamed]

theorem valuesNamed_cons_of_ne {name other : String} (different : other ≠ name)
    (value : Document) (members : List (Option String × Document)) :
    valuesNamed name ((some other, value) :: members) = valuesNamed name members := by
  simp [valuesNamed, different]

/-- A member of an object is under one of two known names, or it can be skipped. -/
def Tolerated (first second : String) (member : Option String × Document) : Prop :=
  ∃ name, member.1 = some name ∧ (name = first ∨ name = second ∨ member.2.isWhole = true)

/-- A document with two parts: an object in which either name is given once, among other
members and in any order, or an array of just the two. -/
inductive TwoParts (first second : String) : Document → Document → Document → Prop where
  | object {members : List (Option String × Document)} {left right : Document}
      (firstOnce : valuesNamed first members = [left])
      (secondOnce : valuesNamed second members = [right])
      (tolerated : ∀ member ∈ members, Tolerated first second member) :
      TwoParts first second (.object members true) left right
  | array {left right : Document} :
      TwoParts first second (.array [left, right] true) left right

/-- What is known of a part after the values under its name, of which there may be one. -/
def Gathers (reader : Document → Except ReadError α) : Option α → List Document → Option α → Prop
  | sofar, [], result => result = sofar
  | none, document :: values, result => ∃ content, reader document = .ok content ∧
      Gathers reader (some content) values result
  | some _, _ :: _, _ => False

theorem gathers_cons_iff (name : String) {reader : Document → Except ReadError α}
    {sofar result : Option α} {document : Document} {values : List Document} :
    Gathers reader sofar (document :: values) result ↔
      ∃ next, Reader.once name sofar (reader document) = .ok next ∧
        Gathers reader next values result := by
  cases sofar with
  | none => simp [Gathers, Reader.once_eq_ok_iff]
  | some => simp [Gathers, Reader.once_eq_ok_iff]

theorem gathers_none_iff {reader : Document → Except ReadError α} {values : List Document}
    {content : α} : Gathers reader none values (some content) ↔
      ∃ document, values = [document] ∧ reader document = .ok content := by
  match values with
  | [] => simp [Gathers]
  | [document] => simp [Gathers]
  | _ :: _ :: _ => simp [Gathers]

/-- The two parts of a document can be read, and the result is made of them. -/
def Assembles {γ : Type} (first second : String) (readFirst : Document → Except ReadError α)
    (readSecond : Document → Except ReadError β) (make : α → β → Except ReadError γ)
    (document : Document) (result : γ) : Prop :=
  ∃ left right leftPart rightPart, TwoParts first second document left right ∧
    readFirst left = .ok leftPart ∧ readSecond right = .ok rightPart ∧
    make leftPart rightPart = .ok result

theorem not_assembles {γ : Type} {first second : String}
    {readFirst : Document → Except ReadError α} {readSecond : Document → Except ReadError β}
    {make : α → β → Except ReadError γ} {document : Document} {result : γ}
    (notObject : ∀ members, document ≠ .object members true)
    (notPair : ∀ left right, document ≠ .array [left, right] true) :
    ¬ Assembles first second readFirst readSecond make document result := by
  rintro ⟨left, right, _, _, parts, _⟩
  cases parts with
  | object => exact notObject _ rfl
  | array => exact notPair left right rfl

section Draft

variable {first second : String} (different : first ≠ second)
  {readFirst : Document → Except ReadError α} {readSecond : Document → Except ReadError β}
  (draft : Option α → Option β → σ) {member : σ → String → Document → Except ReadError σ}
  (member_eq : ∀ left right name value, member (draft left right) name value =
    if name = first then
      Reader.once name left (readFirst value) >>= fun next => pure (draft next right)
    else if name = second then
      Reader.once name right (readSecond value) >>= fun next => pure (draft left next)
    else Reader.skip value >>= fun _ => pure (draft left right))

include different member_eq

theorem members_eq_ok_iff {members : List (Option String × Document)} {left : Option α}
    {right : Option β} {result : σ} :
    Reader.members member (draft left right) members = .ok result ↔ ∃ left' right',
      result = draft left' right' ∧ Gathers readFirst left (valuesNamed first members) left' ∧
        Gathers readSecond right (valuesNamed second members) right' ∧
        ∀ member ∈ members, Tolerated first second member := by
  induction members generalizing left right with
  | nil => simp [Reader.members, valuesNamed, Gathers, eq_comm]
  | cons head rest inductionHypothesis =>
      obtain ⟨name?, value⟩ := head
      cases name? with
      | none => simp [Reader.members, Tolerated]
      | some name =>
          rw [Reader.members, member_eq]
          by_cases isFirst : name = first
          · subst isFirst
            have tolerated : Tolerated name second (some name, value) := ⟨name, rfl, .inl rfl⟩
            rw [if_pos rfl, bind_assoc, bind_eq_ok_iff, valuesNamed_cons_self,
              valuesNamed_cons_of_ne different]
            simp only [pure_bind, inductionHypothesis, gathers_cons_iff name,
              List.forall_mem_cons, tolerated, true_and]
            grind
          · by_cases isSecond : name = second
            · subst isSecond
              have tolerated : Tolerated first name (some name, value) :=
                ⟨name, rfl, .inr (.inl rfl)⟩
              rw [if_neg isFirst, if_pos rfl, bind_assoc, bind_eq_ok_iff, valuesNamed_cons_self,
                valuesNamed_cons_of_ne isFirst]
              simp only [pure_bind, inductionHypothesis, gathers_cons_iff name,
                List.forall_mem_cons, tolerated, true_and]
              grind
            · have tolerated : Tolerated first second (some name, value) ↔
                  value.isWhole = true := by
                simp [Tolerated, isFirst, isSecond]
              rw [if_neg isFirst, if_neg isSecond, bind_assoc, bind_eq_ok_iff,
                valuesNamed_cons_of_ne isFirst, valuesNamed_cons_of_ne isSecond]
              simp only [pure_bind, inductionHypothesis, Reader.skip_eq_ok_iff,
                List.forall_mem_cons, tolerated, exists_const]
              grind

theorem object_eq_ok_iff {γ : Type} {make : α → β → Except ReadError γ}
    {finish : σ → Except ReadError γ}
    (finish_eq : ∀ left right, finish (draft left right) = Reader.required first left >>=
      fun leftPart => Reader.required second right >>= make leftPart)
    {members : List (Option String × Document)} {closed : Bool} {result : γ} :
    (Reader.members member (draft none none) members >>= fun gathered =>
        Reader.ended closed >>= fun _ => finish gathered) = .ok result ↔
      Assembles first second readFirst readSecond make (.object members closed) result := by
  simp only [bind_eq_ok_iff, members_eq_ok_iff different draft member_eq, Reader.ended_eq_ok_iff]
  constructor
  · rintro ⟨_, ⟨left?, right?, rfl, gathersLeft, gathersRight, tolerated⟩, _, rfl, finished⟩
    simp only [finish_eq, bind_eq_ok_iff, Reader.required_eq_ok_iff] at finished
    obtain ⟨leftPart, rfl, rightPart, rfl, made⟩ := finished
    obtain ⟨left, firstOnce, readLeft⟩ := gathers_none_iff.1 gathersLeft
    obtain ⟨right, secondOnce, readRight⟩ := gathers_none_iff.1 gathersRight
    exact ⟨left, right, leftPart, rightPart, .object firstOnce secondOnce tolerated, readLeft,
      readRight, made⟩
  · rintro ⟨left, right, leftPart, rightPart, parts, readLeft, readRight, made⟩
    cases parts with
    | object firstOnce secondOnce tolerated =>
        refine ⟨_, ⟨some leftPart, some rightPart, rfl,
          gathers_none_iff.2 ⟨left, firstOnce, readLeft⟩,
          gathers_none_iff.2 ⟨right, secondOnce, readRight⟩, tolerated⟩, (), rfl, ?_⟩
        rw [finish_eq]
        exact made

end Draft

theorem array_eq_ok_iff {γ : Type} (first second : String)
    {readFirst : Document → Except ReadError α} {readSecond : Document → Except ReadError β}
    {make : α → β → Except ReadError γ} {one two : Document} {rest : List Document}
    {closed : Bool} {result : γ} :
    (readFirst one >>= fun leftPart => readSecond two >>= fun rightPart =>
        Reader.ended (closed && rest.isEmpty) >>= fun _ => make leftPart rightPart) = .ok result ↔
      Assembles first second readFirst readSecond make (.array (one :: two :: rest) closed)
        result := by
  simp only [bind_eq_ok_iff, Reader.ended_eq_ok_iff, Bool.and_eq_true, List.isEmpty_iff]
  constructor
  · rintro ⟨leftPart, readLeft, rightPart, readRight, _, ⟨rfl, rfl⟩, made⟩
    exact ⟨one, two, leftPart, rightPart, .array, readLeft, readRight, made⟩
  · rintro ⟨_, _, leftPart, rightPart, parts, readLeft, readRight, made⟩
    cases parts
    exact ⟨leftPart, readLeft, rightPart, readRight, (), ⟨rfl, rfl⟩, made⟩

theorem TwoParts.valuesNamed_eq {first second : String}
    {members : List (Option String × Document)} {closed : Bool} {left right : Document}
    (parts : TwoParts first second (.object members closed) left right) :
    valuesNamed first members = [left] ∧ valuesNamed second members = [right] := by
  cases parts with
  | object firstOnce secondOnce _ => exact ⟨firstOnce, secondOnce⟩

theorem TwoParts.unique {first second : String} {document left right left' right' : Document}
    (parts : TwoParts first second document left right)
    (others : TwoParts first second document left' right') : left = left' ∧ right = right' := by
  cases parts with
  | object firstOnce secondOnce _ =>
      cases others with
      | object firstOther secondOther _ =>
          exact ⟨List.singleton_inj.1 (firstOnce.symm.trans firstOther),
            List.singleton_inj.1 (secondOnce.symm.trans secondOther)⟩
  | array =>
      cases others
      exact ⟨rfl, rfl⟩

end CompactSchema.Json
