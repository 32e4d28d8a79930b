import CompactSchema.Proofs.Schema.Reading

/-!
Contract: which texts list schemas.

A text lists schemas if it is one JSON array and nothing else, and each of its items gives
the type name and the fields of one schema. One item at fault is enough for the text to list
nothing, wherever in the array it stands: a part that is missing or given twice, a kind that
there is not, an empty type name, a name that repeats, or a field that can not be declared.

Owns: the relation of a text to the schemas that it lists, and the faults of an item.

Does not own: what becomes of the listed schemas, see `Proofs.BulkLoad`.
-/

set_option autoImplicit false

namespace CompactSchema

open Json (Document TwoParts valuesNamed)

/-! ## Faults -/

/-- The values under a part of an object are not just one. -/
def Json.NotOnce (part : String) (members : List (Option String × Document)) : Prop :=
  (valuesNamed part members).length ≠ 1

instance (part : String) (members : List (Option String × Document)) :
    Decidable (Json.NotOnce part members) :=
  inferInstanceAs (Decidable ((valuesNamed part members).length ≠ 1))

/-- An object that gives no field which can be declared. -/
inductive Descriptor.Faulty : Document → Prop where
  | nameNotOnce {members : List (Option String × Document)} {closed : Bool}
      (notOnce : Json.NotOnce "name" members) : Faulty (.object members closed)
  | kindNotOnce {members : List (Option String × Document)} {closed : Bool}
      (notOnce : Json.NotOnce "kind" members) : Faulty (.object members closed)
  | unknownKind {members : List (Option String × Document)} {closed : Bool} {label : String}
      (given : .string (some label) ∈ valuesNamed "kind" members)
      (unknown : ∀ kind : Kind, kind.name ≠ label) : Faulty (.object members closed)
  | undeclarable {members : List (Option String × Document)} {closed : Bool}
      (given : .string (some Kind.notAvailable.name) ∈ valuesNamed "kind" members) :
      Faulty (.object members closed)

/-- The name that a document gives to a field, if it is an object with a name. -/
def Descriptor.givenName? : Document → Option Document
  | .object members _ => (valuesNamed "name" members).head?
  | _ => none

/-- An object that gives no schema. -/
inductive Schema.Faulty : Document → Prop where
  | typeNameNotOnce {members : List (Option String × Document)} {closed : Bool}
      (notOnce : Json.NotOnce "type_name" members) : Faulty (.object members closed)
  | fieldsNotOnce {members : List (Option String × Document)} {closed : Bool}
      (notOnce : Json.NotOnce "fields" members) : Faulty (.object members closed)
  | emptyTypeName {members : List (Option String × Document)} {closed : Bool}
      (given : .string (some "") ∈ valuesNamed "type_name" members) :
      Faulty (.object members closed)
  | field {members : List (Option String × Document)} {closed : Bool}
      {documents : List Document} {whole : Bool} {document : Document}
      (given : .array documents whole ∈ valuesNamed "fields" members)
      (listed : document ∈ documents) (faulty : Descriptor.Faulty document) :
      Faulty (.object members closed)
  | repeatedName {members : List (Option String × Document)} {closed : Bool}
      {documents : List Document} {whole : Bool} {first second : Document} {name : String}
      (given : .array documents whole ∈ valuesNamed "fields" members)
      (both : [first, second].Sublist documents)
      (firstName : Descriptor.givenName? first = some (.string (some name)))
      (secondName : Descriptor.givenName? second = some (.string (some name))) :
      Faulty (.object members closed)

/-- What is related to a list item by item has a part that is related to a part of the list. -/
theorem Json.exists_sublist_of_forall₂ {α β : Type} {related : α → β → Prop} {items : List α}
    {others : List β} (all : List.Forall₂ related items others) {part : List α}
    (sublist : part.Sublist items) :
    ∃ otherPart, otherPart.Sublist others ∧ List.Forall₂ related part otherPart := by
  induction sublist generalizing others with
  | slnil => exact ⟨[], others.nil_sublist, .nil⟩
  | cons _ _ inductionHypothesis =>
      cases all with
      | cons _ rest =>
          obtain ⟨otherPart, inRest, relatedPart⟩ := inductionHypothesis rest
          exact ⟨otherPart, inRest.cons _, relatedPart⟩
  | cons_cons _ _ inductionHypothesis =>
      cases all with
      | cons first rest =>
          obtain ⟨otherPart, inRest, relatedPart⟩ := inductionHypothesis rest
          exact ⟨_, inRest.cons_cons _, .cons first relatedPart⟩

theorem Json.NotOnce.ne_singleton {part : String} {members : List (Option String × Document)}
    (notOnce : Json.NotOnce part members) (value : Document) :
    valuesNamed part members ≠ [value] := by
  intro once
  rw [Json.NotOnce, once] at notOnce
  exact notOnce rfl

namespace Descriptor

theorem givenName?_of_states {document : Document} {field : String × Kind} {name : String}
    (states : States document field) (named : givenName? document = some (.string (some name))) :
    field.1 = name := by
  obtain ⟨_, parts, _⟩ := states
  cases parts with
  | object nameOnce _ _ =>
      rw [givenName?, nameOnce] at named
      simpa using named
  | array => cases named

/-- A document at fault gives no field, or one that can not be declared. -/
theorem Faulty.notAvailable {document : Document} (faulty : Faulty document)
    {field : String × Kind} (states : States document field) : field.2 = .notAvailable := by
  obtain ⟨kindDocument, parts, statesKind⟩ := states
  have stated {label : String} {members : List (Option String × Document)} {closed : Bool}
      (object : document = .object members closed)
      (given : .string (some label) ∈ valuesNamed "kind" members) : field.2.name = label := by
    subst object
    rw [parts.valuesNamed_eq.2, List.mem_singleton] at given
    subst given
    cases statesKind
    rfl
  cases faulty with
  | nameNotOnce notOnce => exact absurd parts.valuesNamed_eq.1 (notOnce.ne_singleton _)
  | kindNotOnce notOnce => exact absurd parts.valuesNamed_eq.2 (notOnce.ne_singleton _)
  | unknownKind given unknown => exact absurd (stated rfl given) (unknown field.2)
  | undeclarable given =>
      have same : Kind.ofName? field.2.name = Kind.ofName? Kind.notAvailable.name :=
        congrArg Kind.ofName? (stated rfl given)
      rw [Kind.ofName?_name, Kind.ofName?_name] at same
      exact Option.some.inj same

end Descriptor

namespace Schema

/-- A document gives the type name of a schema, and its fields, each once and in some order. -/
def GivenBy (document : Document) (schema : Schema) : Prop :=
  ∃ fields, States document schema.typeName fields ∧ fields.Perm schema.fields

theorem Faulty.not_givenBy {document : Document} (faulty : Faulty document) (schema : Schema) :
    ¬ GivenBy document schema := by
  rintro ⟨fields, ⟨documents, parts, all⟩, same⟩
  have listed {others : List Document} {whole : Bool}
      {members : List (Option String × Document)} {closed : Bool}
      (object : document = .object members closed)
      (given : .array others whole ∈ valuesNamed "fields" members) : others = documents := by
    subst object
    rw [parts.valuesNamed_eq.2, List.mem_singleton] at given
    cases given
    rfl
  cases faulty with
  | typeNameNotOnce notOnce => exact notOnce.ne_singleton _ parts.valuesNamed_eq.1
  | fieldsNotOnce notOnce => exact notOnce.ne_singleton _ parts.valuesNamed_eq.2
  | emptyTypeName given =>
      rw [parts.valuesNamed_eq.1, List.mem_singleton] at given
      apply schema.named
      simpa using given.symm
  | field given member faulty =>
      obtain rfl := listed rfl given
      obtain ⟨_, sublist, states⟩ :=
        Json.exists_sublist_of_forall₂ all (List.singleton_sublist.2 member)
      cases states with
      | cons states none =>
          cases none
          have declared := same.subset (List.singleton_sublist.1 sublist)
          exact schema.available _ declared (faulty.notAvailable states)
  | repeatedName given both firstName secondName =>
      obtain rfl := listed rfl given
      obtain ⟨_, sublist, states⟩ := Json.exists_sublist_of_forall₂ all both
      have distinct : (Entries.keys fields).Nodup :=
        (same.map Prod.fst).nodup_iff.2 (Entries.nodup_keys schema.ordered)
      cases states with
      | cons statesFirst rest =>
          cases rest with
          | cons statesSecond none =>
              cases none
              have twice := distinct.sublist (sublist.map Prod.fst)
              simp [Descriptor.givenName?_of_states statesFirst firstName,
                Descriptor.givenName?_of_states statesSecond secondName] at twice

/-- A text is one array, and its items give the schemas in turn. -/
def Lists (content : String) (schemas : List Schema) : Prop :=
  ∃ documents, Json.read content = ⟨.array documents true, true⟩ ∧
    List.Forall₂ GivenBy documents schemas

theorem listOfJsonText_eq_ok_iff {content : String} {schemas : List Schema} :
    listOfJsonText content = .ok schemas ↔ Lists content schemas := by
  rw [listOfJsonText, Json.Reader.text_eq_ok_iff, Json.Reader.list_eq_ok_iff]
  constructor
  · rintro ⟨⟨documents, isArray, all⟩, complete⟩
    refine ⟨documents, ?_, all.imp fun _ _ read => ofDocument_eq_ok_iff.1 read⟩
    rw [← isArray, ← complete]
  · rintro ⟨documents, reading, all⟩
    rw [reading]
    exact ⟨⟨documents, rfl, all.imp fun _ _ given => ofDocument_eq_ok_iff.2 given⟩, rfl⟩

theorem lists_text (schemas : List Schema) :
    Lists (Json.array (schemas.map toJson)).text schemas :=
  listOfJsonText_eq_ok_iff.1 (listOfJsonText_text schemas)

/-- One item at fault is enough for an array to list nothing. -/
theorem Faulty.not_lists {content : String} {documents : List Document} {closed : Bool}
    (isArray : (Json.read content).document = .array documents closed) {document : Document}
    (member : document ∈ documents) (faulty : Faulty document) (schemas : List Schema) :
    ¬ Lists content schemas := by
  rintro ⟨others, reading, all⟩
  rw [reading] at isArray
  cases isArray
  obtain ⟨_, _, given⟩ := Json.exists_sublist_of_forall₂ all (List.singleton_sublist.2 member)
  cases given with
  | cons given _ => exact faulty.not_givenBy _ given

end Schema

end CompactSchema
