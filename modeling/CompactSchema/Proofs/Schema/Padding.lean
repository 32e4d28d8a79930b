import CompactSchema.Proofs.Layout.Order
import CompactSchema.Proofs.Schema.Reading

/-!
Contract: members that no reader knows have no say in what is read.

A document can be padded: the object of a schema and the objects of its fields take any
number of further members at any place, as long as their names are not known to the
reader and their values are JSON. A reader skips such a member and is where it was, so
padding changes neither the schema nor the error that a document is read as. Id and layout
are computed from the type name and the fields that were read, whatever a document claims
them to be.

Owns: padded documents, and that they are read alike.

Does not own: how texts become documents, see `Proofs.Json.Reading`.
-/

set_option autoImplicit false

namespace CompactSchema

open Json (Document)

/-! ## Padded objects -/

namespace Json

/-- A member that a reader of the known names skips. -/
def Skippable (known : List String) (member : Option String × Document) : Prop :=
  ∃ name, member.1 = some name ∧ name ∉ known ∧ member.2.isWhole = true

/-- The members of an object, and the same with skippable ones put in anywhere. What stands
under a name may change as `alike` allows. -/
inductive Padded (known : List String) (alike : Option String → Document → Document → Prop) :
    List (Option String × Document) → List (Option String × Document) → Prop where
  | nil : Padded known alike [] []
  | keep {name? : Option String} {value other : Document}
      {members others : List (Option String × Document)} (kept : alike name? value other)
      (rest : Padded known alike members others) :
      Padded known alike ((name?, value) :: members) ((name?, other) :: others)
  | insert {extra : Option String × Document} {members others : List (Option String × Document)}
      (skippable : Skippable known extra) (rest : Padded known alike members others) :
      Padded known alike members (extra :: others)

namespace Reader

variable {α σ : Type}

theorem skip_of_isWhole {document : Document} (whole : document.isWhole = true) :
    skip document = .ok () :=
  skip_eq_ok_iff.2 whole

/-- A list is read alike if each of its items is. -/
theorem list_eq_of_forall₂ {item : Document → Except ReadError α} {documents others : List Document}
    (alike : List.Forall₂ (fun document other => item other = item document) documents others)
    (closed : Bool) : list item (.array others closed) = list item (.array documents closed) := by
  have itemsAlike : items item others = items item documents := by
    induction alike with
    | nil => rfl
    | cons first _ inductionHypothesis => rw [items, items, first, inductionHypothesis]
  rw [list, list, itemsAlike]

/-- Padding is skipped: whatever was read before and whatever follows, the members come to
the same. -/
theorem members_eq_of_padded {known : List String}
    {alike : Option String → Document → Document → Prop}
    {member : σ → String → Document → Except ReadError σ}
    (skips : ∀ sofar name value, name ∉ known → value.isWhole = true →
      member sofar name value = .ok sofar)
    (respects : ∀ sofar name value other, alike (some name) value other →
      member sofar name other = member sofar name value)
    {padded unpadded : List (Option String × Document)} (padding : Padded known alike unpadded padded)
    (sofar : σ) : members member sofar padded = members member sofar unpadded := by
  induction padding generalizing sofar with
  | nil => rfl
  | @keep name? value other _ _ kept _ inductionHypothesis =>
      cases name? with
      | none => rfl
      | some name =>
          rw [members, members, respects sofar name value other kept]
          simp only [inductionHypothesis]
  | @insert extra _ _ skippable _ inductionHypothesis =>
      obtain ⟨name?, value⟩ := extra
      obtain ⟨name, rfl, unknown, whole⟩ := skippable
      rw [members, skips sofar name value unknown whole]
      exact inductionHypothesis sofar

end Reader

end Json

/-! ## Padded fields -/

namespace Descriptor

/-- A document of a field, and the same with members put in, if it is an object. -/
inductive Padded : Document → Document → Prop where
  | same (document : Document) : Padded document document
  | object {members others : List (Option String × Document)} {closed : Bool}
      (padding : Json.Padded ["name", "kind"] (fun _ => Eq) members others) :
      Padded (.object members closed) (.object others closed)

theorem Draft.member_of_unknown {name : String} {value : Document} (draft : Draft)
    (unknown : name ∉ ["name", "kind"]) (whole : value.isWhole = true) :
    Draft.member draft name value = .ok draft := by
  have notName : name ≠ "name" := List.ne_of_not_mem_cons unknown
  have notKind : name ≠ "kind" := List.ne_of_not_mem_cons (List.not_mem_of_not_mem_cons unknown)
  unfold Draft.member
  rw [if_neg notName, if_neg notKind, Json.Reader.skip_of_isWhole whole]
  rfl

theorem ofDocument_eq_of_padded {document padded : Document} (padding : Padded document padded) :
    ofDocument padded = ofDocument document := by
  cases padding with
  | same => rfl
  | @object members others _ padding =>
      have alike : Json.Reader.members Draft.member {} others =
          Json.Reader.members Draft.member {} members := by
        apply Json.Reader.members_eq_of_padded _ _ padding
        · exact fun draft _ _ => draft.member_of_unknown
        · intro _ _ _ _ equal
          rw [equal]
      simp only [ofDocument, alike]

end Descriptor

/-! ## Padded schemas -/

namespace Schema

/-- What stands under a name of a schema, and the same with members put into the objects of
the listed fields. -/
inductive PartPadded : Option String → Document → Document → Prop where
  | same (name? : Option String) (value : Document) : PartPadded name? value value
  | fields {documents others : List Document} {closed : Bool}
      (paddings : List.Forall₂ Descriptor.Padded documents others) :
      PartPadded (some "fields") (.array documents closed) (.array others closed)

/-- The object of a schema, and the same with members put in, also into the objects of its
fields. -/
inductive Padded : Document → Document → Prop where
  | object {members others : List (Option String × Document)} {closed : Bool}
      (padding : Json.Padded ["type_name", "fields"] PartPadded members others) :
      Padded (.object members closed) (.object others closed)

theorem Draft.member_of_unknown {name : String} {value : Document} (draft : Draft)
    (unknown : name ∉ ["type_name", "fields"]) (whole : value.isWhole = true) :
    Draft.member draft name value = .ok draft := by
  have notTypeName : name ≠ "type_name" := List.ne_of_not_mem_cons unknown
  have notFields : name ≠ "fields" :=
    List.ne_of_not_mem_cons (List.not_mem_of_not_mem_cons unknown)
  unfold Draft.member
  rw [if_neg notTypeName, if_neg notFields, Json.Reader.skip_of_isWhole whole]
  rfl

theorem Draft.member_eq_of_partPadded {name : String} {value padded : Document} (draft : Draft)
    (padding : PartPadded (some name) value padded) :
    Draft.member draft name padded = Draft.member draft name value := by
  cases padding with
  | same => rfl
  | fields paddings =>
      have alike := paddings.imp fun _ _ padding => Descriptor.ofDocument_eq_of_padded padding
      unfold Draft.member
      rw [Json.Reader.list_eq_of_forall₂ alike]
      rfl

theorem ofDocument_eq_of_padded {document padded : Document} (padding : Padded document padded) :
    ofDocument padded = ofDocument document := by
  cases padding with
  | @object members others _ padding =>
      have alike : Json.Reader.members Draft.member {} others =
          Json.Reader.members Draft.member {} members := by
        apply Json.Reader.members_eq_of_padded _ _ padding
        · exact fun draft _ _ => draft.member_of_unknown
        · exact fun draft _ _ _ => draft.member_eq_of_partPadded
      simp only [ofDocument, alike]

theorem ofJsonText_eq_of_padded {content padded : String}
    (padding : Padded (Json.read content).document (Json.read padded).document)
    (complete : (Json.read content).complete = (Json.read padded).complete) :
    ofJsonText padded = ofJsonText content := by
  unfold ofJsonText Json.Reader.text
  simp only [ofDocument_eq_of_padded padding, complete]

/-! ## What is derived from the parts that were read -/

theorem fields_of_ofDocument {document : Document} {schema : Schema}
    (accepted : ofDocument document = .ok schema) :
    ∃ fields, States document schema.typeName fields ∧ fields.Perm schema.fields ∧
      schema.fields = Entries.ofList fields := by
  obtain ⟨fields, states, same⟩ := ofDocument_eq_ok_iff.1 accepted
  have distinct : (Entries.keys fields).Nodup :=
    (same.map Prod.fst).nodup_iff.2 (Entries.nodup_keys schema.ordered)
  have sorted : (Entries.ofList fields).Perm schema.fields :=
    (Entries.perm_ofList distinct).trans same
  exact ⟨fields, states, same,
    (Entries.eq_of_perm (Entries.ordered_ofList fields) schema.ordered sorted).symm⟩

/-- Members under unknown names change nothing: an object of a schema with any number of
them put in, at any place and also into the objects of its fields, is read as the same
schema or refused with the same error, be it as a part of a text or as a whole one. What a
document claims as id or layout is never used: both are computed from the type name and
the fields that it gives. -/
theorem padding_is_ignored :
    (∀ {document padded : Document}, Padded document padded →
      ofDocument padded = ofDocument document) ∧
    (∀ {content padded : String},
      Padded (Json.read content).document (Json.read padded).document →
      (Json.read content).complete = (Json.read padded).complete →
      ofJsonText padded = ofJsonText content) ∧
    (∀ {document : Document} {schema : Schema}, ofDocument document = .ok schema →
      ∃ fields, States document schema.typeName fields ∧
        schema.fields = Entries.ofList fields ∧
        schema.id = Fingerprint.compute schema.typeName (Entries.ofList fields) ∧
        schema.LaidOutBy fields) := by
  refine ⟨ofDocument_eq_of_padded, ofJsonText_eq_of_padded, ?_⟩
  intro document schema accepted
  obtain ⟨fields, states, same, sorted⟩ := fields_of_ofDocument accepted
  refine ⟨fields, states, sorted, ?_, laidOutBy_of_perm same⟩
  rw [← sorted]
  rfl

/-- A type with one field, whose kind has the given name. -/
def oneField (kindName : String) : Json :=
  .object [("type_name", .string "P"), ("fields", .array [.object
    [("name", .string "x"), ("kind", .string kindName)]])]

/-- The same with an id and placements that are made up. -/
def oneFieldPadded (kindName : String) : Json :=
  .object [("schema_id", .string "7"), ("type_name", .string "P"), ("fields", .array [.object
    [("layout", .array [.string "9"]), ("name", .string "x"), ("kind", .string kindName)]]),
    ("layout", .object [])]

theorem reads_oneField (kindName : String) : Json.Reads (oneField kindName) (.object
    [(some "type_name", .string (some "P")), (some "fields", .array [.object
      [(some "name", .string (some "x")), (some "kind", .string (some kindName))] true] true)]
    true) := by
  have field := Json.reads_object (.cons ((Json.reads_string "x").member "name")
    (.cons ((Json.reads_string kindName).member "kind") .nil))
  have fields := Json.reads_array (.cons field .nil)
  exact Json.reads_object (.cons ((Json.reads_string "P").member "type_name")
    (.cons (fields.member "fields") .nil))

theorem reads_oneFieldPadded (kindName : String) : Json.Reads (oneFieldPadded kindName) (.object
    [(some "schema_id", .string (some "7")), (some "type_name", .string (some "P")),
      (some "fields", .array [.object [(some "layout", .array [.string (some "9")] true),
        (some "name", .string (some "x")), (some "kind", .string (some kindName))] true] true),
      (some "layout", .object [] true)] true) := by
  have place := Json.reads_array (.cons (Json.reads_string "9") .nil)
  have field := Json.reads_object (.cons (place.member "layout")
    (.cons ((Json.reads_string "x").member "name")
      (.cons ((Json.reads_string kindName).member "kind") .nil)))
  have fields := Json.reads_array (.cons field .nil)
  exact Json.reads_object (.cons ((Json.reads_string "7").member "schema_id")
    (.cons ((Json.reads_string "P").member "type_name") (.cons (fields.member "fields")
      (.cons ((Json.reads_object .nil).member "layout") .nil))))

theorem padded_oneField (kindName : String) :
    Padded (Json.read (oneField kindName).text).document
      (Json.read (oneFieldPadded kindName).text).document := by
  have skippable (known : List String) (name : String) (value : Document) (unknown : name ∉ known)
      (whole : value.isWhole = true) : Json.Skippable known (some name, value) :=
    ⟨name, rfl, unknown, whole⟩
  rw [Json.read_text (reads_oneField kindName), Json.read_text (reads_oneFieldPadded kindName)]
  apply Padded.object
  apply Json.Padded.insert (skippable _ _ _ (by decide) rfl)
  apply Json.Padded.keep (.same _ _)
  apply Json.Padded.keep
  · apply PartPadded.fields
    apply List.Forall₂.cons _ .nil
    apply Descriptor.Padded.object
    apply Json.Padded.insert (skippable _ _ _ (by decide) rfl)
    apply Json.Padded.keep rfl
    exact .keep rfl .nil
  · exact .insert (skippable _ _ _ (by decide) rfl) .nil

theorem padding_is_ignored_oneField :
    ∃ schema : Schema, ofJsonText (oneField "INT32").text = .ok schema ∧
      ofJsonText (oneFieldPadded "INT32").text = .ok schema ∧
      schema.id = Fingerprint.compute "P" [("x", .plain .int32)] ∧
      ofJsonText (oneField "INT").text = .error (.unknownKind "INT") ∧
      ofJsonText (oneFieldPadded "INT").text = .error (.unknownKind "INT") := by
  obtain ⟨_, ofTexts, ofAccepted⟩ := padding_is_ignored
  have sameEnd (kindName : String) : (Json.read (oneField kindName).text).complete =
      (Json.read (oneFieldPadded kindName).text).complete := by
    rw [Json.read_text (reads_oneField kindName), Json.read_text (reads_oneFieldPadded kindName)]
  have ignored (kindName : String) := ofTexts (padded_oneField kindName) (sameEnd kindName)
  obtain ⟨schema, accepted, named, listed⟩ : ∃ schema : Schema,
      ofJsonText (oneField "INT32").text = .ok schema ∧ schema.typeName = "P" ∧
        schema.fields = [("x", .plain .int32)] := by
    unfold ofJsonText
    rw [Json.Reader.text_of_reads (reads_oneField "INT32")]
    exact ⟨_, rfl, rfl, rfl⟩
  have refused : ofJsonText (oneField "INT").text = .error (.unknownKind "INT") := by
    unfold ofJsonText
    rw [Json.Reader.text_of_reads (reads_oneField "INT")]
    rfl
  obtain ⟨fields, _, sorted, id, _⟩ := ofAccepted (Json.Reader.text_eq_ok_iff.1 accepted).1
  rw [named, ← sorted, listed] at id
  exact ⟨schema, accepted, (ignored "INT32").trans accepted, id, refused,
    (ignored "INT").trans refused⟩

end Schema

end CompactSchema
