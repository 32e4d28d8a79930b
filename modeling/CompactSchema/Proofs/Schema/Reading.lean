import CompactSchema.Proofs.Json.Parts
import CompactSchema.Proofs.Json.Reading
import CompactSchema.Proofs.Schema.Declaration
import CompactSchema.Schema.Json

/-!
Contract: what a JSON document states, and that schemas survive their written form.

A document states a type name and some fields, in any of the forms that are accepted. It
is read as a schema just if these are its type name and its fields, each once and in some
order. The written form of a schema states just its own type name and fields, so nothing
is lost although id and layout are not written.

Owns: the relation of documents to kinds, fields and schemas, and reading back what was
written.

Does not own: JSON itself, see `Proofs.Json.Reading` and `Proofs.Json.Parts`.
-/

set_option autoImplicit false

namespace CompactSchema

open Json (Assembles Document not_assembles Reads TwoParts bind_eq_ok_iff)

/-! ## Kinds -/

namespace Kind

theorem ofName?_name (kind : Kind) : ofName? kind.name = some kind := by
  have listed : ∀ kind ∈ catalogue, ofName? kind.name = some kind := by decide +kernel
  exact listed kind kind.mem_catalogue

theorem name_of_ofName? {name : String} {kind : Kind} (found : ofName? name = some kind) :
    kind.name = name := by
  unfold ofName? at found
  have hit := List.find?_some found
  exact eq_of_beq hit

theorem named_eq_ok_iff {name : String} {kind : Kind} :
    named name = .ok kind ↔ name = kind.name := by
  constructor
  · intro succeeded
    unfold named at succeeded
    split at succeeded
    · rename_i found
      cases succeeded
      exact (name_of_ofName? found).symm
    · cases succeeded
  · rintro rfl
    rw [named, ofName?_name]

/-- A document gives a kind by its name, alone or as the only name of an object with null
under it. -/
inductive States : Document → Kind → Prop where
  | name (kind : Kind) : States (.string (some kind.name)) kind
  | tagged (kind : Kind) : States (.object [(some kind.name, .null)] true) kind

theorem ofDocument_eq_ok_iff {document : Document} {kind : Kind} :
    ofDocument document = .ok kind ↔ States document kind := by
  constructor
  · intro succeeded
    unfold ofDocument at succeeded
    split at succeeded
    · obtain rfl := named_eq_ok_iff.1 succeeded
      exact .name kind
    · obtain ⟨found, isNamed, bare⟩ := bind_eq_ok_iff.1 succeeded
      obtain rfl := named_eq_ok_iff.1 isNamed
      split at bare
      · cases bare
        exact .tagged kind
      · cases bare
    · cases succeeded
  · intro states
    cases states with
    | name => exact named_eq_ok_iff.2 rfl
    | tagged =>
        rw [ofDocument, named_eq_ok_iff.2 rfl]
        rfl

theorem States.unique {document : Document} {kind other : Kind} (states : States document kind)
    (statesOther : States document other) : kind = other :=
  Except.ok.inj ((ofDocument_eq_ok_iff.2 states).symm.trans (ofDocument_eq_ok_iff.2 statesOther))

end Kind

/-! ## Fields -/

namespace Descriptor

theorem ofDocument_eq_ok_iff_assembles {document : Document} {descriptor : Descriptor} :
    ofDocument document = .ok descriptor ↔
      Assembles "name" "kind" Json.Reader.string Kind.ofDocument
        (fun name kind => .ok ⟨name, kind, .unassigned⟩) document descriptor := by
  cases document with
  | object members closed =>
      exact Json.object_eq_ok_iff (by decide) Draft.mk (fun _ _ _ _ => rfl) (fun _ _ => rfl)
  | array items closed =>
      match items with
      | [] => exact iff_of_false (by simp [ofDocument]) (not_assembles (by simp) (by simp))
      | [first] =>
          have refused : ofDocument (.array [first] closed) ≠ .ok descriptor := by
            intro succeeded
            obtain ⟨_, _, impossible⟩ := bind_eq_ok_iff.1 succeeded
            cases impossible
          exact iff_of_false refused (not_assembles (by simp) (by simp))
      | _ :: _ :: _ => exact Json.array_eq_ok_iff "name" "kind"
  | _ => exact iff_of_false (by simp [ofDocument]) (not_assembles (by simp) (by simp))

/-- A document gives a field by its name and its kind. -/
def States (document : Document) (field : String × Kind) : Prop :=
  ∃ kindDocument, TwoParts "name" "kind" document (.string (some field.1)) kindDocument ∧
    Kind.States kindDocument field.2

theorem ofDocument_eq_ok_iff {document : Document} {descriptor : Descriptor} :
    ofDocument document = .ok descriptor ↔
      States document descriptor.field ∧ descriptor.placement = .unassigned := by
  obtain ⟨name, kind, placement⟩ := descriptor
  rw [ofDocument_eq_ok_iff_assembles]
  constructor
  · rintro ⟨left, right, _, _, parts, readName, readKind, made⟩
    cases made
    obtain rfl := Json.Reader.string_eq_ok_iff.1 readName
    exact ⟨⟨right, parts, Kind.ofDocument_eq_ok_iff.1 readKind⟩, rfl⟩
  · rintro ⟨⟨right, parts, states⟩, unassigned⟩
    cases unassigned
    exact ⟨_, right, name, kind, parts, Json.Reader.string_eq_ok_iff.2 rfl,
      Kind.ofDocument_eq_ok_iff.2 states, rfl⟩

theorem States.unique {document : Document} {field other : String × Kind}
    (states : States document field) (statesOther : States document other) : field = other := by
  obtain ⟨kindDocument, parts, statesKind⟩ := states
  obtain ⟨otherDocument, otherParts, statesOtherKind⟩ := statesOther
  obtain ⟨sameName, rfl⟩ := parts.unique otherParts
  have named : field.1 = other.1 := by simpa using sameName
  exact Prod.ext named (statesKind.unique statesOtherKind)

/-- The document of a written field. -/
def document (field : String × Kind) : Document :=
  .object [(some "name", .string (some field.1)), (some "kind", .string (some field.2.name))] true

theorem reads_toJson (descriptor : Descriptor) :
    Reads descriptor.toJson (document descriptor.field) := by
  have name := (Json.reads_string descriptor.name).member "name"
  have kind := (Json.reads_string descriptor.kind.name).member "kind"
  exact Json.reads_object (.cons name (.cons kind .nil))

theorem states_document (field : String × Kind) : States (document field) field :=
  ⟨_, .object rfl rfl (by simp [Json.Tolerated]), .name field.2⟩

end Descriptor

/-! ## Schemas -/

namespace Schema

theorem ofDocument_eq_ok_iff_assembles {document : Document} {schema : Schema} :
    ofDocument document = .ok schema ↔
      Assembles "type_name" "fields" Json.Reader.string (Json.Reader.list Descriptor.ofDocument)
        declared document schema := by
  cases document with
  | object members closed =>
      exact Json.object_eq_ok_iff (by decide) Draft.mk (fun _ _ _ _ => rfl) (fun _ _ => rfl)
  | array items closed =>
      match items with
      | [] => exact iff_of_false (by simp [ofDocument]) (not_assembles (by simp) (by simp))
      | [first] =>
          have refused : ofDocument (.array [first] closed) ≠ .ok schema := by
            intro succeeded
            obtain ⟨_, _, impossible⟩ := bind_eq_ok_iff.1 succeeded
            cases impossible
          exact iff_of_false refused (not_assembles (by simp) (by simp))
      | _ :: _ :: _ => exact Json.array_eq_ok_iff "type_name" "fields"
  | _ => exact iff_of_false (by simp [ofDocument]) (not_assembles (by simp) (by simp))

/-- A document gives a type name and fields, in some order and each in any form. -/
def States (document : Document) (typeName : String) (fields : List (String × Kind)) : Prop :=
  ∃ documents, TwoParts "type_name" "fields" document (.string (some typeName))
      (.array documents true) ∧ List.Forall₂ Descriptor.States documents fields

theorem States.unique {document : Document} {typeName otherName : String}
    {fields others : List (String × Kind)} (states : States document typeName fields)
    (statesOther : States document otherName others) : typeName = otherName ∧ fields = others := by
  obtain ⟨documents, parts, all⟩ := states
  obtain ⟨otherDocuments, otherParts, allOther⟩ := statesOther
  obtain ⟨sameName, sameDocuments⟩ := parts.unique otherParts
  obtain rfl : documents = otherDocuments := by simpa using sameDocuments
  refine ⟨by simpa using sameName, ?_⟩
  exact List.right_unique_forall₂' (fun _ _ _ first second => first.unique second) all allOther

theorem declared_eq_ok_iff {typeName : String} {descriptors : List Descriptor} {schema : Schema} :
    declared typeName descriptors = .ok schema ↔ schema.typeName = typeName ∧
      (descriptors.map Descriptor.field).Perm schema.fields := by
  rw [← declare_eq_ok_iff, declared]
  cases declare typeName descriptors <;> simp [Except.mapError]

/-- The descriptors that are read from documents are those that the documents give. -/
theorem forall₂_ofDocument_iff {documents : List Document} {fields : List (String × Kind)} :
    (∃ descriptors : List Descriptor, descriptors.map Descriptor.field = fields ∧
      List.Forall₂ (fun document descriptor => Descriptor.ofDocument document = .ok descriptor)
        documents descriptors) ↔ List.Forall₂ Descriptor.States documents fields := by
  simp only [Descriptor.ofDocument_eq_ok_iff]
  constructor
  · rintro ⟨descriptors, rfl, all⟩
    exact List.forall₂_map_right_iff.2 (all.imp fun _ _ read => read.1)
  · intro all
    refine ⟨fields.map fun field => ⟨field.1, field.2, .unassigned⟩, ?_, ?_⟩
    · rw [List.map_map]
      exact List.map_id fields
    · exact List.forall₂_map_right_iff.2 (all.imp fun _ _ states => ⟨states, rfl⟩)

/-- A document is read as a schema just if it gives its type name and its fields, each
once. -/
theorem ofDocument_eq_ok_iff {document : Document} {schema : Schema} :
    ofDocument document = .ok schema ↔
      ∃ fields, States document schema.typeName fields ∧ fields.Perm schema.fields := by
  rw [ofDocument_eq_ok_iff_assembles]
  constructor
  · rintro ⟨left, right, typeName, descriptors, parts, readName, readFields, made⟩
    obtain rfl := Json.Reader.string_eq_ok_iff.1 readName
    obtain ⟨documents, rfl, all⟩ := Json.Reader.list_eq_ok_iff.1 readFields
    obtain ⟨rfl, same⟩ := declared_eq_ok_iff.1 made
    exact ⟨_, ⟨documents, parts, forall₂_ofDocument_iff.1 ⟨descriptors, rfl, all⟩⟩, same⟩
  · rintro ⟨fields, ⟨documents, parts, all⟩, same⟩
    obtain ⟨descriptors, rfl, read⟩ := forall₂_ofDocument_iff.2 all
    exact ⟨_, _, schema.typeName, descriptors, parts, Json.Reader.string_eq_ok_iff.2 rfl,
      Json.Reader.list_eq_ok_iff.2 ⟨documents, rfl, read⟩, declared_eq_ok_iff.2 ⟨rfl, same⟩⟩

theorem ofJsonText_eq_ok_iff {content : String} {schema : Schema} :
    ofJsonText content = .ok schema ↔ (Json.read content).complete = true ∧
      ∃ fields, States (Json.read content).document schema.typeName fields ∧
        fields.Perm schema.fields := by
  rw [← ofDocument_eq_ok_iff, ofJsonText, Json.Reader.text_eq_ok_iff, and_comm]

/-! ## Reading back what was written -/

/-- The document of a written schema. -/
def document (schema : Schema) : Document :=
  .object [(some "type_name", .string (some schema.typeName)),
    (some "fields", .array (schema.fields.map Descriptor.document) true)] true

theorem reads_toJson (schema : Schema) : Reads schema.toJson schema.document := by
  have fields : List.Forall₂ Reads (schema.descriptors.map Descriptor.toJson)
      (schema.fields.map Descriptor.document) := by
    rw [← map_field_descriptors, List.map_map, List.forall₂_map_left_iff,
      List.forall₂_map_right_iff]
    exact List.forall₂_same.2 fun descriptor _ => descriptor.reads_toJson
  have named := (Json.reads_string schema.typeName).member "type_name"
  have listed := (Json.reads_array fields).member "fields"
  exact Json.reads_object (.cons named (.cons listed .nil))

theorem states_document (schema : Schema) :
    States schema.document schema.typeName schema.fields :=
  ⟨_, .object rfl rfl (by simp [Json.Tolerated]),
    List.forall₂_map_left_iff.2 (List.forall₂_same.2 fun field _ => Descriptor.states_document field)⟩

theorem ofDocument_document (schema : Schema) : ofDocument schema.document = .ok schema :=
  ofDocument_eq_ok_iff.2 ⟨schema.fields, schema.states_document, .refl _⟩

theorem ofJsonText_jsonText (schema : Schema) : ofJsonText schema.jsonText = .ok schema :=
  (Json.Reader.text_of_reads schema.reads_toJson ofDocument).trans schema.ofDocument_document

theorem listOfJsonText_text (schemas : List Schema) :
    listOfJsonText (Json.array (schemas.map toJson)).text = .ok schemas := by
  have reads : List.Forall₂ Reads (schemas.map toJson) (schemas.map document) := by
    rw [List.forall₂_map_left_iff, List.forall₂_map_right_iff]
    exact List.forall₂_same.2 fun schema _ => schema.reads_toJson
  have accepted : List.Forall₂ (fun document schema => ofDocument document = .ok schema)
      (schemas.map document) schemas :=
    List.forall₂_map_left_iff.2 (List.forall₂_same.2 fun schema _ => schema.ofDocument_document)
  rw [listOfJsonText, Json.Reader.text_of_reads (Json.reads_array reads)]
  exact Json.Reader.list_eq_ok_iff.2 ⟨_, rfl, accepted⟩

/-- A schema comes back from its written form with all that was derived from it, whatever
text it was read from at first, and its written form tells nothing of that text but the type
name and the set of fields. -/
theorem json_round_trip :
    (∀ {typeName : String} {descriptors : List Descriptor} {schema : Schema},
      declare typeName descriptors = .ok schema →
      ∃ restored, ofJsonText schema.jsonText = .ok restored ∧ restored = schema ∧
        restored.id = schema.id ∧ restored.descriptors = schema.descriptors ∧
        restored.fixedLength = schema.fixedLength ∧ restored.slotCount = schema.slotCount ∧
        restored.typeName = typeName ∧
        (descriptors.map Descriptor.field).Perm restored.fields) ∧
    (∀ {content : String} {schema : Schema}, ofJsonText content = .ok schema →
      ofJsonText schema.jsonText = .ok schema ∧
        ∃ fields, States (Json.read content).document schema.typeName fields ∧
          fields.Perm schema.fields) ∧
    (∀ {first second : String} {schema other : Schema} {typeName : String}
      {fields others : List (String × Kind)},
      ofJsonText first = .ok schema → ofJsonText second = .ok other →
      States (Json.read first).document typeName fields →
      States (Json.read second).document typeName others →
      (∀ field, field ∈ fields ↔ field ∈ others) → schema.jsonText = other.jsonText) := by
  refine ⟨?_, ?_, ?_⟩
  · intro typeName descriptors schema declared
    exact ⟨schema, schema.ofJsonText_jsonText, rfl, rfl, rfl, rfl, rfl,
      declare_eq_ok_iff.1 declared⟩
  · intro content schema accepted
    exact ⟨schema.ofJsonText_jsonText, (ofJsonText_eq_ok_iff.1 accepted).2⟩
  · intro first second schema other typeName fields others accepted acceptedOther states
      statesOther sameSet
    obtain ⟨_, stated, statesStated, same⟩ := ofJsonText_eq_ok_iff.1 accepted
    obtain ⟨_, statedOther, statesStatedOther, sameOther⟩ := ofJsonText_eq_ok_iff.1 acceptedOther
    obtain ⟨named, rfl⟩ := statesStated.unique states
    obtain ⟨namedOther, rfl⟩ := statesStatedOther.unique statesOther
    have equal : schema = other := by
      apply eq_of_mem_iff (named.trans namedOther.symm)
      intro field
      rw [← same.mem_iff, sameSet field, sameOther.mem_iff]
    rw [equal]

/-- A type with a string and a byte. -/
def twoFields : Schema where
  typeName := "T"
  fields := [("a", .varying .string), ("b", .plain .int8)]
  named := by decide
  ordered := by decide
  available := by decide

/-- The type in the form of arrays. -/
def twoFieldsArray : String := "[\"T\",[[\"b\",\"INT8\"],[\"a\",\x7b\"STRING\":null\x7d]]]"

/-- The type in the form of objects, with a member that is skipped. -/
def twoFieldsObject : String :=
  "\x7b\"fields\":[\x7b\"kind\":\"STRING\",\"x\":[],\"name\":\"a\"\x7d,[\"b\",\"INT8\"]],"
    ++ "\"type_name\":\"T\"\x7d"

theorem json_round_trip_twoFields :
    ∃ schema other : Schema, declare "T" twoFields.descriptors = .ok schema ∧
      ofJsonText twoFieldsArray = .ok schema ∧ ofJsonText twoFieldsObject = .ok other ∧
      ofJsonText schema.jsonText = .ok schema ∧ ofJsonText other.jsonText = .ok other ∧
      schema.jsonText = other.jsonText := by
  obtain ⟨ofDeclared, ofAccepted, ofSameSet⟩ := json_round_trip
  have declared : declare "T" twoFields.descriptors = .ok twoFields :=
    declare_eq_ok_iff.2 ⟨rfl, .of_eq twoFields.map_field_descriptors⟩
  have accepted : ofJsonText twoFieldsArray = .ok twoFields := rfl
  have acceptedOther : ofJsonText twoFieldsObject = .ok twoFields := rfl
  have states : States (Json.read twoFieldsArray).document "T"
      [("b", .plain .int8), ("a", .varying .string)] :=
    ⟨_, .array, .cons ⟨_, .array, .name (.plain .int8)⟩
      (.cons ⟨_, .array, .tagged (.varying .string)⟩ .nil)⟩
  have document : (Json.read twoFieldsObject).document =
      .object [(some "fields", .array [
          .object [(some "kind", .string (some "STRING")), (some "x", .array [] true),
            (some "name", .string (some "a"))] true,
          .array [.string (some "b"), .string (some "INT8")] true] true),
        (some "type_name", .string (some "T"))] true := rfl
  have statesOther : States (Json.read twoFieldsObject).document "T"
      [("a", .varying .string), ("b", .plain .int8)] := by
    rw [document]
    refine ⟨_, .object rfl rfl (by simp [Json.Tolerated]), .cons ⟨.string (some "STRING"), ?_, ?_⟩
      (.cons ⟨.string (some "INT8"), .array, .name (.plain .int8)⟩ .nil)⟩
    · exact .object rfl rfl (by simp [Json.Tolerated, Document.isWhole, Document.areWhole])
    · exact .name (.varying .string)
  obtain ⟨restored, isRestored, rfl, _⟩ := ofDeclared declared
  exact ⟨_, _, declared, accepted, acceptedOther, isRestored, (ofAccepted acceptedOther).1,
    ofSameSet accepted acceptedOther states statesOther (by simp [or_comm])⟩

end Schema

end CompactSchema
