import CompactSchema.Json
import CompactSchema.Json.Reader
import CompactSchema.Schema

/-!
Contract: the JSON form of kinds, field descriptors and schemas.

A schema is written as its type name and its fields in name order. Its id and
layout are never written; they are derived anew when it is read, and members
that claim to give them are skipped like any other unknown member.

Owns: the written forms and the readers.

Does not own: JSON itself.
-/

set_option autoImplicit false

namespace CompactSchema

namespace Kind

def toJson (kind : Kind) : Json := .string kind.name

/-- The kind with a name that was read. -/
def named (name : String) : Except ReadError Kind :=
  match ofName? name with
  | some kind => .ok kind
  | none => .error (.unknownKind name)

/-- A kind is a string with its name, or an object with its name and null. -/
def ofDocument : Json.Document → Except ReadError Kind
  | .string (some name) => named name
  | .object ((some name, value) :: rest) closed => do
    let kind ← named name
    match value, rest, closed with
    | .null, [], true => return kind
    | _, _, _ => throw .malformed
  | _ => .error .malformed

end Kind

namespace Descriptor

/-- Name and kind; the placement is not written. -/
def toJson (descriptor : Descriptor) : Json :=
  .object [("name", .string descriptor.name), ("kind", descriptor.kind.toJson)]

/-- The members of a descriptor read so far. -/
structure Draft where
  name : Option String := none
  kind : Option Kind := none

def Draft.member (draft : Draft) (name : String) (value : Json.Document) :
    Except ReadError Draft :=
  if name = "name" then do
    return { draft with name := ← Json.Reader.once name draft.name (Json.Reader.string value) }
  else if name = "kind" then do
    return { draft with kind := ← Json.Reader.once name draft.kind (Kind.ofDocument value) }
  else do
    Json.Reader.skip value
    return draft

def Draft.finish (draft : Draft) : Except ReadError Descriptor := do
  let name ← Json.Reader.required "name" draft.name
  let kind ← Json.Reader.required "kind" draft.kind
  return { name, kind }

def ofDocument : Json.Document → Except ReadError Descriptor
  | .object members closed => do
    let draft ← Json.Reader.members Draft.member {} members
    Json.Reader.ended closed
    draft.finish
  | .array items closed => do
    match items with
    | [] => throw .malformed
    | first :: rest =>
      let name ← Json.Reader.string first
      match rest with
      | [] => throw .malformed
      | second :: rest =>
        let kind ← Kind.ofDocument second
        Json.Reader.ended (closed && rest.isEmpty)
        return { name, kind }
  | _ => .error .malformed

end Descriptor

namespace Schema

/-- The fields in name order. -/
def toJson (schema : Schema) : Json :=
  .object [("type_name", .string schema.typeName),
    ("fields", .array (schema.descriptors.map Descriptor.toJson))]

/-- The JSON text of a schema. -/
def jsonText (schema : Schema) : String := schema.toJson.text

/-- The members of a schema read so far. -/
structure Draft where
  typeName : Option String := none
  fields : Option (List Descriptor) := none

def Draft.member (draft : Draft) (name : String) (value : Json.Document) :
    Except ReadError Draft :=
  if name = "type_name" then do
    return { draft with
      typeName := ← Json.Reader.once name draft.typeName (Json.Reader.string value) }
  else if name = "fields" then do
    return { draft with
      fields := ← Json.Reader.once name draft.fields
        (Json.Reader.list Descriptor.ofDocument value) }
  else do
    Json.Reader.skip value
    return draft

/-- Declare the schema that was read. -/
def declared (typeName : String) (fields : List Descriptor) : Except ReadError Schema :=
  (declare typeName fields).mapError .refused

def Draft.finish (draft : Draft) : Except ReadError Schema := do
  let typeName ← Json.Reader.required "type_name" draft.typeName
  let fields ← Json.Reader.required "fields" draft.fields
  declared typeName fields

def ofDocument : Json.Document → Except ReadError Schema
  | .object members closed => do
    let draft ← Json.Reader.members Draft.member {} members
    Json.Reader.ended closed
    draft.finish
  | .array items closed => do
    match items with
    | [] => throw .malformed
    | first :: rest =>
      let typeName ← Json.Reader.string first
      match rest with
      | [] => throw .malformed
      | second :: rest =>
        let fields ← Json.Reader.list Descriptor.ofDocument second
        Json.Reader.ended (closed && rest.isEmpty)
        declared typeName fields
  | _ => .error .malformed

/-- Read a schema from JSON text. -/
def ofJsonText (content : String) : Except ReadError Schema :=
  Json.Reader.text ofDocument content

/-- Read a list of schemas from JSON text. -/
def listOfJsonText (content : String) : Except ReadError (List Schema) :=
  Json.Reader.text (Json.Reader.list ofDocument) content

end Schema

end CompactSchema
