import CompactSchema.Json.Token

/-!
Contract: JSON text as a tree, as far as it is JSON.

A document is read to its end or to the first fault. What was read before a
fault is kept, with every container that the fault left open marked as such, so
that a reader of documents finds faults of form and faults of content in the
order in which they stand in the text.

Owns: documents and the reading of a text.

Does not own: what a document has to hold, see `Json.Reader`.
-/

set_option autoImplicit false

namespace CompactSchema.Json

/-- A JSON value as far as its text is JSON. -/
inductive Document where
  | null
  | bool (bit : Bool)
  | number (natural? : Option Nat)
  | string (content? : Option String)
  /-- An array; `closed` says that its end was reached. -/
  | array (items : List Document) (closed : Bool)
  /-- An object; `closed` says that its end was reached. -/
  | object (members : List (Option String × Document)) (closed : Bool)
  /-- A value should stand here. -/
  | broken

/-- A container that is being read, its parts newest first. -/
inductive Frame where
  | items (items : List Document)
  | members (members : List (Option String × Document))
  /-- An object whose last name still lacks its value. -/
  | pending (members : List (Option String × Document)) (name? : Option String)

/-- What may come next in a text. -/
inductive Stage where
  | value
  /-- A value or the end of the array. -/
  | firstItem
  /-- A name or the end of the object. -/
  | firstName
  | name
  | colon
  /-- A comma or the end of the container. -/
  | separator
deriving DecidableEq, Repr

/-- A text that has been read: its document, and whether nothing but blanks
follows it. -/
structure Reading where
  document : Document
  complete : Bool

/-- The document of open containers, each one left open, around what was read
last. -/
def abandon : Option Document → List Frame → Document
  | none, [] => .broken
  | some last, [] => last
  | last?, .items items :: frames =>
    abandon (some (.array (last?.toList ++ items).reverse false)) frames
  | _, .members members :: frames =>
    abandon (some (.object members.reverse false)) frames
  | last?, .pending members name? :: frames =>
    abandon (some (.object ((name?, last?.getD .broken) :: members).reverse false)) frames

/-- The result of one token: more to read, or the end of the document. -/
inductive Progress where
  | going (stage : Stage) (frames : List Frame)
  | done (document : Document)
  | failed

/-- A value has been read inside the given containers. -/
def finish (document : Document) : List Frame → Progress
  | [] => .done document
  | .items items :: frames => .going .separator (.items (document :: items) :: frames)
  | .pending members name? :: frames =>
    .going .separator (.members ((name?, document) :: members) :: frames)
  | .members _ :: _ => .failed

/-- A value begins. -/
def beginValue (frames : List Frame) : Token → Progress
  | .null => finish .null frames
  | .bool bit => finish (.bool bit) frames
  | .number natural? => finish (.number natural?) frames
  | .string content? => finish (.string content?) frames
  | .openArray => .going .firstItem (.items [] :: frames)
  | .openObject => .going .firstName (.members [] :: frames)
  | _ => .failed

/-- One token in a stage inside open containers. -/
def advance (stage : Stage) (frames : List Frame) (token : Token) : Progress :=
  match stage, frames, token with
  | .firstItem, .items items :: frames, .closeArray => finish (.array items.reverse true) frames
  | .firstItem, frames, token => beginValue frames token
  | .value, frames, token => beginValue frames token
  | .firstName, .members members :: frames, .closeObject =>
    finish (.object members.reverse true) frames
  | .firstName, .members members :: frames, .string name? =>
    .going .colon (.pending members name? :: frames)
  | .name, .members members :: frames, .string name? =>
    .going .colon (.pending members name? :: frames)
  | .colon, frames, .colon => .going .value frames
  | .separator, .items items :: frames, .comma => .going .value (.items items :: frames)
  | .separator, .items items :: frames, .closeArray => finish (.array items.reverse true) frames
  | .separator, .members members :: frames, .comma => .going .name (.members members :: frames)
  | .separator, .members members :: frames, .closeObject =>
    finish (.object members.reverse true) frames
  | _, _, _ => .failed

/-- Read tokens in a stage inside open containers. -/
def run (stage : Stage) (frames : List Frame) : List Token → Reading
  | [] => ⟨abandon none frames, false⟩
  | token :: rest =>
    match advance stage frames token with
    | .going stage frames => run stage frames rest
    | .done document => ⟨document, rest.isEmpty⟩
    | .failed => ⟨abandon none frames, false⟩

/-- Read a text. -/
def read (text : String) : Reading := run .value [] (tokens text.toList)

mutual

/-- Whether a document was read to its end. -/
def Document.isWhole : Document → Bool
  | .array items closed => closed && Document.areWhole items
  | .object members closed => closed && Document.membersAreWhole members
  | .broken => false
  | _ => true

def Document.areWhole : List Document → Bool
  | [] => true
  | item :: items => item.isWhole && Document.areWhole items

def Document.membersAreWhole : List (Option String × Document) → Bool
  | [] => true
  | (_, value) :: members => value.isWhole && Document.membersAreWhole members

end

end CompactSchema.Json
