import CompactSchema.Json.Document
import CompactSchema.SchemaError

/-!
Contract: reading typed data from JSON documents.

A document is read in the order of its text and the first fault found ends the
reading. A structure is given as an object with named members, of which unknown
ones are skipped, or as an array of its members in their declared order.

Owns: the errors of reading, and the readers of strings, numbers, lists, objects
and whole texts.

Does not own: the readers of schemas and settings.
-/

set_option autoImplicit false

namespace CompactSchema

/-- Why a JSON text was refused. -/
inductive ReadError where
  /-- The text is not JSON, or a part of it has the wrong type. -/
  | malformed
  | missingField (name : String)
  | duplicateField (name : String)
  | unknownKind (name : String)
  /-- The parts were read, but they make no schema. -/
  | refused (error : SchemaError)
  /-- A refusal worded elsewhere. -/
  | stated (text : String)
deriving DecidableEq, Repr

namespace ReadError

def message : ReadError → String
  | malformed => "malformed JSON"
  | missingField name => "missing field `" ++ name ++ "`"
  | duplicateField name => "duplicate field `" ++ name ++ "`"
  | unknownKind name =>
    "unknown variant `" ++ name ++ "`, expected one of "
      ++ ", ".intercalate (Kind.catalogue.map fun kind => "`" ++ kind.name ++ "`")
  | refused error => error.message
  | stated text => text

end ReadError

namespace Json.Reader

def string : Document → Except ReadError String
  | .string (some content) => .ok content
  | _ => .error .malformed

/-- A natural number up to a limit. -/
def natural (limit : Nat) : Document → Except ReadError Nat
  | .number (some value) => if value ≤ limit then .ok value else .error .malformed
  | _ => .error .malformed

/-- Any value, provided that it is JSON. -/
def skip (document : Document) : Except ReadError Unit :=
  if document.isWhole then .ok () else .error .malformed

/-- Something that has to hold at the end of a container. -/
def ended (closed : Bool) : Except ReadError Unit :=
  if closed then .ok () else .error .malformed

/-- Every item of a list in turn. -/
def items {α : Type} (item : Document → Except ReadError α) :
    List Document → Except ReadError (List α)
  | [] => .ok []
  | document :: documents => do
    let first ← item document
    let rest ← items item documents
    return first :: rest

/-- A list. -/
def list {α : Type} (item : Document → Except ReadError α) : Document → Except ReadError (List α)
  | .array documents closed => do
    let values ← items item documents
    ended closed
    return values
  | _ => .error .malformed

/-- The members of an object in turn; `member` takes what was read so far, a
name and a value. -/
def members {σ : Type} (member : σ → String → Document → Except ReadError σ) :
    σ → List (Option String × Document) → Except ReadError σ
  | sofar, [] => .ok sofar
  | _, (none, _) :: _ => .error .malformed
  | sofar, (some name, value) :: rest => do
    let next ← member sofar name value
    members member next rest

/-- A member that can be given once. -/
def once {α : Type} (name : String) (sofar : Option α) (value : Except ReadError α) :
    Except ReadError (Option α) :=
  if sofar.isSome then .error (.duplicateField name) else value.map some

/-- A member that has to be given. -/
def required {α : Type} (name : String) : Option α → Except ReadError α
  | some value => .ok value
  | none => .error (.missingField name)

/-- A whole text, with nothing after the document. -/
def text {α : Type} (reader : Document → Except ReadError α) (content : String) :
    Except ReadError α := do
  let reading := read content
  let value ← reader reading.document
  ended reading.complete
  return value

end Json.Reader

end CompactSchema
