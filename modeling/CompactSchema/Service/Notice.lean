import CompactSchema.Schema
import CompactSchema.Text.Digits

/-!
Contract: what a service reports while it works.

Owns: the notices with their level and wording.

Does not own: when they are given.
-/

set_option autoImplicit false

namespace CompactSchema

inductive Level where
  | debug
  | info
  | warn
deriving DecidableEq, Repr

def Level.name : Level → String
  | .debug => "DEBUG"
  | .info => "INFO"
  | .warn => "WARN"

inductive Notice where
  | registered (schema : Schema)
  | alreadyRegistered (schema : Schema)
  | idTaken (existing incoming : Schema)
  | replicated (schema : Schema)
  | notReplicated (schemaId : Int64) (cause : SchemaError)
  | replicationTimedOut (schemaId : Int64) (milliseconds : Nat)
  /-- The cluster answered with a schema of another id. -/
  | foreignAnswer (answer : Schema) (schemaId : Int64)
  | fetched (schema : Schema)
  | notFound (schemaId : Int64) (attempt attempts : Nat)
  | fetchFailed (schemaId : Int64) (attempt attempts : Nat) (cause : SchemaError)
  | unresolved (schemaId : Int64)
  | loaded (count : Nat) (path : String)
  | peerRejected (schema : Schema) (cause : SchemaError)
  | acknowledged (schemaId : Int64) (held members : Nat)
  | lookupFailed (schemaId : Int64) (cause : SchemaError)

namespace Notice

/-- A duration in milliseconds or, from one second on, in seconds without
needless zeros. -/
def durationText (milliseconds : Nat) : String :=
  if milliseconds < 1000 then toString milliseconds ++ "ms"
  else
    let thousandths := Text.paddedDigits 3 (milliseconds % 1000)
    let fraction := (thousandths.reverse.dropWhile (· == '0')).reverse
    toString (milliseconds / 1000)
      ++ (if fraction.isEmpty then "" else "." ++ String.ofList fraction) ++ "s"

/-- Id and type name of a schema. -/
def label (schema : Schema) : String :=
  toString schema.id ++ " (" ++ schema.typeName ++ ")"

/-- The number of an attempt among all attempts. -/
def attemptText (attempt attempts : Nat) : String :=
  "attempt " ++ toString attempt ++ "/" ++ toString attempts

def level : Notice → Level
  | registered _ => .debug
  | alreadyRegistered _ => .debug
  | idTaken _ _ => .warn
  | replicated _ => .info
  | notReplicated _ _ => .warn
  | replicationTimedOut _ _ => .warn
  | foreignAnswer _ _ => .warn
  | fetched _ => .info
  | notFound _ _ _ => .debug
  | fetchFailed _ _ _ _ => .warn
  | unresolved _ => .warn
  | loaded _ _ => .debug
  | peerRejected _ _ => .warn
  | acknowledged _ _ _ => .debug
  | lookupFailed _ _ => .warn

def text : Notice → String
  | registered schema => "Registered schema " ++ label schema
  | alreadyRegistered schema => "Schema " ++ label schema ++ " already registered"
  | idTaken existing incoming =>
    "Schema id " ++ toString incoming.id ++ " is already taken: existing " ++ existing.text
      ++ ", incoming " ++ incoming.text
  | replicated schema => "Replicated schema " ++ label schema
  | notReplicated schemaId cause =>
    "Failed to replicate schema " ++ toString schemaId ++ ": " ++ cause.message
  | replicationTimedOut schemaId milliseconds =>
    "Replication of schema " ++ toString schemaId ++ " timed out after "
      ++ durationText milliseconds
  | foreignAnswer answer schemaId =>
    "Cluster returned " ++ answer.text ++ " when asked for schema " ++ toString schemaId
  | fetched schema => "Fetched schema " ++ label schema ++ " from the cluster"
  | notFound schemaId attempt attempts =>
    "Schema " ++ toString schemaId ++ " not found in the cluster, "
      ++ attemptText attempt attempts
  | fetchFailed schemaId attempt attempts cause =>
    "Fetching schema " ++ toString schemaId ++ " failed, " ++ attemptText attempt attempts
      ++ ": " ++ cause.message
  | unresolved schemaId => "Schema " ++ toString schemaId ++ " could not be resolved"
  | loaded count path => "Loaded " ++ toString count ++ " schemas from " ++ path
  | peerRejected schema cause =>
    "Peer rejected schema " ++ label schema ++ ": " ++ cause.message
  | acknowledged schemaId held members =>
    "Schema " ++ toString schemaId ++ " acknowledged by " ++ toString held ++ "/"
      ++ toString members ++ " members"
  | lookupFailed schemaId cause =>
    "Peer lookup of schema " ++ toString schemaId ++ " failed: " ++ cause.message

end Notice

end CompactSchema
