import CompactSchema.Kind

/-!
Contract: what can go wrong with a schema, a record or the registration of a
schema, and how it is worded.

Owns:
- the categories of error, with the data that each one carries;
- the causes that have a fixed wording, named one by one;
- the message of every error and whether a retry can help.

Does not own: errors of configuration, files and texts, see `Failure`.
-/

set_option autoImplicit false

namespace CompactSchema

inductive SchemaError where
  /-- A field of another kind than the ones asked for. -/
  | kindMismatch (field schema : String) (allowed : List Kind) (found : Kind)
  /-- Null read through an accessor that can not answer null. -/
  | nullValue (field accessor : String)
  /-- A null element read through an accessor that can not answer null. -/
  | nullInArray (field accessor : String) (index : Nat)
  /-- A name that the schema does not declare. -/
  | fieldNotFound (field schema : String)
  /-- A declared field without a value. -/
  | missingField (field schema : String)
  /-- A field or type name that can not be used in this way. -/
  | invalidField (detail : String)
  /-- A schema id that another schema already has. -/
  | schemaConflict (schemaId : Int64) (existing incoming : String)
  /-- A schema id that no member of the cluster knows. -/
  | schemaUnresolved (schemaId : Int64)
  /-- A schema that could not be brought to enough members. -/
  | replication (detail : String)
  | unsupportedOperation (detail : String)
  | invalidData (detail : String)
deriving DecidableEq, Repr

namespace SchemaError

/-! ## Causes with a fixed wording -/

def emptyTypeName : SchemaError :=
  invalidField "Schema type name must not be empty"

def undeclarableKind (field typeName : String) : SchemaError :=
  invalidField ("Field '" ++ field ++ "' of '" ++ typeName
    ++ "' can not be declared as " ++ Kind.notAvailable.name)

def repeatedField (field typeName : String) : SchemaError :=
  invalidField ("Field '" ++ field ++ "' is declared more than once in '" ++ typeName ++ "'")

def setTwice (field : String) : SchemaError :=
  invalidField ("It is illegal to set the field '" ++ field ++ "' twice")

/-- A value, given by its developer-facing text, that its field does not accept. -/
def unfitValue (valueText field : String) (kind : Kind) : SchemaError :=
  invalidData ("Value " ++ valueText ++ " can not be stored in field '" ++ field
    ++ "' of kind " ++ kind.name)

/-- The registry became unusable when a call on it was interrupted. -/
def registryLocked : SchemaError := invalidData "Failed to acquire schema lock"

def charAccess : SchemaError :=
  unsupportedOperation "Compact format does not support reading a char field"

def peerGone : SchemaError := replication "Peer is no longer available"

/-- Too few members of a group hold the schema. -/
def tooFewAcknowledgements (schemaId : Int64) (held members required : Nat) : SchemaError :=
  replication ("Schema " ++ toString schemaId ++ " acknowledged by " ++ toString held
    ++ " of " ++ toString members ++ " members, " ++ toString required ++ " required")

def replicationTimedOut (schemaId : Int64) (milliseconds : Nat) : SchemaError :=
  replication ("Replication of schema " ++ toString schemaId ++ " timed out after "
    ++ toString milliseconds ++ " ms")

/-! ## Wording -/

/-- The name of the category. -/
def category : SchemaError → String
  | kindMismatch _ _ _ _ => "KindMismatch"
  | nullValue _ _ => "NullValue"
  | nullInArray _ _ _ => "NullInArray"
  | fieldNotFound _ _ => "FieldNotFound"
  | missingField _ _ => "MissingField"
  | invalidField _ => "InvalidField"
  | schemaConflict _ _ _ => "SchemaConflict"
  | schemaUnresolved _ => "SchemaUnresolved"
  | replication _ => "Replication"
  | unsupportedOperation _ => "UnsupportedOperation"
  | invalidData _ => "InvalidData"

def kindList (kinds : List Kind) : String :=
  "[" ++ ", ".intercalate (kinds.map Kind.name) ++ "]"

def message : SchemaError → String
  | kindMismatch field schema allowed found =>
    "Invalid field kind: '" ++ field ++ "' for " ++ schema ++ ", valid field kinds: "
      ++ kindList allowed ++ ", found: " ++ found.name
  | nullValue field accessor =>
    "Error while reading " ++ field ++ ": null value can not be read via " ++ accessor
      ++ ", use the nullable accessor instead"
  | nullInArray field accessor index =>
    "Error while reading " ++ field ++ ": null element at index " ++ toString index
      ++ " can not be read via " ++ accessor
      ++ ", use the array of nullable accessor instead"
  | fieldNotFound field schema =>
    "Invalid field name: '" ++ field ++ "' for " ++ schema
  | missingField field schema =>
    "Found an unset field '" ++ field
      ++ "'. All non-nullable fields must be set before build() for " ++ schema
  | invalidField detail => "Invalid field: " ++ detail
  | schemaConflict schemaId existing incoming =>
    "Schema with schema id " ++ toString schemaId ++ " already exists. existing schema: "
      ++ existing ++ ", new schema: " ++ incoming
  | schemaUnresolved schemaId =>
    "Schema with schema id " ++ toString schemaId ++ " is not known by the cluster"
  | replication detail => "Schema replication failed: " ++ detail
  | unsupportedOperation detail => "Unsupported operation: " ++ detail
  | invalidData detail => "Invalid data: " ++ detail

/-- Whether the same request may succeed later. Only a cluster that does not
know or does not hold a schema yet can change its mind. -/
def isRetryable : SchemaError → Bool
  | schemaUnresolved _ => true
  | replication _ => true
  | _ => false

/-- The failure of a replication as the member that wanted it reports it. -/
def notReplicated (schemaId : Int64) (cause : SchemaError) : SchemaError :=
  replication ("Schema " ++ toString schemaId ++ " could not be replicated: " ++ cause.message)

end SchemaError

end CompactSchema
