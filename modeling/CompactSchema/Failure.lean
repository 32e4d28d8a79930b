import CompactSchema.Config
import CompactSchema.Json.Reader
import CompactSchema.SchemaError

/-!
Contract: everything that an operation of the library can fail with.

Owns: the union of the errors of schemas, settings, files and texts, with its
wording.

Does not own: the wording of the single errors.
-/

set_option autoImplicit false

namespace CompactSchema

inductive Failure where
  | schema (error : SchemaError)
  | configuration (error : ConfigError)
  /-- A file that is missing or not text. -/
  | file (detail : String)
  | serialization (error : ReadError)
deriving DecidableEq, Repr

namespace Failure

def message : Failure → String
  | schema error => "Schema error: " ++ error.message
  | configuration error => "Configuration error: " ++ error.message
  | file detail => "IO error: " ++ detail
  | serialization error => "Serialization error: " ++ error.message

/-- Only errors of schemas can be worth a retry. -/
def isRetryable : Failure → Bool
  | schema error => error.isRetryable
  | _ => false

/-- The wording of the error that lies behind the failure, if there is one. -/
def source? : Failure → Option String
  | schema error => some error.message
  | file detail => some detail
  | _ => none

end Failure

end CompactSchema
