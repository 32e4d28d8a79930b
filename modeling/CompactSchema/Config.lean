import CompactSchema.Json

/-!
Contract: the settings of a schema service.

Owns: the settings with their defaults, the check that a service can run with
them, and their JSON text.

Does not own: reading settings, see `Config.Json` and `Config.Toml`.
-/

set_option autoImplicit false

namespace CompactSchema

/-- Why settings were refused. -/
inductive ConfigError where
  /-- The text of the settings could not be read. -/
  | unreadable
  | noAttempts
  | noTimeout
  /-- A refusal worded elsewhere. -/
  | stated (text : String)
deriving DecidableEq, Repr

def ConfigError.message : ConfigError → String
  | .unreadable => "Invalid schema service config"
  | .noAttempts => "fetch_attempts must be at least 1"
  | .noTimeout => "replication_timeout_ms must be greater than 0"
  | .stated text => text

/-- The settings of a schema service. -/
structure Config where
  /-- How long a registration waits for the cluster, in milliseconds. -/
  replicationTimeout : UInt64 := 30000
  /-- How often the cluster is asked for a schema before giving up. -/
  fetchAttempts : UInt32 := 3
  /-- The pause between two such questions, in milliseconds. -/
  fetchRetryInterval : UInt64 := 100
deriving DecidableEq, Repr

namespace Config

/-- Why a service can not run with these settings; the attempts are checked
first. -/
def fault? (config : Config) : Option ConfigError :=
  if config.fetchAttempts = 0 then some .noAttempts
  else if config.replicationTimeout = 0 then some .noTimeout
  else none

/-- The settings, if a service can run with them. -/
def validated (config : Config) : Except ConfigError Config :=
  match config.fault? with
  | some fault => .error fault
  | none => .ok config

/-- The settings under their names. -/
def toJson (config : Config) : Json :=
  .object [("replication_timeout_ms", .integer config.replicationTimeout.toNat),
    ("fetch_attempts", .integer config.fetchAttempts.toNat),
    ("fetch_retry_interval_ms", .integer config.fetchRetryInterval.toNat)]

def jsonText (config : Config) : String := config.toJson.text

/-- Whole seconds in a number of milliseconds. -/
def wholeSeconds (milliseconds : UInt64) : UInt64 := milliseconds / 1000

end Config

end CompactSchema
