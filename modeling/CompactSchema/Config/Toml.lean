import CompactSchema.Config
import CompactSchema.Toml.Document

/-!
Contract: settings read from TOML.

Settings that are not given keep their defaults, other keys and tables are
ignored, and the settings have to be usable.

Owns: the reader of a text, and of a file that may be missing or not text.
-/

set_option autoImplicit false

namespace CompactSchema.Config

/-- A setting of the root table as a number below a bound; the default if it is
not given. -/
def setting? (table : Toml.Table) (name : String) (bound default : Nat) : Option Nat :=
  match Entries.find? name table.entries with
  | none => some default
  | some (.integer number) =>
    if 0 ≤ number ∧ number < bound then some number.toNat else none
  | some _ => none

/-- The settings of a root table. -/
def ofTable? (table : Toml.Table) : Option Config :=
  let defaults : Config := {}
  match setting? table "replication_timeout_ms" UInt64.size defaults.replicationTimeout.toNat,
      setting? table "fetch_attempts" UInt32.size defaults.fetchAttempts.toNat,
      setting? table "fetch_retry_interval_ms" UInt64.size defaults.fetchRetryInterval.toNat with
  | some timeout, some attempts, some interval =>
    some ⟨UInt64.ofNat timeout, UInt32.ofNat attempts, UInt64.ofNat interval⟩
  | _, _, _ => none

/-- Read usable settings from TOML text. -/
def ofTomlText (content : String) : Except ConfigError Config :=
  match (Toml.parse? content).bind ofTable? with
  | some config => config.validated
  | none => .error .unreadable

end CompactSchema.Config
