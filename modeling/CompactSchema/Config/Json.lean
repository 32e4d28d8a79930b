import CompactSchema.Config
import CompactSchema.Json.Reader

/-!
Contract: settings read from JSON.

Settings that are not given keep their defaults. What is read is not checked
for being usable.

Owns: the reader.
-/

set_option autoImplicit false

namespace CompactSchema.Config

/-- The largest numbers that fit a setting. -/
def limit64 : Nat := UInt64.size - 1

def limit32 : Nat := UInt32.size - 1

def number64 (document : Json.Document) : Except ReadError UInt64 :=
  (Json.Reader.natural limit64 document).map UInt64.ofNat

def number32 (document : Json.Document) : Except ReadError UInt32 :=
  (Json.Reader.natural limit32 document).map UInt32.ofNat

/-- The settings read so far. -/
structure Draft where
  replicationTimeout : Option UInt64 := none
  fetchAttempts : Option UInt32 := none
  fetchRetryInterval : Option UInt64 := none

def Draft.member (draft : Draft) (name : String) (value : Json.Document) :
    Except ReadError Draft :=
  if name = "replication_timeout_ms" then do
    return { draft with
      replicationTimeout := ← Json.Reader.once name draft.replicationTimeout (number64 value) }
  else if name = "fetch_attempts" then do
    return { draft with
      fetchAttempts := ← Json.Reader.once name draft.fetchAttempts (number32 value) }
  else if name = "fetch_retry_interval_ms" then do
    return { draft with
      fetchRetryInterval := ← Json.Reader.once name draft.fetchRetryInterval (number64 value) }
  else do
    Json.Reader.skip value
    return draft

/-- The settings, with defaults for those that were not read. -/
def Draft.finish (draft : Draft) : Config :=
  let defaults : Config := {}
  { replicationTimeout := draft.replicationTimeout.getD defaults.replicationTimeout
    fetchAttempts := draft.fetchAttempts.getD defaults.fetchAttempts
    fetchRetryInterval := draft.fetchRetryInterval.getD defaults.fetchRetryInterval }

/-- Settings given in order, as many as there are. -/
def ofItems : List Json.Document → Except ReadError Draft
  | [] => .ok {}
  | timeout :: rest => do
    let timeout ← number64 timeout
    match rest with
    | [] => return { replicationTimeout := timeout }
    | attempts :: rest =>
      let attempts ← number32 attempts
      match rest with
      | [] => return { replicationTimeout := timeout, fetchAttempts := attempts }
      | interval :: rest =>
        let interval ← number64 interval
        Json.Reader.ended rest.isEmpty
        return { replicationTimeout := timeout, fetchAttempts := attempts,
                 fetchRetryInterval := interval }

def ofDocument : Json.Document → Except ReadError Config
  | .object members closed => do
    let draft ← Json.Reader.members Draft.member {} members
    Json.Reader.ended closed
    return draft.finish
  | .array items closed => do
    let draft ← ofItems items
    Json.Reader.ended closed
    return draft.finish
  | _ => .error .malformed

/-- Read settings from JSON text. -/
def ofJsonText (content : String) : Except ReadError Config :=
  Json.Reader.text ofDocument content

end CompactSchema.Config
