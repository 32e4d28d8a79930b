import CompactSchema.Service

/-!
Contract: what a service needs of the world around it.

A service is run inside some state of the world, of which it sees its own state,
a replicator to talk to the cluster, a clock and a journal. The calls that reach
beyond the service are written against this interface alone, so they are the
same for every cluster and every way in which a replicator may answer.

Owns: the interface, the replies of a replicator, and running a local call.

Does not own: any cluster, see `Cluster`.
-/

set_option autoImplicit false

namespace CompactSchema

/-- An answer to a request: after how many milliseconds it comes, and what it
says. -/
structure Response (α : Type) where
  delay : Nat
  result : Except SchemaError α

/-- The answer of a replicator, with what is reported when it comes. -/
structure Reply (α : Type) extends Response α where
  notices : List Notice := []

/-- A reply that comes only after something else, with what that reported. -/
def Reply.after {α : Type} (delay : Nat) (notices : List Notice) (reply : Reply α) : Reply α :=
  { delay := delay + reply.delay, notices := notices ++ reply.notices, result := reply.result }

/-- A world of states `σ` with one service in it. -/
structure Environment (σ : Type) where
  service : σ → Service
  setService : Service → σ → σ
  /-- Bring a schema to the cluster. -/
  replicate : Schema → σ → Reply Unit × σ
  /-- Ask the cluster for a schema. -/
  fetch : Int64 → σ → Reply (Option Schema) × σ
  /-- Let milliseconds pass. -/
  wait : Nat → σ → σ
  /-- Report notices in turn. -/
  note : List Notice → σ → σ

/-- Run a call that needs the service alone. -/
def Environment.perform {σ α : Type} (environment : Environment σ) (call : Service → Effect α)
    (state : σ) : α × σ :=
  let effect := call (environment.service state)
  (effect.result, environment.note effect.notices (environment.setService effect.service state))

end CompactSchema
