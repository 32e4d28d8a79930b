import CompactSchema.Service.Environment

/-!
Contract: parties outside the cluster whose behaviour is laid down in advance.

An endpoint can stand for a replicator or for a peer. It takes schemas and
answers requests for schemas by two scripts. A script is worked through turn by
turn, and its last turn is repeated.

Owns: scripts, and what an endpoint answers.

Does not own: who asks an endpoint, see `Cluster.Replication`.
-/

set_option autoImplicit false

namespace CompactSchema

/-- One answer of an endpoint. -/
structure Turn where
  /-- How many milliseconds the endpoint waits before it answers. -/
  delay : Nat := 0
  /-- The endpoint fails, for this reason. -/
  failure? : Option String := none
  /-- The schema that is answered to a request. -/
  schema? : Option Schema := none

/-- The answers of an endpoint in their order. -/
structure Script where
  turns : List Turn := []
  /-- How many requests have been made. -/
  used : Nat := 0

namespace Script

/-- The answer to the next request. An empty script has nothing to answer and
never fails. -/
def turn (script : Script) : Turn :=
  (script.turns[script.used]?.or script.turns.getLast?).getD {}

def advance (script : Script) : Script := { script with used := script.used + 1 }

end Script

namespace Turn

/-- The answer after the wait, unless the endpoint fails. -/
def respond {α : Type} (turn : Turn) (answer : α) : Response α where
  delay := turn.delay
  result :=
    match turn.failure? with
    | some reason => .error (.replication reason)
    | none => .ok answer

/-- The answer to a schema that is handed over. -/
def acceptance (turn : Turn) : Response Unit := turn.respond ()

/-- The answer to a request for a schema. -/
def answer (turn : Turn) : Response (Option Schema) := turn.respond turn.schema?

end Turn

structure Endpoint where
  /-- How schemas are taken. -/
  intake : Script := {}
  /-- How requests for schemas are answered. -/
  supply : Script := {}
  /-- Someone outside the cluster keeps the endpoint. -/
  kept : Bool := true

end CompactSchema
