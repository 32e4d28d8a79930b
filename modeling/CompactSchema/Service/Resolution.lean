import CompactSchema.Service.Environment

/-!
Contract: finding the schema of an id, in the cluster if need be.

A registered schema is answered at once. Otherwise the cluster is asked, again
and again after a pause, as often as the settings say. A schema that the cluster
gives is registered before it is answered; one with another id than asked for is
refused. It does not count as brought to the cluster.

Owns: the call.

Does not own: whom the replicator asks, see `Cluster.Replication`.
-/

set_option autoImplicit false

namespace CompactSchema.Environment

variable {σ : Type} (environment : Environment σ)

/-- The error for a schema of another id than asked for. -/
def foreignAnswer (schemaId : Int64) (answer : Schema) : SchemaError :=
  .schemaConflict schemaId ("requested schema id " ++ toString schemaId) answer.text

/-- Take over a schema that the cluster gave for an id. -/
def adopt (schemaId : Int64) (answer : Schema) (state : σ) : Except SchemaError Schema × σ :=
  if answer.id = schemaId then
    match environment.perform (Service.register answer) state with
    | (.error error, after) => (.error error, after)
    | (.ok schema, after) => (.ok schema, environment.note [.fetched schema] after)
  else
    (.error (foreignAnswer schemaId answer),
      environment.note [.foreignAnswer answer schemaId] state)

/-- Pause if there are attempts left. -/
def pauseBefore (left : Nat) (state : σ) : σ :=
  if left = 0 then state
  else environment.wait (environment.service state).config.fetchRetryInterval.toNat state

/-- Ask the cluster up to a number of times more out of `attempts`. -/
def search (schemaId : Int64) (attempts : Nat) : Nat → σ → Except SchemaError Schema × σ
  | 0, state =>
    (.error (.schemaUnresolved schemaId), environment.note [.unresolved schemaId] state)
  | left + 1, state =>
    match environment.fetch schemaId state with
    | (reply, asked) =>
      let answered := environment.note reply.notices (environment.wait reply.delay asked)
      match reply.result with
      | .ok (some answer) => environment.adopt schemaId answer answered
      | .ok none =>
        let notice := Notice.notFound schemaId (attempts - left) attempts
        search schemaId attempts left
          (environment.pauseBefore left (environment.note [notice] answered))
      | .error error =>
        let notice := Notice.fetchFailed schemaId (attempts - left) attempts error
        search schemaId attempts left
          (environment.pauseBefore left (environment.note [notice] answered))

/-- Find the schema of an id. -/
def resolve (schemaId : Int64) (state : σ) : Except SchemaError Schema × σ :=
  let service := environment.service state
  match service.find schemaId with
  | .error error => (.error error, state)
  | .ok (some schema) => (.ok schema, state)
  | .ok none =>
    let attempts := service.config.fetchAttempts.toNat
    environment.search schemaId attempts attempts state

end CompactSchema.Environment
