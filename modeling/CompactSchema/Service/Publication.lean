import CompactSchema.Service.Environment

/-!
Contract: registering a schema so that the whole cluster can resolve it.

The schema is registered with the service first. If its id was brought to the
cluster before, that is all. Otherwise the replicator is asked, and waited for
no longer than the settings say. If it fails or takes too long, the schema stays
registered and the next call asks again.

Owns: the call.

Does not own: what the replicator does, see `Cluster.Replication`.
-/

set_option autoImplicit false

namespace CompactSchema.Environment

variable {σ : Type} (environment : Environment σ)

/-- The replicator has answered in time. -/
def settle (schema : Schema) (result : Except SchemaError Unit) (state : σ) :
    Except SchemaError Schema × σ :=
  match result with
  | .ok () =>
    let marked := (environment.service state).markReplicated schema.id
    (.ok schema, environment.note [.replicated schema] (environment.setService marked state))
  | .error error =>
    (.error (.notReplicated schema.id error),
      environment.note [.notReplicated schema.id error] state)

/-- Bring a registered schema to the cluster. -/
def publish (schema : Schema) (state : σ) : Except SchemaError Schema × σ :=
  let limit := (environment.service state).config.replicationTimeout.toNat
  match environment.replicate schema state with
  | (reply, asked) =>
    if reply.delay ≤ limit then
      environment.settle schema reply.result
        (environment.note reply.notices (environment.wait reply.delay asked))
    else
      (.error (.replicationTimedOut schema.id limit),
        environment.note [.replicationTimedOut schema.id limit] (environment.wait limit asked))

/-- Register a schema and wait until the cluster holds it. -/
def put (schema : Schema) (state : σ) : Except SchemaError Schema × σ :=
  match environment.perform (Service.register schema) state with
  | (.error error, after) => (.error error, after)
  | (.ok registered, after) =>
    if (environment.service after).isReplicated registered.id then (.ok registered, after)
    else environment.publish registered after

end CompactSchema.Environment
