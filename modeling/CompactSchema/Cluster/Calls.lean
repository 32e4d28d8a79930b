import CompactSchema.Cluster.Replication
import CompactSchema.Service.Publication
import CompactSchema.Service.Resolution

/-!
Contract: the calls on the members of a cluster.

Owns: a cluster as the environment of each of its members, and every call on a
member or a replicator as a change of the cluster.

Does not own: what the calls do, see `Service`, `Service.Publication` and
`Service.Resolution`.
-/

set_option autoImplicit false

namespace CompactSchema.Cluster

/-- The cluster around the member at a place. -/
def environment (index : Nat) : Environment Cluster where
  service cluster := (cluster.member index).service
  setService service cluster := cluster.setService index service
  replicate schema cluster := cluster.replicate schema (cluster.member index).replicator
  fetch schemaId cluster := cluster.fetch schemaId (cluster.member index).replicator
  wait milliseconds cluster := cluster.wait milliseconds
  note notices cluster := cluster.note notices

/-! ## Calls on a member -/

/-- A call that the service of the member can answer alone. -/
def call {α : Type} (index : Nat) (action : Service → Effect α) (cluster : Cluster) :
    α × Cluster :=
  (environment index).perform action cluster

/-- Register a schema with the member and wait until the cluster holds it. -/
def put (index : Nat) (schema : Schema) (cluster : Cluster) :
    Except SchemaError Schema × Cluster :=
  (environment index).put schema cluster

/-- Find the schema of an id, in the cluster if need be. -/
def resolve (index : Nat) (schemaId : Int64) (cluster : Cluster) :
    Except SchemaError Schema × Cluster :=
  (environment index).resolve schemaId cluster

/-- Register all schemas of one member with another one and count them. -/
def copySchemas (source target : Nat) (cluster : Cluster) : Except Failure Nat × Cluster :=
  match (cluster.member source).service.snapshot with
  | .error failure => (.error failure, cluster)
  | .ok content => cluster.call target (Service.registerText content)

/-! ## Calls on a replicator -/

/-- Wait for a reply and report what comes with it. -/
def await {α : Type} (reply : Reply α) (cluster : Cluster) : Except SchemaError α × Cluster :=
  (reply.result, (cluster.wait reply.delay).note reply.notices)

/-- Bring a schema to the cluster and wait as long as it takes. -/
def replicateWith (replicator : Replicator) (schema : Schema) (cluster : Cluster) :
    Except SchemaError Unit × Cluster :=
  match cluster.replicate schema replicator with
  | (reply, asked) => asked.await reply

/-- Ask the cluster for a schema, once. -/
def fetchWith (replicator : Replicator) (schemaId : Int64) (cluster : Cluster) :
    Except SchemaError (Option Schema) × Cluster :=
  match cluster.fetch schemaId replicator with
  | (reply, asked) => asked.await reply

end CompactSchema.Cluster
