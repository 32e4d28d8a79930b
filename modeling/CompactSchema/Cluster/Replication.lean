import CompactSchema.Cluster

/-!
Contract: what the replicators of a cluster do.

To replicate a schema, all peers of a group are asked to accept it at the same
time, and the slowest one is waited for. The schema is replicated if a majority
of the group, with the member that asks, holds it. To fetch a schema, the peers
are asked one after another until one of them has it.

Owns: the requests to peers, the count of a majority, and the search in a group.

Does not own: when a member replicates or fetches, see `Service.Publication` and
`Service.Resolution`.
-/

set_option autoImplicit false

namespace CompactSchema.Cluster

/-! ## Endpoints -/

/-- Hand a schema over to an endpoint. -/
def push (index : Nat) (cluster : Cluster) : Response Unit × Cluster :=
  let endpoint := cluster.endpoint index
  (endpoint.intake.turn.acceptance,
    cluster.setEndpoint index { endpoint with intake := endpoint.intake.advance })

/-- Ask an endpoint for a schema. -/
def pull (index : Nat) (cluster : Cluster) : Response (Option Schema) × Cluster :=
  let endpoint := cluster.endpoint index
  (endpoint.supply.turn.answer,
    cluster.setEndpoint index { endpoint with supply := endpoint.supply.advance })

/-! ## Peers -/

/-- A peer that can be reached is asked to hold a schema. A member reports at
once what it does. -/
def acceptAt (schema : Schema) (peer : Peer) (cluster : Cluster) : Response Unit × Cluster :=
  match peer with
  | .endpoint index => cluster.push index
  | .member index =>
    let effect := (cluster.member index).service.accept schema
    ({ delay := 0, result := effect.result },
      (cluster.setService index effect.service).note effect.notices)

/-- Ask a peer to hold a schema. -/
def offer (schema : Schema) (peer : Peer) (cluster : Cluster) : Response Unit × Cluster :=
  if cluster.reaches peer then acceptAt schema peer cluster
  else ({ delay := 0, result := .error .peerGone }, cluster)

/-- Ask a peer that can be reached for a schema. -/
def lookupAt (schemaId : Int64) (peer : Peer) (cluster : Cluster) :
    Response (Option Schema) × Cluster :=
  match peer with
  | .endpoint index => cluster.pull index
  | .member index =>
    ({ delay := 0, result := (cluster.member index).service.find schemaId }, cluster)

/-! ## Majorities -/

/-- How many of a group make a majority. -/
def majority (size : Nat) : Nat := size / 2 + 1

/-- The notices about the peers that did not accept a schema. -/
def rejections (schema : Schema) (responses : List (Response Unit)) : List Notice :=
  responses.filterMap fun response =>
    match response.result with
    | .ok _ => none
    | .error error => some (.peerRejected schema error)

/-- How many peers accepted. -/
def accepted (responses : List (Response Unit)) : Nat :=
  responses.countP fun response => response.result.isOk

/-- The time until all have answered. -/
def slowest (responses : List (Response Unit)) : Nat :=
  (responses.map (·.delay)).foldl max 0

/-- The outcome when the peers have answered. The member that asks holds the
schema too. -/
def tally (schema : Schema) (responses : List (Response Unit)) : Reply Unit :=
  let size := responses.length + 1
  let held := accepted responses + 1
  { delay := slowest responses
    notices := rejections schema responses ++ [.acknowledged schema.id held size]
    result :=
      if majority size ≤ held then .ok ()
      else .error (.tooFewAcknowledgements schema.id held size (majority size)) }

/-- Offer a schema to all peers at the same time. -/
def offerAll (schema : Schema) : List Peer → Cluster → List (Response Unit) × Cluster
  | [], cluster => ([], cluster)
  | peer :: rest, cluster =>
    let first := offer schema peer cluster
    let others := offerAll schema rest first.2
    (first.1 :: others.1, others.2)

/-- Ask peers one after another for a schema. The ones that have left are
skipped, and the ones that fail are reported. -/
def searchPeers (schemaId : Int64) : List Peer → Cluster → Reply (Option Schema) × Cluster
  | [], cluster => ({ delay := 0, result := .ok none }, cluster)
  | peer :: rest, cluster =>
    if cluster.reaches peer then
      let first := lookupAt schemaId peer cluster
      match first.1.result with
      | .ok (some schema) => ({ delay := first.1.delay, result := .ok (some schema) }, first.2)
      | .ok none =>
        let later := searchPeers schemaId rest first.2
        (later.1.after first.1.delay [], later.2)
      | .error error =>
        let later := searchPeers schemaId rest first.2
        (later.1.after first.1.delay [.lookupFailed schemaId error], later.2)
    else searchPeers schemaId rest cluster

/-! ## Replicators -/

/-- Bring a schema to the cluster. -/
def replicate (schema : Schema) (replicator : Replicator) (cluster : Cluster) :
    Reply Unit × Cluster :=
  match replicator with
  | .solitary => ({ delay := 0, result := .ok () }, cluster)
  | .endpoint index =>
    let pushed := cluster.push index
    ({ toResponse := pushed.1 }, pushed.2)
  | .majority group =>
    let offered := offerAll schema (cluster.peers group) cluster
    (tally schema offered.1, offered.2)

/-- Ask the cluster for a schema. -/
def fetch (schemaId : Int64) (replicator : Replicator) (cluster : Cluster) :
    Reply (Option Schema) × Cluster :=
  match replicator with
  | .solitary => ({ delay := 0, result := .ok none }, cluster)
  | .endpoint index =>
    let pulled := cluster.pull index
    ({ toResponse := pulled.1 }, pulled.2)
  | .majority group => searchPeers schemaId (cluster.peers group) cluster

end CompactSchema.Cluster
