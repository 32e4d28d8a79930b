import CompactSchema.Proofs.Cluster.Growth

/-!
Contract: requests that are made to the peers of a list one after another.

A request changes the peer that it is made to and no one else, and it changes neither who
is still there nor how much each peer knows of the others. So who can be reached is settled
before the first request, and what holds of the cluster through every single request holds
through all of them.

Owns: requests to a list of peers with their answers, who can be reached, and offers and
searches as such requests.

Does not own: what the peers answer, see `Proofs.Cluster.FanOut`.
-/

set_option autoImplicit false

namespace CompactSchema

/-! ## Answers -/

namespace Response

/-- The schema that an answer gives, if it gives one. -/
def schema? (response : Response (Option Schema)) : Option Schema :=
  match response.result with
  | .ok found? => found?
  | .error _ => none

theorem schema?_eq_some_iff {response : Response (Option Schema)} {schema : Schema} :
    response.schema? = some schema ↔ response.result = .ok (some schema) := by
  rw [schema?]
  cases response.result <;> simp

theorem schema?_eq_none_iff {response : Response (Option Schema)} :
    response.schema? = none ↔ ∀ schema, response.result ≠ .ok (some schema) := by
  rw [schema?]
  cases response.result <;> simp [Option.eq_none_iff_forall_ne_some]

end Response

namespace Cluster

/-! ## Requests in turn -/

section

variable {α : Type} (request : Peer → Cluster → Response α × Cluster)

/-- Make a request to each peer of a list in turn. -/
def askEach : List Peer → Cluster → List (Response α) × Cluster
  | [], cluster => ([], cluster)
  | peer :: rest, cluster =>
    let first := request peer cluster
    let others := askEach rest first.2
    (first.1 :: others.1, others.2)

theorem askEach_append (before after : List Peer) (cluster : Cluster) :
    askEach request (before ++ after) cluster =
      ((askEach request before cluster).1 ++
          (askEach request after (askEach request before cluster).2).1,
        (askEach request after (askEach request before cluster).2).2) := by
  induction before generalizing cluster with
  | nil => rfl
  | cons peer rest inductionHypothesis =>
      rw [List.cons_append, askEach, inductionHypothesis]
      rfl

variable {request}

/-- What every single request keeps is kept by all of them. -/
theorem askEach_preserves (kept : Cluster → Prop)
    (step : ∀ peer cluster, kept cluster → kept (request peer cluster).2) (peers : List Peer)
    {cluster : Cluster} (holds : kept cluster) : kept (askEach request peers cluster).2 := by
  induction peers generalizing cluster with
  | nil => exact holds
  | cons peer rest inductionHypothesis => exact inductionHypothesis (step peer cluster holds)

/-- An answer is what its peer said after the requests to the peers before it. -/
theorem exists_split_of_mem_zip {peers : List Peer} {cluster : Cluster} {peer : Peer}
    {answer : Response α} (given : (peer, answer) ∈ peers.zip (askEach request peers cluster).1) :
    ∃ before after, peers = before ++ peer :: after ∧
      (request peer (askEach request before cluster).2).1 = answer := by
  induction peers generalizing cluster with
  | nil => cases given
  | cons first rest inductionHypothesis =>
      rw [askEach, List.zip_cons_cons] at given
      rcases List.mem_cons.1 given with same | later
      · cases same
        exact ⟨[], rest, rfl, rfl⟩
      · obtain ⟨before, after, rfl, answered⟩ := inductionHypothesis later
        exact ⟨first :: before, after, rfl, answered⟩

end

/-! ## Who can be reached -/

theorem any_modify {α : Type} {test : α → Bool} {change : α → α}
    (same : ∀ item, test (change item) = test item) (items : List α) (index : Nat) :
    (items.modify index change).any test = items.any test := by
  induction items generalizing index with
  | nil => rw [List.modify_nil]
  | cons item rest inductionHypothesis =>
      cases index with
      | zero => rw [List.modify_zero_cons, List.any_cons, List.any_cons, same]
      | succ index =>
          rw [List.modify_succ_cons, List.any_cons, List.any_cons, inductionHypothesis]

theorem reaches_setService (index : Nat) (service : Service) (cluster : Cluster) :
    (cluster.setService index service).reaches = cluster.reaches := by
  funext peer
  cases peer with
  | member other =>
      rw [reaches, reaches, setService, member_modify]
      split <;> rfl
  | endpoint other =>
      rw [reaches, reaches, setService, any_modify]
      · rfl
      · exact fun _ => rfl

theorem endpoint_setEndpoint {cluster : Cluster} {index : Nat}
    (inRange : index < cluster.endpoints.length) (other : Nat) (endpoint : Endpoint) :
    (cluster.setEndpoint index endpoint).endpoint other =
      if index = other then endpoint else cluster.endpoint other := by
  rw [Cluster.endpoint, Cluster.endpoint, setEndpoint, List.getD_eq_getElem?_getD,
    List.getD_eq_getElem?_getD, List.getElem?_set]
  split
  · rename_i same
    subst same
    rw [Option.getD_some]
  · rfl

theorem setEndpoint_of_length_le {cluster : Cluster} {index : Nat}
    (outside : cluster.endpoints.length ≤ index) (endpoint : Endpoint) :
    cluster.setEndpoint index endpoint = cluster := by
  rw [setEndpoint, List.set_eq_of_length_le outside]

theorem reaches_setEndpoint {cluster : Cluster} {index : Nat} {endpoint : Endpoint}
    (kept : endpoint.kept = (cluster.endpoint index).kept) :
    (cluster.setEndpoint index endpoint).reaches = cluster.reaches := by
  rcases Nat.lt_or_ge index cluster.endpoints.length with inRange | outside
  · funext peer
    cases peer with
    | member _ => rfl
    | endpoint other =>
        rw [reaches, reaches, endpoint_setEndpoint inRange]
        split
        · rename_i same
          subst same
          rw [kept]
          rfl
        · rfl
  · rw [setEndpoint_of_length_le outside]

theorem reaches_note (notices : List Notice) (cluster : Cluster) :
    (cluster.note notices).reaches = cluster.reaches := by
  funext peer
  cases peer <;> rfl

theorem reaches_acceptAt (schema : Schema) (peer : Peer) (cluster : Cluster) :
    (acceptAt schema peer cluster).2.reaches = cluster.reaches := by
  cases peer with
  | member index => exact (reaches_note _ _).trans (reaches_setService index _ cluster)
  | endpoint index => exact reaches_setEndpoint rfl

theorem reaches_lookupAt (schemaId : Int64) (peer : Peer) (cluster : Cluster) :
    (lookupAt schemaId peer cluster).2.reaches = cluster.reaches := by
  cases peer with
  | member index => rfl
  | endpoint index => exact reaches_setEndpoint rfl

/-! ## Offers and searches -/

theorem accepted_cons (response : Response Unit) (responses : List (Response Unit)) :
    accepted (response :: responses) =
      accepted responses + if response.result.isOk = true then 1 else 0 :=
  List.countP_cons

/-- An offer to all entries is a request to each entry whose peer is there. -/
theorem offerAll_eq (schema : Schema) (peers : List Peer) (cluster : Cluster) :
    let requests := askEach (acceptAt schema) (peers.filter cluster.reaches) cluster
    (offerAll schema peers cluster).2 = requests.2 ∧
      accepted (offerAll schema peers cluster).1 = accepted requests.1 := by
  induction peers generalizing cluster with
  | nil => exact ⟨rfl, rfl⟩
  | cons peer rest inductionHypothesis =>
      rw [offerAll, offer]
      by_cases reached : cluster.reaches peer = true
      · obtain ⟨sameState, sameCount⟩ := inductionHypothesis (acceptAt schema peer cluster).2
        rw [reaches_acceptAt] at sameState sameCount
        rw [if_pos reached, List.filter_cons_of_pos reached, askEach]
        refine ⟨sameState, ?_⟩
        rw [accepted_cons, accepted_cons, sameCount]
      · obtain ⟨sameState, sameCount⟩ := inductionHypothesis cluster
        rw [if_neg reached, List.filter_cons_of_neg reached]
        exact ⟨sameState, sameCount⟩

/-- A search asks the peers that are there up to the first one that has the schema. -/
theorem searchPeers_eq (schemaId : Int64) (peers : List Peer) (cluster : Cluster) :
    let present := peers.filter cluster.reaches
    let answers := (askEach (lookupAt schemaId) present cluster).1
    let asked := present.take (answers.findIdx (fun answer => answer.schema?.isSome) + 1)
    (searchPeers schemaId peers cluster).1.result = .ok (answers.findSome? Response.schema?) ∧
      (searchPeers schemaId peers cluster).2 = (askEach (lookupAt schemaId) asked cluster).2 := by
  induction peers generalizing cluster with
  | nil => exact ⟨rfl, rfl⟩
  | cons peer rest inductionHypothesis =>
      rw [searchPeers]
      by_cases reached : cluster.reaches peer = true
      · obtain ⟨sameResult, sameState⟩ := inductionHypothesis (lookupAt schemaId peer cluster).2
        rw [reaches_lookupAt] at sameResult sameState
        rw [if_pos reached, List.filter_cons_of_pos reached]
        simp only [askEach, List.findIdx_cons, List.findSome?_cons, Response.schema?]
        cases outcome : (lookupAt schemaId peer cluster).1.result with
        | error error => exact ⟨sameResult, sameState⟩
        | ok found? =>
            cases found? with
            | none => exact ⟨sameResult, sameState⟩
            | some found => exact ⟨rfl, rfl⟩
      · rw [if_neg reached, List.filter_cons_of_neg reached]
        exact inductionHypothesis cluster

end Cluster

end CompactSchema
