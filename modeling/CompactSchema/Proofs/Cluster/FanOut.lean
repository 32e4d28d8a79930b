import CompactSchema.Proofs.Cluster.Agreement
import CompactSchema.Proofs.Cluster.Requests
import CompactSchema.Proofs.Fingerprint.Decoding
import CompactSchema.Proofs.History
import CompactSchema.Proofs.Loading

/-!
Contract: bringing a schema to the peers of a group.

Every entry of the list whose peer is still there gets one request to accept the schema,
whatever the other entries answer. All entries count as members, but only those that accept
count as holding the schema. A peer whose id for the schema is free or its own accepts and
holds it from then on; one that has the id for a different schema refuses every time and
stays as it is.

Owns: the requests of a group, their answers and their effect on the peers.

Does not own: which calls bring a schema to a group, see `Proofs.Cluster.Agreement`.
-/

set_option autoImplicit false

namespace CompactSchema

namespace Cluster

variable {cluster : Cluster} {schema : Schema} {index : Nat} {peers : List Peer}

/-! ## One request for each entry -/

theorem askEach_acceptAt_growsBy {marked : Nat → Int64 → Prop} (peers : List Peer)
    (cluster : Cluster) :
    cluster.GrowsBy (· = schema) marked (askEach (acceptAt schema) peers cluster).2 :=
  askEach_preserves (cluster.GrowsBy (· = schema) marked)
    (fun peer _ grows => grows.trans (acceptAt_growsBy schema peer _)) peers (.of_same ⟨rfl, rfl⟩)

theorem used_acceptAt (inRange : index < cluster.endpoints.length) (peer : Peer) :
    ((acceptAt schema peer cluster).2.endpoint index).intake.used =
      (cluster.endpoint index).intake.used + if peer = .endpoint index then 1 else 0 := by
  cases peer with
  | member _ => rfl
  | endpoint other =>
      rw [acceptAt, push]
      rcases Nat.lt_or_ge other cluster.endpoints.length with otherInRange | outside
      · rw [endpoint_setEndpoint otherInRange]
        by_cases same : other = index
        · subst same
          simp [Script.advance]
        · simp [same]
      · have different : other ≠ index := by omega
        rw [setEndpoint_of_length_le outside]
        simp [different]

theorem length_endpoints_acceptAt (peer : Peer) :
    (acceptAt schema peer cluster).2.endpoints.length = cluster.endpoints.length := by
  cases peer with
  | member _ => rfl
  | endpoint _ => exact List.length_set

/-- An endpoint is asked as often as it is on the list. -/
theorem used_askEach_acceptAt (inRange : index < cluster.endpoints.length) (peers : List Peer) :
    ((askEach (acceptAt schema) peers cluster).2.endpoint index).intake.used =
      (cluster.endpoint index).intake.used + peers.count (.endpoint index) := by
  induction peers generalizing cluster with
  | nil => rfl
  | cons peer rest inductionHypothesis =>
      have stillInRange : index < (acceptAt schema peer cluster).2.endpoints.length := by
        rw [length_endpoints_acceptAt]
        exact inRange
      rw [askEach, inductionHypothesis stillInRange, used_acceptAt inRange, List.count_cons]
      simp only [beq_iff_eq]
      omega

/-! ## What a member answers -/

section

variable (isOpen : (cluster.member index).service.interrupted = false)

include isOpen

theorem register_after_requests
    (admits : (cluster.member index).service.registry.Admits schema) (before : List Peer) :
    (Service.register schema
      ((askEach (acceptAt schema) before cluster).2.member index).service).result =
        .ok schema := by
  have grows : cluster.GrowsBy (· = schema) (fun _ _ => False)
      (askEach (acceptAt schema) before cluster).2 := askEach_acceptAt_growsBy before cluster
  have growsMember := grows.service index
  exact Service.register_of_free (growsMember.interrupted.trans isOpen)
    (growsMember.registry.admits admits)

/-- A member that admits the schema accepts it each time and holds it in the end. -/
theorem askEach_of_admits (inRange : index < cluster.members.length)
    (admits : (cluster.member index).service.registry.Admits schema)
    (listed : .member index ∈ peers) :
    (askEach (acceptAt schema) peers cluster).2.Holds schema index ∧
      ∀ answer, (.member index, answer) ∈ peers.zip (askEach (acceptAt schema) peers cluster).1 →
        answer.result = .ok () := by
  constructor
  -- The requests before the first one to the member leave it admitting the schema, and those
  -- after it do not take the schema away.
  · obtain ⟨before, after, rfl⟩ := List.append_of_mem listed
    let earlier := (askEach (acceptAt schema) before cluster).2
    let accepted := (acceptAt schema (.member index) earlier).2
    have grows : cluster.GrowsBy (· = schema) (fun _ _ => False) earlier :=
      askEach_acceptAt_growsBy before cluster
    have growsAfter : accepted.GrowsBy (· = schema) (fun _ _ => False)
        (askEach (acceptAt schema) after accepted).2 := askEach_acceptAt_growsBy after accepted
    rw [askEach_append, askEach]
    exact growsAfter.holds (acceptAt_holds (grows.size.symm ▸ inRange)
      (register_after_requests isOpen admits before))
  · intro answer given
    obtain ⟨before, _, _, rfl⟩ := exists_split_of_mem_zip given
    show (Service.accept schema _).result = _
    rw [Service.accept, register_after_requests isOpen admits before]
    rfl

/-- A member that has the id for a different schema refuses each time and stays as it is. -/
theorem askEach_of_taken {existing : Schema}
    (held : (cluster.member index).service.registry.find? schema.id = some existing)
    (different : existing ≠ schema) (peers : List Peer) :
    (askEach (acceptAt schema) peers cluster).2.member index = cluster.member index ∧
      ∀ answer, (.member index, answer) ∈ peers.zip (askEach (acceptAt schema) peers cluster).1 →
        answer.result = .error (Service.conflict existing schema) := by
  have refused : Service.register schema (cluster.member index).service =
      { result := .error (Service.conflict existing schema)
        service := (cluster.member index).service
        notices := [.idTaken existing schema] } :=
    Service.register_of_taken isOpen held different
  have step : ∀ peer later, later.member index = cluster.member index →
      (acceptAt schema peer later).2.member index = cluster.member index := by
    intro peer later same
    cases peer with
    | endpoint _ => exact same
    | member other =>
        show (later.setService other _).member index = _
        rw [setService, member_modify]
        split
        · rename_i hit
          rw [hit.1, Service.accept, same, refused]
        · exact same
  have unchanged : ∀ before, (askEach (acceptAt schema) before cluster).2.member index =
      cluster.member index := by
    intro before
    exact askEach_preserves (fun later => later.member index = cluster.member index)
      step before rfl
  refine ⟨unchanged peers, ?_⟩
  intro answer given
  obtain ⟨before, _, _, rfl⟩ := exists_split_of_mem_zip given
  show (Service.accept schema _).result = _
  rw [Service.accept, unchanged before, refused]
  rfl

end

/-! ## The outcome for a group -/

/-- More than half of the members hold the schema, the one that asks included. -/
theorem majority_le_iff (size held : Nat) : majority size ≤ held ↔ size < 2 * held := by
  rw [majority]
  omega

/-- Each entry of a group whose peer is there is asked once to accept the schema. The schema
is replicated if more than half of all entries and the member that asks accept it; otherwise
the call fails and may be tried again. Either way, the members among the peers hold the
schema then, but for those that have its id for a different one: these refuse it and are as
they were. -/
theorem replicate_fans_out {cluster : Cluster} {group : Nat}
    (reachable : ∀ index, .member index ∈ (cluster.peers group).filter cluster.reaches →
      (cluster.member index).service.Reachable) (schema : Schema) :
    let peers := cluster.peers group
    let present := peers.filter cluster.reaches
    let requests := askEach (acceptAt schema) present cluster
    let outcome := cluster.replicate schema (.majority group)
    outcome.2 = requests.2 ∧
    (∀ index < cluster.endpoints.length, (outcome.2.endpoint index).intake.used =
      (cluster.endpoint index).intake.used + present.count (.endpoint index)) ∧
    (outcome.1.result = .ok () ↔ peers.length + 1 < 2 * (1 + accepted requests.1)) ∧
    (outcome.1.result ≠ .ok () → ∃ detail,
      outcome.1.result = .error (.replication detail) ∧
        (SchemaError.replication detail).isRetryable = true) ∧
    ∀ index, .member index ∈ present →
      ((∀ existing, (cluster.member index).service.find schema.id = .ok (some existing) →
          existing = schema) →
        (outcome.2.member index).service.find schema.id = .ok (some schema) ∧
        ∀ answer, (.member index, answer) ∈ present.zip requests.1 → answer.result = .ok ()) ∧
      ∀ existing, (cluster.member index).service.find schema.id = .ok (some existing) →
        existing ≠ schema →
        outcome.2.member index = cluster.member index ∧
        ∀ answer, (.member index, answer) ∈ present.zip requests.1 →
          answer.result = .error (.schemaConflict schema.id existing.text schema.text) := by
  intro peers present requests outcome
  obtain ⟨sameState, sameCount⟩ := offerAll_eq schema peers cluster
  refine ⟨sameState, ?_, ?_, ?_, ?_⟩
  · intro index inRange
    rw [show outcome.2 = requests.2 from sameState]
    exact used_askEach_acceptAt inRange present
  · show (tally schema (offerAll schema peers cluster).1).result = .ok () ↔ _
    rw [tally_ok, length_offerAll, majority_le_iff, sameCount, Nat.add_comm (accepted _)]
  · intro failed
    exact ⟨_, tally_of_not_ok failed, rfl⟩
  · intro index listed
    rw [show outcome.2 = requests.2 from sameState]
    have isOpen := (reachable index listed).isOpen
    have inRange := lt_of_reaches (List.mem_filter.1 listed).2
    constructor
    · intro free
      have admits : (cluster.member index).service.registry.Admits schema := by
        intro existing held
        apply free
        rw [Service.find_of_open isOpen, held]
      obtain ⟨holds, answers⟩ := askEach_of_admits isOpen inRange admits listed
      have grows : cluster.GrowsBy (· = schema) (fun _ _ => False) requests.2 :=
        askEach_acceptAt_growsBy present cluster
      refine ⟨?_, answers⟩
      rw [Service.find_of_open ((grows.service index).interrupted.trans isOpen)]
      exact congrArg Except.ok holds
    · intro existing found different
      rw [Service.find_of_open isOpen] at found
      exact askEach_of_taken isOpen (Except.ok.inj found) different present

/-- A group of five entries: a new member listed twice, an endpoint that fails, a member that
has left, and one that has the id for a different schema by a collision of the fingerprint. -/
theorem replicate_fans_out_mixed :
    let schema := Schema.fieldless "aaaaaaabaaaaa" (by decide)
    let other := Schema.fieldless "tpgawtyxugbfn" (by decide)
    let cluster : Cluster :=
      { members :=
          [{ service := .standard }, { service := .standard, live := false },
            { service := (Service.register other .standard).service }]
        groups := [[.member 0, .endpoint 0, .member 1, .member 2, .member 0]]
        endpoints := [{ intake := { turns := [{ failure? := some "busy" }] } }] }
    let outcome := cluster.replicate schema (.majority 0)
    (∃ detail, outcome.1.result = .error (.replication detail)) ∧
      (outcome.2.endpoint 0).intake.used = 1 ∧
      (outcome.2.member 0).service.find schema.id = .ok (some schema) ∧
      outcome.2.member 2 = cluster.member 2 := by
  intro schema other cluster outcome
  have sameId : other.id = schema.id := Fingerprint.compute_collides.symm
  have present : (cluster.peers 0).filter cluster.reaches =
      [.member 0, .endpoint 0, .member 2, .member 0] := by decide
  have reachable : ∀ index, .member index ∈ (cluster.peers 0).filter cluster.reaches →
      (cluster.member index).service.Reachable := by
    intro index listed
    rw [present] at listed
    simp only [List.mem_cons, Peer.member.injEq, List.not_mem_nil, or_false, reduceCtorEq,
      false_or] at listed
    rcases listed with rfl | rfl | rfl
    · exact Service.reachable_standard
    · exact Service.reachable_register other
    · exact Service.reachable_standard
  have taken : (cluster.member 2).service.find schema.id = .ok (some other) := by
    rw [← sameId]
    exact congrArg Except.ok (Registry.find?_insert_self .empty other)
  obtain ⟨_, asked, decided, fails, effects⟩ := replicate_fans_out reachable schema
  have tooFew : ¬ (cluster.peers 0).length + 1 < 2 * (1 + accepted
      (askEach (acceptAt schema) ((cluster.peers 0).filter cluster.reaches) cluster).1) := by
    decide +kernel
  refine ⟨?_, asked 0 (by decide), ((effects 0 ?_).1 ?_).1, ((effects 2 ?_).2 other taken ?_).1⟩
  · obtain ⟨detail, failed, _⟩ := fails fun succeeded => tooFew (decided.1 succeeded)
    exact ⟨detail, failed⟩
  · rw [present]
    decide
  · intro existing found
    cases found
  · rw [present]
    decide
  · decide

end Cluster

end CompactSchema
