import CompactSchema.Proofs.Cluster.Growth
import Mathlib.Data.Finset.Card

/-!
Contract: members that all replicate to each other agree on the schema of an id.

A call that brings a schema to the cluster succeeds only if a majority of the
members holds the schema, and no member ever gives one up. Two majorities have a
member in common, and one member holds one schema under an id.

A member that has marked an id asks no one when it is to bring the schema to the
cluster again. So the invariant of a cluster says of every mark that a majority
holds what the member itself has under the id.

Owns: who holds a schema, connected clusters, the invariant of a cluster along
its runs, and the agreement of successful calls.

Does not own: what members can find, see `Proofs.Cluster.Availability`.
-/

set_option autoImplicit false

namespace CompactSchema

namespace Cluster

variable {offered : Schema → Prop} {marked : Nat → Int64 → Prop}
  {cluster earlier later : Cluster}

/-! ## Who holds a schema -/

def Holds (cluster : Cluster) (schema : Schema) (index : Nat) : Prop :=
  (cluster.member index).service.registry.find? schema.id = some schema

instance (cluster : Cluster) (schema : Schema) : DecidablePred (cluster.Holds schema) :=
  fun index => decEq ((cluster.member index).service.registry.find? schema.id) (some schema)

def holders (cluster : Cluster) (schema : Schema) : Finset Nat :=
  (Finset.range cluster.members.length).filter (cluster.Holds schema)

def HeldByMajority (cluster : Cluster) (schema : Schema) : Prop :=
  majority cluster.members.length ≤ (cluster.holders schema).card

theorem mem_holders {schema : Schema} {index : Nat} :
    index ∈ cluster.holders schema ↔
      index < cluster.members.length ∧ cluster.Holds schema index := by
  rw [holders, Finset.mem_filter, Finset.mem_range]

theorem card_holders (cluster : Cluster) (schema : Schema) :
    (cluster.holders schema).card =
      (List.range cluster.members.length).countP fun index => cluster.Holds schema index := by
  rw [List.countP_eq_length_filter]
  rfl

theorem GrowsBy.holds (grows : earlier.GrowsBy offered marked later) {schema : Schema}
    {index : Nat} (held : earlier.Holds schema index) : later.Holds schema index :=
  (grows.service index).registry.keeps held

/-- A peer is a member that holds a schema. -/
def Backs (cluster : Cluster) (schema : Schema) : Peer → Prop
  | .member index => cluster.Holds schema index
  | .endpoint _ => False

instance (cluster : Cluster) (schema : Schema) : DecidablePred (cluster.Backs schema)
  | .member index => inferInstanceAs (Decidable (cluster.Holds schema index))
  | .endpoint _ => inferInstanceAs (Decidable False)

theorem GrowsBy.backs (grows : earlier.GrowsBy offered marked later) {schema : Schema}
    {peer : Peer} (backed : earlier.Backs schema peer) : later.Backs schema peer := by
  cases peer with
  | member index => exact grows.holds backed
  | endpoint _ => exact backed

theorem GrowsBy.heldByMajority (grows : earlier.GrowsBy offered marked later) {schema : Schema}
    (held : earlier.HeldByMajority schema) : later.HeldByMajority schema := by
  have kept : earlier.holders schema ⊆ later.holders schema := by
    intro index member
    rw [mem_holders] at member ⊢
    exact ⟨grows.size.symm ▸ member.1, grows.holds member.2⟩
  rw [HeldByMajority, grows.size]
  exact held.trans (Finset.card_le_card kept)

/-- Two majorities have a member in common. -/
theorem HeldByMajority.eq_of_id_eq {first second : Schema}
    (firstHeld : cluster.HeldByMajority first) (secondHeld : cluster.HeldByMajority second)
    (sameId : first.id = second.id) : first = second := by
  have tooMany : (Finset.range cluster.members.length).card <
      (cluster.holders first).card + (cluster.holders second).card := by
    rw [HeldByMajority, majority] at firstHeld secondHeld
    rw [Finset.card_range]
    omega
  obtain ⟨index, common⟩ := Finset.inter_nonempty_of_card_lt_card_add_card
    (Finset.filter_subset _ _) (Finset.filter_subset _ _) tooMany
  have holdsFirst : cluster.Holds first index := (mem_holders.1 (Finset.mem_inter.1 common).1).2
  have holdsSecond : cluster.Holds second index := (mem_holders.1 (Finset.mem_inter.1 common).2).2
  rw [Holds, sameId, holdsSecond] at holdsFirst
  exact (Option.some.inj holdsFirst).symm

/-! ## Connected clusters -/

/-- A member seeks a majority of all members; its peers are the others, each
listed once. -/
structure Linked (cluster : Cluster) (index group : Nat) (others : List Nat) : Prop where
  replicator : (cluster.member index).replicator = .majority group
  peers : cluster.peers group = others.map .member
  complete : (index :: others).Perm (List.range cluster.members.length)

def Connected (cluster : Cluster) : Prop :=
  ∀ index < cluster.members.length, ∃ group others, cluster.Linked index group others

/-- The members are connected and have not been called yet. -/
structure Founded (cluster : Cluster) : Prop where
  connected : cluster.Connected
  created : ∀ index < cluster.members.length, ∃ config,
    Service.create config = .ok (cluster.member index).service

theorem Linked.length {index group : Nat} {others : List Nat}
    (linked : cluster.Linked index group others) :
    cluster.members.length = others.length + 1 := by
  have same := linked.complete.length_eq
  rw [List.length_cons, List.length_range] at same
  exact same.symm

theorem Linked.lt_of_mem {index group other : Nat} {others : List Nat}
    (linked : cluster.Linked index group others) (member : other ∈ others) :
    other < cluster.members.length :=
  List.mem_range.1 (linked.complete.subset (List.mem_cons_of_mem index member))

theorem GrowsBy.linked (grows : earlier.GrowsBy offered marked later) {index group : Nat}
    {others : List Nat} (linked : earlier.Linked index group others) :
    later.Linked index group others where
  replicator := (grows.replicator index).trans linked.replicator
  peers := (grows.peers group).trans linked.peers
  complete := by
    rw [grows.size]
    exact linked.complete

theorem GrowsBy.connected (grows : earlier.GrowsBy offered marked later)
    (connected : earlier.Connected) : later.Connected := by
  intro index inRange
  rw [grows.size] at inRange
  obtain ⟨group, others, linked⟩ := connected index inRange
  exact ⟨group, others, grows.linked linked⟩

/-- New members with the default settings that all replicate to each other. -/
def mesh (size : Nat) : Cluster where
  members := (List.range size).map fun index =>
    { service := .standard, replicator := .majority index }
  groups := (List.range size).map fun index => ((List.range size).erase index).map .member

theorem mesh_founded (size : Nat) : (mesh size).Founded := by
  have length : (mesh size).members.length = size := by simp [mesh]
  have entry : ∀ index < size,
      (mesh size).member index = { service := .standard, replicator := .majority index } := by
    intro index inRange
    simp [member, mesh, inRange]
  constructor
  · intro index inRange
    rw [length] at inRange
    refine ⟨index, (List.range size).erase index, ?_, ?_, ?_⟩
    · rw [entry index inRange]
    · simp [peers, mesh, inRange]
    · rw [length]
      exact (List.perm_cons_erase (List.mem_range.2 inRange)).symm
  · intro index inRange
    rw [length] at inRange
    rw [entry index inRange]
    exact ⟨{}, Service.create_default⟩

/-! ## Bringing a schema to a connected cluster -/

theorem register_growsBy (index : Nat) (schema : Schema) (cluster : Cluster) :
    cluster.GrowsBy (· = schema) (fun _ _ => False)
      ((environment index).perform (Service.register schema) cluster).2 :=
  ((growth index).perform (Service.register_growsBy schema _)).mono (fun _ => id)
    fun _ _ impossible => impossible.2

theorem register_holds {index : Nat}
    (inRange : index < cluster.members.length) {schema : Schema}
    (accepted : (Service.register schema (cluster.member index).service).result = .ok schema) :
    ((environment index).perform (Service.register schema) cluster).2.Holds schema index := by
  rw [Holds, service_perform inRange]
  exact (Service.register_ok accepted).2

/-- A schema that can be registered stays with the member, also when it could not
be brought to the cluster. -/
theorem put_holds {index : Nat}
    (inRange : index < cluster.members.length) {schema : Schema}
    (accepted : (Service.register schema (cluster.member index).service).result = .ok schema) :
    ((environment index).put schema cluster).2.Holds schema index := by
  have taken := register_holds inRange accepted
  rcases (environment index).put_cases schema cluster with
    ⟨_, _, outcome⟩ | ⟨_, _, outcome⟩ | ⟨_, _, outcome⟩ <;> rw [outcome]
  · exact taken
  · exact taken
  · exact ((growth index).publish schema _).holds taken

theorem lt_of_taken {index : Nat} (taken : cluster.member index ≠ .vacant) :
    index < cluster.members.length := by
  by_contra outside
  apply taken
  rw [member, List.getD_eq_getElem?_getD, List.getElem?_eq_none (Nat.le_of_not_lt outside)]
  rfl

theorem lt_of_reaches {index : Nat} (reached : cluster.reaches (.member index) = true) :
    index < cluster.members.length := by
  apply lt_of_taken
  intro vacant
  rw [reaches, vacant] at reached
  cases reached

theorem acceptAt_holds {schema : Schema} {index : Nat} (inRange : index < cluster.members.length)
    (registered : (Service.register schema (cluster.member index).service).result = .ok schema) :
    (acceptAt schema (.member index) cluster).2.Holds schema index := by
  have taken := (Service.register_ok registered).2
  rw [← member_setService_self inRange
    (Service.register schema (cluster.member index).service).service] at taken
  exact taken

/-- A member that accepts a schema holds it then. -/
theorem offer_holds {schema : Schema} {index : Nat}
    (accepted : (offer schema (.member index) cluster).1.result.isOk = true) :
    (offer schema (.member index) cluster).2.Holds schema index := by
  rw [offer] at accepted ⊢
  split at accepted
  · rename_i reached
    rw [if_pos reached]
    apply acceptAt_holds (lt_of_reaches reached)
    cases outcome : (Service.register schema (cluster.member index).service).result with
    | ok answer => rw [(Service.register_ok outcome).1]
    | error _ =>
        simp [acceptAt, Service.accept, outcome, Except.map, Except.isOk, Except.toBool]
          at accepted
  · cases accepted

theorem length_offerAll (schema : Schema) (peers : List Peer) (cluster : Cluster) :
    (offerAll schema peers cluster).1.length = peers.length := by
  induction peers generalizing cluster with
  | nil => rfl
  | cons peer rest inductionHypothesis =>
      exact congrArg (· + 1) (inductionHypothesis (offer schema peer cluster).2)

/-- No more members accept a schema than hold it in the end. -/
theorem accepted_offerAll_le (schema : Schema) (peers : List Peer) (cluster : Cluster)
    (allMembers : ∀ peer ∈ peers, ∃ index, peer = .member index) :
    accepted (offerAll schema peers cluster).1 ≤
      peers.countP fun peer => (offerAll schema peers cluster).2.Backs schema peer := by
  induction peers generalizing cluster with
  | nil => exact Nat.le_refl 0
  | cons peer rest inductionHypothesis =>
      obtain ⟨⟨index, rfl⟩, othersAreMembers⟩ := List.forall_mem_cons.1 allMembers
      have others : (offer schema (.member index) cluster).2.GrowsBy (· = schema)
          (fun _ _ => False) (offerAll schema rest (offer schema (.member index) cluster).2).2 :=
        offerAll_growsBy schema rest _
      rw [offerAll, accepted, List.countP_cons, List.countP_cons]
      apply Nat.add_le_add (inductionHypothesis _ othersAreMembers)
      split
      · rename_i acknowledged
        have held : (offerAll schema rest (offer schema (.member index) cluster).2).2.Backs schema
            (.member index) := others.holds (offer_holds acknowledged)
        rw [if_pos (decide_eq_true held)]
      · exact Nat.zero_le _

theorem replicate_of_majority {index group : Nat}
    (replicator : (cluster.member index).replicator = .majority group) (schema : Schema) :
    (environment index).replicate schema cluster =
      (tally schema (offerAll schema (cluster.peers group) cluster).1,
        (offerAll schema (cluster.peers group) cluster).2) := by
  show cluster.replicate schema (cluster.member index).replicator = _
  rw [replicator, replicate]

/-- A tally succeeds if a majority of the peers and the member that asks holds
the schema. -/
theorem tally_ok {schema : Schema} {responses : List (Response Unit)} :
    (tally schema responses).result = .ok () ↔
      majority (responses.length + 1) ≤ accepted responses + 1 := by
  rw [tally]
  dsimp only
  split
  · simp [*]
  · simp [*]

theorem tally_of_not_ok {schema : Schema} {responses : List (Response Unit)}
    (failed : (tally schema responses).result ≠ .ok ()) :
    let size := responses.length + 1
    (tally schema responses).result = .error
      (.tooFewAcknowledgements schema.id (accepted responses + 1) size (majority size)) :=
  if_neg fun enough => failed (tally_ok.2 enough)

/-- A replicator that succeeds has brought the schema to a majority of its peers
and the member that asks. -/
theorem replicate_ok {index group : Nat}
    (replicator : (cluster.member index).replicator = .majority group)
    (allMembers : ∀ peer ∈ cluster.peers group, ∃ other, peer = .member other) {schema : Schema}
    (succeeded : ((environment index).replicate schema cluster).1.result = .ok ()) :
    majority (cluster.groupSize group) ≤ ((cluster.peers group).countP fun peer =>
      ((environment index).replicate schema cluster).2.Backs schema peer) + 1 := by
  rw [replicate_of_majority replicator] at succeeded ⊢
  have quorum := tally_ok.1 succeeded
  rw [length_offerAll] at quorum
  have acknowledged := accepted_offerAll_le schema (cluster.peers group) cluster allMembers
  exact quorum.trans (Nat.add_le_add_right acknowledged 1)

theorem Linked.replicate_ok {index group : Nat} {others : List Nat}
    (linked : cluster.Linked index group others) {schema : Schema}
    (held : cluster.Holds schema index)
    (succeeded : ((environment index).replicate schema cluster).1.result = .ok ()) :
    ((environment index).replicate schema cluster).2.HeldByMajority schema := by
  have grows : cluster.GrowsBy (· = schema) (fun _ _ => False)
      ((environment index).replicate schema cluster).2 := replicate_growsBy schema _ cluster
  have allMembers : ∀ peer ∈ cluster.peers group, ∃ other, peer = .member other := by
    intro peer listed
    rw [linked.peers] at listed
    obtain ⟨other, _, same⟩ := List.mem_map.1 listed
    exact ⟨other, same.symm⟩
  have quorum := Cluster.replicate_ok linked.replicator allMembers succeeded
  rw [groupSize, linked.peers, List.length_map, List.countP_map] at quorum
  rw [HeldByMajority, card_holders, grows.size, ← linked.complete.countP_eq, List.countP_cons,
    if_pos (decide_eq_true (grows.holds held)), linked.length]
  exact quorum

theorem Linked.publish_ok {index group : Nat} {others : List Nat}
    (linked : cluster.Linked index group others) {schema answer : Schema}
    (held : cluster.Holds schema index)
    (succeeded : ((environment index).publish schema cluster).1 = .ok answer) :
    ((environment index).publish schema cluster).2.HeldByMajority schema := by
  have published : ((environment index).replicate schema cluster).2.GrowsBy (· = schema) _
      ((environment index).publish schema cluster).2 := (growth index).published schema cluster
  exact published.heldByMajority
    (linked.replicate_ok held (Environment.publish_ok succeeded).2)

/-! ## The invariant of a cluster -/

structure Sound (cluster : Cluster) : Prop where
  connected : cluster.Connected
  isOpen : ∀ index < cluster.members.length, (cluster.member index).service.interrupted = false
  backed : ∀ index < cluster.members.length, ∀ schemaId,
    (cluster.member index).service.isReplicated schemaId = true →
    ∃ schema, schema.id = schemaId ∧ cluster.Holds schema index ∧ cluster.HeldByMajority schema

theorem Founded.sound (founded : cluster.Founded) : cluster.Sound where
  connected := founded.connected
  isOpen := by
    intro index inRange
    obtain ⟨_, created⟩ := founded.created index inRange
    exact (Service.create_ok created).2.2.2
  backed := by
    intro index inRange schemaId mark
    obtain ⟨_, created⟩ := founded.created index inRange
    rw [Service.isReplicated, (Service.create_ok created).2.2.1] at mark
    cases mark

/-- Growth keeps the invariant if the new marks are backed. -/
theorem GrowsBy.sound (grows : earlier.GrowsBy offered marked later) (sound : earlier.Sound)
    (backed : ∀ index < earlier.members.length, ∀ schemaId, marked index schemaId →
      ∃ schema, schema.id = schemaId ∧ later.Holds schema index ∧ later.HeldByMajority schema) :
    later.Sound where
  connected := grows.connected sound.connected
  isOpen := by
    intro index inRange
    rw [grows.size] at inRange
    exact (grows.service index).interrupted.trans (sound.isOpen index inRange)
  backed := by
    intro index inRange schemaId mark
    rw [grows.size] at inRange
    rcases (grows.service index).newMark mark with old | new
    · obtain ⟨schema, same, held, quorum⟩ := sound.backed index inRange schemaId old
      exact ⟨schema, same, grows.holds held, grows.heldByMajority quorum⟩
    · exact backed index inRange schemaId new

/-- After a successful call the member and a majority hold the schema, also when
the member only looked at its marks. -/
theorem Sound.put_ok (sound : cluster.Sound) {index : Nat}
    (inRange : index < cluster.members.length) {schema answer : Schema}
    (succeeded : ((environment index).put schema cluster).1 = .ok answer) :
    ((environment index).put schema cluster).2.Holds schema index ∧
      ((environment index).put schema cluster).2.HeldByMajority schema := by
  obtain ⟨rfl, accepted⟩ := Environment.put_ok succeeded
  refine ⟨put_holds inRange accepted, ?_⟩
  have registered := register_growsBy index answer cluster
  have taken := register_holds inRange accepted
  rcases (environment index).put_cases answer cluster with
    ⟨_, _, outcome⟩ | ⟨_, mark, outcome⟩ | ⟨_, _, outcome⟩ <;> rw [outcome] at succeeded ⊢
  · cases succeeded
  -- No one was asked: what backs the mark is what the member has under the id.
  · rcases (registered.service index).newMark mark with old | impossible
    · obtain ⟨held, same, holds, quorum⟩ := sound.backed index inRange answer.id old
      have heldThen := registered.holds holds
      rw [Holds, same, taken] at heldThen
      rw [← Option.some.inj heldThen] at quorum
      exact registered.heldByMajority quorum
    · exact impossible.elim
  · obtain ⟨group, others, linked⟩ := sound.connected index inRange
    exact (registered.linked linked).publish_ok taken succeeded

/-! ## Runs -/

theorem Sound.handle (sound : cluster.Sound) {index : Nat}
    (inRange : index < cluster.members.length) (call : Call) :
    ((environment index).handle call cluster).2.Sound := by
  have grows := (growth index).handle call cluster
  apply grows.sound sound
  rintro _ _ _ ⟨rfl, schema, rfl, rfl, succeeded⟩
  exact ⟨schema, rfl, sound.put_ok inRange succeeded⟩

theorem Sound.step (sound : cluster.Sound) {event : Event}
    (within : event.Within cluster.members.length) : (cluster.step event).Sound := by
  cases event with
  | request index call => exact sound.handle within call
  | leave index =>
      have grows : cluster.GrowsBy (fun _ => False) (fun _ _ => False)
          (cluster.removeMember index) := removeMember_growsBy cluster index
      exact grows.sound sound fun _ _ _ impossible => impossible.elim

theorem step_growsBy (event : Event) (cluster : Cluster) :
    cluster.GrowsBy (fun _ => True) (fun _ _ => True) (cluster.step event) := by
  cases event with
  | request index call =>
      exact ((growth index).handle call cluster).mono (fun _ _ => trivial) fun _ _ _ => trivial
  | leave index => exact removeMember_growsBy cluster index

theorem run_growsBy (events : List Event) (cluster : Cluster) :
    cluster.GrowsBy (fun _ => True) (fun _ _ => True) (cluster.run events) := by
  induction events generalizing cluster with
  | nil => exact .of_same ⟨rfl, rfl⟩
  | cons event rest inductionHypothesis =>
      exact (step_growsBy event cluster).trans (inductionHypothesis (cluster.step event))

/-- Events are about the same members while a run goes on. -/
theorem within_step {event : Event} {rest : List Event}
    (within : ∀ other ∈ event :: rest, other.Within cluster.members.length) :
    event.Within cluster.members.length ∧
      ∀ later ∈ rest, later.Within (cluster.step event).members.length := by
  rw [(step_growsBy event cluster).size]
  exact List.forall_mem_cons.1 within

theorem Sound.run (sound : cluster.Sound) {events : List Event}
    (within : ∀ event ∈ events, event.Within cluster.members.length) :
    (cluster.run events).Sound := by
  induction events generalizing cluster with
  | nil => exact sound
  | cons event rest inductionHypothesis =>
      obtain ⟨here, later⟩ := within_step within
      exact inductionHypothesis (sound.step here) later

/-- At the end of a run a majority holds every schema that was brought to the
cluster in it. -/
theorem Sound.heldByMajority_of_put (sound : cluster.Sound)
    {events : List Event} (within : ∀ event ∈ events, event.Within cluster.members.length)
    {index : Nat} {schema answer : Schema}
    (succeeded : ⟨index, .put schema, .schema (.ok answer)⟩ ∈ transcript events cluster) :
    (cluster.run events).HeldByMajority schema := by
  induction events generalizing cluster with
  | nil => cases succeeded
  | cons event rest inductionHypothesis =>
      obtain ⟨here, later⟩ := within_step within
      cases event with
      | leave _ => exact inductionHypothesis (sound.step here) later succeeded
      | request member call =>
          rcases List.mem_cons.1 succeeded with now | afterwards
          · obtain ⟨rfl, rfl, answered⟩ := Served.mk.inj now
            have put : ((environment index).put schema cluster).1 = .ok answer :=
              (Answer.schema.inj answered).symm
            exact (run_growsBy rest _).heldByMajority (sound.put_ok here put).2
          · exact inductionHypothesis (sound.step here) later afterwards

/-! ## Agreement -/

/-- In every run of calls on the members of a connected cluster, with members
leaving at any point, two successful calls that brought schemas with the same id
to the cluster brought the same schema. -/
theorem successful_puts_agree (founded : cluster.Founded)
    {events : List Event} (within : ∀ event ∈ events, event.Within cluster.members.length)
    {index other : Nat} {first second firstAnswer secondAnswer : Schema}
    (firstPut : ⟨index, .put first, .schema (.ok firstAnswer)⟩ ∈ transcript events cluster)
    (secondPut : ⟨other, .put second, .schema (.ok secondAnswer)⟩ ∈ transcript events cluster)
    (sameId : first.id = second.id) : first = second := by
  have firstHeld := founded.sound.heldByMajority_of_put within firstPut
  have secondHeld := founded.sound.heldByMajority_of_put within secondPut
  exact firstHeld.eq_of_id_eq secondHeld sameId

theorem transcript_mesh :
    let ping := Schema.fieldless "Ping" (by decide)
    transcript [.request 0 (.put ping), .leave 2, .request 1 (.put ping)] (mesh 3) =
      [⟨0, .put ping, .schema (.ok ping)⟩, ⟨1, .put ping, .schema (.ok ping)⟩] := by
  intro ping
  have first : ((environment 0).put ping (mesh 3)).1.isOk = true := by decide +kernel
  have second : ((environment 1).put ping
      (((mesh 3).step (.request 0 (.put ping))).step (.leave 2))).1.isOk = true := by
    decide +kernel
  rw [transcript, Environment.handle_put_of_isOk first, transcript, transcript,
    Environment.handle_put_of_isOk second, transcript]

theorem successful_puts_agree_mesh :
    let ping := Schema.fieldless "Ping" (by decide)
    let events := [.request 0 (.put ping), .leave 2, .request 1 (.put ping)]
    (mesh 3).Founded ∧ (∀ event ∈ events, event.Within (mesh 3).members.length) ∧
      ⟨0, .put ping, .schema (.ok ping)⟩ ∈ transcript events (mesh 3) ∧
      ⟨1, .put ping, .schema (.ok ping)⟩ ∈ transcript events (mesh 3) ∧
      ping = ping := by
  intro ping events
  have within : ∀ event ∈ events, event.Within (mesh 3).members.length := by
    simp [events, Event.Within, mesh]
  have firstPut : ⟨0, .put ping, .schema (.ok ping)⟩ ∈ transcript events (mesh 3) := by
    rw [transcript_mesh]
    exact List.mem_cons_self
  have secondPut : ⟨1, .put ping, .schema (.ok ping)⟩ ∈ transcript events (mesh 3) := by
    rw [transcript_mesh]
    exact List.mem_cons_of_mem _ List.mem_cons_self
  exact ⟨mesh_founded 3, within, firstPut, secondPut,
    successful_puts_agree (mesh_founded 3) within firstPut secondPut rfl⟩

end Cluster

end CompactSchema
