import CompactSchema.Proofs.Cluster.Agreement

/-!
Contract: what a successful `put` says about a group that members still join.

A mark is a decision against the peers that were listed when it was made. Peers
that join later need not hold the schema, and the member does not ask them for an
id that it has marked. So the majority behind a successful call is one of the list
at the time of the mark. It is one of the present list if enough of the peers that
joined since hold the schema, and otherwise the call succeeds without it.

Owns: clusters whose groups grow, the call that marked an id, and the exact
condition for a majority of the present list.

Does not own: clusters with settled groups, see `Proofs.Cluster.Agreement`.
-/

set_option autoImplicit false

namespace CompactSchema

namespace Cluster

variable {cluster : Cluster} {index group : Nat}

/-! ## Growing groups -/

/-- What can happen to a cluster whose members stay. -/
inductive Change where
  | request (index : Nat) (call : Call)
  | join (group index : Nat)

def change : Change → Cluster → Cluster
  | .request index call, cluster => ((environment index).handle call cluster).2
  | .join group index, cluster => cluster.addPeer group (.member index)

/-- The cluster after changes in their order. -/
def evolve : List Change → Cluster → Cluster
  | [], cluster => cluster
  | next :: rest, cluster => evolve rest (cluster.change next)

theorem evolve_append (before after : List Change) (cluster : Cluster) :
    cluster.evolve (before ++ after) = (cluster.evolve before).evolve after := by
  induction before generalizing cluster with
  | nil => rfl
  | cons next rest inductionHypothesis => exact inductionHypothesis (cluster.change next)

/-- A member seeks a majority of members. -/
structure Gathers (cluster : Cluster) (index group : Nat) : Prop where
  replicator : (cluster.member index).replicator = .majority group
  members : ∀ peer ∈ cluster.peers group, ∃ other, peer = .member other

/-- The later cluster has the same members; peers may have joined, and nothing
that was held is lost. -/
structure Expands (earlier later : Cluster) : Prop where
  replicator : ∀ index, (later.member index).replicator = (earlier.member index).replicator
  peers : ∀ group, earlier.peers group <+: later.peers group
  backs : ∀ {schema peer}, earlier.Backs schema peer → later.Backs schema peer

theorem countP_backs_le {earlier later : Cluster} {schema : Schema}
    (keeps : ∀ {peer}, earlier.Backs schema peer → later.Backs schema peer) (peers : List Peer) :
    (peers.countP fun peer => earlier.Backs schema peer) ≤
      peers.countP fun peer => later.Backs schema peer := by
  apply List.countP_mono_left
  intro peer _ backed
  exact decide_eq_true (keeps (of_decide_eq_true backed))

namespace Expands

variable {earlier later latest : Cluster}

theorem refl (cluster : Cluster) : cluster.Expands cluster :=
  ⟨fun _ => rfl, fun _ => List.prefix_rfl, id⟩

theorem trans (first : earlier.Expands later) (second : later.Expands latest) :
    earlier.Expands latest where
  replicator := fun index => (second.replicator index).trans (first.replicator index)
  peers := fun group => (first.peers group).trans (second.peers group)
  backs := fun backed => second.backs (first.backs backed)

theorem holds (expands : earlier.Expands later) {schema : Schema} {index : Nat}
    (held : earlier.Holds schema index) : later.Holds schema index :=
  @Expands.backs earlier later expands schema (.member index) held

theorem of_growsBy {offered : Schema → Prop} {marked : Nat → Int64 → Prop}
    (grows : earlier.GrowsBy offered marked later) : earlier.Expands later where
  replicator := grows.replicator
  peers := by
    intro group
    rw [grows.peers]
  backs := grows.backs

end Expands

theorem peers_addPeer (group other : Nat) (peer : Peer) (cluster : Cluster) :
    (cluster.addPeer group peer).peers other =
      if group = other ∧ group < cluster.groups.length then cluster.peers other ++ [peer]
      else cluster.peers other :=
  getD_modify cluster.groups group other (· ++ [peer]) []

theorem addPeer_expands (group : Nat) (peer : Peer) (cluster : Cluster) :
    cluster.Expands (cluster.addPeer group peer) where
  replicator := fun _ => rfl
  peers := by
    intro other
    rw [peers_addPeer]
    split
    · exact List.prefix_append _ _
    · exact List.prefix_rfl
  backs := id

theorem change_expands (next : Change) (cluster : Cluster) :
    cluster.Expands (cluster.change next) := by
  cases next with
  | request index call => exact .of_growsBy ((growth index).handle call cluster)
  | join group index => exact addPeer_expands group (.member index) cluster

theorem evolve_expands (changes : List Change) (cluster : Cluster) :
    cluster.Expands (cluster.evolve changes) := by
  induction changes generalizing cluster with
  | nil => exact .refl cluster
  | cons next rest inductionHypothesis =>
      exact (change_expands next cluster).trans (inductionHypothesis (cluster.change next))

theorem Gathers.change (gathers : cluster.Gathers index group) (next : Change) :
    (cluster.change next).Gathers index group where
  replicator := ((change_expands next cluster).replicator index).trans gathers.replicator
  members := by
    intro peer listed
    cases next with
    | request asked call =>
        have grows := (growth asked).handle call cluster
        rw [Cluster.change, grows.peers] at listed
        exact gathers.members peer listed
    | join joined other =>
        rw [Cluster.change, peers_addPeer] at listed
        split at listed
        · rcases List.mem_append.1 listed with before | new
          · exact gathers.members peer before
          · exact ⟨other, List.mem_singleton.1 new⟩
        · exact gathers.members peer listed

theorem Gathers.evolve (gathers : cluster.Gathers index group) (changes : List Change) :
    (cluster.evolve changes).Gathers index group := by
  induction changes generalizing cluster with
  | nil => exact gathers
  | cons next rest inductionHypothesis => exact inductionHypothesis (gathers.change next)

theorem Gathers.lt_length (gathers : cluster.Gathers index group) :
    index < cluster.members.length := by
  apply lt_of_taken
  intro vacant
  have replicator := gathers.replicator
  rw [vacant] at replicator
  cases replicator

/-! ## The call that marked an id -/

theorem change_newMark {schemaId : Int64} {next : Change}
    (unmarked : (cluster.member index).service.isReplicated schemaId = false)
    (marked : ((cluster.change next).member index).service.isReplicated schemaId = true) :
    ∃ schema, next = .request index (.put schema) ∧ schema.id = schemaId ∧
      ((environment index).put schema cluster).1 = .ok schema := by
  cases next with
  | join _ _ => cases unmarked.symm.trans marked
  | request asked call =>
      have grows := (growth asked).handle call cluster
      rcases (grows.service index).newMark marked with
        before | ⟨rfl, schema, rfl, sameId, succeeded⟩
      · cases unmarked.symm.trans before
      · exact ⟨schema, rfl, sameId, succeeded⟩

theorem marked_since {schemaId : Int64} {changes : List Change}
    (unmarked : (cluster.member index).service.isReplicated schemaId = false)
    (marked : ((cluster.evolve changes).member index).service.isReplicated schemaId = true) :
    ∃ before schema after, changes = before ++ .request index (.put schema) :: after ∧
      schema.id = schemaId ∧
      ((cluster.evolve before).member index).service.isReplicated schemaId = false ∧
      ((environment index).put schema (cluster.evolve before)).1 = .ok schema := by
  induction changes generalizing cluster with
  | nil => cases unmarked.symm.trans marked
  | cons next rest inductionHypothesis =>
      cases now : ((cluster.change next).member index).service.isReplicated schemaId with
      | true =>
          obtain ⟨schema, rfl, sameId, succeeded⟩ := change_newMark unmarked now
          exact ⟨[], schema, rest, rfl, sameId, unmarked, succeeded⟩
      | false =>
          obtain ⟨before, schema, after, rfl, found⟩ := inductionHypothesis now marked
          exact ⟨next :: before, schema, after, rfl, found⟩

/-! ## The majority behind a call -/

/-- How many entries on the list of a group hold a schema. -/
def backers (cluster : Cluster) (group : Nat) (schema : Schema) : Nat :=
  (cluster.peers group).countP fun peer => cluster.Backs schema peer

/-- Without a mark, a call succeeds only with a majority of the list. -/
theorem Gathers.put_ok_of_unmarked (gathers : cluster.Gathers index group)
    {schema answer : Schema}
    (unmarked : (cluster.member index).service.isReplicated schema.id = false)
    (succeeded : ((environment index).put schema cluster).1 = .ok answer) :
    majority (cluster.groupSize group) ≤ ((cluster.peers group).countP fun peer =>
      ((environment index).put schema cluster).2.Backs schema peer) + 1 := by
  have registered := register_growsBy index schema cluster
  rcases (environment index).put_cases schema cluster with
    ⟨_, _, outcome⟩ | ⟨_, mark, _⟩ | ⟨_, _, outcome⟩
  · rw [outcome] at succeeded
    cases succeeded
  · rcases (registered.service index).newMark mark with before | impossible
    · cases unmarked.symm.trans before
    · exact impossible.elim
  · rw [outcome] at succeeded ⊢
    have replicator := (registered.replicator index).trans gathers.replicator
    have members := gathers.members
    rw [← registered.peers] at members
    have quorum := replicate_ok replicator members (Environment.publish_ok succeeded).2
    rw [groupSize, registered.peers] at quorum
    have published : ((environment index).replicate schema _).2.GrowsBy (· = schema) _ _ :=
      (growth index).published schema
        ((environment index).perform (Service.register schema) cluster).2
    exact quorum.trans (Nat.add_le_add_right (countP_backs_le published.backs _) 1)

/-- With a mark, no one is asked and no one takes anything in. -/
theorem service_put_of_marked {schema : Schema}
    (marked : (cluster.member index).service.isReplicated schema.id = true)
    (held : cluster.Holds schema index) (other : Nat) :
    ((((environment index).put schema cluster).2).member other).service =
      (cluster.member other).service := by
  have unchanged : ((((environment index).perform (Service.register schema) cluster).2).member
      other).service = (cluster.member other).service := by
    show ((cluster.setService index _).member other).service = _
    rw [setService, member_modify]
    split
    · rename_i hit
      rw [← hit.1]
      exact Service.register_of_held held
    · rfl
  have stillMarked := ((register_growsBy index schema cluster).service index).keepsMark marked
  rcases (environment index).put_cases schema cluster with
    ⟨_, _, outcome⟩ | ⟨_, _, outcome⟩ | ⟨_, unmarked, _⟩
  · rw [outcome]
    exact unchanged
  · rw [outcome]
    exact unchanged
  · cases stillMarked.symm.trans unmarked

theorem backers_put_of_marked {schema : Schema}
    (marked : (cluster.member index).service.isReplicated schema.id = true)
    (held : cluster.Holds schema index) :
    ((environment index).put schema cluster).2.backers group schema =
      cluster.backers group schema := by
  have listed := ((growth index).put schema cluster).peers group
  rw [backers, backers, listed]
  apply List.countP_congr
  intro peer _
  cases peer with
  | endpoint _ => rfl
  | member other =>
      rw [decide_eq_true_iff, decide_eq_true_iff, Backs, Backs, Holds, Holds,
        service_put_of_marked marked held]

/-- A list with a majority keeps it if at least half of those that join count. -/
theorem majority_append {α : Type} (counts : α → Bool) {listed joined : List α}
    (enough : majority (listed.length + 1) ≤ listed.countP counts + 1)
    (half : joined.length ≤ 2 * joined.countP counts) :
    majority ((listed ++ joined).length + 1) ≤ (listed ++ joined).countP counts + 1 := by
  rw [majority] at enough ⊢
  rw [List.length_append, List.countP_append]
  omega

/-- An earlier call that marked the schema with a majority of the list of its time;
the rest of the list joined since. -/
structure Precedent (cluster : Cluster) (index group : Nat) (schema : Schema)
    (changes before : List Change) (joined : List Peer) : Prop where
  split : ∃ after, changes = before ++ .request index (.put schema) :: after
  unmarked : ((cluster.evolve before).member index).service.isReplicated schema.id = false
  succeeded : ((cluster.evolve before).put index schema).1 = .ok schema
  peers : (cluster.evolve changes).peers group = (cluster.evolve before).peers group ++ joined
  quorum : majority ((cluster.evolve before).groupSize group) ≤
    (((cluster.evolve before).peers group).countP fun peer =>
      (cluster.evolve changes).Backs schema peer) + 1

/-- Behind a mark there is a call for the schema that the member still has under
the id. -/
theorem Gathers.precedent (gathers : cluster.Gathers index group)
    (unmarked : ∀ schemaId, (cluster.member index).service.isReplicated schemaId = false)
    {changes : List Change} {schema : Schema}
    (marked : ((cluster.evolve changes).member index).service.isReplicated schema.id = true)
    (free : ∀ existing, (cluster.evolve changes).Holds existing index →
      existing.id = schema.id → existing = schema) :
    (cluster.evolve changes).Holds schema index ∧
      ∃ before joined, cluster.Precedent index group schema changes before joined := by
  obtain ⟨before, first, after, rfl, sameId, fresh, succeeded⟩ :=
    marked_since (unmarked schema.id) marked
  have gathersThen := gathers.evolve before
  have later : ((cluster.evolve before).put index first).2.Expands
      (cluster.evolve (before ++ .request index (.put first) :: after)) := by
    rw [evolve_append]
    exact evolve_expands after _
  have held := later.holds (put_holds gathersThen.lt_length (Environment.put_ok succeeded).2)
  -- The schema of the earlier call stayed, so it is the one that is registered now.
  obtain rfl := free first held sameId
  have grows := (growth index).put first (cluster.evolve before)
  have quorum := gathersThen.put_ok_of_unmarked fresh succeeded
  obtain ⟨joined, listed⟩ := later.peers group
  refine ⟨held, before, joined, ⟨after, rfl⟩, fresh, succeeded, ?_, ?_⟩
  · rw [← listed]
    exact congrArg (· ++ joined) (grows.peers group)
  · exact quorum.trans (Nat.add_le_add_right (countP_backs_le later.backs _) 1)

/-- What a successful call says about the list at its time, for a member that had
no marks before the changes. There is a majority for the present list if the id
was not marked, and otherwise just if there was one before the call, which then
asks no one. Behind a mark there is an earlier successful call for the schema and
a majority of the list at that time; it is one of the present list if at least half
of the peers that joined since hold the schema. -/
theorem put_ok_while_joining (gathers : cluster.Gathers index group)
    (unmarked : ∀ schemaId, (cluster.member index).service.isReplicated schemaId = false)
    {changes : List Change} {schema answer : Schema}
    (succeeded : ((cluster.evolve changes).put index schema).1 = .ok answer) :
    let reached := cluster.evolve changes
    let called := (reached.put index schema).2
    let marked := (reached.member index).service.isReplicated schema.id = true
    let backed := majority (called.groupSize group) ≤ called.backers group schema + 1
    (backed ↔ ¬ marked ∨ majority (reached.groupSize group) ≤ reached.backers group schema + 1) ∧
    (marked →
      (∀ other, (called.member other).service = (reached.member other).service) ∧
      ∃ before joined, cluster.Precedent index group schema changes before joined ∧
        (joined.length ≤ 2 * (joined.countP fun peer => reached.Backs schema peer) →
          backed)) := by
  intro reached called marked backed
  have gathersThen : reached.Gathers index group := gathers.evolve changes
  have accepted := (Environment.put_ok succeeded).2
  have sameList : called.peers group = reached.peers group :=
    ((growth index).put schema reached).peers group
  have sameSize : called.groupSize group = reached.groupSize group := by
    rw [groupSize, groupSize, sameList]
  by_cases mark : marked
  -- The fast path: the registration has found the schema that the mark is about.
  · have free : ∀ existing, reached.Holds existing index → existing.id = schema.id →
        existing = schema := by
      intro existing held sameId
      have heldThen := (register_growsBy index schema reached).holds held
      rw [Holds, sameId, register_holds gathersThen.lt_length accepted] at heldThen
      exact (Option.some.inj heldThen).symm
    obtain ⟨held, before, joined, precedent⟩ := gathers.precedent unmarked mark free
    have sameBackers : called.backers group schema = reached.backers group schema :=
      backers_put_of_marked mark held
    have present : backed ↔
        majority (reached.groupSize group) ≤ reached.backers group schema + 1 := by
      simp only [backed, sameSize, sameBackers]
    refine ⟨present.trans (by simp [mark]), fun _ => ⟨service_put_of_marked mark held, before,
      joined, precedent, fun half => present.2 ?_⟩⟩
    rw [groupSize, backers, precedent.peers]
    exact majority_append _ precedent.quorum half
  · have fresh : (reached.member index).service.isReplicated schema.id = false :=
      Bool.eq_false_iff.2 mark
    have quorum := gathersThen.put_ok_of_unmarked fresh succeeded
    have now : backed := by
      simp only [backed, sameSize, backers, sameList]
      exact quorum
    exact ⟨iff_of_true now (.inl mark), fun impossible => absurd impossible mark⟩

/-- Two members, of which only the first replicates; the second has not joined. -/
def twoMembers : Cluster where
  members := [{ service := .standard, replicator := .majority 0 }, { service := .standard }]
  groups := [[]]

theorem put_ok_while_joining_twoMembers :
    let ping := Schema.fieldless "Ping" (by decide)
    let changes := [.request 0 (.put ping), .join 0 1]
    let called := (twoMembers.evolve changes).put 0 ping
    twoMembers.Gathers 0 0 ∧
      (∀ schemaId, (twoMembers.member 0).service.isReplicated schemaId = false) ∧
      called.1 = .ok ping ∧ called.2.groupSize 0 = 2 ∧
      ¬ majority (called.2.groupSize 0) ≤ called.2.backers 0 ping + 1 ∧
      ∃ before joined, twoMembers.Precedent 0 0 ping changes before joined := by
  intro ping changes called
  have gathers : twoMembers.Gathers 0 0 := ⟨rfl, fun _ listed => absurd listed List.not_mem_nil⟩
  have unmarked : ∀ schemaId, (twoMembers.member 0).service.isReplicated schemaId = false :=
    fun _ => rfl
  have facts : called.1.isOk = true ∧ called.2.groupSize 0 = 2 ∧
      ((twoMembers.evolve changes).member 0).service.isReplicated ping.id = true ∧
      ¬ majority ((twoMembers.evolve changes).groupSize 0) ≤
        (twoMembers.evolve changes).backers 0 ping + 1 := by decide +kernel
  obtain ⟨isOk, size, marked, few⟩ := facts
  have succeeded : called.1 = .ok ping := Environment.put_of_isOk isOk
  obtain ⟨condition, backing⟩ := put_ok_while_joining gathers unmarked succeeded
  have lost : ¬ majority (called.2.groupSize 0) ≤ called.2.backers 0 ping + 1 := by
    intro backed
    rcases condition.1 backed with fresh | before
    · exact fresh marked
    · exact few before
  obtain ⟨_, before, joined, precedent, _⟩ := backing marked
  exact ⟨gathers, unmarked, succeeded, size, lost, before, joined, precedent⟩

end Cluster

end CompactSchema
