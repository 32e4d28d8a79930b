import CompactSchema.Proofs.Cluster.Agreement

/-!
Contract: a schema that was brought to the cluster can be found by every member.

A member that misses a schema asks the other ones in turn and takes over the
first answer. A majority that holds the schema can not all have left while at
most half of the members are gone, so one of the members asked has an answer.

Owns: what a search among members comes to, where registered schemas come from,
and the success of `resolve` after a successful `put`.

Does not own: that answers for one id agree, see `Proofs.Cluster.Agreement`.
-/

set_option autoImplicit false

namespace CompactSchema

namespace Cluster

variable {cluster : Cluster}

/-! ## Searching among members -/

/-- What a member has under an id, if it can be reached. -/
def visible? (cluster : Cluster) (schemaId : Int64) (index : Nat) : Option Schema :=
  if (cluster.member index).live then (cluster.member index).service.registry.find? schemaId
  else none

theorem searchPeers_members (schemaId : Int64) {others : List Nat}
    (isOpen : ∀ other ∈ others, (cluster.member other).service.interrupted = false) :
    searchPeers schemaId (others.map .member) cluster =
      ({ delay := 0, result := .ok (others.findSome? (cluster.visible? schemaId)) }, cluster) := by
  induction others with
  | nil => rfl
  | cons other rest inductionHypothesis =>
      have later := inductionHypothesis fun index member =>
        isOpen index (List.mem_cons_of_mem other member)
      have answer : lookupAt schemaId (.member other) cluster =
          ({ delay := 0, result := .ok ((cluster.member other).service.registry.find? schemaId) },
            cluster) := by
        rw [lookupAt, Service.find_of_open (isOpen other List.mem_cons_self)]
      rw [List.map_cons, searchPeers, answer, List.findSome?_cons, visible?]
      by_cases present : (cluster.member other).live = true
      · rw [if_pos present, reaches, if_pos present]
        cases (cluster.member other).service.registry.find? schemaId with
        | some schema => rfl
        | none =>
            dsimp only
            rw [later]
            rfl
      · rw [if_neg present, reaches, if_neg present]
        exact later

theorem Sound.fetch_eq (sound : cluster.Sound) {index group : Nat} {others : List Nat}
    (linked : cluster.Linked index group others) (schemaId : Int64) :
    (environment index).fetch schemaId cluster =
      ({ delay := 0, result := .ok (others.findSome? (cluster.visible? schemaId)) }, cluster) := by
  show cluster.fetch schemaId (cluster.member index).replicator = _
  rw [linked.replicator, fetch, linked.peers]
  exact searchPeers_members schemaId fun other member =>
    sound.isOpen other (linked.lt_of_mem member)

/-- A schema that the search answers has the id, and one of the members has it. -/
theorem Linked.holds_of_findSome? {index group : Nat} {others : List Nat}
    (linked : cluster.Linked index group others) {schemaId : Int64} {schema : Schema}
    (found : others.findSome? (cluster.visible? schemaId) = some schema) :
    schema.id = schemaId ∧ ∃ source < cluster.members.length, cluster.Holds schema source := by
  obtain ⟨source, member, visible⟩ := List.exists_of_findSome?_eq_some found
  have inRange := linked.lt_of_mem member
  rw [visible?] at visible
  split at visible
  · have same := Registry.id_of_find? visible
    refine ⟨same, source, inRange, ?_⟩
    rw [Holds, same]
    exact visible
  · cases visible

/-! ## Resolving an id -/

/-- A member resolves an id that a member has which can be reached. -/
theorem Sound.resolve_ok (sound : cluster.Sound) {reader holder : Nat} {schemaId : Int64}
    {held : Schema} (readerInRange : reader < cluster.members.length)
    (holderInRange : holder < cluster.members.length)
    (present : (cluster.member holder).live = true)
    (registered : (cluster.member holder).service.registry.find? schemaId = some held) :
    ∃ found, (cluster.resolve reader schemaId).1 = .ok found ∧ found.id = schemaId ∧
      (cluster.resolve reader schemaId).2.Holds found reader ∧
      ∃ source < cluster.members.length, cluster.Holds found source := by
  have isOpen := sound.isOpen reader readerInRange
  have finds := Service.find_of_open isOpen schemaId
  rw [resolve]
  rcases (environment reader).resolve_cases schemaId cluster with
    ⟨error, failed, _⟩ | ⟨found, own, outcome⟩ | ⟨missing, outcome⟩
  · cases finds.symm.trans failed
  · have ownHeld : (cluster.member reader).service.registry.find? schemaId = some found :=
      Except.ok.inj (finds.symm.trans own)
    have same := Registry.id_of_find? ownHeld
    have holds : cluster.Holds found reader := by
      rw [Holds, same]
      exact ownHeld
    rw [outcome]
    exact ⟨found, rfl, same, holds, reader, readerInRange, holds⟩
  · have free : (cluster.member reader).service.registry.find? schemaId = none :=
      Except.ok.inj (finds.symm.trans missing)
    obtain ⟨group, others, linked⟩ := sound.connected reader readerInRange
    have asked : holder ∈ others := by
      rcases List.mem_cons.1 (linked.complete.symm.subset (List.mem_range.2 holderInRange)) with
        same | member
      · rw [← same, registered] at free
        cases free
      · exact member
    have answered : (others.findSome? (cluster.visible? schemaId)).isSome = true := by
      rw [List.findSome?_isSome_iff]
      refine ⟨holder, asked, ?_⟩
      rw [visible?, if_pos present, registered]
      rfl
    obtain ⟨found, hit⟩ := Option.isSome_iff_exists.1 answered
    obtain ⟨rfl, source⟩ := linked.holds_of_findSome? hit
    have fetched : ((environment reader).fetch found.id cluster).1.result = .ok (some found) := by
      rw [sound.fetch_eq linked, hit]
    obtain ⟨left, attempts⟩ := Nat.exists_eq_succ_of_ne_zero
      (Nat.pos_iff_ne_zero.1 (cluster.member reader).service.fetchAttempts_pos)
    have waited := asking_sameMembers ((environment reader).asking_answered found.id cluster)
    have accepted : (Service.register found
        (((environment reader).answered found.id cluster).member reader).service).result =
          .ok found := by
      rw [waited.member]
      apply Service.register_of_free isOpen
      intro existing taken
      cases free.symm.trans taken
    have resolved : (environment reader).resolve found.id cluster =
        (.ok found, (environment reader).note [.fetched found]
          ((environment reader).perform (Service.register found)
            ((environment reader).answered found.id cluster)).2) := by
      rw [outcome, show ((environment reader).service cluster).config.fetchAttempts.toNat =
        left + 1 from attempts, (environment reader).search_found fetched]
      exact (environment reader).adopt_of_registered rfl accepted
    have taken := register_holds (waited.1 ▸ readerInRange) accepted
    rw [resolved]
    exact ⟨found, rfl, rfl, taken, source⟩

/-! ## Where schemas come from -/

/-- Every registered schema is one of the given ones. -/
def DrawnFrom (cluster : Cluster) (given : Schema → Prop) : Prop :=
  ∀ index < cluster.members.length, ∀ schema, cluster.Holds schema index → given schema

theorem Founded.drawnFrom (founded : cluster.Founded) (given : Schema → Prop) :
    cluster.DrawnFrom given := by
  intro index inRange schema held
  obtain ⟨_, created⟩ := founded.created index inRange
  rw [Holds, (Service.create_ok created).2.1] at held
  cases held

/-- Only what some member has is answered to a request. -/
theorem Sound.holds_of_answers (sound : cluster.Sound) {index : Nat}
    (inRange : index < cluster.members.length) {schemaId : Int64} {schema : Schema}
    (answers : (environment index).Answers schemaId cluster schema) :
    ∃ source < cluster.members.length, cluster.Holds schema source := by
  obtain ⟨asked, asking, found⟩ := answers
  have same := asking_sameMembers asking
  have unmarked : cluster.GrowsBy (fun _ => False) (fun _ _ => False) asked := .of_same same
  have askedSound := unmarked.sound sound fun _ _ _ impossible => impossible.elim
  obtain ⟨group, others, linked⟩ := sound.connected index inRange
  have stillLinked := unmarked.linked linked
  rw [askedSound.fetch_eq stillLinked] at found
  obtain ⟨_, source, sourceInRange, held⟩ :=
    stillLinked.holds_of_findSome? (Except.ok.inj found)
  refine ⟨source, same.1 ▸ sourceInRange, ?_⟩
  rw [Holds, ← same.member]
  exact held

theorem DrawnFrom.step {given : Schema → Prop} (drawn : cluster.DrawnFrom given)
    (sound : cluster.Sound) {event : Event} (within : event.Within cluster.members.length)
    (allowed : ∀ schema ∈ event.given, given schema) : (cluster.step event).DrawnFrom given := by
  intro index inRange schema held
  rw [(step_growsBy event cluster).size] at inRange
  cases event with
  | leave left =>
      have grows : cluster.GrowsBy (fun _ => False) (fun _ _ => False)
          (cluster.removeMember left) := removeMember_growsBy cluster left
      rcases (grows.service index).registry.origin held with before | ⟨impossible, _⟩
      · exact drawn index inRange schema before
      · exact impossible.elim
  | request asked call =>
      have grows := (growth asked).handle call cluster
      rcases (grows.service index).registry.origin held with
        before | ⟨handed | ⟨_, answers⟩, _⟩
      · exact drawn index inRange schema before
      · exact allowed schema handed
      · obtain ⟨source, sourceInRange, sourceHeld⟩ := sound.holds_of_answers within answers
        exact drawn source sourceInRange schema sourceHeld

/-- Nothing is registered in a run that was not handed to some member. -/
theorem DrawnFrom.run {given : Schema → Prop} (drawn : cluster.DrawnFrom given)
    (sound : cluster.Sound) {events : List Event}
    (within : ∀ event ∈ events, event.Within cluster.members.length)
    (allowed : ∀ event ∈ events, ∀ schema ∈ event.given, given schema) :
    (cluster.run events).DrawnFrom given := by
  induction events generalizing cluster with
  | nil => exact drawn
  | cons event rest inductionHypothesis =>
      obtain ⟨here, later⟩ := within_step within
      obtain ⟨handed, others⟩ := List.forall_mem_cons.1 allowed
      exact inductionHypothesis (drawn.step sound here handed) (sound.step here) later others

/-! ## Availability -/

/-- The members that have left. -/
def absent (cluster : Cluster) : Finset Nat :=
  (Finset.range cluster.members.length).filter fun index => (cluster.member index).live = false

/-- A majority does not leave if at most half of the members do. -/
theorem HeldByMajority.exists_present {schema : Schema} (held : cluster.HeldByMajority schema)
    (few : cluster.absent.card ≤ cluster.members.length / 2) :
    ∃ holder < cluster.members.length, cluster.Holds schema holder ∧
      (cluster.member holder).live = true := by
  have fewer : cluster.absent.card < (cluster.holders schema).card := by
    rw [HeldByMajority, majority] at held
    omega
  obtain ⟨holder, member, present⟩ := Finset.exists_mem_notMem_of_card_lt_card fewer
  obtain ⟨inRange, holds⟩ := mem_holders.1 member
  refine ⟨holder, inRange, holds, ?_⟩
  rw [absent, Finset.mem_filter, Finset.mem_range] at present
  by_contra gone
  exact present ⟨inRange, Bool.eq_false_iff.2 gone⟩

/-- Once a schema was brought to a connected cluster, a majority of the members
holds it ever after. While at most half of the members have left, every member
resolves its id and has the schema that it answers registered; it is the one
brought to the cluster if no other one with its id was handed to any member. -/
theorem put_then_resolve (founded : cluster.Founded) {events : List Event}
    (within : ∀ event ∈ events, event.Within cluster.members.length) {index : Nat}
    {schema answer : Schema}
    (succeeded : ⟨index, .put schema, .schema (.ok answer)⟩ ∈ transcript events cluster) :
    let size := cluster.members.length
    let reached := cluster.run events
    (size / 2 + 1 ≤ (reached.holders schema).card ∧
      ∀ holder ∈ reached.holders schema, reached.Holds schema holder) ∧
    (reached.absent.card ≤ size / 2 → ∀ reader < size, ∃ found,
      (reached.resolve reader schema.id).1 = .ok found ∧ found.id = schema.id ∧
      (reached.resolve reader schema.id).2.Holds found reader ∧
      ((∀ event ∈ events, ∀ other ∈ event.given, other.id = schema.id → other = schema) →
        found = schema)) := by
  intro size reached
  have sameSize : reached.members.length = size := (run_growsBy events cluster).size
  have sound : reached.Sound := founded.sound.run within
  have held : reached.HeldByMajority schema := founded.sound.heldByMajority_of_put within succeeded
  refine ⟨⟨?_, fun holder member => (mem_holders.1 member).2⟩, ?_⟩
  · rw [← sameSize]
    exact held
  · intro few reader inRange
    rw [← sameSize] at few inRange
    obtain ⟨holder, holderInRange, holds, present⟩ := held.exists_present few
    obtain ⟨found, resolved, same, taken, source, sourceInRange, sourceHeld⟩ :=
      sound.resolve_ok inRange holderInRange present holds
    refine ⟨found, resolved, same, taken, fun unique => ?_⟩
    have drawn : reached.DrawnFrom fun other => other.id = schema.id → other = schema :=
      (founded.drawnFrom _).run founded.sound within unique
    exact drawn source sourceInRange found sourceHeld same

theorem put_then_resolve_mesh :
    let ping := Schema.fieldless "Ping" (by decide)
    let events := [.request 0 (.put ping), .leave 2, .request 1 (.put ping)]
    let reached := (mesh 3).run events
    (mesh 3).Founded ∧ (∀ event ∈ events, event.Within (mesh 3).members.length) ∧
      ⟨1, .put ping, .schema (.ok ping)⟩ ∈ transcript events (mesh 3) ∧
      2 ≤ (reached.holders ping).card ∧ reached.absent.card = 1 ∧
      ∃ found, (reached.resolve 1 ping.id).1 = .ok found ∧ found.id = ping.id ∧
        (reached.resolve 1 ping.id).2.Holds found 1 ∧ found = ping := by
  intro ping events reached
  have within : ∀ event ∈ events, event.Within (mesh 3).members.length := by
    simp [events, Event.Within, mesh]
  have succeeded : ⟨1, .put ping, .schema (.ok ping)⟩ ∈ transcript events (mesh 3) := by
    rw [transcript_mesh]
    exact List.mem_cons_of_mem _ List.mem_cons_self
  have unique : ∀ event ∈ events, ∀ other ∈ event.given, other.id = ping.id → other = ping := by
    simp [events, Event.given, Call.given]
  have oneLeft : reached.absent.card = 1 := by decide +kernel
  obtain ⟨⟨held, _⟩, resolves⟩ := put_then_resolve (mesh_founded 3) within succeeded
  obtain ⟨found, resolved, same, taken, genuine⟩ :=
    resolves (oneLeft.trans_le (by decide)) 1 (by decide)
  exact ⟨mesh_founded 3, within, succeeded, held, oneLeft,
    found, resolved, same, taken, genuine unique⟩

end Cluster

end CompactSchema
