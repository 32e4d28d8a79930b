import CompactSchema.Proofs.Cluster.Agreement

/-!
Contract: when a majority of prompt peers is enough to bring a schema to the
cluster.

The answers of all peers are awaited together, within one time limit. A majority
that accepts in time therefore decides the outcome only if no other peer is
slower than the limit. One slow peer makes the call fail, however many accept.

Owns: the marks and the exact outcome of `put` for a member of a group.

Does not own: who holds the schema then, see `Proofs.Cluster.Agreement`.
-/

set_option autoImplicit false

namespace CompactSchema

namespace Cluster

variable {cluster : Cluster} {index group : Nat}

/-! ## Waiting for all answers -/

theorem foldl_max_le_iff (delays : List Nat) (start limit : Nat) :
    delays.foldl max start ≤ limit ↔ start ≤ limit ∧ ∀ delay ∈ delays, delay ≤ limit := by
  induction delays generalizing start with
  | nil => simp
  | cons delay rest inductionHypothesis =>
      rw [List.foldl_cons, inductionHypothesis, Nat.max_le, List.forall_mem_cons, and_assoc]

theorem slowest_le_iff (responses : List (Response Unit)) (limit : Nat) :
    slowest responses ≤ limit ↔ ∀ response ∈ responses, response.delay ≤ limit := by
  rw [slowest, foldl_max_le_iff]
  simp

/-! ## Marks -/

theorem publish_marks (inRange : index < cluster.members.length) {schema answer : Schema}
    (succeeded : ((environment index).publish schema cluster).1 = .ok answer) :
    (((environment index).publish schema cluster).2.member index).service.isReplicated schema.id =
      true := by
  have grows : cluster.GrowsBy (· = schema) (fun _ _ => False)
      ((environment index).replicate schema cluster).2 := replicate_growsBy schema _ cluster
  rcases (environment index).publish_cases schema cluster with
    ⟨_, _, outcome⟩ | ⟨_, _, _, outcome⟩ | ⟨_, outcome⟩ <;> rw [outcome] at succeeded ⊢
  · rw [← grows.size] at inRange
    have marked := (Service.isReplicated_markReplicated schema.id schema.id
      (((environment index).replicate schema cluster).2.member index).service).2 (.inl rfl)
    rw [← member_setService_self inRange (Service.markReplicated schema.id _)] at marked
    exact marked
  · cases succeeded
  · cases succeeded

/-- A call that brings a schema to the cluster marks its id, and a call that does
not leaves the mark as it was. -/
theorem put_marks_iff (inRange : index < cluster.members.length) (schema : Schema) :
    ((cluster.put index schema).2.member index).service.isReplicated schema.id = true ↔
      (cluster.member index).service.isReplicated schema.id = true ∨
        (cluster.put index schema).1 = .ok schema := by
  have grows := (growth index).put schema cluster
  have registered := register_growsBy index schema cluster
  constructor
  · intro mark
    rcases (grows.service index).newMark mark with before | ⟨_, _, succeeded⟩
    · exact .inl before
    · exact .inr succeeded
  · rintro (before | succeeded)
    · exact (grows.service index).keepsMark before
    · rw [put] at succeeded ⊢
      rcases (environment index).put_cases schema cluster with
        ⟨_, _, outcome⟩ | ⟨_, mark, outcome⟩ | ⟨_, _, outcome⟩ <;> rw [outcome] at succeeded ⊢
      · cases succeeded
      · exact mark
      · exact publish_marks (registered.size.symm ▸ inRange) succeeded

/-! ## The outcome of a call -/

/-- The answers of the peers of a group to a member that has registered a schema. -/
def responses (cluster : Cluster) (index group : Nat) (schema : Schema) : List (Response Unit) :=
  (offerAll schema (cluster.peers group)
    ((environment index).perform (Service.register schema) cluster).2).1

/-- How long a member waits for its replicator. -/
def limit (cluster : Cluster) (index : Nat) : Nat :=
  (cluster.member index).service.config.replicationTimeout.toNat

/-- The outcome for a member that has registered the schema and not marked it. -/
theorem publish_cases_majority (replicator : (cluster.member index).replicator = .majority group)
    (schema : Schema) :
    let answers := (offerAll schema (cluster.peers group) cluster).1
    let outcome := ((environment index).publish schema cluster).1
    ((∀ answer ∈ answers, answer.delay ≤ cluster.limit index) ∧
      majority (answers.length + 1) ≤ accepted answers + 1 ∧ outcome = .ok schema) ∨
    ((∀ answer ∈ answers, answer.delay ≤ cluster.limit index) ∧
      ¬ majority (answers.length + 1) ≤ accepted answers + 1 ∧ outcome ≠ .ok schema) ∨
    ((¬ ∀ answer ∈ answers, answer.delay ≤ cluster.limit index) ∧
      outcome = .error (.replicationTimedOut schema.id (cluster.limit index))) := by
  intro answers outcome
  have asked := replicate_of_majority replicator schema
  have delay : ((environment index).replicate schema cluster).1.delay = slowest answers := by
    rw [asked]
    rfl
  have verdict : ((environment index).replicate schema cluster).1.result = .ok () ↔
      majority (answers.length + 1) ≤ accepted answers + 1 := by
    rw [asked]
    exact tally_ok
  rw [← slowest_le_iff, ← verdict, ← delay]
  rcases (environment index).publish_cases schema cluster with
    ⟨inTime, succeeded, published⟩ | ⟨inTime, error, failed, published⟩ | ⟨late, published⟩
  · exact .inl ⟨inTime, succeeded, congrArg Prod.fst published⟩
  · refine .inr (.inl ⟨inTime, ?_, ?_⟩)
    · intro succeeded
      cases failed.symm.trans succeeded
    · intro succeeded
      cases (congrArg Prod.fst published).symm.trans succeeded
  · exact .inr (.inr ⟨Nat.not_le_of_lt late, congrArg Prod.fst published⟩)

/-- A schema that can be registered is brought to the cluster if it was before, or
if all peers answer in time and enough of them accept. -/
theorem put_ok_iff (replicator : (cluster.member index).replicator = .majority group)
    (isOpen : (cluster.member index).service.interrupted = false) {schema : Schema}
    (free : ∀ existing, (cluster.member index).service.registry.find? schema.id = some existing →
      existing = schema) :
    let answers := cluster.responses index group schema
    ((cluster.put index schema).1 = .ok schema ↔
      (cluster.member index).service.isReplicated schema.id = true ∨
        ((∀ answer ∈ answers, answer.delay ≤ cluster.limit index) ∧
          majority (answers.length + 1) ≤ accepted answers + 1)) ∧
    ((cluster.put index schema).1 ≠ .ok schema →
      majority (answers.length + 1) ≤ accepted answers + 1 →
      (cluster.put index schema).1 =
        .error (.replicationTimedOut schema.id (cluster.limit index))) := by
  intro answers
  have accepts := Service.register_of_free isOpen free
  have registered := register_growsBy index schema cluster
  have marks : ((((environment index).perform (Service.register schema) cluster).2.member
      index).service.isReplicated schema.id = true ↔
        (cluster.member index).service.isReplicated schema.id = true) :=
    ⟨fun mark => ((registered.service index).newMark mark).resolve_right id,
      fun mark => (registered.service index).keepsMark mark⟩
  have sameLimit : limit ((environment index).perform (Service.register schema) cluster).2 index =
      cluster.limit index := by
    rw [limit, limit, (registered.service index).config]
  have published := publish_cases_majority
    ((registered.replicator index).trans replicator) schema
  rw [registered.peers, sameLimit] at published
  rw [put]
  rcases (environment index).put_cases schema cluster with
    ⟨_, refused, _⟩ | ⟨_, mark, outcome⟩ | ⟨_, mark, outcome⟩
  · rw [Environment.perform_result] at refused
    cases accepts.symm.trans refused
  · have before := marks.1 mark
    simp [outcome, before]
  · have unmarked : ¬ (cluster.member index).service.isReplicated schema.id = true := by
      intro before
      exact Bool.false_ne_true (mark.symm.trans (marks.2 before))
    rw [outcome]
    rcases published with ⟨inTime, enough, succeeded⟩ | ⟨inTime, few, failed⟩ | ⟨late, failed⟩
    · exact ⟨iff_of_true succeeded (.inr ⟨inTime, enough⟩), fun fails => absurd succeeded fails⟩
    · refine ⟨iff_of_false failed ?_, fun _ enough => absurd enough few⟩
      rintro (before | ⟨_, enough⟩)
      · exact unmarked before
      · exact few enough
    · refine ⟨iff_of_false ?_ ?_, fun _ _ => failed⟩
      · intro succeeded
        cases failed.symm.trans succeeded
      · rintro (before | ⟨inTime, _⟩)
        · exact unmarked before
        · exact late inTime

/-- For a schema that can be registered, when the peers that accept before the
limit make a majority with the member: the call succeeds and marks the schema
exactly if the schema was marked before or no peer at all is slower than the limit. One
peer that is slower makes it fail with a timeout, and the schema stays registered. -/
theorem put_ok_iff_no_peer_late (inRange : index < cluster.members.length)
    (replicator : (cluster.member index).replicator = .majority group)
    (isOpen : (cluster.member index).service.interrupted = false) {schema : Schema}
    (free : ∀ existing, (cluster.member index).service.registry.find? schema.id = some existing →
      existing = schema)
    (prompt : majority ((cluster.responses index group schema).length + 1) ≤
      ((cluster.responses index group schema).countP fun answer =>
        answer.result.isOk && decide (answer.delay < cluster.limit index)) + 1) :
    let marked := (cluster.member index).service.isReplicated schema.id = true
    let inTime := ∀ answer ∈ cluster.responses index group schema,
      answer.delay ≤ cluster.limit index
    let called := cluster.put index schema
    (called.1 = .ok schema ↔ marked ∨ inTime) ∧
    ((called.2.member index).service.isReplicated schema.id = true ↔ marked ∨ inTime) ∧
    (called.1 ≠ .ok schema →
      called.1 = .error (.replicationTimedOut schema.id (cluster.limit index)) ∧
        called.2.Holds schema index) := by
  intro marked inTime called
  have enough : majority ((cluster.responses index group schema).length + 1) ≤
      accepted (cluster.responses index group schema) + 1 := by
    apply prompt.trans
    apply Nat.add_le_add_right
    apply List.countP_mono_left
    intro answer _ acceptedInTime
    exact (Bool.and_eq_true_iff.1 acceptedInTime).1
  obtain ⟨succeeds, timesOut⟩ := put_ok_iff replicator isOpen free
  have outcome : called.1 = .ok schema ↔ marked ∨ inTime := by
    rw [succeeds]
    exact or_congr_right (and_iff_left enough)
  refine ⟨outcome, ?_, fun failed => ⟨timesOut failed enough, ?_⟩⟩
  · rw [put_marks_iff inRange, outcome]
    exact or_self_left
  · exact put_holds inRange (Service.register_of_free isOpen free)

/-- A member with two peers, one that accepts at once and one that takes a minute. -/
def lopsided : Cluster where
  members := [{ service := .standard, replicator := .majority 0 }]
  groups := [[.endpoint 0, .endpoint 1]]
  endpoints := [{}, { intake := { turns := [{ delay := 60000 }] } }]

theorem put_ok_iff_no_peer_late_lopsided :
    let ping := Schema.fieldless "Ping" (by decide)
    let called := lopsided.put 0 ping
    (lopsided.responses 0 0 ping).map (·.result.isOk) = [true, true] ∧
      (lopsided.responses 0 0 ping).map (·.delay) = [0, 60000] ∧
      called.1 = .error (.replicationTimedOut ping.id 30000) ∧
      (called.2.member 0).service.isReplicated ping.id = false ∧
      called.2.Holds ping 0 := by
  intro ping called
  have free : ∀ existing, (lopsided.member 0).service.registry.find? ping.id = some existing →
      existing = ping := by
    intro existing held
    cases held
  have prompt : majority ((lopsided.responses 0 0 ping).length + 1) ≤
      ((lopsided.responses 0 0 ping).countP fun answer =>
        answer.result.isOk && decide (answer.delay < lopsided.limit 0)) + 1 := by
    decide
  have late : ¬ ((lopsided.member 0).service.isReplicated ping.id = true ∨
      ∀ answer ∈ lopsided.responses 0 0 ping, answer.delay ≤ lopsided.limit 0) := by
    decide
  obtain ⟨succeeds, marks, timesOut⟩ :=
    put_ok_iff_no_peer_late (by decide) rfl rfl free prompt
  have failed : called.1 ≠ .ok ping := fun succeeded => late (succeeds.1 succeeded)
  exact ⟨rfl, rfl, (timesOut failed).1, Bool.eq_false_iff.2 fun mark => late (marks.1 mark),
    (timesOut failed).2⟩

end Cluster

end CompactSchema
