import CompactSchema.Proofs.Service
import CompactSchema.Service.Publication
import CompactSchema.Service.Resolution

/-!
Contract: the calls on a service as data, and what each of them can come to.

Registering with the cluster and asking the cluster for a schema are taken apart
once, into the local registration, the request and what follows from its reply.
All later facts about calls are read off these cases and never unfold a call
again.

Owns: calls and their answers, the cases of `put` and `resolve`, and what every
call can make grow, from what the single steps of an environment can.

Does not own: runs of calls, see `Proofs.History`, and clusters, see
`Proofs.Cluster.Growth`.
-/

set_option autoImplicit false

namespace CompactSchema

/-! ## Calls and answers -/

/-- A call that only looks at a service. -/
inductive Query where
  | find (schemaId : Int64)
  | ids
  | size
  | isEmpty
  | isReplicated (schemaId : Int64)
  | snapshot

inductive Call where
  | put (schema : Schema)
  | register (schema : Schema)
  | registerAll (schemas : List Schema)
  | registerText (content : String)
  | resolve (schemaId : Int64)
  | accept (schema : Schema)
  | read (query : Query)

inductive Answer where
  | schema (result : Except SchemaError Schema)
  | done (result : Except SchemaError Unit)
  | count (result : Except Failure Nat)
  | found (result : Except SchemaError (Option Schema))
  | ids (result : Except SchemaError (List Int64))
  | size (result : Except SchemaError Nat)
  | flag (result : Except SchemaError Bool)
  | text (result : Except Failure String)

def Query.answer (service : Service) : Query → Answer
  | .find schemaId => .found (service.find schemaId)
  | .ids => .ids service.ids
  | .size => .size service.size
  | .isEmpty => .flag service.isEmpty
  | .isReplicated schemaId => .flag (.ok (service.isReplicated schemaId))
  | .snapshot => .text service.snapshot

namespace Call

/-- The schemas that a call hands to the service. -/
def given : Call → List Schema
  | .put schema => [schema]
  | .register schema => [schema]
  | .registerAll schemas => schemas
  | .registerText content => Service.listedSchemas content
  | .resolve _ => []
  | .accept schema => [schema]
  | .read _ => []

/-- A call was asked to register something under an id. -/
def Concerns (call : Call) (schemaId : Int64) : Prop :=
  (∃ schema ∈ call.given, schema.id = schemaId) ∨ call = .resolve schemaId

end Call

namespace Environment

variable {σ : Type} (environment : Environment σ)

/-- What a call answers, and the state after it. -/
def handle : Call → σ → Answer × σ
  | .put schema, state => Prod.map .schema id (environment.put schema state)
  | .register schema, state =>
    Prod.map .schema id (environment.perform (Service.register schema) state)
  | .registerAll schemas, state =>
    Prod.map .done id (environment.perform (Service.registerAll schemas) state)
  | .registerText content, state =>
    Prod.map .count id (environment.perform (Service.registerText content) state)
  | .resolve schemaId, state => Prod.map .schema id (environment.resolve schemaId state)
  | .accept schema, state =>
    Prod.map .done id (environment.perform (Service.accept schema) state)
  | .read query, state => (query.answer (environment.service state), state)

theorem perform_result {α : Type} (call : Service → Effect α) (state : σ) :
    (environment.perform call state).1 = (call (environment.service state)).result := rfl

/-! ## Cases of the calls that reach the cluster -/

theorem publish_cases (schema : Schema) (state : σ) :
    let limit := (environment.service state).config.replicationTimeout.toNat
    let asked := environment.replicate schema state
    let answered := environment.note asked.1.notices (environment.wait asked.1.delay asked.2)
    (asked.1.delay ≤ limit ∧ asked.1.result = .ok () ∧
      environment.publish schema state =
        (.ok schema, environment.note [.replicated schema] (environment.setService
          ((environment.service answered).markReplicated schema.id) answered))) ∨
    (asked.1.delay ≤ limit ∧ ∃ error, asked.1.result = .error error ∧
      environment.publish schema state =
        (.error (.notReplicated schema.id error),
          environment.note [.notReplicated schema.id error] answered)) ∨
    (limit < asked.1.delay ∧
      environment.publish schema state =
        (.error (.replicationTimedOut schema.id limit),
          environment.note [.replicationTimedOut schema.id limit]
            (environment.wait limit asked.2))) := by
  intro limit asked answered
  by_cases inTime : asked.1.delay ≤ limit
  · have settled : environment.publish schema state =
        environment.settle schema asked.1.result answered := by
      rw [publish]
      exact if_pos inTime
    cases outcome : asked.1.result with
    | ok value =>
        refine .inl ⟨inTime, rfl, ?_⟩
        rw [settled, outcome]
        rfl
    | error error =>
        refine .inr (.inl ⟨inTime, error, rfl, ?_⟩)
        rw [settled, outcome]
        rfl
  · refine .inr (.inr ⟨Nat.lt_of_not_le inTime, ?_⟩)
    rw [publish]
    exact if_neg inTime

theorem put_cases (schema : Schema) (state : σ) :
    let registration := environment.perform (Service.register schema) state
    (∃ error, registration.1 = .error error ∧
      environment.put schema state = (.error error, registration.2)) ∨
    (registration.1 = .ok schema ∧
      (environment.service registration.2).isReplicated schema.id = true ∧
      environment.put schema state = (.ok schema, registration.2)) ∨
    (registration.1 = .ok schema ∧
      (environment.service registration.2).isReplicated schema.id = false ∧
      environment.put schema state = environment.publish schema registration.2) := by
  intro registration
  rw [put]
  cases outcome : registration.1 with
  | error error =>
      refine .inl ⟨error, rfl, ?_⟩
      rw [show environment.perform (Service.register schema) state =
        (.error error, registration.2) from Prod.ext outcome rfl]
  | ok registered =>
      obtain ⟨rfl, _⟩ := Service.register_ok outcome
      rw [show environment.perform (Service.register registered) state =
        (.ok registered, registration.2) from Prod.ext outcome rfl]
      cases marked : (environment.service registration.2).isReplicated registered.id with
      | true => exact .inr (.inl ⟨rfl, rfl, if_pos marked⟩)
      | false =>
          refine .inr (.inr ⟨rfl, rfl, if_neg ?_⟩)
          rw [marked]
          exact Bool.false_ne_true

/-- States that differ by requests for an id, waits and notices. -/
inductive Asking (schemaId : Int64) (first : σ) : σ → Prop where
  | refl : Asking schemaId first first
  | fetch {last : σ} (asking : Asking schemaId first last) :
      Asking schemaId first (environment.fetch schemaId last).2
  | wait {last : σ} (asking : Asking schemaId first last) (milliseconds : Nat) :
      Asking schemaId first (environment.wait milliseconds last)
  | note {last : σ} (asking : Asking schemaId first last) (notices : List Notice) :
      Asking schemaId first (environment.note notices last)

variable {environment} in
theorem Asking.trans {schemaId : Int64} {first middle last : σ}
    (before : environment.Asking schemaId first middle)
    (after : environment.Asking schemaId middle last) : environment.Asking schemaId first last := by
  induction after with
  | refl => exact before
  | fetch _ inductionHypothesis => exact inductionHypothesis.fetch
  | wait _ milliseconds inductionHypothesis => exact inductionHypothesis.wait milliseconds
  | note _ notices inductionHypothesis => exact inductionHypothesis.note notices

theorem asking_pauseBefore (schemaId : Int64) (left : Nat) (state : σ) :
    environment.Asking schemaId state (environment.pauseBefore left state) := by
  rw [pauseBefore]
  split
  · exact .refl
  · exact .wait .refl _

/-- The state when the reply to a request for an id has come. -/
def answered (schemaId : Int64) (state : σ) : σ :=
  let asked := environment.fetch schemaId state
  environment.note asked.1.notices (environment.wait asked.1.delay asked.2)

theorem asking_answered (schemaId : Int64) (state : σ) :
    environment.Asking schemaId state (environment.answered schemaId state) :=
  .note (.wait (.fetch .refl) _) _

theorem search_found {schemaId : Int64} {answer : Schema} {state : σ}
    (found : (environment.fetch schemaId state).1.result = .ok (some answer))
    (attempts left : Nat) :
    environment.search schemaId attempts (left + 1) state =
      environment.adopt schemaId answer (environment.answered schemaId state) := by
  simp only [search, found, answered]

theorem search_missed {schemaId : Int64} {state : σ}
    (missed : ∀ answer, (environment.fetch schemaId state).1.result ≠ .ok (some answer))
    (attempts left : Nat) :
    ∃ notice, environment.search schemaId attempts (left + 1) state =
      environment.search schemaId attempts left (environment.pauseBefore left
        (environment.note [notice] (environment.answered schemaId state))) := by
  cases outcome : (environment.fetch schemaId state).1.result with
  | error error =>
      refine ⟨.fetchFailed schemaId (attempts - left) attempts error, ?_⟩
      simp only [search, outcome, answered]
  | ok found? =>
      cases found? with
      | none =>
          refine ⟨.notFound schemaId (attempts - left) attempts, ?_⟩
          simp only [search, outcome, answered]
      | some answer => exact absurd outcome (missed answer)

/-- A search ends without a schema or takes over the first one that a request
was answered with. -/
theorem search_cases (schemaId : Int64) (attempts left : Nat) (state : σ) :
    ∃ last, environment.Asking schemaId state last ∧
      (environment.search schemaId attempts left state =
          (.error (.schemaUnresolved schemaId), last) ∨
        ∃ earlier answer, environment.Asking schemaId state earlier ∧
          (environment.fetch schemaId earlier).1.result = .ok (some answer) ∧
          environment.search schemaId attempts left state =
            environment.adopt schemaId answer last) := by
  induction left generalizing state with
  | zero => exact ⟨_, .note .refl _, .inl rfl⟩
  | succ left inductionHypothesis =>
      have answered := environment.asking_answered schemaId state
      by_cases hit : ∃ answer, (environment.fetch schemaId state).1.result = .ok (some answer)
      · obtain ⟨answer, found⟩ := hit
        exact ⟨_, answered, .inr ⟨state, answer, .refl, found,
          environment.search_found found attempts left⟩⟩
      · obtain ⟨notice, goesOn⟩ := environment.search_missed (not_exists.1 hit) attempts left
        have paused := (answered.note [notice]).trans
          (environment.asking_pauseBefore schemaId left _)
        obtain ⟨last, asking, ending⟩ := inductionHypothesis (environment.pauseBefore left
          (environment.note [notice] (environment.answered schemaId state)))
        rw [goesOn]
        refine ⟨last, paused.trans asking, ?_⟩
        rcases ending with unresolved | ⟨earlier, answer, before, found, adopted⟩
        · exact .inl unresolved
        · exact .inr ⟨earlier, answer, paused.trans before, found, adopted⟩

theorem resolve_cases (schemaId : Int64) (state : σ) :
    let service := environment.service state
    (∃ error, service.find schemaId = .error error ∧
      environment.resolve schemaId state = (.error error, state)) ∨
    (∃ schema, service.find schemaId = .ok (some schema) ∧
      environment.resolve schemaId state = (.ok schema, state)) ∨
    (service.find schemaId = .ok none ∧
      environment.resolve schemaId state =
        environment.search schemaId service.config.fetchAttempts.toNat
          service.config.fetchAttempts.toNat state) := by
  intro service
  rw [resolve]
  dsimp only
  split
  · rename_i error failed
    exact .inl ⟨error, failed, rfl⟩
  · rename_i schema held
    exact .inr (.inl ⟨schema, held, rfl⟩)
  · rename_i missing
    exact .inr (.inr ⟨missing, rfl⟩)

theorem adopt_of_registered {schemaId : Int64} {answer registered : Schema} {state : σ}
    (same : answer.id = schemaId)
    (succeeded : (Service.register answer (environment.service state)).result = .ok registered) :
    environment.adopt schemaId answer state =
      (.ok registered, environment.note [.fetched registered]
        (environment.perform (Service.register answer) state).2) := by
  rw [adopt, if_pos same, perform, succeeded]

/-! ## What a call takes in -/

/-- A request for an id that follows on a state is answered with a schema. -/
def Answers (schemaId : Int64) (state : σ) (schema : Schema) : Prop :=
  ∃ asked, environment.Asking schemaId state asked ∧
    (environment.fetch schemaId asked).1.result = .ok (some schema)

/-- What a call may come to register: a schema it is given or, if it resolves an
id, a schema with that id that the cluster answers. -/
def Offers (call : Call) (state : σ) (schema : Schema) : Prop :=
  schema ∈ call.given ∨
    (call = .resolve schema.id ∧ environment.Answers schema.id state schema)

/-- A call marks the id of a schema that it brings to the cluster. -/
def Marks (call : Call) (state : σ) (schemaId : Int64) : Prop :=
  ∃ schema, call = .put schema ∧ schema.id = schemaId ∧
    (environment.put schema state).1 = .ok schema

variable {environment} in
theorem concerns_of_offers {call : Call} {state : σ} {schema : Schema}
    (offers : environment.Offers call state schema) : call.Concerns schema.id := by
  rcases offers with member | ⟨resolves, _⟩
  · exact .inl ⟨schema, member, rfl⟩
  · exact .inr resolves

variable {environment} in
/-- Only a replicator that succeeds makes the call succeed. -/
theorem publish_ok {schema answer : Schema} {state : σ}
    (succeeded : (environment.publish schema state).1 = .ok answer) :
    answer = schema ∧ (environment.replicate schema state).1.result = .ok () := by
  rcases environment.publish_cases schema state with
    ⟨_, replicated, outcome⟩ | ⟨_, _, _, outcome⟩ | ⟨_, outcome⟩ <;> rw [outcome] at succeeded
  · exact ⟨(Except.ok.inj succeeded).symm, replicated⟩
  · cases succeeded
  · cases succeeded

variable {environment} in
theorem put_ok {schema answer : Schema} {state : σ}
    (succeeded : (environment.put schema state).1 = .ok answer) :
    answer = schema ∧
      (Service.register schema (environment.service state)).result = .ok schema := by
  rcases environment.put_cases schema state with
    ⟨_, _, outcome⟩ | ⟨registered, _, outcome⟩ | ⟨registered, _, outcome⟩ <;>
    rw [outcome] at succeeded
  · cases succeeded
  · exact ⟨(Except.ok.inj succeeded).symm, registered⟩
  · exact ⟨(publish_ok succeeded).1, registered⟩

variable {environment} in
theorem put_of_isOk {schema : Schema} {state : σ}
    (succeeded : (environment.put schema state).1.isOk = true) :
    (environment.put schema state).1 = .ok schema := by
  cases outcome : (environment.put schema state).1 with
  | ok answer => rw [(put_ok outcome).1]
  | error _ =>
      rw [outcome] at succeeded
      cases succeeded

variable {environment} in
theorem handle_put_of_isOk {schema : Schema} {state : σ}
    (succeeded : (environment.put schema state).1.isOk = true) :
    (environment.handle (.put schema) state).1 = .schema (.ok schema) := by
  rw [handle, Prod.map_fst, put_of_isOk succeeded]

/-- `Grows` relates the states around every step of an environment: whatever
grows in the service alone, what is offered when a schema is brought to the
cluster, and nothing at all in a request, a wait or a notice. -/
structure Growth (Grows : (Schema → Prop) → (Int64 → Prop) → σ → σ → Prop) : Prop where
  refl : ∀ {offered marked} state, Grows offered marked state state
  trans : ∀ {offered marked first middle last}, Grows offered marked first middle →
    Grows offered marked middle last → Grows offered marked first last
  mono : ∀ {offered more marked moreMarked first last},
    (∀ schema, offered schema → more schema) →
    (∀ schemaId, marked schemaId → moreMarked schemaId) →
    Grows offered marked first last → Grows more moreMarked first last
  setService : ∀ {offered marked service state},
    (environment.service state).GrowsBy offered marked service →
    Grows offered marked state (environment.setService service state)
  replicate : ∀ {marked} schema state,
    Grows (· = schema) marked state (environment.replicate schema state).2
  fetch : ∀ {offered marked} schemaId state,
    Grows offered marked state (environment.fetch schemaId state).2
  wait : ∀ {offered marked} milliseconds state,
    Grows offered marked state (environment.wait milliseconds state)
  note : ∀ {offered marked} notices state,
    Grows offered marked state (environment.note notices state)

namespace Growth

variable {environment} {Grows : (Schema → Prop) → (Int64 → Prop) → σ → σ → Prop}
  {offered : Schema → Prop} {marked : Int64 → Prop}

theorem perform (growth : environment.Growth Grows) {α : Type} {call : Service → Effect α}
    {state : σ}
    (grows : (environment.service state).GrowsBy offered marked
      (call (environment.service state)).service) :
    Grows offered marked state (environment.perform call state).2 :=
  growth.trans (growth.setService grows) (growth.note _ _)

theorem asking (growth : environment.Growth Grows) {schemaId : Int64} {first last : σ}
    (asking : environment.Asking schemaId first last) : Grows offered marked first last := by
  induction asking with
  | refl => exact growth.refl first
  | fetch _ inductionHypothesis => exact growth.trans inductionHypothesis (growth.fetch _ _)
  | wait _ milliseconds inductionHypothesis =>
      exact growth.trans inductionHypothesis (growth.wait milliseconds _)
  | note _ notices inductionHypothesis =>
      exact growth.trans inductionHypothesis (growth.note notices _)

/-- What follows on the request to the replicator. -/
theorem published (growth : environment.Growth Grows) (schema : Schema) (state : σ) :
    Grows offered
      (fun schemaId => schemaId = schema.id ∧ (environment.publish schema state).1 = .ok schema)
      (environment.replicate schema state).2 (environment.publish schema state).2 := by
  rcases environment.publish_cases schema state with
    ⟨_, _, outcome⟩ | ⟨_, _, _, outcome⟩ | ⟨_, outcome⟩ <;> rw [outcome]
  · have marks (service : Service) :
        service.GrowsBy offered
          (fun schemaId => schemaId = schema.id ∧
            (.ok schema : Except SchemaError Schema) = .ok schema)
          (service.markReplicated schema.id) :=
      (Service.markReplicated_growsBy schema.id service).mono (fun _ => id)
        fun _ same => ⟨same, rfl⟩
    exact growth.trans (growth.trans (growth.wait _ _) (growth.note _ _))
      (growth.trans (growth.setService (marks _)) (growth.note _ _))
  · exact growth.trans (growth.trans (growth.wait _ _) (growth.note _ _)) (growth.note _ _)
  · exact growth.trans (growth.wait _ _) (growth.note _ _)

theorem publish (growth : environment.Growth Grows) (schema : Schema) (state : σ) :
    Grows (· = schema)
      (fun schemaId => schemaId = schema.id ∧ (environment.publish schema state).1 = .ok schema)
      state (environment.publish schema state).2 :=
  growth.trans (growth.replicate schema state) (growth.published schema state)

theorem put (growth : environment.Growth Grows) (schema : Schema) (state : σ) :
    Grows (· = schema)
      (fun schemaId => schemaId = schema.id ∧ (environment.put schema state).1 = .ok schema)
      state (environment.put schema state).2 := by
  have registered : ∀ {marked}, Grows (· = schema) marked state
      (environment.perform (Service.register schema) state).2 :=
    growth.perform (Service.register_growsBy schema _)
  rcases environment.put_cases schema state with
    ⟨_, _, outcome⟩ | ⟨_, _, outcome⟩ | ⟨_, _, outcome⟩ <;> rw [outcome]
  · exact registered
  · exact registered
  · exact growth.trans registered (growth.publish schema _)

theorem adopt (growth : environment.Growth Grows) (schemaId : Int64) (answer : Schema)
    (state : σ) :
    Grows (fun schema => schema = answer ∧ schema.id = schemaId) marked state
      (environment.adopt schemaId answer state).2 := by
  rw [Environment.adopt]
  split
  · rename_i same
    have registered : Grows (fun schema => schema = answer ∧ schema.id = schemaId) marked state
        (environment.perform (Service.register answer) state).2 := by
      apply growth.perform
      apply (Service.register_growsBy answer _).mono _ fun _ => id
      rintro _ rfl
      exact ⟨rfl, same⟩
    split
    · rename_i failed
      rw [failed] at registered
      exact registered
    · rename_i succeeded
      rw [succeeded] at registered
      exact growth.trans registered (growth.note _ _)
  · exact growth.note _ _

theorem resolve (growth : environment.Growth Grows) (schemaId : Int64) (state : σ) :
    Grows (fun schema => schema.id = schemaId ∧ environment.Answers schemaId state schema) marked
      state (environment.resolve schemaId state).2 := by
  rcases environment.resolve_cases schemaId state with
    ⟨_, _, outcome⟩ | ⟨_, _, outcome⟩ | ⟨_, outcome⟩ <;> rw [outcome]
  · exact growth.refl state
  · exact growth.refl state
  · obtain ⟨last, asking, unresolved | ⟨earlier, answer, before, found, adopted⟩⟩ :=
      environment.search_cases schemaId _ _ state
    · rw [unresolved]
      exact growth.asking asking
    · rw [adopted]
      apply growth.trans (growth.asking asking)
      apply growth.mono _ (fun _ => id) (growth.adopt schemaId answer last)
      rintro _ ⟨rfl, same⟩
      exact ⟨same, earlier, before, found⟩

/-- Whatever the cluster answers, a call takes in schemas that it offers, marks
what it brought to the cluster and changes nothing else. -/
theorem handle (growth : environment.Growth Grows) (call : Call) (state : σ) :
    Grows (environment.Offers call state) (environment.Marks call state) state
      (environment.handle call state).2 := by
  cases call with
  | put schema =>
      apply growth.mono _ _ (growth.put schema state)
      · rintro _ rfl
        exact .inl List.mem_cons_self
      · rintro _ ⟨rfl, succeeded⟩
        exact ⟨schema, rfl, rfl, succeeded⟩
  | register schema =>
      apply growth.mono _ (fun _ => id) (growth.perform (Service.register_growsBy schema _))
      rintro _ rfl
      exact .inl List.mem_cons_self
  | registerAll schemas =>
      apply growth.mono _ (fun _ => id) (growth.perform (Service.registerAll_growsBy schemas _))
      exact fun _ member => .inl member
  | registerText content =>
      apply growth.mono _ (fun _ => id) (growth.perform (Service.registerText_growsBy content _))
      exact fun _ member => .inl member
  | resolve schemaId =>
      apply growth.mono _ (fun _ => id) (growth.resolve schemaId state)
      rintro _ ⟨rfl, answered⟩
      exact .inr ⟨rfl, answered⟩
  | accept schema =>
      apply growth.mono _ (fun _ => id) (growth.perform (Service.accept_growsBy schema _))
      rintro _ rfl
      exact .inl List.mem_cons_self
  | read query => exact growth.refl state

end Growth

end Environment

end CompactSchema
