import CompactSchema.Proofs.History

/-!
Contract: which ids a service has marked as brought to the cluster, along every
run of calls.

A service keeps its marks apart from its registry. What ties the two together is
the list of requests that its replicator got: an id is marked exactly if one of
the requests for it was granted, and an id that is marked is never asked for
again. So at most one request for an id is granted, and an id that is not marked
is asked for by every call that is to bring its schema to the cluster.

Owns: the requests to a replicator, the cases of `put` told by them, and the
marks along a run.

Does not own: who holds a marked schema, see `Proofs.Cluster.Agreement`.
-/

set_option autoImplicit false

namespace CompactSchema

/-! ## Requests -/

/-- A request to bring a schema to the cluster, with the reply that it got. -/
structure Request where
  schema : Schema
  reply : Reply Unit

namespace Request

/-- The replicator succeeded within the limit. -/
def granted (limit : Nat) (request : Request) : Bool :=
  decide (request.reply.delay ≤ limit) && request.reply.result.isOk

/-- What a call answers that made the request and waited up to the limit. -/
def outcome (limit : Nat) (request : Request) : Except SchemaError Schema :=
  if request.reply.delay ≤ limit then
    match request.reply.result with
    | .ok () => .ok request.schema
    | .error cause => .error (.notReplicated request.schema.id cause)
  else .error (.replicationTimedOut request.schema.id limit)

theorem outcome_of_granted {limit : Nat} {request : Request}
    (granted : request.granted limit = true) : request.outcome limit = .ok request.schema := by
  simp only [Request.granted, Bool.and_eq_true, decide_eq_true_eq] at granted
  obtain ⟨inTime, succeeded⟩ := granted
  unfold outcome
  rw [if_pos inTime]
  cases reply : request.reply.result with
  | ok _ => rfl
  | error _ =>
      rw [reply] at succeeded
      cases succeeded

theorem outcome_of_refused {limit : Nat} {request : Request}
    (refused : request.granted limit = false) :
    ∃ detail, request.outcome limit = .error (.replication detail) := by
  unfold outcome
  by_cases inTime : request.reply.delay ≤ limit
  · rw [if_pos inTime]
    cases reply : request.reply.result with
    | ok _ => simp [Request.granted, inTime, reply, Except.isOk, Except.toBool] at refused
    | error _ => exact ⟨_, rfl⟩
  · rw [if_neg inTime]
    exact ⟨_, rfl⟩

/-- Once a request is made, the id is no matter of conflict any more. -/
theorem outcome_ne_conflict (limit : Nat) (request : Request) {schemaId : Int64}
    {existing incoming : String} :
    request.outcome limit ≠ .error (.schemaConflict schemaId existing incoming) := by
  intro conflict
  cases granted : request.granted limit with
  | true => cases (outcome_of_granted granted).symm.trans conflict
  | false =>
      obtain ⟨_, failed⟩ := outcome_of_refused granted
      cases failed.symm.trans conflict

/-- How many requests for an id were granted. -/
def grants (limit : Nat) (schemaId : Int64) (requests : List Request) : Nat :=
  requests.countP fun request => decide (request.schema.id = schemaId) && request.granted limit

end Request

def Station.requests {ρ : Type} (station : Station (ρ × List Request)) : List Request :=
  station.replicator.2

namespace Exchange

variable {ρ : Type} (exchange : Exchange ρ)

/-- The same replicator, which also keeps the requests to bring a schema to the
cluster. -/
def recorded : Exchange (ρ × List Request) where
  replicate schema state :=
    let asked := exchange.replicate schema state.1
    (asked.1, asked.2, state.2 ++ [⟨schema, asked.1⟩])
  fetch schemaId state :=
    let asked := exchange.fetch schemaId state.1
    (asked.1, asked.2, state.2)

/-- The request that a call makes for a schema, if it makes one. -/
def request (schema : Schema) (station : Station (ρ × List Request)) : Request :=
  ⟨schema, (exchange.replicate schema station.replicator.1).1⟩

/-! ## Cases of `put` -/

theorem publish_recorded (schema : Schema) (station : Station (ρ × List Request)) :
    let limit := station.service.config.replicationTimeout.toNat
    let request := exchange.request schema station
    let called := exchange.recorded.environment.publish schema station
    called.1 = request.outcome limit ∧ called.2.requests = station.requests ++ [request] ∧
      called.2.service = if request.granted limit then
        station.service.markReplicated schema.id else station.service := by
  intro limit request called
  unfold Request.granted Request.outcome
  rcases exchange.recorded.environment.publish_cases schema station with
    ⟨inTime, succeeded, settled⟩ | ⟨inTime, cause, failed, settled⟩ | ⟨late, settled⟩
  · have prompt : request.reply.delay ≤ limit := inTime
    have reply : request.reply.result = .ok () := succeeded
    simp only [called, settled, if_pos prompt, reply, decide_eq_true prompt]
    exact ⟨rfl, rfl, rfl⟩
  · have prompt : request.reply.delay ≤ limit := inTime
    have reply : request.reply.result = .error cause := failed
    simp only [called, settled, if_pos prompt, reply, decide_eq_true prompt]
    exact ⟨rfl, rfl, rfl⟩
  · have tooLate : ¬ request.reply.delay ≤ limit := Nat.not_le_of_lt late
    simp only [called, settled, if_neg tooLate, decide_eq_false tooLate]
    exact ⟨rfl, rfl, rfl⟩

/-- Everything that bringing a schema to the cluster can come to: the service
refuses it, it is marked already, or the replicator is asked just once. -/
theorem put_recorded (schema : Schema) (station : Station (ρ × List Request)) :
    let limit := station.service.config.replicationTimeout.toNat
    let registration := Service.register schema station.service
    let request := exchange.request schema station
    let called := exchange.recorded.environment.put schema station
    (∃ error, registration.result = .error error ∧ called.1 = .error error ∧
      called.2.requests = station.requests ∧ called.2.service = station.service) ∨
    (registration.result = .ok schema ∧ station.service.isReplicated schema.id = true ∧
      called.1 = .ok schema ∧ called.2.requests = station.requests ∧
      called.2.service = registration.service) ∨
    (registration.result = .ok schema ∧ station.service.isReplicated schema.id = false ∧
      called.1 = request.outcome limit ∧ called.2.requests = station.requests ++ [request] ∧
      called.2.service = if request.granted limit then
        registration.service.markReplicated schema.id else registration.service) := by
  intro limit registration request called
  let registered := (exchange.recorded.environment.perform (Service.register schema) station).2
  have sameLimit : registered.service.config.replicationTimeout.toNat = limit := by
    have grows : station.service.GrowsBy (· = schema) (fun _ => False) registration.service :=
      Service.register_growsBy schema station.service
    exact congrArg (fun config => config.replicationTimeout.toNat) grows.config
  have sameMark : registered.service.isReplicated schema.id =
      station.service.isReplicated schema.id := by
    have same : registered.service.replicated = station.service.replicated :=
      Service.replicated_register schema station.service
    rw [Service.isReplicated, Service.isReplicated, same]
  rcases exchange.recorded.environment.put_cases schema station with
    ⟨error, refused, outcome⟩ | ⟨accepted, marked, outcome⟩ | ⟨accepted, unmarked, outcome⟩
  · have kept : registration.service = station.service := Service.register_refused refused
    refine .inl ⟨error, refused, ?_⟩
    simp only [called, outcome, true_and]
    exact ⟨rfl, kept⟩
  · refine .inr (.inl ⟨accepted, sameMark ▸ marked, ?_⟩)
    simp only [called, outcome, true_and]
    exact ⟨rfl, rfl⟩
  · refine .inr (.inr ⟨accepted, sameMark ▸ unmarked, ?_⟩)
    have published := exchange.publish_recorded schema registered
    rw [sameLimit] at published
    simp only [called, outcome]
    exact published

/-! ## Calls that ask for nothing -/

variable {exchange} in
theorem asking_requests {schemaId : Int64} {first last : Station (ρ × List Request)}
    (asking : exchange.recorded.environment.Asking schemaId first last) :
    last.requests = first.requests := by
  induction asking with
  | refl => rfl
  | fetch _ inductionHypothesis => exact inductionHypothesis
  | wait _ _ inductionHypothesis => exact inductionHypothesis
  | note _ _ inductionHypothesis => exact inductionHypothesis

theorem adopt_requests (schemaId : Int64) (answer : Schema)
    (station : Station (ρ × List Request)) :
    (exchange.recorded.environment.adopt schemaId answer station).2.requests =
      station.requests := by
  unfold Environment.adopt
  split
  · have kept : (exchange.recorded.environment.perform (Service.register answer)
        station).2.requests = station.requests := rfl
    split
    · rename_i failed
      rw [failed] at kept
      exact kept
    · rename_i succeeded
      rw [succeeded] at kept
      exact kept
  · rfl

theorem resolve_requests (schemaId : Int64) (station : Station (ρ × List Request)) :
    (exchange.recorded.environment.resolve schemaId station).2.requests = station.requests := by
  rcases exchange.recorded.environment.resolve_cases schemaId station with
    ⟨_, _, outcome⟩ | ⟨_, _, outcome⟩ | ⟨_, outcome⟩ <;> rw [outcome]
  obtain ⟨last, asking, unresolved | ⟨_, answer, _, _, adopted⟩⟩ :=
    exchange.recorded.environment.search_cases schemaId
      (exchange.recorded.environment.service station).config.fetchAttempts.toNat
      (exchange.recorded.environment.service station).config.fetchAttempts.toNat station
  · rw [unresolved]
    exact asking_requests asking
  · rw [adopted, adopt_requests]
    exact asking_requests asking

theorem handle_requests {call : Call} (other : ∀ schema, call ≠ .put schema)
    (station : Station (ρ × List Request)) :
    (exchange.recorded.environment.handle call station).2.requests = station.requests := by
  cases call with
  | put schema => exact absurd rfl (other schema)
  | register _ => rfl
  | registerAll _ => rfl
  | registerText _ => rfl
  | resolve schemaId => exact exchange.resolve_requests schemaId station
  | accept _ => rfl
  | read _ => rfl

theorem handle_marks {call : Call} (other : ∀ schema, call ≠ .put schema)
    (station : Station (ρ × List Request)) (schemaId : Int64) :
    (exchange.recorded.environment.handle call station).2.service.isReplicated schemaId =
      station.service.isReplicated schemaId := by
  have grows := exchange.recorded.growth.handle call station
  rw [Bool.eq_iff_iff]
  constructor
  · intro mark
    rcases grows.newMark mark with before | ⟨schema, isPut, _, _⟩
    · exact before
    · exact absurd isPut (other schema)
  · exact grows.keepsMark

/-! ## The invariant -/

/-- The marks of a service are the ids of the requests that were granted within
its limit, and each of them has a schema. -/
structure Bookkept (limit : Nat) (station : Station (ρ × List Request)) : Prop where
  sameLimit : station.service.config.replicationTimeout.toNat = limit
  isOpen : station.service.interrupted = false
  marked : ∀ schemaId, station.service.isReplicated schemaId = true ↔
    ∃ request ∈ station.requests, request.schema.id = schemaId ∧ request.granted limit = true
  once : ∀ schemaId, Request.grants limit schemaId station.requests ≤ 1
  registered : ∀ schemaId, station.service.isReplicated schemaId = true →
    ∃ schema, schema.id = schemaId ∧ station.service.registry.find? schemaId = some schema

namespace Bookkept

variable {exchange} {limit : Nat} {station later : Station (ρ × List Request)}

theorem of_created {config : Config} (created : Service.create config = .ok station.service)
    (unasked : station.requests = []) :
    Bookkept config.replicationTimeout.toNat station := by
  obtain ⟨sameConfig, _, noMarks, isOpen⟩ := Service.create_ok created
  have unmarked : ∀ schemaId, station.service.isReplicated schemaId = false := by
    intro schemaId
    rw [Service.isReplicated, noMarks]
    rfl
  constructor
  · rw [sameConfig]
  · exact isOpen
  · intro schemaId
    simp [unmarked, unasked]
  · intro schemaId
    simp [Request.grants, unasked]
  · intro schemaId mark
    rw [unmarked] at mark
    cases mark

theorem no_grants (book : Bookkept limit station) {schemaId : Int64}
    (unmarked : station.service.isReplicated schemaId = false) :
    Request.grants limit schemaId station.requests = 0 := by
  unfold Request.grants
  rw [List.countP_eq_zero]
  intro request member counted
  simp only [Bool.and_eq_true, decide_eq_true_eq] at counted
  have mark := (book.marked schemaId).2 ⟨request, member, counted⟩
  rw [unmarked] at mark
  cases mark

/-- A mark that is there after a call was there before or has its schema now. -/
theorem registered_of_grows (book : Bookkept limit station) {offered : Schema → Prop}
    {marked : Int64 → Prop} (grows : station.service.GrowsBy offered marked later.service)
    (found : ∀ schemaId, marked schemaId →
      ∃ schema, schema.id = schemaId ∧ later.service.registry.find? schemaId = some schema) :
    ∀ schemaId, later.service.isReplicated schemaId = true →
      ∃ schema, schema.id = schemaId ∧ later.service.registry.find? schemaId = some schema := by
  intro schemaId mark
  rcases grows.newMark mark with before | new
  · obtain ⟨schema, same, held⟩ := book.registered schemaId before
    exact ⟨schema, same, grows.registry.keeps held⟩
  · exact found schemaId new

/-- What does not ask the replicator and does not mark keeps the books. -/
theorem of_unasked (book : Bookkept limit station) {offered : Schema → Prop}
    (grows : station.service.GrowsBy offered (fun _ => False) later.service)
    (requests : later.requests = station.requests) : Bookkept limit later := by
  have sameMarks : ∀ schemaId, later.service.isReplicated schemaId = true ↔
      station.service.isReplicated schemaId = true :=
    fun _ => ⟨fun mark => (grows.newMark mark).resolve_right id, grows.keepsMark⟩
  constructor
  · rw [grows.config]
    exact book.sameLimit
  · rw [grows.interrupted]
    exact book.isOpen
  · intro schemaId
    rw [sameMarks, requests]
    exact book.marked schemaId
  · rw [requests]
    exact book.once
  · exact book.registered_of_grows grows fun _ impossible => impossible.elim

/-- The request of a call for an id that is not marked is the only one for the id
that may be granted. -/
theorem of_asked (book : Bookkept limit station) {schema : Schema}
    (accepted : (Service.register schema station.service).result = .ok schema)
    (unmarked : station.service.isReplicated schema.id = false) {request : Request}
    (subject : request.schema = schema)
    (requests : later.requests = station.requests ++ [request])
    (service : later.service = if request.granted limit then
      (Service.register schema station.service).service.markReplicated schema.id
      else (Service.register schema station.service).service) : Bookkept limit later := by
  have registers : station.service.GrowsBy (· = schema) (· = schema.id)
      (Service.register schema station.service).service :=
    Service.register_growsBy schema station.service
  have settles : (Service.register schema station.service).service.GrowsBy (· = schema)
      (· = schema.id) later.service := by
    rw [service]
    split
    · exact Service.markReplicated_growsBy schema.id _
    · exact .refl _
  have grows := registers.trans settles
  have marks : ∀ schemaId, later.service.isReplicated schemaId = true ↔
      (schema.id = schemaId ∧ request.granted limit = true) ∨
        station.service.isReplicated schemaId = true := by
    intro schemaId
    have before : (Service.register schema station.service).service.isReplicated schemaId =
        station.service.isReplicated schemaId := by
      rw [Service.isReplicated, Service.isReplicated, Service.replicated_register]
    rw [service]
    by_cases granted : request.granted limit = true
    · rw [if_pos granted, Service.isReplicated_markReplicated, before, and_iff_left granted,
        eq_comm]
    · simp [before, granted]
  have held : later.service.registry.find? schema.id = some schema :=
    settles.registry.keeps (Service.register_ok accepted).2
  constructor
  · rw [grows.config]
    exact book.sameLimit
  · rw [grows.interrupted]
    exact book.isOpen
  · intro schemaId
    rw [marks, book.marked, requests, ← subject]
    simp only [List.mem_append, List.mem_singleton, or_and_right, exists_or, exists_eq_left]
    exact or_comm
  · intro schemaId
    have before := book.once schemaId
    rw [requests, Request.grants, List.countP_append]
    by_cases same : schema.id = schemaId
    · have none := book.no_grants (same ▸ unmarked)
      have atMost := List.countP_le_length (p := fun request : Request =>
        decide (request.schema.id = schemaId) && request.granted limit) (l := [request])
      rw [Request.grants] at none
      rw [List.length_singleton] at atMost
      omega
    · have other : ¬ request.schema.id = schemaId := by
        rw [subject]
        exact same
      rw [Request.grants] at before
      simpa [other] using before
  · apply book.registered_of_grows grows
    rintro _ rfl
    exact ⟨schema, rfl, held⟩

theorem put (book : Bookkept limit station) (schema : Schema) :
    Bookkept limit (exchange.recorded.environment.put schema station).2 := by
  have registers : station.service.GrowsBy (· = schema) (fun _ => False)
      (Service.register schema station.service).service :=
    Service.register_growsBy schema station.service
  rcases exchange.put_recorded schema station with
    ⟨_, _, _, requests, service⟩ | ⟨_, _, _, requests, service⟩ |
      ⟨accepted, unmarked, _, requests, service⟩
  · have grows : station.service.GrowsBy (· = schema) (fun _ => False)
        (exchange.recorded.environment.put schema station).2.service := by
      rw [service]
      exact .refl station.service
    exact book.of_unasked grows requests
  · exact book.of_unasked (service ▸ registers) requests
  · rw [book.sameLimit] at service
    exact book.of_asked accepted unmarked rfl requests service

theorem handle (book : Bookkept limit station) (call : Call) :
    Bookkept limit (exchange.recorded.environment.handle call station).2 := by
  by_cases isPut : ∃ schema, call = .put schema
  · obtain ⟨schema, rfl⟩ := isPut
    exact book.put schema
  · have other : ∀ schema, call ≠ .put schema := not_exists.1 isPut
    have marksNothing : ∀ schemaId,
        ¬ exchange.recorded.environment.Marks call station schemaId := by
      rintro _ ⟨schema, same, _⟩
      exact other schema same
    have grows := (exchange.recorded.growth.handle call station).mono (fun _ => id) marksNothing
    exact book.of_unasked grows (exchange.handle_requests other station)

theorem run (book : Bookkept limit station) (calls : List Call) :
    Bookkept limit (exchange.recorded.environment.run calls station) := by
  induction calls generalizing station with
  | nil => exact book
  | cons call rest inductionHypothesis => exact inductionHypothesis (book.handle call)

end Bookkept

/-! ## Asking again -/

/-- A call asks the replicator just if its schema can be registered and is not
marked yet. -/
theorem put_requests (schema : Schema) (station : Station (ρ × List Request)) :
    (exchange.recorded.environment.put schema station).2.requests = station.requests ++
      if (Service.register schema station.service).result.isOk
          && !station.service.isReplicated schema.id then
        [exchange.request schema station]
      else [] := by
  rcases exchange.put_recorded schema station with
    ⟨_, refused, _, requests, _⟩ | ⟨_, marked, _, requests, _⟩ |
      ⟨accepted, unmarked, _, requests, _⟩
  · simp [requests, refused, Except.isOk, Except.toBool]
  · simp [requests, marked]
  · simp [requests, accepted, unmarked, Except.isOk, Except.toBool]

/-- A registered schema that is not marked stays unmarked until it is to be
brought to the cluster again: whoever else marked its id would have to register
another schema under it. -/
theorem run_unmarked {station : Station ρ} {schema : Schema}
    (held : station.service.registry.find? schema.id = some schema)
    (unmarked : station.service.isReplicated schema.id = false) {calls : List Call}
    (absent : .put schema ∉ calls) :
    (exchange.environment.run calls station).service.isReplicated schema.id = false := by
  induction calls generalizing station with
  | nil => exact unmarked
  | cons call rest inductionHypothesis =>
      have grows := exchange.growth.handle call station
      have stillUnmarked : (exchange.environment.handle call station).2.service.isReplicated
          schema.id = false := by
        rw [Bool.eq_false_iff]
        intro mark
        rcases grows.newMark mark with before | ⟨other, isPut, sameId, succeeded⟩
        · rw [unmarked] at before
          cases before
        · have accepted := (Environment.put_ok succeeded).2
          have otherHeld := (Service.register_ok accepted).2
          have registers : station.service.GrowsBy (· = other) (fun _ => False)
              (Service.register other station.service).service :=
            Service.register_growsBy other station.service
          have schemaHeld := registers.registry.keeps held
          have same : other = schema := by
            rw [sameId] at otherHeld
            exact Option.some.inj (otherHeld.symm.trans schemaHeld)
          apply absent
          rw [isPut, same]
          exact List.mem_cons_self
      exact inductionHypothesis (grows.registry.keeps held) stillUnmarked
        fun member => absent (List.mem_cons_of_mem call member)

/-- A call whose request is refused fails in a way that is worth a retry. It has
registered its schema, and the next call for the schema asks again. -/
theorem Bookkept.put_refused {exchange : Exchange ρ} {limit : Nat} {station : Station (ρ × List Request)}
    (book : Bookkept limit station) {schema : Schema} {request : Request}
    (asked : (exchange.recorded.environment.put schema station).2.requests =
      station.requests ++ [request])
    (refused : request.granted limit = false) :
    let called := exchange.recorded.environment.put schema station
    called.1 = request.outcome limit ∧
      (∃ detail, called.1 = .error (.replication detail) ∧
        (SchemaError.replication detail).isRetryable = true) ∧
      called.2.service.find schema.id = .ok (some schema) ∧
      (∀ schemaId, called.2.service.isReplicated schemaId =
        station.service.isReplicated schemaId) ∧
      ∀ between, .put schema ∉ between →
        let retried := exchange.recorded.environment.run between called.2
        (exchange.recorded.environment.put schema retried).2.requests =
          retried.requests ++ [exchange.request schema retried] := by
  intro called
  rcases exchange.put_recorded schema station with
    ⟨_, _, _, requests, _⟩ | ⟨_, _, _, requests, _⟩ | ⟨accepted, unmarked, answer, requests, service⟩
  · simp [requests] at asked
  · simp [requests] at asked
  · obtain rfl : exchange.request schema station = request := by
      rw [requests] at asked
      exact List.singleton_inj.1 (List.append_cancel_left asked)
    rw [book.sameLimit] at answer service
    rw [if_neg (Bool.eq_false_iff.1 refused)] at service
    have isOpen : called.2.service.interrupted = false := (book.put schema).isOpen
    have held : called.2.service.registry.find? schema.id = some schema := by
      rw [service]
      exact (Service.register_ok accepted).2
    have sameMarks : ∀ schemaId, called.2.service.isReplicated schemaId =
        station.service.isReplicated schemaId := by
      intro schemaId
      rw [Service.isReplicated, Service.isReplicated, service, Service.replicated_register]
    obtain ⟨detail, failed⟩ := Request.outcome_of_refused refused
    refine ⟨answer, ⟨detail, answer.trans failed, rfl⟩, ?_, sameMarks, ?_⟩
    · rw [Service.find_of_open isOpen, held]
    · intro between absent retried
      have grows := exchange.recorded.run_growsBy between called.2
      have free : (Service.register schema retried.service).result = .ok schema := by
        apply Service.register_of_free (grows.interrupted.trans isOpen)
        intro existing found
        exact Option.some.inj (found.symm.trans (grows.registry.keeps held))
      have stillUnmarked : retried.service.isReplicated schema.id = false :=
        exchange.recorded.run_unmarked held ((sameMarks schema.id).trans unmarked) absent
      rw [put_requests, free, stillUnmarked]
      rfl

end Exchange

/-! ## The marks along a run -/

/-- Along every run of calls on a new service, whatever its replicator answers:
an id is marked exactly if a request for it was granted, it has a schema then, at
most one request for it is granted, and its mark stays. Only a call that brings a
schema to the cluster asks the replicator or marks, and it asks just if the schema
can be registered and is not marked. A conflict changes nothing and asks for
nothing; a request that is refused or too late fails in a way that is worth a
retry, keeps the schema and the marks, and is made again by the next such call. -/
theorem bookkeeping_along_run {ρ : Type} (exchange : Exchange ρ) {config : Config}
    {station : Station (ρ × List Request)} (created : Service.create config = .ok station.service)
    (unasked : station.requests = []) (calls : List Call) :
    let world := exchange.recorded.environment
    let limit := config.replicationTimeout.toNat
    let reached := world.run calls station
    (∀ schemaId,
      (reached.service.isReplicated schemaId = true ↔
        ∃ request ∈ reached.requests, request.schema.id = schemaId ∧
          request.granted limit = true) ∧
      (reached.service.isReplicated schemaId = true →
        (∃ schema, schema.id = schemaId ∧ reached.service.find schemaId = .ok (some schema)) ∧
          ∀ later, (world.run later reached).service.isReplicated schemaId = true) ∧
      Request.grants limit schemaId reached.requests ≤ 1) ∧
    (∀ call, (∀ schema, call ≠ .put schema) →
      (world.handle call reached).2.requests = reached.requests ∧
        ∀ schemaId, (world.handle call reached).2.service.isReplicated schemaId =
          reached.service.isReplicated schemaId) ∧
    (∀ schema,
      let called := world.put schema reached
      (called.2.requests = reached.requests ++
        if (Service.register schema reached.service).result.isOk
            && !reached.service.isReplicated schema.id then
          [exchange.request schema reached]
        else []) ∧
      (∀ schemaId existing incoming,
        called.1 = .error (.schemaConflict schemaId existing incoming) →
          called.2.service = reached.service ∧ called.2.requests = reached.requests) ∧
      (∀ request, called.2.requests = reached.requests ++ [request] →
        request.granted limit = false →
          called.1 = request.outcome limit ∧
          (∃ detail, called.1 = .error (.replication detail) ∧
            (SchemaError.replication detail).isRetryable = true) ∧
          called.2.service.find schema.id = .ok (some schema) ∧
          (∀ schemaId, called.2.service.isReplicated schemaId =
            reached.service.isReplicated schemaId) ∧
          ∀ between, .put schema ∉ between →
            let retried := world.run between called.2
            (world.put schema retried).2.requests =
              retried.requests ++ [exchange.request schema retried])) := by
  intro world limit reached
  have book : Exchange.Bookkept limit reached :=
    (Exchange.Bookkept.of_created created unasked).run calls
  refine ⟨?_, ?_, ?_⟩
  · intro schemaId
    refine ⟨book.marked schemaId, ?_, book.once schemaId⟩
    intro mark
    obtain ⟨schema, same, held⟩ := book.registered schemaId mark
    refine ⟨⟨schema, same, ?_⟩, fun later => (exchange.recorded.run_growsBy later reached).keepsMark mark⟩
    rw [Service.find_of_open book.isOpen, held]
  · intro call other
    exact ⟨exchange.handle_requests other reached, exchange.handle_marks other reached⟩
  · intro schema called
    refine ⟨exchange.put_requests schema reached, ?_, fun request => book.put_refused⟩
    intro schemaId existing incoming conflict
    rcases exchange.put_recorded schema reached with
      ⟨_, _, _, requests, service⟩ | ⟨_, _, answer, _⟩ | ⟨_, _, answer, _⟩
    · exact ⟨service, requests⟩
    · cases conflict.symm.trans answer
    · exact absurd (answer.symm.trans conflict) (Request.outcome_ne_conflict _ _)

/-- A replicator that fails the first time and succeeds ever after. -/
def Exchange.flaky : Exchange Nat where
  replicate _ asked :=
    ({ delay := 0, result := if asked = 0 then .error .peerGone else .ok () }, asked + 1)
  fetch _ asked := ({ delay := 0, result := .ok none }, asked)

theorem bookkeeping_along_run_flaky :
    let ping := Schema.fieldless "Ping" (by decide)
    let station : Station (Nat × List Request) := { service := .standard, replicator := (0, []) }
    let world := Exchange.flaky.recorded.environment
    let retried := world.run [.put ping, .register ping, .resolve 7] station
    let settled := world.run [.put ping, .resolve 7, .put ping, .put ping] station
    Service.create {} = .ok station.service ∧ station.requests = [] ∧
      retried.requests.map (·.granted 30000) = [false] ∧
      retried.service.isReplicated ping.id = false ∧
      (world.put ping retried).2.requests =
        retried.requests ++ [Exchange.flaky.request ping retried] ∧
      settled.requests.map (·.granted 30000) = [false, true] ∧
      settled.service.isReplicated ping.id = true := by
  intro ping station world retried settled
  have created : Service.create {} = .ok station.service := Service.create_default
  have unasked : station.requests = [] := rfl
  have facts : retried.requests.map (·.granted 30000) = [false] ∧
      settled.requests.map (·.granted 30000) = [false, true] ∧
      ∃ request ∈ settled.requests, request.schema.id = ping.id ∧
        request.granted 30000 = true := by decide +kernel
  obtain ⟨firstRefused, history, granted⟩ := facts
  obtain ⟨_, _, puts⟩ := bookkeeping_along_run .flaky created unasked []
  obtain ⟨asked, _, refused⟩ := puts ping
  obtain ⟨_, _, _, _, again⟩ := refused (Exchange.flaky.request ping station) asked rfl
  obtain ⟨marks, _, _⟩ :=
    bookkeeping_along_run .flaky created unasked [.put ping, .resolve 7, .put ping, .put ping]
  obtain ⟨earlierMarks, _, _⟩ :=
    bookkeeping_along_run .flaky created unasked [.put ping, .register ping, .resolve 7]
  refine ⟨created, unasked, firstRefused, ?_, again [.register ping, .resolve 7] (by simp),
    history, (marks ping.id).1.2 granted⟩
  rw [Bool.eq_false_iff]
  intro mark
  obtain ⟨request, member, _, early⟩ := (earlierMarks ping.id).1.1 mark
  have listed : request.granted 30000 ∈ retried.requests.map (·.granted 30000) :=
    List.mem_map_of_mem member
  have grantedThen : request.granted 30000 = true := early
  rw [firstRefused, grantedThen] at listed
  simp at listed

end CompactSchema
