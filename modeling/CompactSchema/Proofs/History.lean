import CompactSchema.Proofs.Call

/-!
Contract: what holds of a registry along every run of calls.

The replicator is a black box: it has a state of its own and answers whatever it
likes. Each call makes the registry grow by schemas that it offers, so a whole
run does, and the permanence of its entries and the ids that stay untouched follow
from the laws of growth.

Owns: services with an arbitrary replicator, runs of calls, and the calls that
end in a conflict.

Does not own: which ids were brought to the cluster.
-/

set_option autoImplicit false

namespace CompactSchema

/-! ## A service with an arbitrary replicator -/

/-- A replicator of which nothing is known but that it answers. -/
structure Exchange (ρ : Type) where
  replicate : Schema → ρ → Reply Unit × ρ
  fetch : Int64 → ρ → Reply (Option Schema) × ρ

/-- A service with the state of its replicator, a clock and a journal. -/
structure Station (ρ : Type) where
  service : Service
  replicator : ρ
  clock : Nat := 0
  journal : List Notice := []

namespace Exchange

variable {ρ : Type}

def environment (exchange : Exchange ρ) : Environment (Station ρ) where
  service := Station.service
  setService service station := { station with service }
  replicate schema station :=
    let asked := exchange.replicate schema station.replicator
    (asked.1, { station with replicator := asked.2 })
  fetch schemaId station :=
    let asked := exchange.fetch schemaId station.replicator
    (asked.1, { station with replicator := asked.2 })
  wait milliseconds station := { station with clock := station.clock + milliseconds }
  note notices station := { station with journal := station.journal ++ notices }

theorem growth (exchange : Exchange ρ) :
    exchange.environment.Growth fun offered marked earlier later =>
      earlier.service.GrowsBy offered marked later.service where
  refl := fun station => .refl station.service
  trans := fun first second => first.trans second
  mono := fun weaker weakerMark grows => grows.mono weaker weakerMark
  setService := fun grows => grows
  replicate := fun _ station => .refl station.service
  fetch := fun _ station => .refl station.service
  wait := fun _ station => .refl station.service
  note := fun _ station => .refl station.service

end Exchange

/-! ## Runs -/

/-- The state after calls have been made one after another. -/
def Environment.run {σ : Type} (environment : Environment σ) : List Call → σ → σ
  | [], state => state
  | call :: rest, state => environment.run rest (environment.handle call state).2

namespace Exchange

variable {ρ : Type} (exchange : Exchange ρ)

/-- A run makes the registry grow by schemas whose ids its calls concern. -/
theorem run_growsBy (calls : List Call) (station : Station ρ) :
    station.service.GrowsBy (fun schema => ∃ call ∈ calls, call.Concerns schema.id)
      (fun schemaId => ∃ call ∈ calls, call.Concerns schemaId)
      (exchange.environment.run calls station).service := by
  induction calls generalizing station with
  | nil => exact .refl _
  | cons call rest inductionHypothesis =>
      have first := exchange.growth.handle call station
      have others := inductionHypothesis (exchange.environment.handle call station).2
      refine (first.mono ?_ ?_).trans (others.mono ?_ ?_)
      · exact fun schema offers =>
          ⟨call, List.mem_cons_self, Environment.concerns_of_offers offers⟩
      · rintro _ ⟨schema, rfl, rfl, _⟩
        exact ⟨.put schema, List.mem_cons_self, .inl ⟨schema, List.mem_cons_self, rfl⟩⟩
      · rintro schema ⟨other, member, concerns⟩
        exact ⟨other, List.mem_cons_of_mem call member, concerns⟩
      · rintro schemaId ⟨other, member, concerns⟩
        exact ⟨other, List.mem_cons_of_mem call member, concerns⟩

/-- A run never leaves a service with its registry locked. -/
theorem run_isOpen (calls : List Call) {station : Station ρ} {config : Config}
    (created : Service.create config = .ok station.service) :
    (exchange.environment.run calls station).service.interrupted = false :=
  (exchange.run_growsBy calls station).interrupted.trans (Service.create_ok created).2.2.2

end Exchange

/-- A service comes about by creating one and calling it, with some replicator. -/
def Service.Reachable (service : Service) : Prop :=
  ∃ (ρ : Type) (exchange : Exchange ρ) (config : Config) (station : Station ρ)
    (calls : List Call), Service.create config = .ok station.service ∧
      service = (exchange.environment.run calls station).service

theorem Service.Reachable.isOpen {service : Service} (reachable : service.Reachable) :
    service.interrupted = false := by
  obtain ⟨_, exchange, _, _, calls, created, rfl⟩ := reachable
  exact exchange.run_isOpen calls created

/-! ## Conflicts -/

namespace Answer

/-- The error of a call that registers one schema. -/
def error? : Answer → Option SchemaError
  | .schema (.error error) => some error
  | .done (.error error) => some error
  | _ => none

/-- The call failed because another schema has the id. -/
def Conflicts (answer : Answer) : Prop :=
  ∃ schemaId existing incoming, answer.error? = some (.schemaConflict schemaId existing incoming)

end Answer

/-- The one schema that a call is to register. -/
def Call.subject? : Call → Option Schema
  | .put schema => some schema
  | .register schema => some schema
  | .accept schema => some schema
  | _ => none

namespace Environment

variable {σ : Type} {environment : Environment σ}

/-- Once its schema is registered, `put` can only fail because of the cluster. -/
theorem put_error_of_registered {schema : Schema} {state : σ}
    (registered : (Service.register schema (environment.service state)).result = .ok schema)
    {error : SchemaError} (failed : (environment.put schema state).1 = .error error) :
    ∃ detail, error = .replication detail := by
  rcases environment.put_cases schema state with
    ⟨_, refused, _⟩ | ⟨_, _, outcome⟩ | ⟨_, _, outcome⟩
  · rw [perform_result, registered] at refused
    cases refused
  · rw [outcome] at failed
    cases failed
  · rw [outcome] at failed
    rcases environment.publish_cases schema _ with
      ⟨_, _, published⟩ | ⟨_, _, _, published⟩ | ⟨_, published⟩ <;>
      rw [published] at failed <;> cases failed
    · exact ⟨_, rfl⟩
    · exact ⟨_, rfl⟩

theorem put_of_refused {schema : Schema} {state : σ} {error : SchemaError}
    (refused : (Service.register schema (environment.service state)).result = .error error) :
    environment.put schema state =
      (.error error, (environment.perform (Service.register schema) state).2) := by
  rcases environment.put_cases schema state with
    ⟨_, failed, outcome⟩ | ⟨succeeded, _, _⟩ | ⟨succeeded, _, _⟩
  · rw [perform_result, refused] at failed
    rw [outcome, Except.error.inj failed]
  · rw [perform_result, refused] at succeeded
    cases succeeded
  · rw [perform_result, refused] at succeeded
    cases succeeded

/-- A schema whose id another one has is refused, with the texts of both. -/
theorem handle_taken {ρ : Type} (exchange : Exchange ρ) {call : Call} {schema existing : Schema}
    (subject : call.subject? = some schema) {station : Station ρ}
    (isOpen : station.service.interrupted = false)
    (held : station.service.registry.find? schema.id = some existing)
    (different : existing ≠ schema) :
    (exchange.environment.handle call station).1.error? =
        some (Service.conflict existing schema) ∧
      (exchange.environment.handle call station).2.service = station.service := by
  have outcome : Service.register schema station.service =
      { result := .error (Service.conflict existing schema), service := station.service
        notices := [.idTaken existing schema] } :=
    Service.register_of_taken isOpen held different
  have kept : (Service.register schema station.service).service = station.service := by
    rw [outcome]
  cases call with
  | put other =>
      obtain rfl := Option.some.inj subject
      have refused : exchange.environment.put other station =
          (.error (Service.conflict existing other),
            (exchange.environment.perform (Service.register other) station).2) :=
        put_of_refused (congrArg Effect.result outcome)
      rw [handle, refused]
      exact ⟨rfl, kept⟩
  | register other =>
      obtain rfl := Option.some.inj subject
      refine ⟨?_, kept⟩
      show (Answer.schema (Service.register other station.service).result).error? = _
      rw [outcome]
      rfl
  | accept other =>
      obtain rfl := Option.some.inj subject
      refine ⟨?_, kept⟩
      show (Answer.done (Service.accept other station.service).result).error? = _
      rw [Service.accept, outcome]
      rfl
  | registerAll _ => cases subject
  | registerText _ => cases subject
  | resolve _ => cases subject
  | read _ => cases subject

/-- A schema whose id is free or its own is not refused. -/
theorem not_conflicts_of_free {call : Call} {schema : Schema}
    (subject : call.subject? = some schema) {state : σ}
    (isOpen : (environment.service state).interrupted = false)
    (free : ∀ existing, (environment.service state).registry.find? schema.id = some existing →
      existing = schema) :
    ¬ (environment.handle call state).1.Conflicts := by
  have registered := Service.register_of_free isOpen free
  rintro ⟨_, existing, incoming, failed⟩
  cases call with
  | put other =>
      obtain rfl := Option.some.inj subject
      cases outcome : (environment.put other state).1 with
      | ok _ => simp [handle, outcome, Answer.error?] at failed
      | error error =>
          obtain ⟨detail, rfl⟩ := put_error_of_registered registered outcome
          simp [handle, outcome, Answer.error?] at failed
  | register other =>
      obtain rfl := Option.some.inj subject
      simp [handle, perform, registered, Answer.error?] at failed
  | accept other =>
      obtain rfl := Option.some.inj subject
      simp [handle, perform, Service.accept, registered, Except.map, Answer.error?] at failed
  | registerAll _ => cases subject
  | registerText _ => cases subject
  | resolve _ => cases subject
  | read _ => cases subject

end Environment

/-! ## The registry along a run -/

/-- Along every run of calls on a new service, whatever its replicator answers:
the registry holds at most one schema under an id, each under the fingerprint of
its own type name and fields; what was found under an id once is found under it
ever after, with the same layout; a call leaves every id alone that it was not
asked to register; and a schema is refused exactly while another one has its id,
which changes nothing in the registry. -/
theorem registry_along_run {ρ : Type} (exchange : Exchange ρ) {config : Config}
    {station : Station ρ} (created : Service.create config = .ok station.service)
    (calls : List Call) (call : Call) :
    let reached := exchange.environment.run calls station
    let handled := exchange.environment.handle call reached
    (Entries.Ordered reached.service.registry.entries ∧
      ∀ entry ∈ reached.service.registry.entries,
        entry.2.id = entry.1 ∧ Entries.Ordered entry.2.fields ∧
          entry.1 = Fingerprint.compute entry.2.typeName entry.2.fields) ∧
    (∀ schemaId schema, reached.service.find schemaId = .ok (some schema) → ∀ later, ∃ kept,
      (exchange.environment.run later reached).service.find schemaId = .ok (some kept) ∧
        kept = schema ∧ kept.descriptors = schema.descriptors) ∧
    (∀ schemaId, ¬ call.Concerns schemaId →
      handled.2.service.registry.find? schemaId = reached.service.registry.find? schemaId) ∧
    (∀ schema, call.subject? = some schema →
      (handled.1.Conflicts ↔ ∃ existing,
        reached.service.registry.find? schema.id = some existing ∧ existing ≠ schema) ∧
      ∀ existing, reached.service.registry.find? schema.id = some existing → existing ≠ schema →
        handled.1.error? = some (Service.conflict existing schema) ∧
          handled.2.service.registry = reached.service.registry) := by
  intro reached handled
  have isOpen : reached.service.interrupted = false := exchange.run_isOpen calls created
  refine ⟨⟨reached.service.registry.ordered, ?_⟩, ?_, ?_, ?_⟩
  · intro entry member
    have keyed := reached.service.registry.keyed entry member
    exact ⟨keyed, entry.2.ordered, keyed.symm⟩
  · intro schemaId schema found later
    have grows := exchange.run_growsBy later reached
    have stillOpen : (exchange.environment.run later reached).service.interrupted = false :=
      grows.interrupted.trans isOpen
    have held : reached.service.registry.find? schemaId = some schema := by
      rw [Service.find_of_open isOpen] at found
      exact Except.ok.inj found
    refine ⟨schema, ?_, rfl, rfl⟩
    rw [Service.find_of_open stillOpen]
    exact congrArg Except.ok (grows.registry.keeps held)
  · intro schemaId untouched
    apply (exchange.growth.handle call reached).registry.frame
    rintro schema offers rfl
    exact untouched (Environment.concerns_of_offers offers)
  · intro schema subject
    have taken : ∀ existing, reached.service.registry.find? schema.id = some existing →
        existing ≠ schema → handled.1.error? = some (Service.conflict existing schema) ∧
          handled.2.service.registry = reached.service.registry := by
      intro existing held different
      obtain ⟨failed, unchanged⟩ :=
        Environment.handle_taken exchange subject isOpen held different
      exact ⟨failed, congrArg Service.registry unchanged⟩
    refine ⟨⟨?_, ?_⟩, taken⟩
    · intro conflicts
      apply Classical.byContradiction
      intro free
      refine Environment.not_conflicts_of_free subject isOpen ?_ conflicts
      intro existing held
      exact Classical.byContradiction fun different => free ⟨existing, held, different⟩
    · rintro ⟨existing, held, different⟩
      exact ⟨_, _, _, (taken existing held different).1⟩

/-- A replicator that reaches no one. -/
def Exchange.isolated : Exchange Unit where
  replicate _ replicator := ({ delay := 0, result := .error .peerGone }, replicator)
  fetch _ replicator := ({ delay := 0, result := .ok none }, replicator)

/-- A schema that could not be brought to the cluster stays registered. -/
theorem registry_along_run_isolated :
    let ping := Schema.fieldless "Ping" (by decide)
    let station : Station Unit := { service := .standard, replicator := () }
    let reached := Exchange.isolated.environment.run [.put ping] station
    Service.create {} = .ok station.service ∧
      ∃ kept, (Exchange.isolated.environment.run [.put ping, .resolve 7] reached).service.find
          ping.id = .ok (some kept) ∧
        kept = ping ∧ kept.descriptors = ping.descriptors := by
  intro ping station reached
  have found : reached.service.find ping.id = .ok (some ping) :=
    congrArg Except.ok (Registry.find?_insert_self .empty ping)
  exact ⟨Service.create_default,
    (registry_along_run .isolated Service.create_default [.put ping] (.resolve 7)).2.1
      ping.id ping found [.put ping, .resolve 7]⟩

namespace Service

theorem reachable_standard : standard.Reachable :=
  ⟨Unit, .isolated, {}, { service := standard, replicator := () }, [], create_default, rfl⟩

theorem reachable_register (schema : Schema) : (register schema standard).service.Reachable :=
  ⟨Unit, .isolated, {}, { service := standard, replicator := () }, [.register schema],
    create_default, rfl⟩

end Service

end CompactSchema
