import CompactSchema.Proofs.Service

/-!
Contract: what registering many schemas in turn comes to.

As long as no id is taken by another schema, neither by a registered one nor by one of
the list, every id keeps what it holds and a free one takes what the list has for it.
The first schema of the list whose id is taken ends the call, and what stood before it in
the list stays registered.

Owns: the outcome of registering a list of schemas, in terms of lookups.

Does not own: where the list comes from, see `Proofs.Snapshot`.
-/

set_option autoImplicit false

namespace CompactSchema

namespace Registry

/-- The id of a schema is free or its own. -/
def Admits (registry : Registry) (schema : Schema) : Prop :=
  ∀ existing, registry.find? schema.id = some existing → existing = schema

/-- No schema of a list takes an id from a registered one or from another of the list. -/
structure AdmitsAll (registry : Registry) (schemas : List Schema) : Prop where
  each : ∀ schema ∈ schemas, registry.Admits schema
  agree : ∀ first ∈ schemas, ∀ second ∈ schemas, first.id = second.id → first = second

theorem GrowsBy.admits {registry later : Registry} {schema : Schema}
    (grows : registry.GrowsBy (· = schema) later) (admits : registry.Admits schema) :
    later.Admits schema := by
  intro existing held
  rcases grows.origin held with before | ⟨same, _⟩
  · exact admits existing before
  · exact same

theorem AdmitsAll.of_mem {registry : Registry} {schemas others : List Schema}
    (admits : registry.AdmitsAll schemas) (within : ∀ schema ∈ others, schema ∈ schemas) :
    registry.AdmitsAll others where
  each := fun schema member => admits.each schema (within schema member)
  agree := fun first firstMember second secondMember =>
    admits.agree first (within first firstMember) second (within second secondMember)

/-- What is left of an admitted list is admitted once the schemas before it are registered. -/
theorem AdmitsAll.remaining {registry later : Registry} {before after : List Schema}
    (admits : registry.AdmitsAll (before ++ after))
    (lookup : ∀ schemaId,
      later.find? schemaId = (registry.find? schemaId).or (listed? schemaId before)) :
    later.AdmitsAll after where
  each := by
    intro schema member existing held
    have listed : schema ∈ before ++ after := List.mem_append_right _ member
    rw [lookup] at held
    rcases Option.or_eq_some_iff.1 held with registered | ⟨_, earlier⟩
    · exact admits.each schema listed existing registered
    · obtain ⟨existingMember, same⟩ := listed?_eq_some earlier
      exact admits.agree existing (List.mem_append_left _ existingMember) schema listed same
  agree := (admits.of_mem fun _ => List.mem_append_right before).agree

/-- An admitted schema of a list is what is found under its id once all are registered. -/
theorem AdmitsAll.or_listed?_eq {registry : Registry} {schemas : List Schema}
    (admits : registry.AdmitsAll schemas) {schema : Schema} (member : schema ∈ schemas) :
    (registry.find? schema.id).or (listed? schema.id schemas) = some schema := by
  cases held : registry.find? schema.id with
  | some existing => rw [Option.some_or, admits.each schema member existing held]
  | none =>
      cases found : listed? schema.id schemas with
      | none => exact absurd rfl (listed?_eq_none_iff.1 found schema member)
      | some first =>
          obtain ⟨firstMember, same⟩ := listed?_eq_some found
          rw [Option.none_or, admits.agree first firstMember schema member same]

end Registry

namespace Service

variable {service : Service}

theorem interrupted_register (schema : Schema) (service : Service) :
    (register schema service).service.interrupted = service.interrupted := by
  have grows : service.GrowsBy (· = schema) (fun _ => False) (register schema service).service :=
    register_growsBy schema service
  exact grows.interrupted

theorem interrupted_registerAll (schemas : List Schema) (service : Service) :
    (registerAll schemas service).service.interrupted = service.interrupted := by
  have grows : service.GrowsBy (· ∈ schemas) (fun _ => False)
      (registerAll schemas service).service :=
    registerAll_growsBy schemas service
  exact grows.interrupted

theorem replicated_registerAll (schemas : List Schema) (service : Service) :
    (registerAll schemas service).service.replicated = service.replicated := by
  induction schemas generalizing service with
  | nil => rfl
  | cons schema rest inductionHypothesis =>
      rw [registerAll]
      split
      · exact replicated_register schema service
      · exact (inductionHypothesis _).trans (replicated_register schema service)

/-- A schema that is admitted fills its id if that is free, and changes nothing else. -/
theorem find?_register {schema : Schema} (isOpen : service.interrupted = false)
    (admits : service.registry.Admits schema) (schemaId : Int64) :
    (register schema service).service.registry.find? schemaId =
      (service.registry.find? schemaId).or (if schema.id = schemaId then some schema else none) := by
  rcases register_cases schema isOpen with
    ⟨free, outcome⟩ | ⟨held, outcome⟩ | ⟨existing, held, different, _⟩
  · rw [outcome, Registry.find?_insert]
    by_cases same : schema.id = schemaId
    · subst same
      simp [free]
    · simp [same]
  · rw [outcome]
    by_cases same : schema.id = schemaId
    · subst same
      simp [held]
    · simp [same]
  · exact absurd (admits existing held) different

theorem admitsAll_register {schema : Schema} {rest : List Schema}
    (isOpen : service.interrupted = false)
    (admits : service.registry.AdmitsAll (schema :: rest)) :
    (register schema service).service.registry.AdmitsAll rest := by
  have inTurn : service.registry.AdmitsAll ([schema] ++ rest) := admits
  apply inTurn.remaining
  intro schemaId
  rw [find?_register isOpen (admits.each schema List.mem_cons_self), Registry.listed?_cons]
  rfl

theorem registerAll_cons {schema registered : Schema}
    (passed : (register schema service).result = .ok registered) (rest : List Schema) :
    (registerAll (schema :: rest) service).result =
        (registerAll rest (register schema service).service).result ∧
      (registerAll (schema :: rest) service).service =
        (registerAll rest (register schema service).service).service := by
  rw [registerAll, passed]
  exact ⟨rfl, rfl⟩

theorem registerAll_of_admitsAll {schemas : List Schema} (isOpen : service.interrupted = false)
    (admits : service.registry.AdmitsAll schemas) :
    (registerAll schemas service).result = .ok () ∧
      ∀ schemaId, (registerAll schemas service).service.registry.find? schemaId =
        (service.registry.find? schemaId).or (Registry.listed? schemaId schemas) := by
  induction schemas generalizing service with
  | nil => exact ⟨rfl, fun schemaId => (Option.or_none ..).symm⟩
  | cons schema rest inductionHypothesis =>
      have admitsFirst := admits.each schema List.mem_cons_self
      obtain ⟨sameResult, sameService⟩ :=
        registerAll_cons (register_of_free isOpen admitsFirst) rest
      obtain ⟨succeeded, lookup⟩ :=
        inductionHypothesis ((interrupted_register schema service).trans isOpen)
          (admitsAll_register isOpen admits)
      refine ⟨sameResult.trans succeeded, fun schemaId => ?_⟩
      rw [sameService, lookup, find?_register isOpen admitsFirst, Option.or_assoc,
        Registry.listed?_cons]
      split <;> simp

theorem registerAll_append {before : List Schema}
    (passed : (registerAll before service).result = .ok ()) (after : List Schema) :
    (registerAll (before ++ after) service).result =
        (registerAll after (registerAll before service).service).result ∧
      (registerAll (before ++ after) service).service =
        (registerAll after (registerAll before service).service).service := by
  induction before generalizing service with
  | nil => exact ⟨rfl, rfl⟩
  | cons schema rest inductionHypothesis =>
      cases outcome : (register schema service).result with
      | error error =>
          rw [registerAll, outcome] at passed
          cases passed
      | ok registered =>
          have first := registerAll_cons outcome rest
          have whole := registerAll_cons outcome (rest ++ after)
          rw [first.1] at passed
          obtain ⟨sameResult, sameService⟩ := inductionHypothesis passed
          rw [first.2]
          exact ⟨whole.1.trans sameResult, whole.2.trans sameService⟩

/-- The first schema that is refused ends the call. -/
theorem registerAll_of_refused {before : List Schema} {incoming : Schema} {error : SchemaError}
    (passed : (registerAll before service).result = .ok ())
    (refused : (register incoming (registerAll before service).service).result = .error error)
    (after : List Schema) :
    (registerAll (before ++ incoming :: after) service).result = .error error ∧
      (registerAll (before ++ incoming :: after) service).service =
        (registerAll before service).service := by
  obtain ⟨sameResult, sameService⟩ := registerAll_append passed (incoming :: after)
  rw [sameResult, sameService, registerAll, refused]
  exact ⟨rfl, register_refused refused⟩

/-- A schema whose id another one has is refused, be it registered or one before it. -/
theorem registerAll_of_taken {before : List Schema} {schema existing : Schema}
    (isOpen : service.interrupted = false) (admits : service.registry.AdmitsAll before)
    (held : (service.registry.find? schema.id).or (Registry.listed? schema.id before) =
      some existing) (different : existing ≠ schema) (after : List Schema) :
    (registerAll (before ++ schema :: after) service).result =
        .error (conflict existing schema) ∧
      (registerAll (before ++ schema :: after) service).service =
        (registerAll before service).service := by
  obtain ⟨passed, lookup⟩ := registerAll_of_admitsAll isOpen admits
  have stillOpen : (registerAll before service).service.interrupted = false :=
    (interrupted_registerAll before service).trans isOpen
  rw [← lookup] at held
  exact registerAll_of_refused passed
    (congrArg Effect.result (register_of_taken stillOpen held different)) after

theorem registerText_of_listed {content : String} {schemas : List Schema}
    (listed : Schema.listOfJsonText content = .ok schemas) (service : Service) :
    (registerText content service).result =
        ((registerAll schemas service).result.mapError Failure.schema).map
          (fun _ => schemas.length) ∧
      (registerText content service).service = (registerAll schemas service).service := by
  rw [registerText, listed]
  exact ⟨rfl, rfl⟩

end Service

end CompactSchema
