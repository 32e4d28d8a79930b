import CompactSchema.Proofs.Snapshot
import CompactSchema.Proofs.Schema.Listing
import Mathlib.Data.Finset.Card
import Mathlib.Data.Finset.SDiff

/-!
Contract: the order in which schemas are registered does not matter.

However a collection of schemas is spread over calls that register, the calls together do
what one call does that is given all of them in a row. What is found under an id then
depends on which schemas there are, and neither on their order nor on how often each is
given. A registry is determined by what is found in it, so all ways to register the
collection end in the same registry.

Owns: calls that only register, and the registry that a collection leads to.

Does not own: collections in which two schemas have one id, see `Proofs.BulkLoad`.
-/

set_option autoImplicit false

namespace CompactSchema

/-! ## What a collection leads to -/

namespace Registry

variable {registry later : Registry} {schemas others : List Schema}

/-- What a list has under an id does not depend on order and repetition, if the schemas of
the list agree on their ids. -/
theorem AdmitsAll.listed?_eq (admits : registry.AdmitsAll schemas)
    (same : ∀ schema, schema ∈ others ↔ schema ∈ schemas) (schemaId : Int64) :
    listed? schemaId others = listed? schemaId schemas := by
  cases found : listed? schemaId schemas with
  | none =>
      rw [listed?_eq_none_iff] at found ⊢
      exact fun schema member => found schema ((same schema).1 member)
  | some schema =>
      obtain ⟨member, hasId⟩ := listed?_eq_some found
      cases foundOther : listed? schemaId others with
      | none =>
          exact absurd hasId (listed?_eq_none_iff.1 foundOther schema ((same schema).2 member))
      | some other =>
          obtain ⟨otherMember, otherHasId⟩ := listed?_eq_some foundOther
          rw [admits.agree other ((same other).1 otherMember) schema member
            (otherHasId.trans hasId.symm)]

theorem mem_ids_iff {schemaId : Int64} :
    schemaId ∈ registry.ids ↔ registry.find? schemaId ≠ none := by
  rw [ids, find?, Ne, Entries.find?_eq_none_iff, Decidable.not_not]

theorem size_eq (registry : Registry) : registry.size = registry.ids.toFinset.card := by
  rw [ids, List.toFinset_card_of_nodup (Entries.nodup_keys registry.ordered), Entries.keys,
    List.length_map, size]

/-- Every id of the schemas that was not in use counts once. -/
theorem size_of_lookup (lookup : ∀ schemaId,
      later.find? schemaId = (registry.find? schemaId).or (listed? schemaId schemas)) :
    later.size =
      registry.size + ((schemas.map Schema.id).toFinset \ registry.ids.toFinset).card := by
  have inUse : later.ids.toFinset = (schemas.map Schema.id).toFinset ∪ registry.ids.toFinset := by
    ext schemaId
    rw [Finset.mem_union, List.mem_toFinset, List.mem_toFinset, List.mem_toFinset, mem_ids_iff,
      mem_ids_iff, lookup, Ne, Option.or_eq_none_iff, listed?_eq_none_iff, List.mem_map]
    constructor
    · intro found
      by_cases held : registry.find? schemaId = none
      · left
        by_contra none
        exact found ⟨held, fun schema member same => none ⟨schema, member, same⟩⟩
      · exact .inr held
    · rintro (⟨schema, member, same⟩ | held) ⟨missing, unlisted⟩
      · exact unlisted schema member same
      · exact held missing
  rw [later.size_eq, registry.size_eq, inUse, ← Finset.card_sdiff_add_card, Nat.add_comm]

end Registry

/-! ## Calls that register -/

/-- The call succeeded. -/
def Answer.isOk : Answer → Bool
  | .schema result => result.isOk
  | .done result => result.isOk
  | .count result => result.isOk
  | .found result => result.isOk
  | .ids result => result.isOk
  | .size result => result.isOk
  | .flag result => result.isOk
  | .text result => result.isOk

/-- The answers to calls that are made one after another. -/
def Environment.answers {σ : Type} (environment : Environment σ) : List Call → σ → List Answer
  | [], _ => []
  | call :: rest, state =>
    (environment.handle call state).1 :: environment.answers rest (environment.handle call state).2

namespace Call

/-- A call that registers schemas with the service alone. A text has to list them. -/
def Registers : Call → Prop
  | .register _ => True
  | .registerAll _ => True
  | .registerText content => ∃ schemas, Schema.Lists content schemas
  | .accept _ => True
  | _ => False

theorem given_of_lists {content : String} {schemas : List Schema}
    (lists : Schema.Lists content schemas) : (registerText content).given = schemas := by
  rw [given, Service.listedSchemas, Schema.listOfJsonText_eq_ok_iff.2 lists]

/-- The calls register the schemas of a list, all of them and no others, in some order and
each at least once. -/
structure Spread (calls : List Call) (schemas : List Schema) : Prop where
  registers : ∀ call ∈ calls, call.Registers
  same : ∀ schema, schema ∈ calls.flatMap given ↔ schema ∈ schemas

end Call

namespace Service

theorem admitsAll_registerAll {service : Service} {before after : List Schema}
    (isOpen : service.interrupted = false)
    (admits : service.registry.AdmitsAll (before ++ after)) :
    (registerAll before service).service.registry.AdmitsAll after := by
  apply admits.remaining
  apply (registerAll_of_admitsAll isOpen (admits.of_mem _)).2
  exact fun schema member => List.mem_append_left _ member

theorem registerAll_singleton (schema : Schema) (service : Service) :
    (registerAll [schema] service).result = (register schema service).result.map (fun _ => ()) ∧
      (registerAll [schema] service).service = (register schema service).service := by
  simp only [registerAll]
  cases (register schema service).result <;> exact ⟨rfl, rfl⟩

end Service

namespace Exchange

variable {ρ : Type} (exchange : Exchange ρ)

theorem handle_of_registers {call : Call} (registers : call.Registers) (station : Station ρ) :
    (exchange.environment.handle call station).1.isOk =
        (Service.registerAll call.given station.service).result.isOk ∧
      (exchange.environment.handle call station).2.service =
        (Service.registerAll call.given station.service).service := by
  cases call with
  | register schema =>
      obtain ⟨sameResult, sameService⟩ := Service.registerAll_singleton schema station.service
      rw [Call.given, sameResult, sameService]
      refine ⟨?_, rfl⟩
      show (Service.register schema station.service).result.isOk = _
      cases (Service.register schema station.service).result <;> rfl
  | registerAll schemas => exact ⟨rfl, rfl⟩
  | registerText content =>
      obtain ⟨schemas, lists⟩ := registers
      obtain ⟨sameResult, sameService⟩ := Service.registerText_of_listed
        (Schema.listOfJsonText_eq_ok_iff.2 lists) station.service
      rw [Call.given_of_lists lists]
      refine ⟨?_, sameService⟩
      show (Service.registerText content station.service).result.isOk = _
      rw [sameResult]
      cases (Service.registerAll schemas station.service).result <;> rfl
  | accept schema =>
      obtain ⟨sameResult, sameService⟩ := Service.registerAll_singleton schema station.service
      rw [Call.given, sameResult, sameService]
      exact ⟨rfl, rfl⟩
  | put _ => cases registers
  | resolve _ => cases registers
  | read _ => cases registers

/-- Calls that register do together what one call does that is given all their schemas. -/
theorem run_of_registers {calls : List Call} (registers : ∀ call ∈ calls, call.Registers)
    {station : Station ρ} (isOpen : station.service.interrupted = false)
    (admits : station.service.registry.AdmitsAll (calls.flatMap Call.given)) :
    (∀ answer ∈ exchange.environment.answers calls station, answer.isOk = true) ∧
      (exchange.environment.run calls station).service =
        (Service.registerAll (calls.flatMap Call.given) station.service).service := by
  induction calls generalizing station with
  | nil => exact ⟨fun _ member => absurd member List.not_mem_nil, rfl⟩
  | cons call rest inductionHypothesis =>
      rw [List.flatMap_cons] at admits ⊢
      obtain ⟨succeeds, sameService⟩ :=
        exchange.handle_of_registers (registers call List.mem_cons_self) station
      have passed : (Service.registerAll call.given station.service).result = .ok () :=
        (Service.registerAll_of_admitsAll isOpen
          (admits.of_mem fun schema member => List.mem_append_left _ member)).1
      have stillOpen :
          (exchange.environment.handle call station).2.service.interrupted = false := by
        rw [sameService, Service.interrupted_registerAll, isOpen]
      -- The schemas of the later calls are admitted by what the first call leaves behind.
      have remaining := Service.admitsAll_registerAll isOpen admits
      rw [← sameService] at remaining
      obtain ⟨othersSucceed, reached⟩ := inductionHypothesis
        (fun other member => registers other (List.mem_cons_of_mem _ member)) stillOpen remaining
      constructor
      · intro answer member
        rcases List.mem_cons.1 member with rfl | later
        · rw [succeeds, passed]
          rfl
        · exact othersSucceed answer later
      · rw [(Service.registerAll_append passed _).2, ← sameService]
        exact reached

end Exchange

/-! ## Two ways to register a collection -/

section

variable {ρ : Type} (exchange : Exchange ρ) {station : Station ρ}
  (reachable : station.service.Reachable) {schemas : List Schema}
  (admits : station.service.registry.AdmitsAll schemas)

include reachable admits

/-- What registering a collection comes to, told without the way it is done. -/
theorem Call.Spread.outcome {calls : List Call} (spread : Call.Spread calls schemas) :
    let reached := (exchange.environment.run calls station).service
    (∀ answer ∈ exchange.environment.answers calls station, answer.isOk = true) ∧
      reached.interrupted = false ∧ ∀ schemaId, reached.registry.find? schemaId =
        (station.service.registry.find? schemaId).or (Registry.listed? schemaId schemas) := by
  intro reached
  have isOpen := reachable.isOpen
  have admitsGiven := admits.of_mem fun schema member => (spread.same schema).1 member
  obtain ⟨succeed, atOnce⟩ := exchange.run_of_registers spread.registers isOpen admitsGiven
  have grows := exchange.run_growsBy calls station
  refine ⟨succeed, grows.interrupted.trans isOpen, ?_⟩
  intro schemaId
  rw [← admits.listed?_eq spread.same, ← (Service.registerAll_of_admitsAll isOpen admitsGiven).2]
  exact congrArg (fun service => service.registry.find? schemaId) atOnce

/-- A collection of schemas, of which no two different ones have one id and none has the id of
a different registered one, can be spread over calls in any way: every call succeeds, and the
registry, its ids, their number and its snapshot are the same in the end. -/
theorem registrations_converge {calls others : List Call} (spread : Call.Spread calls schemas)
    (otherSpread : Call.Spread others schemas) :
    let before := station.service.registry
    let reached := (exchange.environment.run calls station).service
    let alternative := (exchange.environment.run others station).service
    ((∀ answer ∈ exchange.environment.answers calls station, answer.isOk = true) ∧
      ∀ answer ∈ exchange.environment.answers others station, answer.isOk = true) ∧
    reached.registry = alternative.registry ∧
    (∀ schemaId, reached.find schemaId =
      .ok ((before.find? schemaId).or (Registry.listed? schemaId schemas))) ∧
    ∃ ids size content,
      (reached.ids = .ok ids ∧ alternative.ids = .ok ids) ∧
      (reached.size = .ok size ∧ alternative.size = .ok size) ∧
      size = before.size + ((schemas.map Schema.id).toFinset \ before.ids.toFinset).card ∧
      reached.snapshot = .ok content ∧ alternative.snapshot = .ok content := by
  intro before reached alternative
  obtain ⟨succeed, isOpen, lookup⟩ := spread.outcome exchange reachable admits
  obtain ⟨othersSucceed, otherOpen, otherLookup⟩ :=
    otherSpread.outcome exchange reachable admits
  have same : reached.registry = alternative.registry :=
    Registry.eq_of_find?_eq fun schemaId =>
      (lookup schemaId).trans (otherLookup schemaId).symm
  refine ⟨⟨succeed, othersSucceed⟩, same, ?_, reached.registry.ids, reached.registry.size, _,
    ⟨?_, ?_⟩, ⟨?_, ?_⟩, ?_, Service.snapshot_of_open isOpen, ?_⟩
  · intro schemaId
    rw [Service.find_of_open isOpen, lookup]
  · exact Service.ids_of_open isOpen
  · rw [Service.ids_of_open otherOpen, same]
  · exact Service.size_of_open isOpen
  · rw [Service.size_of_open otherOpen, same]
  · exact Registry.size_of_lookup lookup
  · rw [Service.snapshot_of_open otherOpen, same]

end

/-- Two schemas are handed over as a text and by another member, or one by one and once more
together in the other order. -/
theorem registrations_converge_two :
    let ping := Schema.fieldless "Ping" (by decide)
    let pong := Schema.fieldless "Pong" (by decide)
    let station : Station Unit := { service := .standard, replicator := () }
    let run := Exchange.isolated.environment.run
    ∃ content,
      (run [.registerText (Json.array ([pong, ping].map Schema.toJson)).text, .accept ping]
        station).service.snapshot = .ok content ∧
      (run [.register ping, .accept pong, .registerAll [ping, pong]]
        station).service.snapshot = .ok content ∧
      (run [.register ping, .accept pong, .registerAll [ping, pong]]
        station).service.size = .ok 2 := by
  intro ping pong station run
  have different : ping.id ≠ pong.id := by decide +kernel
  have lists := Schema.lists_text [pong, ping]
  have admits : station.service.registry.AdmitsAll [ping, pong] := by
    constructor
    · intro schema _ existing held
      cases held
    · simp only [List.forall_mem_cons, List.not_mem_nil, false_implies, implies_true, and_true]
      exact ⟨⟨trivial, fun same => absurd same different⟩,
        fun same => absurd same.symm different⟩
  have spread : Call.Spread
      [.registerText (Json.array ([pong, ping].map Schema.toJson)).text, .accept ping]
      [ping, pong] := by
    constructor
    · simp only [List.forall_mem_cons]
      exact ⟨⟨_, lists⟩, trivial, fun _ member => absurd member List.not_mem_nil⟩
    · intro schema
      rw [List.flatMap_cons, Call.given_of_lists lists]
      simp [Call.given, or_comm]
  have otherSpread : Call.Spread [.register ping, .accept pong, .registerAll [ping, pong]]
      [ping, pong] := by
    constructor
    · simp only [List.forall_mem_cons]
      exact ⟨trivial, trivial, trivial, fun _ member => absurd member List.not_mem_nil⟩
    · intro schema
      simp only [Call.given, List.flatMap_cons, List.flatMap_nil, List.mem_append, List.mem_cons,
        List.not_mem_nil, or_false]
      rw [← or_assoc, or_self]
  obtain ⟨_, _, _, ids, size, content, _, ⟨_, counted⟩, sizeEq, written, otherWritten⟩ :=
    registrations_converge .isolated Service.reachable_standard admits spread otherSpread
  refine ⟨content, written, otherWritten, ?_⟩
  have newIds : ([ping, pong].map Schema.id).toFinset \ station.service.registry.ids.toFinset =
      {ping.id, pong.id} := by
    rw [show station.service.registry.ids.toFinset = ∅ from rfl, Finset.sdiff_empty]
    simp only [List.map_cons, List.map_nil, List.toFinset_cons, List.toFinset_nil, insert_empty_eq]
  rw [counted, sizeEq, newIds, Finset.card_pair different]
  rfl

end CompactSchema
