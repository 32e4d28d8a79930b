import CompactSchema.Proofs.Fingerprint.Decoding
import CompactSchema.Proofs.History
import CompactSchema.Proofs.Loading
import CompactSchema.Proofs.Schema.Reading

/-!
Contract: loading the snapshot of one service into another.

A snapshot lists the schemas in ascending order of their ids, and each comes back from
its JSON form as it was. So loading it is registering these schemas in this order: the
target takes in every schema under an id that it does not have, up to the smallest id
under which the two services hold different schemas.

Owns: where two registries differ, and what a transfer comes to.

Does not own: registering a list of schemas, see `Proofs.Loading`.
-/

set_option autoImplicit false

namespace CompactSchema

namespace Registry

/-- Both registries have a schema under an id, and not the same one. -/
def DiffersAt (source target : Registry) (schemaId : Int64) : Prop :=
  ∃ incoming existing, source.find? schemaId = some incoming ∧
    target.find? schemaId = some existing ∧ existing ≠ incoming

/-- What the source holds is what both together hold, if they do not differ. -/
theorem or_eq_of_not_differsAt {source target : Registry} {schemaId : Int64} {schema : Schema}
    (same : ¬ source.DiffersAt target schemaId) (offered : source.find? schemaId = some schema) :
    (target.find? schemaId).or (source.find? schemaId) = some schema := by
  rw [offered]
  cases held : target.find? schemaId with
  | none => rfl
  | some existing =>
      have equal : existing = schema := Classical.byContradiction fun different =>
        same ⟨schema, existing, offered, held, different⟩
      rw [equal, Option.some_or]

variable {source target : Registry}

theorem admits_iff_not_differsAt {schema : Schema} (listed : schema ∈ source.schemas) :
    target.Admits schema ↔ ¬ source.DiffersAt target schema.id := by
  have own : source.find? schema.id = some schema := mem_schemas_iff.1 listed
  constructor
  · rintro admits ⟨incoming, existing, offered, held, different⟩
    obtain rfl := Option.some.inj (own.symm.trans offered)
    exact different (admits existing held)
  · intro same existing held
    exact Classical.byContradiction fun different =>
      same ⟨schema, existing, own, held, different⟩

theorem admitsAll_of_not_differsAt
    (same : ∀ schemaId, ¬ source.DiffersAt target schemaId) : target.AdmitsAll source.schemas where
  each := fun schema listed => (admits_iff_not_differsAt listed).2 (same schema.id)
  agree := fun _ firstListed _ secondListed => eq_of_mem_schemas firstListed secondListed

/-- The listed schemas up to the first one that differs from what the target holds. -/
theorem exists_first_difference {schemaId : Int64} (differs : source.DiffersAt target schemaId) :
    ∃ before incoming after existing, source.schemas = before ++ incoming :: after ∧
      target.AdmitsAll before ∧ target.find? incoming.id = some existing ∧
      existing ≠ incoming := by
  classical
  obtain ⟨incoming, _, offered, _⟩ := id differs
  obtain rfl := id_of_find? offered
  have listed : incoming ∈ source.schemas := mem_schemas_iff.2 offered
  cases first : source.schemas.find? fun schema => decide (¬ target.Admits schema) with
  | none =>
      have admits := List.find?_eq_none.1 first incoming listed
      rw [decide_eq_true_iff, not_not, admits_iff_not_differsAt listed] at admits
      exact absurd differs admits
  | some taken =>
      obtain ⟨refused, before, after, split, passed⟩ := List.find?_eq_some_iff_append.1 first
      have inBefore : ∀ schema ∈ before, schema ∈ source.schemas := by
        rw [split]
        exact fun schema member => List.mem_append_left _ member
      have takenListed : taken ∈ source.schemas := List.mem_of_find?_eq_some first
      rw [decide_eq_true_iff, admits_iff_not_differsAt takenListed, not_not] at refused
      obtain ⟨own, existing, offeredTaken, held, different⟩ := refused
      obtain rfl := Option.some.inj ((mem_schemas_iff.1 takenListed).symm.trans offeredTaken)
      refine ⟨before, taken, after, existing, split, ⟨?_, ?_⟩, held, different⟩
      · intro schema member
        simpa using passed schema member
      · exact fun left leftMember right rightMember =>
          eq_of_mem_schemas (inBefore left leftMember) (inBefore right rightMember)

theorem id_le_of_mem_from {before after : List Schema} {schema other : Schema}
    (split : source.schemas = before ++ schema :: after) (member : other ∈ schema :: after) :
    schema.id ≤ other.id := by
  have ascends := source.ascends
  rw [split, List.pairwise_append, List.pairwise_cons] at ascends
  rcases List.mem_cons.1 member with rfl | later
  · exact Int64.le_refl _
  · exact Int64.le_of_lt (ascends.2.1.1 other later)

/-- What stands before a listed schema is what has a smaller id. -/
theorem listed?_before {before after : List Schema} {schema : Schema}
    (split : source.schemas = before ++ schema :: after) (schemaId : Int64) :
    listed? schemaId before = if schemaId < schema.id then source.find? schemaId else none := by
  by_cases smaller : schemaId < schema.id
  · have missing : listed? schemaId (schema :: after) = none := by
      rw [listed?_eq_none_iff]
      rintro other member rfl
      exact Int64.not_lt.2 (id_le_of_mem_from split member) smaller
    rw [if_pos smaller, ← source.listed?_schemas, split, listed?_append, missing, Option.or_none]
  · have ascends := source.ascends
    rw [split, List.pairwise_append] at ascends
    rw [if_neg smaller, listed?_eq_none_iff]
    rintro other member rfl
    exact smaller (ascends.2.2 other member schema List.mem_cons_self)

/-- No smaller id differs than that of the first listed schema that is not admitted. -/
theorem id_le_of_differsAt {before after : List Schema} {incoming : Schema}
    (split : source.schemas = before ++ incoming :: after) (admits : target.AdmitsAll before)
    {schemaId : Int64} (differs : source.DiffersAt target schemaId) :
    incoming.id ≤ schemaId := by
  obtain ⟨schema, _, offered, _⟩ := id differs
  obtain rfl := id_of_find? offered
  have listed : schema ∈ source.schemas := mem_schemas_iff.2 offered
  have notBefore : schema ∉ before := fun member =>
    (admits_iff_not_differsAt listed).1 (admits.each schema member) differs
  rw [split, List.mem_append] at listed
  exact id_le_of_mem_from split (listed.resolve_left notBefore)

end Registry

namespace Service

theorem snapshot_of_open {service : Service} (isOpen : service.interrupted = false) :
    service.snapshot = .ok (Json.array (service.registry.schemas.map Schema.toJson)).text := by
  rw [snapshot, openRegistry, isOpen]
  rfl

theorem registry_eq_empty_of_isEmpty {service : Service} (isEmpty : service.isEmpty = .ok true) :
    service.registry = .empty := by
  rw [Service.isEmpty, size, openRegistry] at isEmpty
  cases status : service.interrupted with
  | true => simp [status, Except.map] at isEmpty
  | false =>
      simp only [status, Except.map, Registry.size, Bool.false_eq_true, if_false,
        Except.ok.injEq, beq_iff_eq, List.length_eq_zero_iff] at isEmpty
      exact Registry.eq_of_entries isEmpty

variable {source : Registry} {target : Service}

theorem registerAll_schemas_of_not_differsAt (isOpen : target.interrupted = false)
    (same : ∀ schemaId, ¬ source.DiffersAt target.registry schemaId) :
    (registerAll source.schemas target).result = .ok () ∧
      ∀ schemaId, (registerAll source.schemas target).service.registry.find? schemaId =
        (target.registry.find? schemaId).or (source.find? schemaId) := by
  obtain ⟨succeeded, lookup⟩ :=
    registerAll_of_admitsAll isOpen (Registry.admitsAll_of_not_differsAt same)
  refine ⟨succeeded, fun schemaId => ?_⟩
  rw [lookup, source.listed?_schemas]

/-- Without schemas of its own, the target takes over the registry of the source. -/
theorem registry_registerAll_schemas_of_empty (isOpen : target.interrupted = false)
    (empty : target.registry = .empty) :
    (registerAll source.schemas target).service.registry = source := by
  have nothing : ∀ schemaId, target.registry.find? schemaId = none := by
    rw [empty]
    exact fun _ => rfl
  have same : ∀ schemaId, ¬ source.DiffersAt target.registry schemaId := by
    rintro schemaId ⟨_, _, _, held, _⟩
    cases (nothing schemaId).symm.trans held
  apply Registry.eq_of_find?_eq
  intro schemaId
  rw [(registerAll_schemas_of_not_differsAt isOpen same).2, nothing, Option.none_or]

theorem registerAll_schemas_of_differsAt (isOpen : target.interrupted = false) {schemaId : Int64}
    (differs : source.DiffersAt target.registry schemaId) : ∃ existing incoming,
      target.registry.find? incoming.id = some existing ∧
      source.find? incoming.id = some incoming ∧ existing ≠ incoming ∧
      (∀ other, source.DiffersAt target.registry other → incoming.id ≤ other) ∧
      (registerAll source.schemas target).result = .error (conflict existing incoming) ∧
      ∀ other, (registerAll source.schemas target).service.registry.find? other =
        (target.registry.find? other).or
          (if other < incoming.id then source.find? other else none) := by
  obtain ⟨before, incoming, after, existing, split, admits, held, different⟩ :=
    Registry.exists_first_difference differs
  have offered : source.find? incoming.id = some incoming :=
    Registry.mem_schemas_iff.1 (split ▸ List.mem_append_right _ List.mem_cons_self)
  have first : (target.registry.find? incoming.id).or (Registry.listed? incoming.id before) =
      some existing := by
    rw [held, Option.some_or]
  obtain ⟨failed, stopped⟩ := registerAll_of_taken isOpen admits first different after
  rw [split]
  refine ⟨existing, incoming, held, offered, different,
    fun _ => Registry.id_le_of_differsAt split admits, failed, fun other => ?_⟩
  rw [stopped, (registerAll_of_admitsAll isOpen admits).2, Registry.listed?_before split]

/-- Loading a snapshot makes the target the union of both services, unless they hold
different schemas under one id. Then the smallest such id is reported, and the target has
taken in what the source has under smaller ids. -/
theorem snapshot_transfer {source target : Service} (sourceReachable : source.Reachable)
    (targetReachable : target.Reachable) : ∃ content, source.snapshot = .ok content ∧
    let loaded := registerText content target
    loaded.service.replicated = target.replicated ∧
    ((∀ schemaId, ¬ source.registry.DiffersAt target.registry schemaId) →
      loaded.result = .ok source.registry.size ∧
      (∀ schemaId, loaded.service.find schemaId =
        .ok ((target.registry.find? schemaId).or (source.registry.find? schemaId))) ∧
      (∀ schemaId schema, source.find schemaId = .ok (some schema) → ∃ copy,
        loaded.service.find schemaId = .ok (some copy) ∧ copy = schema ∧
          copy.descriptors = schema.descriptors) ∧
      (target.isEmpty = .ok true → loaded.service.registry = source.registry ∧
        loaded.service.snapshot = .ok content)) ∧
    ((∃ schemaId, source.registry.DiffersAt target.registry schemaId) →
      ∃ schemaId existing incoming, target.find schemaId = .ok (some existing) ∧
        source.find schemaId = .ok (some incoming) ∧ existing ≠ incoming ∧
        (∀ other, source.registry.DiffersAt target.registry other → schemaId ≤ other) ∧
        loaded.result =
          .error (.schema (.schemaConflict schemaId existing.text incoming.text)) ∧
        ∀ other, loaded.service.find other = .ok ((target.registry.find? other).or
          (if other < schemaId then source.registry.find? other else none))) := by
  have sourceOpen := sourceReachable.isOpen
  have targetOpen := targetReachable.isOpen
  refine ⟨_, snapshot_of_open sourceOpen, ?_⟩
  intro loaded
  obtain ⟨sameResult, sameService⟩ :=
    registerText_of_listed (Schema.listOfJsonText_text source.registry.schemas) target
  have loadedOpen : loaded.service.interrupted = false := by
    rw [sameService, interrupted_registerAll, targetOpen]
  refine ⟨?_, ?_, ?_⟩
  · rw [sameService, replicated_registerAll]
  · intro same
    obtain ⟨succeeded, lookup⟩ :=
      registerAll_schemas_of_not_differsAt targetOpen same
    have found : ∀ schemaId, loaded.service.find schemaId =
        .ok ((target.registry.find? schemaId).or (source.registry.find? schemaId)) := by
      intro schemaId
      rw [find_of_open loadedOpen, sameService, lookup]
    refine ⟨?_, found, ?_, ?_⟩
    · rw [sameResult, succeeded]
      exact congrArg Except.ok (List.length_map _)
    · intro schemaId schema held
      rw [find_of_open sourceOpen] at held
      refine ⟨schema, ?_, rfl, rfl⟩
      rw [found, Registry.or_eq_of_not_differsAt (same schemaId) (Except.ok.inj held)]
    · intro isEmpty
      have copied : loaded.service.registry = source.registry := by
        rw [sameService]
        exact registry_registerAll_schemas_of_empty targetOpen
          (registry_eq_empty_of_isEmpty isEmpty)
      refine ⟨copied, ?_⟩
      rw [snapshot_of_open loadedOpen, copied]
  · rintro ⟨_, differs⟩
    obtain ⟨existing, incoming, held, offered, different, smallest, failed, lookup⟩ :=
      registerAll_schemas_of_differsAt targetOpen differs
    refine ⟨incoming.id, existing, incoming, ?_, ?_, different, smallest, ?_, ?_⟩
    · rw [find_of_open targetOpen, held]
    · rw [find_of_open sourceOpen, offered]
    · rw [sameResult, failed]
      rfl
    · intro other
      rw [find_of_open loadedOpen, sameService, lookup]

/-! ## Transfers between services with one schema -/

theorem registry_register_standard (schema : Schema) :
    (register schema standard).service.registry = Registry.empty.insert schema := rfl

/-- Two schemas that share an id by a collision of the fingerprint: the first is copied to
an empty service, and refused by a service that has the other. -/
theorem snapshot_transfer_collision :
    let one := Schema.fieldless "aaaaaaabaaaaa" (by decide)
    let other := Schema.fieldless "tpgawtyxugbfn" (by decide)
    ∃ content, (register one standard).service.snapshot = .ok content ∧
      (registerText content standard).service.snapshot = .ok content ∧
      (registerText content (register other standard).service).result =
        .error (.schema (.schemaConflict one.id other.text one.text)) := by
  intro one other
  have sameId : one.id = other.id := Fingerprint.compute_collides
  have held : (register one standard).service.registry.find? one.id = some one :=
    Registry.find?_insert_self .empty one
  have heldOther : (register other standard).service.registry.find? one.id = some other := by
    rw [sameId]
    exact Registry.find?_insert_self .empty other
  obtain ⟨content, written, _, copies, _⟩ :=
    snapshot_transfer (reachable_register one) reachable_standard
  obtain ⟨sameContent, written', _, _, fails⟩ :=
    snapshot_transfer (reachable_register one) (reachable_register other)
  obtain rfl := Except.ok.inj (written.symm.trans written')
  refine ⟨content, written, ?_, ?_⟩
  · have nothing : ∀ schemaId, ¬ (register one standard).service.registry.DiffersAt
        standard.registry schemaId := by
      rintro schemaId ⟨_, _, _, impossible, _⟩
      cases impossible
    exact ((copies nothing).2.2.2 rfl).2
  · obtain ⟨schemaId, existing, incoming, found, offered, _, _, failed, _⟩ :=
      fails ⟨one.id, one, other, held, heldOther, by decide⟩
    rw [find_of_open (reachable_register one).isOpen, registry_register_standard,
      Registry.find?_insert] at offered
    split at offered
    · rename_i isOne
      obtain rfl := Option.some.inj (Except.ok.inj offered)
      rw [find_of_open (reachable_register other).isOpen, ← isOne, heldOther] at found
      obtain rfl := Option.some.inj (Except.ok.inj found)
      rw [failed, isOne]
    · cases offered

end Service

end CompactSchema
