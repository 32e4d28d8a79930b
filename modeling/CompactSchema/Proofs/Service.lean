import CompactSchema.Proofs.Registry
import CompactSchema.Service

/-!
Contract: what the calls that a service answers alone make of it.

Registering a schema has three outcomes, told apart by what the registry holds
under its id. Every other way of registering is a repetition of that one, so all
of them make the registry grow by the schemas that they were given and touch
nothing else.

Owns: the outcomes of a registration, the growth of a service, and the marks of
the ids that were brought to the cluster.

Does not own: calls that reach the cluster, see `Proofs.Call`.
-/

set_option autoImplicit false

namespace CompactSchema

namespace Service

/-! ## Outcomes of a registration -/

/-- Everything that registering a schema with an open service can come to. -/
theorem register_cases (schema : Schema) {service : Service}
    (isOpen : service.interrupted = false) :
    (service.registry.find? schema.id = none ∧
      register schema service =
        { result := .ok schema
          service := { service with registry := service.registry.insert schema }
          notices := [.registered schema] }) ∨
    (service.registry.find? schema.id = some schema ∧
      register schema service =
        { result := .ok schema, service, notices := [.alreadyRegistered schema] }) ∨
    (∃ existing, service.registry.find? schema.id = some existing ∧ existing ≠ schema ∧
      register schema service =
        { result := .error (conflict existing schema), service,
          notices := [.idTaken existing schema] }) := by
  have opened : service.openRegistry = .ok service.registry := by
    rw [openRegistry, isOpen]
    rfl
  cases held : service.registry.find? schema.id with
  | none =>
      refine .inl ⟨rfl, ?_⟩
      simp only [register, opened, Registry.verdict, held]
  | some existing =>
      by_cases same : existing = schema
      · subst same
        refine .inr (.inl ⟨rfl, ?_⟩)
        simp only [register, opened, Registry.verdict, held, if_true]
      · refine .inr (.inr ⟨existing, rfl, same, ?_⟩)
        simp only [register, opened, Registry.verdict, held, if_neg same]

theorem register_of_interrupted (schema : Schema) {service : Service}
    (interrupted : service.interrupted = true) :
    register schema service = { result := .error .registryLocked, service } := by
  rw [register, openRegistry, interrupted]
  rfl

theorem find_of_open {service : Service} (isOpen : service.interrupted = false)
    (schemaId : Int64) : service.find schemaId = .ok (service.registry.find? schemaId) := by
  rw [find, openRegistry, isOpen]
  rfl

theorem ids_of_open {service : Service} (isOpen : service.interrupted = false) :
    service.ids = .ok service.registry.ids := by
  rw [ids, openRegistry, isOpen]
  rfl

theorem size_of_open {service : Service} (isOpen : service.interrupted = false) :
    service.size = .ok service.registry.size := by
  rw [size, openRegistry, isOpen]
  rfl

/-- A registration that succeeds answers the schema it was given, and the schema
is registered then. -/
theorem register_ok {schema registered : Schema} {service : Service}
    (succeeded : (register schema service).result = .ok registered) :
    registered = schema ∧
      (register schema service).service.registry.find? schema.id = some schema := by
  cases status : service.interrupted with
  | true =>
      rw [register_of_interrupted schema status] at succeeded
      cases succeeded
  | false =>
      rcases register_cases schema status with
        ⟨_, outcome⟩ | ⟨held, outcome⟩ | ⟨existing, _, _, outcome⟩ <;>
        rw [outcome] at succeeded ⊢
      · exact ⟨(Except.ok.inj succeeded).symm, Registry.find?_insert_self _ _⟩
      · exact ⟨(Except.ok.inj succeeded).symm, held⟩
      · cases succeeded

theorem register_refused {schema : Schema} {service : Service} {error : SchemaError}
    (refused : (register schema service).result = .error error) :
    (register schema service).service = service := by
  cases status : service.interrupted with
  | true => rw [register_of_interrupted schema status]
  | false =>
      rcases register_cases schema status with
        ⟨_, outcome⟩ | ⟨_, outcome⟩ | ⟨existing, _, _, outcome⟩ <;>
        rw [outcome] at refused ⊢
      cases refused

theorem register_of_held {schema : Schema} {service : Service}
    (held : service.registry.find? schema.id = some schema) :
    (register schema service).service = service := by
  cases status : service.interrupted with
  | true => rw [register_of_interrupted schema status]
  | false =>
      rcases register_cases schema status with
        ⟨free, _⟩ | ⟨_, outcome⟩ | ⟨_, _, _, outcome⟩
      · cases free.symm.trans held
      · rw [outcome]
      · rw [outcome]

theorem replicated_register (schema : Schema) (service : Service) :
    (register schema service).service.replicated = service.replicated := by
  cases status : service.interrupted with
  | true => rw [register_of_interrupted schema status]
  | false =>
      rcases register_cases schema status with
        ⟨_, outcome⟩ | ⟨_, outcome⟩ | ⟨_, _, _, outcome⟩ <;> rw [outcome]

/-- A schema whose id is free or its own is registered. -/
theorem register_of_free {schema : Schema} {service : Service}
    (isOpen : service.interrupted = false)
    (free : ∀ existing, service.registry.find? schema.id = some existing → existing = schema) :
    (register schema service).result = .ok schema := by
  rcases register_cases schema isOpen with
    ⟨_, outcome⟩ | ⟨_, outcome⟩ | ⟨existing, held, different, _⟩
  · rw [outcome]
  · rw [outcome]
  · exact absurd (free existing held) different

theorem register_of_taken {schema existing : Schema} {service : Service}
    (isOpen : service.interrupted = false)
    (held : service.registry.find? schema.id = some existing) (different : existing ≠ schema) :
    register schema service =
      { result := .error (conflict existing schema), service,
        notices := [.idTaken existing schema] } := by
  rcases register_cases schema isOpen with ⟨free, _⟩ | ⟨same, _⟩ | ⟨other, found, _, outcome⟩
  · cases free.symm.trans held
  · exact absurd (Option.some.inj (held.symm.trans same)) different
  · obtain rfl := Option.some.inj (held.symm.trans found)
    exact outcome

/-! ## Growth -/

/-- The later service is the earlier one with some offered schemas taken in and
some ids marked as brought to the cluster. -/
structure GrowsBy (offered : Schema → Prop) (marked : Int64 → Prop) (earlier later : Service) :
    Prop where
  config : later.config = earlier.config
  interrupted : later.interrupted = earlier.interrupted
  registry : earlier.registry.GrowsBy offered later.registry
  keepsMark : ∀ {schemaId}, earlier.isReplicated schemaId = true →
    later.isReplicated schemaId = true
  newMark : ∀ {schemaId}, later.isReplicated schemaId = true →
    earlier.isReplicated schemaId = true ∨ marked schemaId

namespace GrowsBy

variable {offered : Schema → Prop} {marked : Int64 → Prop} {earlier later : Service}

theorem refl (service : Service) : service.GrowsBy offered marked service :=
  ⟨rfl, rfl, .refl, id, .inl⟩

theorem trans {latest : Service} (first : earlier.GrowsBy offered marked later)
    (second : later.GrowsBy offered marked latest) : earlier.GrowsBy offered marked latest where
  config := second.config.trans first.config
  interrupted := second.interrupted.trans first.interrupted
  registry := first.registry.trans second.registry
  keepsMark := fun mark => second.keepsMark (first.keepsMark mark)
  newMark := by
    intro schemaId mark
    rcases second.newMark mark with before | new
    · exact first.newMark before
    · exact .inr new

theorem mono {more : Schema → Prop} {moreMarked : Int64 → Prop}
    (weaker : ∀ schema, offered schema → more schema)
    (weakerMark : ∀ schemaId, marked schemaId → moreMarked schemaId)
    (grows : earlier.GrowsBy offered marked later) : earlier.GrowsBy more moreMarked later :=
  { grows with
    registry := grows.registry.mono weaker
    newMark := fun mark => (grows.newMark mark).imp_right (weakerMark _) }

end GrowsBy

variable {marked : Int64 → Prop}

theorem register_growsBy (schema : Schema) (service : Service) :
    service.GrowsBy (· = schema) marked (register schema service).service := by
  cases status : service.interrupted with
  | true =>
      rw [register_of_interrupted schema status]
      exact .refl service
  | false =>
      rcases register_cases schema status with
        ⟨free, outcome⟩ | ⟨_, outcome⟩ | ⟨_, _, _, outcome⟩ <;> rw [outcome]
      · exact ⟨rfl, rfl, .insert .refl free rfl, id, .inl⟩
      · exact .refl service
      · exact .refl service

theorem accept_growsBy (schema : Schema) (service : Service) :
    service.GrowsBy (· = schema) marked (accept schema service).service :=
  register_growsBy schema service

theorem registerAll_growsBy (schemas : List Schema) (service : Service) :
    service.GrowsBy (· ∈ schemas) marked (registerAll schemas service).service := by
  induction schemas generalizing service with
  | nil => exact .refl service
  | cons schema rest inductionHypothesis =>
      have first : service.GrowsBy (· ∈ schema :: rest) marked
          (register schema service).service := by
        apply (register_growsBy schema service).mono _ fun _ => id
        rintro _ rfl
        exact List.mem_cons_self
      rw [registerAll]
      cases (register schema service).result with
      | error _ => exact first
      | ok _ =>
          apply first.trans
          apply (inductionHypothesis (register schema service).service).mono _ fun _ => id
          exact fun _ member => List.mem_cons_of_mem _ member

/-- The schemas of a JSON list, or none if the text is no such list. -/
def listedSchemas (content : String) : List Schema :=
  match Schema.listOfJsonText content with
  | .ok schemas => schemas
  | .error _ => []

theorem registerText_growsBy (content : String) (service : Service) :
    service.GrowsBy (· ∈ listedSchemas content) marked (registerText content service).service := by
  rw [registerText, listedSchemas]
  cases Schema.listOfJsonText content with
  | error _ => exact .refl service
  | ok schemas => exact registerAll_growsBy schemas service

/-! ## Marks -/

theorem isReplicated_markReplicated (added schemaId : Int64) (service : Service) :
    (service.markReplicated added).isReplicated schemaId = true ↔
      schemaId = added ∨ service.isReplicated schemaId = true := by
  rw [markReplicated]
  split
  · rename_i already
    constructor
    · exact .inr
    · rintro (rfl | before)
      · exact already
      · exact before
  · simp [isReplicated]

theorem markReplicated_growsBy {offered : Schema → Prop} (schemaId : Int64) (service : Service) :
    service.GrowsBy offered (· = schemaId) (service.markReplicated schemaId) where
  config := by
    rw [markReplicated]
    split <;> rfl
  interrupted := by
    rw [markReplicated]
    split <;> rfl
  registry := by
    rw [markReplicated]
    split <;> exact .refl
  keepsMark := fun mark => (isReplicated_markReplicated schemaId _ service).2 (.inr mark)
  newMark := fun mark => ((isReplicated_markReplicated schemaId _ service).1 mark).symm

/-! ## New services -/

/-- A service with given settings that has not been called yet. -/
theorem create_ok {config : Config} {service : Service} (created : create config = .ok service) :
    service.config = config ∧ service.registry = .empty ∧ service.replicated = [] ∧
      service.interrupted = false := by
  rw [create] at created
  split at created
  · cases created
  · obtain rfl := Except.ok.inj created
    exact ⟨rfl, rfl, rfl, rfl⟩

theorem create_default : create {} = .ok standard := rfl

theorem fetchAttempts_pos (service : Service) : 0 < service.config.fetchAttempts.toNat := by
  have usable := service.usable
  rw [Config.fault?] at usable
  split at usable
  · cases usable
  · rename_i some
    rcases Nat.eq_zero_or_pos service.config.fetchAttempts.toNat with zero | positive
    · exact absurd (UInt32.toNat_inj.1 zero) some
    · exact positive

end Service

end CompactSchema
