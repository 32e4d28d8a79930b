import CompactSchema.Proofs.Fingerprint.Decoding
import CompactSchema.Proofs.History
import CompactSchema.Proofs.Loading
import CompactSchema.Proofs.Schema.Listing

/-!
Contract: registering the schemas that a JSON text lists.

The text is read to its end before anything is registered. So a text that is no list of
schemas changes nothing, and a list of schemas is registered one after another, up to the
first one whose id a different schema has, be it a registered one or an earlier one of the
list.

Owns: the first schema of a list whose id is taken, and the outcome of the call.

Does not own: which texts list schemas, see `Proofs.Schema.Listing`.
-/

set_option autoImplicit false

namespace CompactSchema

namespace Registry

variable {registry : Registry}

theorem admitsAll_nil : registry.AdmitsAll [] where
  each := fun _ member => absurd member List.not_mem_nil
  agree := fun _ member => absurd member List.not_mem_nil

/-- One more schema is admitted if its id is not held by a different one, neither in the
registry nor in the list before it. -/
theorem admitsAll_concat_iff {before : List Schema} {schema : Schema} :
    registry.AdmitsAll (before ++ [schema]) ↔ registry.AdmitsAll before ∧
      ∀ existing, (registry.find? schema.id).or (listed? schema.id before) = some existing →
        existing = schema := by
  have last : schema ∈ before ++ [schema] := List.mem_append_right _ List.mem_cons_self
  constructor
  · intro admits
    refine ⟨admits.of_mem fun _ => List.mem_append_left _, ?_⟩
    intro existing held
    rcases Option.or_eq_some_iff.1 held with registered | ⟨_, earlier⟩
    · exact admits.each schema last existing registered
    · obtain ⟨member, same⟩ := listed?_eq_some earlier
      exact admits.agree existing (List.mem_append_left _ member) schema last same
  · rintro ⟨admits, free⟩
    have own : ∀ other ∈ before, other.id = schema.id → other = schema := by
      intro other member same
      apply free
      rw [← same]
      exact admits.or_listed?_eq member
    constructor
    · intro other member existing held
      rcases List.mem_append.1 member with earlier | isLast
      · exact admits.each other earlier existing held
      · obtain rfl := List.mem_singleton.1 isLast
        exact free existing (by rw [held, Option.some_or])
    · intro first firstMember second secondMember same
      rcases List.mem_append.1 firstMember with firstEarlier | firstLast <;>
        rcases List.mem_append.1 secondMember with secondEarlier | secondLast
      · exact admits.agree first firstEarlier second secondEarlier same
      · obtain rfl := List.mem_singleton.1 secondLast
        exact own first firstEarlier same
      · obtain rfl := List.mem_singleton.1 firstLast
        exact (own second secondEarlier same.symm).symm
      · rw [List.mem_singleton.1 firstLast, List.mem_singleton.1 secondLast]

/-- A list that is not admitted has a first schema whose id a different one has. -/
theorem exists_first_taken {schemas : List Schema} (refused : ¬ registry.AdmitsAll schemas) :
    ∃ before incoming after existing, schemas = before ++ incoming :: after ∧
      registry.AdmitsAll before ∧ existing ≠ incoming ∧
      (registry.find? incoming.id).or (listed? incoming.id before) = some existing := by
  induction schemas using List.reverseRecOn with
  | nil => exact absurd admitsAll_nil refused
  | append_singleton earlier last inductionHypothesis =>
      -- If all before the last schema are admitted, it is the last one whose id is taken.
      by_cases admits : registry.AdmitsAll earlier
      · rw [admitsAll_concat_iff] at refused
        obtain ⟨existing, held, different⟩ : ∃ existing,
            (registry.find? last.id).or (listed? last.id earlier) = some existing ∧
              existing ≠ last := by
          simpa [admits] using refused
        exact ⟨earlier, last, [], existing, rfl, admits, different, held⟩
      · obtain ⟨before, incoming, after, existing, rfl, found⟩ := inductionHypothesis admits
        exact ⟨before, incoming, after ++ [last], existing, by simp, found⟩

end Registry

namespace Service

variable {service : Service}

/-- The service after schemas have been handed to it one at a time. -/
def afterEach (schemas : List Schema) (service : Service) : Service :=
  schemas.foldl (fun service schema => (register schema service).service) service

theorem registerAll_eq_afterEach {schemas : List Schema}
    (passed : (registerAll schemas service).result = .ok ()) :
    (registerAll schemas service).service = service.afterEach schemas := by
  induction schemas generalizing service with
  | nil => rfl
  | cons schema rest inductionHypothesis =>
      cases outcome : (register schema service).result with
      | error error =>
          rw [registerAll, outcome] at passed
          cases passed
      | ok registered =>
          obtain ⟨sameResult, sameService⟩ := registerAll_cons outcome rest
          rw [sameService, inductionHypothesis (sameResult.symm.trans passed)]
          rfl

/-! ## Outcomes of a text -/

theorem registerText_of_not_lists {content : String}
    (malformed : ∀ schemas, ¬ Schema.Lists content schemas) (service : Service) :
    ∃ error, registerText content service =
      { result := .error (.serialization error), service } := by
  cases reading : Schema.listOfJsonText content with
  | error error =>
      refine ⟨error, ?_⟩
      rw [registerText, reading]
  | ok schemas => exact absurd (Schema.listOfJsonText_eq_ok_iff.1 reading) (malformed schemas)

variable {content : String} {schemas : List Schema}

theorem registerText_of_admitsAll (lists : Schema.Lists content schemas)
    (isOpen : service.interrupted = false) (admits : service.registry.AdmitsAll schemas) :
    let loaded := registerText content service
    loaded.result = .ok schemas.length ∧ loaded.service = service.afterEach schemas ∧
      ∀ schemaId, loaded.service.registry.find? schemaId =
        (service.registry.find? schemaId).or (Registry.listed? schemaId schemas) := by
  intro loaded
  obtain ⟨sameResult, sameService⟩ :=
    registerText_of_listed (Schema.listOfJsonText_eq_ok_iff.2 lists) service
  obtain ⟨passed, lookup⟩ := registerAll_of_admitsAll isOpen admits
  refine ⟨?_, ?_, ?_⟩
  · rw [sameResult, passed]
    rfl
  · rw [sameService, registerAll_eq_afterEach passed]
  · rw [sameService]
    exact lookup

theorem registerText_of_taken (lists : Schema.Lists content schemas)
    (isOpen : service.interrupted = false) {before after : List Schema}
    {incoming existing : Schema} (split : schemas = before ++ incoming :: after)
    (admits : service.registry.AdmitsAll before)
    (held : (service.registry.find? incoming.id).or (Registry.listed? incoming.id before) =
      some existing) (different : existing ≠ incoming) :
    let loaded := registerText content service
    loaded.result = .error (.schema (conflict existing incoming)) ∧
      loaded.service = service.afterEach before ∧
      ∀ schemaId, loaded.service.registry.find? schemaId =
        (service.registry.find? schemaId).or (Registry.listed? schemaId before) := by
  intro loaded
  subst split
  obtain ⟨sameResult, sameService⟩ :=
    registerText_of_listed (Schema.listOfJsonText_eq_ok_iff.2 lists) service
  obtain ⟨passed, lookup⟩ := registerAll_of_admitsAll isOpen admits
  obtain ⟨failed, stopped⟩ := registerAll_of_taken isOpen admits held different after
  refine ⟨?_, ?_, ?_⟩
  · rw [sameResult, failed]
    rfl
  · rw [sameService, stopped, registerAll_eq_afterEach passed]
  · rw [sameService, stopped]
    exact lookup

/-- A text that is not one array of schemas, in particular an array with an item at fault,
is refused and changes nothing. The schemas of any other text are registered in turn, all of
them or up to the first one whose id a different schema has, which is registered or one of
those before it. That one is reported, and just those before it have been added. -/
theorem registerText_outcome {service : Service} (reachable : service.Reachable)
    (content : String) :
    let loaded := registerText content service
    ((∀ schemas, ¬ Schema.Lists content schemas) ∨
        (∃ documents closed, (Json.read content).document = .array documents closed ∧
          ∃ document ∈ documents, Schema.Faulty document) →
      (∃ error, loaded.result = .error (.serialization error)) ∧ loaded.service = service) ∧
    ∀ schemas, Schema.Lists content schemas →
      (service.registry.AdmitsAll schemas →
        loaded.result = .ok schemas.length ∧
        loaded.service = service.afterEach schemas ∧
        (∀ schema ∈ schemas, loaded.service.find schema.id = .ok (some schema)) ∧
        ∀ schemaId, loaded.service.find schemaId =
          .ok ((service.registry.find? schemaId).or (Registry.listed? schemaId schemas))) ∧
      (¬ service.registry.AdmitsAll schemas → ∃ before incoming after existing,
        schemas = before ++ incoming :: after ∧ service.registry.AdmitsAll before ∧
        existing ≠ incoming ∧ existing.id = incoming.id ∧
        (service.find incoming.id = .ok (some existing) ∨ existing ∈ before) ∧
        loaded.result =
          .error (.schema (.schemaConflict incoming.id existing.text incoming.text)) ∧
        loaded.service = service.afterEach before ∧
        ∀ schemaId, loaded.service.find schemaId =
          .ok ((service.registry.find? schemaId).or (Registry.listed? schemaId before))) := by
  intro loaded
  have isOpen := reachable.isOpen
  have grows : service.GrowsBy (· ∈ listedSchemas content) (fun _ => False) loaded.service :=
    registerText_growsBy content service
  have stillOpen : loaded.service.interrupted = false := grows.interrupted.trans isOpen
  refine ⟨?_, fun schemas lists => ⟨?_, ?_⟩⟩
  · intro atFault
    have malformed : ∀ schemas, ¬ Schema.Lists content schemas := by
      rcases atFault with malformed | ⟨documents, closed, isArray, document, member, faulty⟩
      · exact malformed
      · exact faulty.not_lists isArray member
    obtain ⟨error, outcome⟩ := registerText_of_not_lists malformed service
    exact ⟨⟨error, congrArg Effect.result outcome⟩, congrArg Effect.service outcome⟩
  · intro admits
    obtain ⟨counted, inTurn, lookup⟩ := registerText_of_admitsAll lists isOpen admits
    refine ⟨counted, inTurn, ?_, ?_⟩
    · intro schema member
      rw [find_of_open stillOpen, lookup, admits.or_listed?_eq member]
    · intro schemaId
      rw [find_of_open stillOpen, lookup]
  · intro refused
    obtain ⟨before, incoming, after, existing, split, admits, different, held⟩ :=
      Registry.exists_first_taken refused
    obtain ⟨failed, inTurn, lookup⟩ :=
      registerText_of_taken lists isOpen split admits held different
    refine ⟨before, incoming, after, existing, split, admits, different, ?_, ?_, failed, inTurn, ?_⟩
    · rcases Option.or_eq_some_iff.1 held with registered | ⟨_, earlier⟩
      · exact Registry.id_of_find? registered
      · exact (Registry.listed?_eq_some earlier).2
    · rcases Option.or_eq_some_iff.1 held with registered | ⟨_, earlier⟩
      · left
        rw [find_of_open isOpen, registered]
      · exact .inr (Registry.listed?_eq_some earlier).1
    · intro schemaId
      rw [find_of_open stillOpen, lookup]

/-- Of three listed schemas the first two are the same, and the third has their id by a
collision of the fingerprint. An array with an empty object lists no schemas. -/
theorem registerText_outcome_batch :
    let one := Schema.fieldless "aaaaaaabaaaaa" (by decide)
    let other := Schema.fieldless "tpgawtyxugbfn" (by decide)
    let content := (Json.array ([one, one, other].map Schema.toJson)).text
    (registerText content standard).result =
        .error (.schema (.schemaConflict other.id one.text other.text)) ∧
      (registerText content standard).service = standard.afterEach [one, one] ∧
      (registerText (Json.array [.object []]).text standard).service = standard := by
  intro one other content
  have atFault := (registerText_outcome reachable_standard (Json.array [.object []]).text).1
  have reading : Json.read (Json.array [.object []]).text =
      ⟨.array [.object [] true] true, true⟩ :=
    Json.read_text (Json.reads_array (.cons (Json.reads_object .nil) .nil))
  have unchanged := (atFault (.inr ⟨_, _, congrArg Json.Reading.document reading, _,
    List.mem_singleton_self _, .typeNameNotOnce (by decide)⟩)).2
  have sameId : one.id = other.id := Fingerprint.compute_collides
  have refused : ¬ standard.registry.AdmitsAll [one, one, other] := by
    intro admits
    have same : one = other := admits.agree one (by simp) other (by simp) sameId
    exact absurd same (by decide)
  obtain ⟨before, incoming, after, existing, split, _, different, _, held, failed, inTurn, _⟩ :=
    ((registerText_outcome reachable_standard content).2 [one, one, other]
      (Schema.lists_text _)).2 refused
  have earlier : existing ∈ before := by
    rcases held with registered | earlier
    · cases registered
    · exact earlier
  rcases before with _ | ⟨first, _ | ⟨second, _ | ⟨third, more⟩⟩⟩
  · cases earlier
  · simp only [List.cons_append, List.nil_append, List.cons.injEq] at split
    obtain ⟨rfl, rfl, _⟩ := split
    exact absurd (List.mem_singleton.1 earlier) different
  · simp only [List.cons_append, List.nil_append, List.cons.injEq] at split
    obtain ⟨rfl, rfl, rfl, _⟩ := split
    obtain rfl : existing = one := by simpa using earlier
    exact ⟨failed, inTurn, unchanged⟩
  · simp at split

end Service

end CompactSchema
