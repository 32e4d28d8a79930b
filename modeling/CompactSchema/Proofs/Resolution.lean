import CompactSchema.Proofs.Cluster.Requests
import CompactSchema.Proofs.History

/-!
Contract: how often the cluster is asked for a schema, and what becomes of its answers.

An id that is registered is answered without a request. Otherwise one request follows on
another, with a pause between two of them, until an answer gives a schema or the attempts
are used up. The requests and pauses are seen in a log that an environment can be made to
keep; keeping it changes nothing. Only a schema that has the id asked for is taken over, and
no id counts as brought to the cluster by it.

Owns: the log of an environment, the requests of a resolution and their outcome, and what a
group answers to a request.

Does not own: that a schema can be found at all, see `Proofs.Cluster.Availability`.
-/

set_option autoImplicit false

namespace CompactSchema

/-! ## Keeping a log -/

/-- Something that a service asks of the world around it. -/
inductive Activity where
  | replicate (schema : Schema)
  | fetch (schemaId : Int64)
  | wait (milliseconds : Nat)

namespace Environment

variable {σ : Type} (environment : Environment σ)

/-- The same environment, which also keeps a log of what is asked of it. -/
def watched : Environment (σ × List Activity) where
  service state := environment.service state.1
  setService service state := (environment.setService service state.1, state.2)
  replicate schema state :=
    let asked := environment.replicate schema state.1
    (asked.1, asked.2, state.2 ++ [.replicate schema])
  fetch schemaId state :=
    let asked := environment.fetch schemaId state.1
    (asked.1, asked.2, state.2 ++ [.fetch schemaId])
  wait milliseconds state :=
    (environment.wait milliseconds state.1, state.2 ++ [.wait milliseconds])
  note notices state := (environment.note notices state.1, state.2)

theorem watched_answered (schemaId : Int64) (state : σ) (log : List Activity) :
    environment.watched.answered schemaId (state, log) =
      (environment.answered schemaId state,
        log ++ [.fetch schemaId, .wait (environment.fetch schemaId state).1.delay]) :=
  congrArg (Prod.mk _) (List.append_assoc log [_] [_])

theorem watched_pauseBefore (left : Nat) (state : σ × List Activity) :
    (environment.watched.pauseBefore left state).1 = environment.pauseBefore left state.1 := by
  rw [pauseBefore, pauseBefore]
  split <;> rfl

theorem watched_adopt (schemaId : Int64) (answer : Schema) (state : σ × List Activity) :
    (environment.watched.adopt schemaId answer state).1 =
        (environment.adopt schemaId answer state.1).1 ∧
      (environment.watched.adopt schemaId answer state).2.1 =
        (environment.adopt schemaId answer state.1).2 := by
  rw [adopt, adopt]
  split
  · simp only [perform]
    cases outcome : (Service.register answer (environment.service state.1)).result with
    | error _ => simp [watched, outcome]
    | ok _ => simp [watched, outcome]
  · exact ⟨rfl, rfl⟩

theorem watched_search (schemaId : Int64) (attempts left : Nat) (state : σ × List Activity) :
    (environment.watched.search schemaId attempts left state).1 =
        (environment.search schemaId attempts left state.1).1 ∧
      (environment.watched.search schemaId attempts left state).2.1 =
        (environment.search schemaId attempts left state.1).2 := by
  induction left generalizing state with
  | zero => exact ⟨rfl, rfl⟩
  | succ left inductionHypothesis =>
      -- Both searches get the same reply, so they go the same way.
      have goesOn := fun next => inductionHypothesis (environment.watched.pauseBefore left next)
      simp only [watched_pauseBefore] at goesOn
      cases outcome : (environment.fetch schemaId state.1).1.result with
      | error error =>
          have watchedOutcome : (environment.watched.fetch schemaId state).1.result =
              .error error := outcome
          simp only [search, outcome, watchedOutcome]
          exact goesOn _
      | ok found? =>
          have watchedOutcome : (environment.watched.fetch schemaId state).1.result =
              .ok found? := outcome
          cases found? with
          | none =>
              simp only [search, outcome, watchedOutcome]
              exact goesOn _
          | some found =>
              simp only [search, outcome, watchedOutcome]
              exact environment.watched_adopt schemaId found _

theorem resolve_of_held {schemaId : Int64} {state : σ} {schema : Schema}
    (held : (environment.service state).find schemaId = .ok (some schema)) :
    environment.resolve schemaId state = (.ok schema, state) := by
  simp only [resolve, held]

theorem resolve_of_missing {schemaId : Int64} {state : σ}
    (missing : (environment.service state).find schemaId = .ok none) :
    let attempts := (environment.service state).config.fetchAttempts.toNat
    environment.resolve schemaId state = environment.search schemaId attempts attempts state := by
  simp only [resolve, missing]

/-- The log makes no difference to a resolution. -/
theorem watched_resolve (schemaId : Int64) (state : σ × List Activity) :
    (environment.watched.resolve schemaId state).1 =
        (environment.resolve schemaId state.1).1 ∧
      (environment.watched.resolve schemaId state).2.1 =
        (environment.resolve schemaId state.1).2 := by
  cases held : (environment.service state.1).find schemaId with
  | error error =>
      have watchedHeld : (environment.watched.service state).find schemaId = .error error := held
      simp [resolve, held, watchedHeld]
  | ok found? =>
      have watchedHeld : (environment.watched.service state).find schemaId = .ok found? := held
      cases found? with
      | some found =>
          rw [resolve_of_held _ held, resolve_of_held _ watchedHeld]
          exact ⟨rfl, rfl⟩
      | none =>
          rw [resolve_of_missing _ held, resolve_of_missing _ watchedHeld]
          exact environment.watched_search schemaId _ _ state

end Environment

/-! ## The requests of a resolution -/

/-- How long the pause between two requests lasts. -/
def Station.pause {ρ : Type} (station : Station ρ) : Nat :=
  station.service.config.fetchRetryInterval.toNat

namespace Exchange

variable {ρ : Type} (exchange : Exchange ρ) (schemaId : Int64)

/-- The state of a replicator after requests for an id. -/
def after : Nat → ρ → ρ
  | 0, replicator => replicator
  | count + 1, replicator => after count (exchange.fetch schemaId replicator).2

/-- What a replicator answers to a request for an id, after so many others. -/
def answer (earlier : Nat) (replicator : ρ) : Reply (Option Schema) :=
  (exchange.fetch schemaId (exchange.after schemaId earlier replicator)).1

/-- Requests for an id, each followed by the wait for its answer, and a pause between two. -/
def trail (pause : Nat) (count : Nat) (replicator : ρ) : List Activity :=
  [Activity.wait pause].intercalate ((List.range count).map fun earlier =>
    [.fetch schemaId, .wait (exchange.answer schemaId earlier replicator).delay])

theorem trail_succ (pause left : Nat) (replicator : ρ) :
    exchange.trail schemaId pause (left + 1) replicator =
      [.fetch schemaId, .wait (exchange.fetch schemaId replicator).1.delay] ++
        (if left = 0 then [] else [.wait pause]) ++
          exchange.trail schemaId pause left (exchange.fetch schemaId replicator).2 := by
  have later : ((List.range left).map Nat.succ).map (fun earlier =>
        [Activity.fetch schemaId, .wait (exchange.answer schemaId earlier replicator).delay]) =
      (List.range left).map fun earlier => [Activity.fetch schemaId,
        .wait (exchange.answer schemaId earlier (exchange.fetch schemaId replicator).2).delay] := by
    rw [List.map_map]
    rfl
  rw [trail, trail, List.range_succ_eq_map, List.map_cons, later]
  cases left with
  | zero => rfl
  | succ left =>
      rw [List.range_succ_eq_map, List.map_cons, List.intercalate_cons_cons, if_neg (by omega)]
      rfl

variable {exchange schemaId} {station : Station ρ}

/-- A request without a schema leaves the service as it was and goes over to the next one. -/
theorem exists_missed (missed : (exchange.fetch schemaId station.replicator).1.schema? = none)
    (attempts left : Nat) (log : List Activity) : ∃ later : Station ρ,
    later.service = station.service ∧
    later.replicator = (exchange.fetch schemaId station.replicator).2 ∧
    exchange.environment.watched.search schemaId attempts (left + 1) (station, log) =
      exchange.environment.watched.search schemaId attempts left (later,
        log ++ ([.fetch schemaId, .wait (exchange.fetch schemaId station.replicator).1.delay] ++
          if left = 0 then [] else [.wait station.pause])) := by
  have noSchema : ∀ answer, (exchange.environment.watched.fetch schemaId (station, log)).1.result ≠
      .ok (some answer) := Response.schema?_eq_none_iff.1 missed
  obtain ⟨notice, goesOn⟩ :=
    exchange.environment.watched.search_missed noSchema attempts left
  rw [goesOn, Environment.watched_answered]
  cases left with
  | zero =>
      refine ⟨exchange.environment.note [notice] (exchange.environment.answered schemaId station),
        rfl, rfl, ?_⟩
      rw [if_pos rfl, List.append_nil]
      rfl
  | succ left =>
      refine ⟨exchange.environment.wait station.pause (exchange.environment.note [notice]
        (exchange.environment.answered schemaId station)), rfl, rfl, ?_⟩
      rw [if_neg (by omega), ← List.append_assoc]
      rfl

/-- Without a schema in any answer, the search makes all its requests and gives up. -/
theorem search_of_missed {left : Nat}
    (missed : ∀ earlier < left,
      (exchange.answer schemaId earlier station.replicator).schema? = none)
    (attempts : Nat) (log : List Activity) :
    let outcome := exchange.environment.watched.search schemaId attempts left (station, log)
    outcome.1 = .error (.schemaUnresolved schemaId) ∧
      outcome.2.1.service = station.service ∧
      outcome.2.2 = log ++ exchange.trail schemaId station.pause left station.replicator := by
  intro outcome
  induction left generalizing station log with
  | zero => exact ⟨rfl, rfl, (List.append_nil log).symm⟩
  | succ left inductionHypothesis =>
      obtain ⟨later, sameService, replicator, goesOn⟩ :=
        exists_missed (missed 0 (Nat.zero_lt_succ left)) attempts left log
      -- What the replicator answers from here on are its answers but for the first one.
      have missedLater : ∀ earlier < left,
          (exchange.answer schemaId earlier later.replicator).schema? = none := by
        rw [replicator]
        exact fun earlier below => missed (earlier + 1) (Nat.succ_lt_succ below)
      obtain ⟨failed, service, asked⟩ := inductionHypothesis missedLater _
      rw [show outcome = _ from goesOn, trail_succ, ← replicator]
      rw [Station.pause, sameService, List.append_assoc log] at asked
      exact ⟨failed, service.trans sameService, asked⟩

/-- The search ends with the first answer that gives a schema. -/
theorem search_of_hit {earlier left : Nat} (inTime : earlier < left)
    (missed : ∀ before < earlier,
      (exchange.answer schemaId before station.replicator).schema? = none) {found : Schema}
    (hit : (exchange.answer schemaId earlier station.replicator).schema? = some found)
    (attempts : Nat) (log : List Activity) : ∃ later : Station ρ, later.service = station.service ∧
    exchange.environment.watched.search schemaId attempts left (station, log) =
      exchange.environment.watched.adopt schemaId found (later,
        log ++ exchange.trail schemaId station.pause (earlier + 1) station.replicator) := by
  obtain ⟨left, rfl⟩ := Nat.exists_eq_succ_of_ne_zero (Nat.ne_of_gt (Nat.zero_lt_of_lt inTime))
  induction earlier generalizing station log left with
  | zero =>
      have gives : (exchange.environment.watched.fetch schemaId (station, log)).1.result =
          .ok (some found) := Response.schema?_eq_some_iff.1 hit
      refine ⟨exchange.environment.answered schemaId station, rfl, ?_⟩
      rw [exchange.environment.watched.search_found gives, Environment.watched_answered]
      rfl
  | succ earlier inductionHypothesis =>
      obtain ⟨later, sameService, replicator, goesOn⟩ :=
        exists_missed (missed 0 (Nat.zero_lt_succ earlier)) attempts left log
      -- The hit is still to come, so the pause before it is made.
      obtain ⟨left, rfl⟩ : ∃ fewer, left = fewer + 1 :=
        Nat.exists_eq_succ_of_ne_zero (by omega)
      have missedLater : ∀ before < earlier,
          (exchange.answer schemaId before later.replicator).schema? = none := by
        rw [replicator]
        exact fun before below => missed (before + 1) (Nat.succ_lt_succ below)
      have hitLater :
          (exchange.answer schemaId earlier later.replicator).schema? = some found := by
        rw [replicator]
        exact hit
      obtain ⟨last, service, adopted⟩ :=
        inductionHypothesis missedLater hitLater _ left (Nat.lt_of_succ_lt_succ inTime)
      refine ⟨last, service.trans sameService, ?_⟩
      rw [goesOn, adopted, exchange.trail_succ _ _ (earlier + 1), ← replicator, Station.pause,
        Station.pause, sameService, List.append_assoc log, if_neg (Nat.succ_ne_zero left),
        if_neg (Nat.succ_ne_zero earlier)]

variable (exchange) in
/-- A schema with the id asked for is registered, and one with another id is refused. -/
theorem adopt_of_free (isOpen : station.service.interrupted = false)
    (free : station.service.registry.find? schemaId = none) (found : Schema)
    (log : List Activity) :
    let outcome := exchange.environment.watched.adopt schemaId found (station, log)
    outcome.2.2 = log ∧
      (found.id = schemaId → outcome.1 = .ok found ∧
        outcome.2.1.service =
          { station.service with registry := station.service.registry.insert found }) ∧
      (found.id ≠ schemaId →
        outcome.1 = .error (Environment.foreignAnswer schemaId found) ∧
          outcome.2.1.service = station.service) := by
  intro outcome
  by_cases same : found.id = schemaId
  · subst same
    have registration : Service.register found station.service =
        { result := .ok found
          service := { station.service with registry := station.service.registry.insert found }
          notices := [.registered found] } := by
      rcases Service.register_cases found isOpen with
        ⟨_, registered⟩ | ⟨held, _⟩ | ⟨_, held, _⟩
      · exact registered
      · cases free.symm.trans held
      · cases free.symm.trans held
    have accepted : (Service.register found
        (exchange.environment.watched.service (station, log))).result = .ok found :=
      congrArg Effect.result registration
    have adopted := exchange.environment.watched.adopt_of_registered rfl accepted
    rw [show outcome = _ from adopted]
    refine ⟨rfl, fun _ => ⟨rfl, ?_⟩, fun different => absurd rfl different⟩
    exact congrArg Effect.service registration
  · have refused : outcome = (.error (Environment.foreignAnswer schemaId found),
        exchange.environment.watched.note [.foreignAnswer found schemaId] (station, log)) :=
      if_neg same
    rw [refused]
    exact ⟨rfl, fun isSame => absurd isSame same, fun _ => ⟨rfl, rfl⟩⟩

variable (isOpen : station.service.interrupted = false)
  (missing : station.service.find schemaId = .ok none)

include missing

theorem watched_resolve_of_missing (log : List Activity) :
    let attempts := station.service.config.fetchAttempts.toNat
    exchange.environment.watched.resolve schemaId (station, log) =
      exchange.environment.watched.search schemaId attempts attempts (station, log) :=
  exchange.environment.watched.resolve_of_missing missing

include isOpen

/-- The first answer with a schema decides the outcome. -/
theorem watched_resolve_of_hit {earlier : Nat}
    (inTime : earlier < station.service.config.fetchAttempts.toNat)
    (missed : ∀ before < earlier,
      (exchange.answer schemaId before station.replicator).schema? = none) {found : Schema}
    (hit : (exchange.answer schemaId earlier station.replicator).schema? = some found)
    (log : List Activity) :
    let outcome := exchange.environment.watched.resolve schemaId (station, log)
    outcome.2.2 =
        log ++ exchange.trail schemaId station.pause (earlier + 1) station.replicator ∧
      (found.id = schemaId → outcome.1 = .ok found ∧
        outcome.2.1.service =
          { station.service with registry := station.service.registry.insert found }) ∧
      (found.id ≠ schemaId →
        outcome.1 = .error (Environment.foreignAnswer schemaId found) ∧
          outcome.2.1.service = station.service) := by
  obtain ⟨later, sameService, adopted⟩ := search_of_hit inTime missed hit
    station.service.config.fetchAttempts.toNat log
  have free : later.service.registry.find? schemaId = none := by
    rw [Service.find_of_open isOpen] at missing
    rw [sameService]
    exact Except.ok.inj missing
  have stillOpen : later.service.interrupted = false := by
    rw [sameService, isOpen]
  have decided := exchange.adopt_of_free stillOpen free found
    (log ++ exchange.trail schemaId station.pause (earlier + 1) station.replicator)
  rw [watched_resolve_of_missing missing, adopted]
  rw [sameService] at decided
  exact decided

end Exchange

/-! ## The outcome of a resolution -/

/-- A cluster as the replicator of a service that is none of its members. -/
def Cluster.exchange (replicator : Replicator) : Exchange Cluster where
  replicate schema cluster := cluster.replicate schema replicator
  fetch schemaId cluster := cluster.fetch schemaId replicator

/-- A registered id is answered with no request at all. Otherwise requests are made until one
is answered with a schema, at most as many as there are attempts, with a pause between two of
them. The first schema is taken over if it has the id asked for, and else is refused; nothing
changes in the service but by that, and no mark does. A request to a group is answered with the
first schema that one of its peers gives, and the peers after that one are not asked. -/
theorem resolution_outcome {ρ : Type} (exchange : Exchange ρ) {station : Station ρ}
    (reachable : station.service.Reachable) (schemaId : Int64) (log : List Activity) :
    (let config := station.service.config
      let attempts := config.fetchAttempts.toNat
      let pause := config.fetchRetryInterval.toNat
      let answers := fun earlier =>
        (exchange.answer schemaId earlier station.replicator).schema?
      let trail := fun count => exchange.trail schemaId pause count station.replicator
      let outcome := exchange.environment.resolve schemaId station
      let watched := exchange.environment.watched.resolve schemaId (station, log)
      1 ≤ attempts ∧
      (watched.1 = outcome.1 ∧ watched.2.1 = outcome.2) ∧
      (∀ other, outcome.2.service.isReplicated other = station.service.isReplicated other) ∧
      (∀ schema, station.service.find schemaId = .ok (some schema) →
        outcome = (.ok schema, station) ∧ watched.2.2 = log) ∧
      (station.service.find schemaId = .ok none →
        ((∀ earlier < attempts, answers earlier = none) →
          outcome.1 = .error (.schemaUnresolved schemaId) ∧
          (SchemaError.schemaUnresolved schemaId).isRetryable = true ∧
          outcome.2.service = station.service ∧
          watched.2.2 = log ++ trail attempts) ∧
        ∀ earlier < attempts, (∀ before < earlier, answers before = none) →
          ∀ found, answers earlier = some found →
            watched.2.2 = log ++ trail (earlier + 1) ∧
            (found.id = schemaId →
              outcome.1 = .ok found ∧
              outcome.2.service =
                { station.service with registry := station.service.registry.insert found } ∧
              ∀ other, outcome.2.service.find other =
                if other = schemaId then .ok (some found) else station.service.find other) ∧
            (found.id ≠ schemaId → ∃ error, outcome.1 = .error error ∧
              error = .schemaConflict schemaId ("requested schema id " ++ toString schemaId)
                found.text ∧
              error.isRetryable = false ∧
              outcome.2.service = station.service))) ∧
    ∀ (cluster : Cluster) (group : Nat),
      let present := (cluster.peers group).filter cluster.reaches
      let lookups := (Cluster.askEach (Cluster.lookupAt schemaId) present cluster).1
      let asked := present.take (lookups.findIdx (fun answer => answer.schema?.isSome) + 1)
      let fetched := (Cluster.exchange (.majority group)).fetch schemaId cluster
      fetched.1.result = .ok (lookups.findSome? Response.schema?) ∧
        fetched.2 = (Cluster.askEach (Cluster.lookupAt schemaId) asked cluster).2 := by
  refine ⟨?_, fun cluster group => Cluster.searchPeers_eq schemaId (cluster.peers group) cluster⟩
  intro config attempts pause answers trail outcome watched
  have isOpen := reachable.isOpen
  obtain ⟨sameResult, sameStation⟩ : watched.1 = outcome.1 ∧ watched.2.1 = outcome.2 :=
    exchange.environment.watched_resolve schemaId (station, log)
  have grows : station.service.GrowsBy _ (fun _ => False) outcome.2.service :=
    exchange.growth.resolve schemaId station
  have stillOpen : outcome.2.service.interrupted = false := grows.interrupted.trans isOpen
  refine ⟨station.service.fetchAttempts_pos, ⟨sameResult, sameStation⟩, ?_, ?_, ?_⟩
  · intro other
    rw [Bool.eq_iff_iff]
    exact ⟨fun mark => (grows.newMark mark).resolve_right id, grows.keepsMark⟩
  · intro schema held
    have unasked : watched = (.ok schema, station, log) :=
      exchange.environment.watched.resolve_of_held held
    refine ⟨exchange.environment.resolve_of_held held, ?_⟩
    rw [unasked]
  · intro missing
    rw [← sameResult]
    constructor
    · intro missed
      have gaveUp := Exchange.search_of_missed missed attempts log
      rw [← Exchange.watched_resolve_of_missing missing] at gaveUp
      rw [← sameStation]
      exact ⟨gaveUp.1, rfl, gaveUp.2⟩
    · intro earlier inTime missed found hit
      obtain ⟨asked, takenOver, refused⟩ :=
        Exchange.watched_resolve_of_hit isOpen missing inTime missed hit log
      refine ⟨asked, fun same => ?_, fun different => ?_⟩
      · obtain ⟨answered, gained⟩ := takenOver same
        have service : outcome.2.service =
            { station.service with registry := station.service.registry.insert found } :=
          (congrArg Station.service sameStation.symm).trans gained
        refine ⟨answered, service, fun other => ?_⟩
        rw [Service.find_of_open stillOpen, Service.find_of_open isOpen, service,
          Registry.find?_insert, same]
        by_cases isOther : schemaId = other
        · rw [if_pos isOther, if_pos isOther.symm]
        · rw [if_neg isOther, if_neg (Ne.symm isOther)]
      · obtain ⟨failed, unchanged⟩ := refused different
        rw [← sameStation]
        exact ⟨_, failed, rfl, rfl, unchanged⟩

/-- Of the peers of a group one has left and one fails each time. The third one knows the schema
when it is asked for the second time. -/
theorem resolution_outcome_second :
    let ping := Schema.fieldless "Ping" (by decide)
    let cluster : Cluster :=
      { groups := [[.member 0, .endpoint 0, .endpoint 1]]
        endpoints :=
          [{ supply := { turns := [{ failure? := some "busy" }] } },
            { supply := { turns := [{}, { schema? := some ping }] } }] }
    let station : Station Cluster := { service := .standard, replicator := cluster }
    let exchange := Cluster.exchange (.majority 0)
    (exchange.environment.resolve ping.id station).1 = .ok ping ∧
      (exchange.environment.watched.resolve ping.id (station, [])).2.2 =
        [.fetch ping.id, .wait 0, .wait 100, .fetch ping.id, .wait 0] ∧
      (exchange.fetch ping.id cluster).1.result = .ok none := by
  intro ping cluster station exchange
  have reachable : station.service.Reachable := Service.reachable_standard
  obtain ⟨⟨_, _, _, _, searched⟩, searchedGroup⟩ :=
    resolution_outcome exchange reachable ping.id []
  have missed : ∀ before < 1, (exchange.answer ping.id before cluster).schema? = none := by
    intro before below
    obtain rfl := Nat.lt_one_iff.1 below
    rfl
  obtain ⟨asked, takenOver, _⟩ := (searched rfl).2 1 (by decide) missed ping rfl
  exact ⟨(takenOver rfl).1, asked, (searchedGroup cluster 0).1⟩

end CompactSchema
