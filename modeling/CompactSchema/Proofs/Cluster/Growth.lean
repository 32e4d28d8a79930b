import CompactSchema.Cluster.Calls
import CompactSchema.Proofs.Call

/-!
Contract: how the members of a cluster grow together.

A call on one member can make other members register its schema, but no call
makes any member forget one, and only the member that is called marks ids. The
members that leave keep their state; they are just not reached any more.

Owns: the growth of a cluster, what each request between members can make grow,
and runs of calls on the members of a cluster.

Does not own: how many members hold a schema, see `Proofs.Cluster.Agreement`.
-/

set_option autoImplicit false

namespace CompactSchema

namespace Cluster

/-! ## One member among others -/

theorem getD_modify {α : Type} (items : List α) (index other : Nat) (change : α → α)
    (default : α) :
    (items.modify index change).getD other default =
      if index = other ∧ index < items.length then change (items.getD other default)
      else items.getD other default := by
  simp only [List.getD_eq_getElem?_getD, List.getElem?_modify]
  by_cases same : index = other
  · subst same
    by_cases inRange : index < items.length
    · simp [inRange]
    · simp [inRange]
  · simp [same]

theorem member_modify (cluster : Cluster) (index other : Nat) (change : Member → Member) :
    ({ cluster with members := cluster.members.modify index change } : Cluster).member other =
      if index = other ∧ index < cluster.members.length then change (cluster.member other)
      else cluster.member other :=
  getD_modify cluster.members index other change .vacant

theorem member_setService_self {cluster : Cluster} {index : Nat}
    (inRange : index < cluster.members.length) (service : Service) :
    ((cluster.setService index service).member index).service = service := by
  rw [setService, member_modify, if_pos ⟨rfl, inRange⟩]

theorem service_perform {cluster : Cluster} {index : Nat}
    (inRange : index < cluster.members.length) {α : Type} (call : Service → Effect α) :
    (((environment index).perform call cluster).2.member index).service =
      (call (cluster.member index).service).service :=
  member_setService_self inRange _

/-! ## Growth -/

/-- Members and groups are the same; only the rest may differ. -/
def SameMembers (first second : Cluster) : Prop :=
  second.members = first.members ∧ second.groups = first.groups

theorem SameMembers.member {first second : Cluster} (same : first.SameMembers second)
    (index : Nat) : second.member index = first.member index := by
  rw [Cluster.member, Cluster.member, same.1]

/-- The later cluster has the same members in the same groups; they have taken in
some offered schemas, and each has marked some ids. -/
structure GrowsBy (offered : Schema → Prop) (marked : Nat → Int64 → Prop)
    (earlier later : Cluster) : Prop where
  size : later.members.length = earlier.members.length
  groups : later.groups = earlier.groups
  replicator : ∀ index, (later.member index).replicator = (earlier.member index).replicator
  service : ∀ index, (earlier.member index).service.GrowsBy offered (marked index)
    (later.member index).service

namespace GrowsBy

variable {offered : Schema → Prop} {marked : Nat → Int64 → Prop} {earlier later : Cluster}

theorem of_same (same : earlier.SameMembers later) : earlier.GrowsBy offered marked later where
  size := congrArg List.length same.1
  groups := same.2
  replicator := by
    intro index
    rw [same.member]
  service := by
    intro index
    rw [same.member]
    exact .refl _

theorem trans {latest : Cluster} (first : earlier.GrowsBy offered marked later)
    (second : later.GrowsBy offered marked latest) : earlier.GrowsBy offered marked latest where
  size := second.size.trans first.size
  groups := second.groups.trans first.groups
  replicator := fun index => (second.replicator index).trans (first.replicator index)
  service := fun index => (first.service index).trans (second.service index)

theorem mono {more : Schema → Prop} {moreMarked : Nat → Int64 → Prop}
    (weaker : ∀ schema, offered schema → more schema)
    (weakerMark : ∀ index schemaId, marked index schemaId → moreMarked index schemaId)
    (grows : earlier.GrowsBy offered marked later) : earlier.GrowsBy more moreMarked later :=
  { grows with service := fun index => (grows.service index).mono weaker (weakerMark index) }

theorem peers (grows : earlier.GrowsBy offered marked later) (group : Nat) :
    later.peers group = earlier.peers group := by
  rw [Cluster.peers, Cluster.peers, grows.groups]

end GrowsBy

section

variable {offered : Schema → Prop} {marked : Nat → Int64 → Prop}

/-- A change of one member grows the cluster if it grows the service of that
member and leaves its replicator. -/
theorem modify_growsBy (cluster : Cluster) (index : Nat) {change : Member → Member}
    (replicator : (change (cluster.member index)).replicator = (cluster.member index).replicator)
    (service : (cluster.member index).service.GrowsBy offered (marked index)
      (change (cluster.member index)).service) :
    cluster.GrowsBy offered marked
      { cluster with members := cluster.members.modify index change } where
  size := List.length_modify _ _ _
  groups := rfl
  replicator := by
    intro other
    rw [member_modify]
    split
    · rename_i hit
      rw [← hit.1, replicator]
    · rfl
  service := by
    intro other
    rw [member_modify]
    split
    · rename_i hit
      rw [← hit.1]
      exact service
    · exact .refl _

theorem setService_growsBy {cluster : Cluster} {index : Nat} {service : Service}
    (grows : (cluster.member index).service.GrowsBy offered (marked index) service) :
    cluster.GrowsBy offered marked (cluster.setService index service) :=
  modify_growsBy cluster index rfl grows

theorem removeMember_growsBy (cluster : Cluster) (index : Nat) :
    cluster.GrowsBy offered marked (cluster.removeMember index) :=
  modify_growsBy cluster index rfl (.refl _)

/-! ## Requests between members -/

theorem acceptAt_growsBy (schema : Schema) (peer : Peer) (cluster : Cluster) :
    cluster.GrowsBy (· = schema) marked (acceptAt schema peer cluster).2 := by
  cases peer with
  | member index =>
      have accepted : cluster.GrowsBy (· = schema) marked
          (cluster.setService index ((cluster.member index).service.accept schema).service) :=
        setService_growsBy (Service.accept_growsBy schema _)
      exact accepted.trans (.of_same ⟨rfl, rfl⟩)
  | endpoint _ => exact .of_same ⟨rfl, rfl⟩

theorem offer_growsBy (schema : Schema) (peer : Peer) (cluster : Cluster) :
    cluster.GrowsBy (· = schema) marked (offer schema peer cluster).2 := by
  rw [offer]
  split
  · exact acceptAt_growsBy schema peer cluster
  · exact .of_same ⟨rfl, rfl⟩

theorem offerAll_growsBy (schema : Schema) (peers : List Peer) (cluster : Cluster) :
    cluster.GrowsBy (· = schema) marked (offerAll schema peers cluster).2 := by
  induction peers generalizing cluster with
  | nil => exact .of_same ⟨rfl, rfl⟩
  | cons peer rest inductionHypothesis =>
      exact (offer_growsBy schema peer cluster).trans (inductionHypothesis _)

theorem replicate_growsBy (schema : Schema) (replicator : Replicator) (cluster : Cluster) :
    cluster.GrowsBy (· = schema) marked (cluster.replicate schema replicator).2 := by
  cases replicator with
  | solitary => exact .of_same ⟨rfl, rfl⟩
  | majority group => exact offerAll_growsBy schema _ cluster
  | endpoint _ => exact .of_same ⟨rfl, rfl⟩

end

theorem lookupAt_sameMembers (schemaId : Int64) (peer : Peer) (cluster : Cluster) :
    cluster.SameMembers (lookupAt schemaId peer cluster).2 := by
  cases peer <;> exact ⟨rfl, rfl⟩

theorem searchPeers_sameMembers (schemaId : Int64) (peers : List Peer) (cluster : Cluster) :
    cluster.SameMembers (searchPeers schemaId peers cluster).2 := by
  induction peers generalizing cluster with
  | nil => exact ⟨rfl, rfl⟩
  | cons peer rest inductionHypothesis =>
      have first := lookupAt_sameMembers schemaId peer cluster
      have later := inductionHypothesis (lookupAt schemaId peer cluster).2
      rw [searchPeers]
      dsimp only
      split
      · split
        · exact first
        · exact ⟨later.1.trans first.1, later.2.trans first.2⟩
        · exact ⟨later.1.trans first.1, later.2.trans first.2⟩
      · exact inductionHypothesis cluster

theorem fetch_sameMembers (schemaId : Int64) (replicator : Replicator) (cluster : Cluster) :
    cluster.SameMembers (cluster.fetch schemaId replicator).2 := by
  cases replicator with
  | solitary => exact ⟨rfl, rfl⟩
  | majority group => exact searchPeers_sameMembers schemaId _ cluster
  | endpoint _ => exact ⟨rfl, rfl⟩

theorem asking_sameMembers {index : Nat} {schemaId : Int64} {first last : Cluster}
    (asking : (environment index).Asking schemaId first last) : first.SameMembers last := by
  induction asking with
  | refl => exact ⟨rfl, rfl⟩
  | @fetch last _ inductionHypothesis =>
      have fetched := fetch_sameMembers schemaId (last.member index).replicator last
      exact ⟨fetched.1.trans inductionHypothesis.1, fetched.2.trans inductionHypothesis.2⟩
  | wait _ _ inductionHypothesis => exact inductionHypothesis
  | note _ _ inductionHypothesis => exact inductionHypothesis

/-- What a call on one member makes of the cluster. -/
theorem growth (index : Nat) :
    (environment index).Growth fun offered marked =>
      GrowsBy offered fun other schemaId => other = index ∧ marked schemaId where
  refl := fun _ => .of_same ⟨rfl, rfl⟩
  trans := fun first second => first.trans second
  mono := fun weaker weakerMark grows =>
    grows.mono weaker fun _ _ mark => mark.imp_right (weakerMark _)
  setService := fun grows =>
    setService_growsBy (grows.mono (fun _ => id) fun _ mark => ⟨rfl, mark⟩)
  replicate := fun schema cluster => replicate_growsBy schema _ cluster
  fetch := fun schemaId cluster => .of_same (fetch_sameMembers schemaId _ cluster)
  wait := fun _ _ => .of_same ⟨rfl, rfl⟩
  note := fun _ _ => .of_same ⟨rfl, rfl⟩

/-! ## Runs -/

/-- What can happen to a cluster whose groups are settled. -/
inductive Event where
  | request (index : Nat) (call : Call)
  | leave (index : Nat)

/-- A call on a member with its answer. -/
structure Served where
  index : Nat
  call : Call
  answer : Answer

def step : Event → Cluster → Cluster
  | .request index call, cluster => ((environment index).handle call cluster).2
  | .leave index, cluster => cluster.removeMember index

/-- The cluster after events in their order. -/
def run : List Event → Cluster → Cluster
  | [], cluster => cluster
  | event :: rest, cluster => run rest (cluster.step event)

/-- The calls of a run with their answers. -/
def transcript : List Event → Cluster → List Served
  | [], _ => []
  | .request index call :: rest, cluster =>
    ⟨index, call, ((environment index).handle call cluster).1⟩
      :: transcript rest (cluster.step (.request index call))
  | .leave index :: rest, cluster => transcript rest (cluster.step (.leave index))

/-- The events are about members of a cluster of a size. -/
def Event.Within (size : Nat) : Event → Prop
  | .request index _ => index < size
  | .leave index => index < size

/-- The schemas that an event hands to a member. -/
def Event.given : Event → List Schema
  | .request _ call => call.given
  | .leave _ => []

end Cluster

end CompactSchema
