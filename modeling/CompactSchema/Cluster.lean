import CompactSchema.Cluster.Endpoint

/-!
Contract: members that keep their schema registries in step.

Each member has a service and a replicator. A group is a list of peers that a
majority is sought in. Groups know their peers only by sight: a peer that has
left stays on the list and can not be reached.

Owns: the state of a cluster, joining and leaving, and who can be reached.

Does not own: the requests between members, see `Cluster.Replication`.
-/

set_option autoImplicit false

namespace CompactSchema

/-- Someone on the list of a group. -/
inductive Peer where
  | member (index : Nat)
  | endpoint (index : Nat)
deriving DecidableEq, Repr

/-- How a member reaches the rest of the cluster. -/
inductive Replicator where
  /-- There is no other member. -/
  | solitary
  /-- A majority of the group and the member itself has to hold a schema. -/
  | majority (group : Nat)
  | endpoint (index : Nat)
deriving DecidableEq, Repr

structure Member where
  service : Service
  replicator : Replicator := .solitary
  /-- The member has not left. -/
  live : Bool := true

/-- A cluster, with the milliseconds that have passed and what was reported so
far. -/
structure Cluster where
  members : List Member := []
  groups : List (List Peer) := []
  endpoints : List Endpoint := []
  clock : Nat := 0
  journal : List Notice := []

/-- The member at a place that no one has taken. -/
def Member.vacant : Member := { service := .standard, live := false }

namespace Cluster

/-! ## Looking up -/

def member (cluster : Cluster) (index : Nat) : Member :=
  cluster.members.getD index .vacant

def endpoint (cluster : Cluster) (index : Nat) : Endpoint :=
  cluster.endpoints.getD index { kept := false }

/-- The peers of a group in the order in which they joined it. -/
def peers (cluster : Cluster) (group : Nat) : List Peer :=
  cluster.groups.getD group []

/-- The size of a group, with the member that asks it. -/
def groupSize (cluster : Cluster) (group : Nat) : Nat :=
  (cluster.peers group).length + 1

/-- Whether a peer is still there: a member until it leaves, an endpoint as long
as someone keeps it or a member has it as its replicator. -/
def reaches (cluster : Cluster) : Peer → Bool
  | .member index => (cluster.member index).live
  | .endpoint index =>
    (cluster.endpoint index).kept
      || cluster.members.any fun member => member.live && member.replicator = .endpoint index

/-! ## Joining and leaving -/

/-- Add a member; its place is the number of members before. -/
def addMember (member : Member) (cluster : Cluster) : Cluster :=
  { cluster with members := cluster.members ++ [member] }

/-- Add an empty group. -/
def addGroup (cluster : Cluster) : Cluster :=
  { cluster with groups := cluster.groups ++ [[]] }

def addEndpoint (endpoint : Endpoint) (cluster : Cluster) : Cluster :=
  { cluster with endpoints := cluster.endpoints ++ [endpoint] }

/-- Put a peer at the end of the list of a group. -/
def addPeer (group : Nat) (peer : Peer) (cluster : Cluster) : Cluster :=
  { cluster with groups := cluster.groups.modify group (· ++ [peer]) }

/-- A member leaves. -/
def removeMember (index : Nat) (cluster : Cluster) : Cluster :=
  { cluster with members := cluster.members.modify index ({ · with live := false }) }

/-- An endpoint is not kept any more. -/
def releaseEndpoint (index : Nat) (cluster : Cluster) : Cluster :=
  { cluster with endpoints := cluster.endpoints.modify index ({ · with kept := false }) }

/-! ## Changes of state -/

def setService (index : Nat) (service : Service) (cluster : Cluster) : Cluster :=
  { cluster with members := cluster.members.modify index ({ · with service := service }) }

def setEndpoint (index : Nat) (endpoint : Endpoint) (cluster : Cluster) : Cluster :=
  { cluster with endpoints := cluster.endpoints.set index endpoint }

/-- Let milliseconds pass. -/
def wait (milliseconds : Nat) (cluster : Cluster) : Cluster :=
  { cluster with clock := cluster.clock + milliseconds }

/-- Add notices to the journal. -/
def note (notices : List Notice) (cluster : Cluster) : Cluster :=
  { cluster with journal := cluster.journal ++ notices }

end Cluster

end CompactSchema
