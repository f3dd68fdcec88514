import CordonWatch.Api.Write

/-!
# The API server

The server holds the objects of all kinds and gives each a new version with
every change. A write must be of an object that the server has; if the write
carries a version, it must be the one that the server has. Times reach the
server in whole seconds, since that is how they are written.
-/

namespace CordonWatch.Cluster

/-- The objects on the server. -/
structure Server where
  nodes : Table ObjectKey Node := Table.empty
  pods : Table ObjectKey Pod := Table.empty
  budgets : Table ObjectKey Budget := Table.empty
  autoscalers : Table ObjectKey Autoscaler := Table.empty
  /-- The version given last. -/
  lastVersion : Nat := 0
  deriving Inhabited

namespace Server

/-- The version after the one given last. -/
def nextVersion (s : Server) : Nat := s.lastVersion + 1

/-- The object in the next version. -/
def stamp {α : Type} [HasMetadata α] (s : Server) (x : α) : α :=
  withVersion (some (toString s.nextVersion)) x

/-- Stores a pod in the next version, and gives back what is stored. -/
def putPod (s : Server) (pod : Pod) : Pod × Server :=
  let pod := s.stamp pod
  (pod, { s with pods := s.pods.insert pod.key pod, lastVersion := s.nextVersion })

/-- Stores an autoscaler in the next version, and gives back what is stored. -/
def putAutoscaler (s : Server) (a : Autoscaler) : Autoscaler × Server :=
  let a := s.stamp a
  (a, { s with autoscalers := s.autoscalers.insert a.metadata.key a, lastVersion := s.nextVersion })

/-- Stores an object in the next version, and gives back what is stored. -/
def put (s : Server) : Object → Object × Server
  | .node n =>
    let n := s.stamp n
    (.node n, { s with nodes := s.nodes.insert n.metadata.key n, lastVersion := s.nextVersion })
  | .pod p =>
    let (p, s) := s.putPod p
    (.pod p, s)
  | .budget b =>
    let b := s.stamp b
    (.budget b,
      { s with budgets := s.budgets.insert b.metadata.key b, lastVersion := s.nextVersion })
  | .autoscaler a =>
    let (a, s) := s.putAutoscaler a
    (.autoscaler a, s)

/-- The object of a kind and key. -/
def find? (s : Server) (kind : Kind) (key : ObjectKey) : Option Object :=
  match kind with
  | .node => (s.nodes.find? key).map .node
  | .pod => (s.pods.find? key).map .pod
  | .budget => (s.budgets.find? key).map .budget
  | .autoscaler => (s.autoscalers.find? key).map .autoscaler

/-- Deletes an object. -/
def delete (s : Server) (kind : Kind) (key : ObjectKey) : Server :=
  match kind with
  | .node => { s with nodes := s.nodes.erase key }
  | .pod => { s with pods := s.pods.erase key }
  | .budget => { s with budgets := s.budgets.erase key }
  | .autoscaler => { s with autoscalers := s.autoscalers.erase key }

/-- Gives an object the next version and changes nothing else. -/
def touch (s : Server) (kind : Kind) (key : ObjectKey) : Server :=
  match s.find? kind key with
  | some object => (s.put object).2
  | none => s

/-- A condition as it arrives, with its times in whole seconds. -/
def received (c : PodCondition) : PodCondition :=
  { c with
    lastProbeTime := c.lastProbeTime.map Instant.wholeSeconds
    lastTransitionTime := c.lastTransitionTime.map Instant.wholeSeconds }

/-- An autoscaler as it arrives, with the time of the last eviction in whole seconds. -/
def receivedAutoscaler (a : Autoscaler) : Autoscaler :=
  let eviction := a.spec.lastEviction
  let time := eviction.evictionTime.map Instant.wholeSeconds
  { a with spec := { a.spec with lastEviction := { eviction with evictionTime := time } } }

/-- The plural by which a kind is requested. -/
def plural : Kind → String
  | .node => "nodes"
  | .pod => "pods"
  | .budget => "poddisruptionbudgets"
  | .autoscaler => Autoscaler.plural

/-- The refusal of a write of an object that is not there. -/
def missing (w : Api.Write) : Api.Refusal :=
  .notFound (plural w.kind ++ " \"" ++ w.name ++ "\" not found")

/-- The refusal of a write on a stale version. -/
def modified (w : Api.Write) : Api.Refusal := .stale (w.name ++ " was modified")

/-- Whether a write carries another version than the one stored. -/
def isStale (w : Api.Write) (stored : Option String) : Bool :=
  match w.version with
  | some version => decide (stored ≠ some version)
  | none => false

/-- Performs a write, and gives back what is stored. -/
def write (s : Server) (w : Api.Write) : Except Api.Refusal w.Stored × Server :=
  let key : ObjectKey := ⟨w.ns, w.name⟩
  match w with
  | .podConditions pod =>
    match s.pods.find? key with
    | none => (.error (missing w), s)
    | some stored =>
      if isStale w (versionOf stored) then (.error (modified w), s)
      else
        let conditions := pod.conditions.map fun cs => cs.map received
        let (pod, s) := s.putPod { stored with status := { stored.status with conditions } }
        (.ok pod, s)
  | .autoscaler a =>
    match s.autoscalers.find? key with
    | none => (.error (missing w), s)
    | some stored =>
      if isStale w (versionOf stored) then (.error (modified w), s)
      else
        let (a, s) := s.putAutoscaler (receivedAutoscaler a)
        (.ok a, s)

end Server

end CordonWatch.Cluster
