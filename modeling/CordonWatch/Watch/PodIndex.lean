import CordonWatch.Log
import CordonWatch.Object.Pod
import CordonWatch.Watch.Event

/-!
# Pods by node

The index answers which pods are on a node without going through all pods. It
follows a watch of pods. Each pod that is assigned to a node stands in the
bucket of that node, under its key; a second map says in which bucket a key
stands, so that a pod is found again when it moves or goes.

While a list runs, its pods are collected apart, and take the place of the
index when the list is complete, so a reader never sees half a list.
-/

namespace CordonWatch.Watch

/-- Pods in buckets by node, and the node of each key. -/
structure Placement where
  byNode : Table String (Table ObjectKey Pod) := Table.empty
  nodeOf : Table ObjectKey String := Table.empty
  deriving Inhabited

namespace Placement

/-- Removes the pod of a key. A bucket that gets empty goes too. -/
def remove (p : Placement) (key : ObjectKey) : Placement :=
  match p.nodeOf.find? key with
  | none => p
  | some node =>
    { nodeOf := p.nodeOf.erase key
      byNode :=
        match p.byNode.find? node with
        | none => p.byNode
        | some bucket =>
          let bucket := bucket.erase key
          if bucket.isEmpty then p.byNode.erase node else p.byNode.insert node bucket }

/-- Puts a pod into the bucket of its node, after it was taken out of the one
it was in. A pod without a node is in none. -/
def upsert (p : Placement) (pod : Pod) : Placement :=
  let p := p.remove pod.key
  match pod.node? with
  | none => p
  | some node =>
    { nodeOf := p.nodeOf.insert pod.key node
      byNode := p.byNode.insert node (((p.byNode.find? node).getD Table.empty).insert pod.key pod) }

/-- The pods of a node, by namespace and name. -/
def podsOn (p : Placement) (node : String) : List Pod :=
  match p.byNode.find? node with
  | some bucket => bucket.values
  | none => []

/-- Number of pods that are on a node. -/
def size (p : Placement) : Nat := p.nodeOf.size

end Placement

/-- The index: what readers see, what a running list has collected, and
whether some list was ever completed. -/
structure PodIndex where
  live : Placement := {}
  staged : Option Placement := none
  ready : Bool := false
  deriving Inhabited

namespace PodIndex

/-- Takes in one event. -/
def apply (ix : PodIndex) : Event Pod → PodIndex
  | .init => { ix with staged := some {} }
  | .initApply pod => { ix with staged := some ((ix.staged.getD {}).upsert pod) }
  | .initDone => { live := ix.staged.getD {}, staged := none, ready := true }
  | .apply pod => { ix with live := ix.live.upsert pod }
  | .delete pod => { ix with live := ix.live.remove pod.key }

/-- Takes in a sequence of events. -/
def applyAll (ix : PodIndex) (events : List (Event Pod)) : PodIndex := events.foldl apply ix

/-- What the log says when an event is taken in: the first completed list is reported. -/
def report (ix : PodIndex) : Event Pod → List LogLine
  | .initDone =>
    if ix.ready then []
    else [⟨.info, "Pod-by-node index built", [("pods", .count (ix.staged.getD {}).size)]⟩]
  | _ => []

/-- The pods assigned to a node, by namespace and name. -/
def podsOn (ix : PodIndex) (node : String) : List Pod := ix.live.podsOn node

/-- Number of pods in the index. -/
def size (ix : PodIndex) : Nat := ix.live.size

def isEmpty (ix : PodIndex) : Bool := ix.size == 0

end PodIndex

end CordonWatch.Watch
