import CordonWatch.Fault
import CordonWatch.Metrics
import CordonWatch.Pass.Node
import CordonWatch.Store.Shelf
import CordonWatch.Text.Digits
import CordonWatch.Watch.PodIndex

/-!
# A store in memory

The store has two sides. The server's side holds the objects as they are; the
caches hold the pods, by node, and the autoscalers as they were last told of.
Reads of pods and autoscalers see the caches, reads of nodes and budgets the
server. A change on the server reaches the caches at once, unless they lag.

A write must be of an object that the server has, and in the version that the
server has; the object stored then gets the next version. Calls are recorded
in order, and meet with the faults that are scheduled before they are
performed.
-/

namespace CordonWatch.Store

/-- The kinds of calls, by which faults are scheduled. -/
inductive Call.Kind where
  | getNode
  | podsOnNode
  | listAutoscalers
  | getBudget
  | updatePodStatus
  | updateAutoscaler
  deriving DecidableEq, Repr, Inhabited

/-- The kind of a call. -/
def Call.kind : Call → Call.Kind
  | .getNode _ => .getNode
  | .podsOnNode _ => .podsOnNode
  | .listAutoscalers _ => .listAutoscalers
  | .getBudget _ _ => .getBudget
  | .updatePodStatus _ => .updatePodStatus
  | .updateAutoscaler _ => .updateAutoscaler

/-- The number that a version writes, of 64 bits and perhaps with a plus sign; none
if it writes no such number. -/
def versionNumber? (version : String) : Option Nat :=
  let digits := match version.toList with
    | '+' :: rest => rest
    | cs => cs
  if digits.isEmpty || !digits.all Char.isDigit then none
  else
    let n := Text.ofDigits digits
    if n < 2 ^ 64 then some n else none

/-- The version after a version: the next number, where one that writes no
number counts as zero. -/
def nextVersion (version : Option String) : String :=
  toString ((version.bind versionNumber?).getD 0 + 1)

/-- A store in memory, and what became of the calls to it. -/
structure Memory where
  nodes : Shelf Node := []
  budgets : Shelf Budget := []
  pods : Shelf Pod := []
  autoscalers : Shelf Autoscaler := []
  /-- The cache of the pods. -/
  index : Watch.PodIndex := {}
  /-- The cache of the autoscalers. -/
  cached : Shelf Autoscaler := []
  /-- Whether changes do not reach the caches. -/
  lag : Bool := false
  faults : List (Fault Call.Kind Failure) := []
  /-- The calls made, the first one first. -/
  calls : List Call := []
  logs : List LogLine := []
  metrics : Metrics := {}
  now : Instant
  deriving Inhabited

namespace Memory

/-! ### Changes on the server -/

/-- The pod index after an event, and the store with what that reports. -/
def tellIndex (m : Memory) (event : Watch.Event Pod) : Memory :=
  { m with index := m.index.apply event, logs := m.logs ++ m.index.report event }

/-- Puts a pod on the server. -/
def putPod (m : Memory) (pod : Pod) : Memory :=
  let m := { m with pods := Shelf.put pod m.pods }
  if m.lag then m else m.tellIndex (.apply pod)

/-- Puts an autoscaler on the server. -/
def putAutoscaler (m : Memory) (a : Autoscaler) : Memory :=
  let m := { m with autoscalers := Shelf.put a m.autoscalers }
  if m.lag then m else { m with cached := Shelf.put a m.cached }

/-- Puts an object on the server. -/
def put (m : Memory) : Object → Memory
  | .node n => { m with nodes := Shelf.put n m.nodes }
  | .budget b => { m with budgets := Shelf.put b m.budgets }
  | .pod p => m.putPod p
  | .autoscaler a => m.putAutoscaler a

/-- Takes a pod away from the server, if it is there. -/
def removePod (m : Memory) (place : Place) : Memory :=
  match Shelf.at? place m.pods with
  | none => m
  | some pod =>
    let m := { m with pods := Shelf.remove place m.pods }
    if m.lag then m else m.tellIndex (.delete pod)

/-- Takes an autoscaler away from the server, if it is there. -/
def removeAutoscaler (m : Memory) (place : Place) : Memory :=
  match Shelf.at? place m.autoscalers with
  | none => m
  | some _ =>
    let m := { m with autoscalers := Shelf.remove place m.autoscalers }
    if m.lag then m else { m with cached := Shelf.remove place m.cached }

/-- Takes an object away from the server. -/
def remove (m : Memory) (kind : Kind) (place : Place) : Memory :=
  match kind with
  | .node => { m with nodes := Shelf.remove place m.nodes }
  | .budget => { m with budgets := Shelf.remove place m.budgets }
  | .pod => m.removePod place
  | .autoscaler => m.removeAutoscaler place

/-- The shelf where the object of a place has got its next version. -/
def bump {α : Type} [HasMetadata α] (place : Place) (shelf : Shelf α) : Shelf α :=
  shelf.map fun x => if placeOf x = place then withVersion (nextVersion (versionOf x)) x else x

/-- Gives a pod or an autoscaler its next version, of which the caches do not hear. -/
def touch (m : Memory) (kind : Kind) (place : Place) : Memory :=
  match kind with
  | .pod => { m with pods := bump place m.pods }
  | .autoscaler => { m with autoscalers := bump place m.autoscalers }
  | .node | .budget => m

/-- Brings the caches up to the server. -/
def sync (m : Memory) : Memory :=
  { (Watch.Event.listing m.pods).foldl tellIndex m with cached := m.autoscalers }

/-- Schedules a fault. -/
def addFault (m : Memory) (fault : Fault Call.Kind Failure) : Memory :=
  { m with faults := m.faults ++ [fault] }

/-! ### Calls -/

/-- Writes the status of a pod. -/
def updatePodStatus (m : Memory) (pod : Pod) : Except Failure Unit × Memory :=
  match Shelf.at? (placeOf pod) m.pods with
  | none => (.error (.api "pod not found"), m)
  | some stored =>
    if versionOf stored ≠ versionOf pod then (.error (.conflict "pod modified"), m)
    else
      -- All but the status stays as the server has it.
      let written := { stored with status := pod.status }
      (.ok (), m.putPod (withVersion (nextVersion (versionOf stored)) written))

/-- Replaces an autoscaler. -/
def updateAutoscaler (m : Memory) (a : Autoscaler) : Except Failure Autoscaler × Memory :=
  match Shelf.at? (placeOf a) m.autoscalers with
  | none => (.error (.api "autoscaler not found"), m)
  | some stored =>
    if versionOf stored ≠ versionOf a then (.error (.conflict "autoscaler modified"), m)
    else
      let written := withVersion (nextVersion (versionOf stored)) a
      (.ok written, m.putAutoscaler written)

/-- Performs a call. -/
def perform (m : Memory) : (call : Call) → call.Answer × Memory
  | .getNode name => (.ok (m.nodes.find? (·.name = name)), m)
  | .podsOnNode node => (.ok (m.index.podsOn node), m)
  | .listAutoscalers ns => (.ok (m.cached.filter (·.metadata.ns = some ns)), m)
  | .getBudget ns name => (.ok (Shelf.at? ⟨some ns, name⟩ m.budgets), m)
  | .updatePodStatus pod => m.updatePodStatus pod
  | .updateAutoscaler a => m.updateAutoscaler a

/-- Records a call, shows it to the faults, and performs it if none strikes. -/
def answer (call : Call) (m : Memory) : call.Answer × Memory :=
  let (failure, faults) := Fault.meet call.kind m.faults
  let m := { m with calls := m.calls ++ [call], faults }
  match failure with
  | some e => (.error e, m)
  | none => m.perform call

/-- Records a note of a program. -/
def record (note : Note) (m : Memory) : Memory :=
  match note with
  | .log line => { m with logs := m.logs ++ [line] }
  | other => { m with metrics := m.metrics.record other }

/-- Runs programs against a store in memory. -/
def handler : Program.Handler Call Call.Answer Memory where
  answer := answer
  clock := now
  record := record

/-- A pass over a node. -/
def pass (m : Memory) (config : Pass.Config) (node : String) :
    Except Failure Pass.Outcome × Memory :=
  (Pass.overNode config node).run handler m

/-- Forgets the calls and the lines recorded so far. -/
def forgetRecords (m : Memory) : Memory := { m with calls := [], logs := [] }

end Memory

end CordonWatch.Store
