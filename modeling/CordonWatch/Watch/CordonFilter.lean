import CordonWatch.Object.Node
import CordonWatch.Table
import CordonWatch.Watch.Event

/-!
# Cordon transitions

Nodes report their status all the time, but a node has to be looked at only
when its cordon flag changes, or when it is first seen. The filter remembers
the flag of each node and passes a node whose flag differs from the one
remembered. A node is forgotten when it is deleted, and when a list is
completed in which it did not occur.
-/

namespace CordonWatch.Watch

/-- Whether a node with that flag has to be looked at, given the flag that was
remembered for it, if any. -/
def isTransition (before : Option Bool) (after : Bool) : Bool := before != some after

/-- The cordon flags remembered, and the names listed since a list began. -/
structure CordonFilter where
  lastSeen : Table String Bool := Table.empty
  relisted : Option (Table String Unit) := none
  deriving DecidableEq, Inhabited

namespace CordonFilter

/-- Remembers the flag of a node, and passes the node if the flag is new. -/
def observe (f : CordonFilter) (node : Node) : CordonFilter × Option Node :=
  ({ f with lastSeen := f.lastSeen.insert node.name node.isCordoned },
   if isTransition (f.lastSeen.find? node.name) node.isCordoned then some node else none)

/-- Takes in one event, and passes the node of it that has to be looked at. -/
def handle (f : CordonFilter) : Event Node → CordonFilter × Option Node
  | .init => ({ f with relisted := some Table.empty }, none)
  | .initApply node =>
    let names := f.relisted.map fun names => names.insert node.name ()
    { f with relisted := names }.observe node
  | .initDone =>
    match f.relisted with
    | some names =>
      ({ lastSeen := f.lastSeen.filter fun name _ => names.contains name, relisted := none }, none)
    -- No list was begun, so nothing is known to be gone.
    | none => (f, none)
  | .apply node => f.observe node
  | .delete node => ({ f with lastSeen := f.lastSeen.erase node.name }, none)

/-- The filter after a sequence of events, and the nodes passed. -/
def handleAll (f : CordonFilter) : List (Event Node) → CordonFilter × List Node
  | [] => (f, [])
  | event :: rest =>
    let (f, passed) := f.handle event
    let (f, nodes) := f.handleAll rest
    (f, passed.toList ++ nodes)

/-- What a filter yields for a watch that may report errors: the nodes passed
and the errors, in order. -/
def transitions {ε : Type} (f : CordonFilter) : List (Except ε (Event Node)) → List (Except ε Node)
  | [] => []
  | .error e :: rest => .error e :: f.transitions rest
  | .ok event :: rest =>
    let (f, passed) := f.handle event
    match passed with
    | some node => .ok node :: f.transitions rest
    | none => f.transitions rest

end CordonFilter

end CordonWatch.Watch
