import CordonWatch.Object.Meta

/-!
# Nodes

Of a node the controller looks at its name and at the flag that marks it
unschedulable. A node so marked is cordoned.
-/

namespace CordonWatch

/-- A node. -/
structure Node where
  metadata : ObjectMeta
  /-- The mark, where an absent one stands for not marked. -/
  unschedulable : Option Bool := none
  deriving Inhabited

namespace Node

/-- The name of a node. -/
def name (n : Node) : String := n.metadata.nameAny

/-- Whether the node is marked unschedulable. -/
def isCordoned (n : Node) : Bool := n.unschedulable.getD false

/-- Reads a node as an open record. -/
def ofJson? (v : Json) : Option Node := do
  let fields ← v.open?
  let spec ← Json.entry? "spec" Json.open? fields
  return {
    metadata := (← Json.entry? "metadata" ObjectMeta.ofJson? fields).getD {}
    unschedulable := ← Json.entry? "unschedulable" Json.asBool (spec.getD []) }

end Node

end CordonWatch
