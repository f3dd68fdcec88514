import CordonWatch.Cluster.Server
import CordonWatch.Watch.Cache
import CordonWatch.Watch.PodIndex

/-!
# The caches

The controller reads from caches that follow the watches of the four kinds:
plain ones of nodes, budgets and autoscalers, and the index of pods by node.
-/

namespace CordonWatch.Cluster

/-- What a watch of one of the kinds tells. -/
inductive News where
  | node (event : Watch.Event Node)
  | pod (event : Watch.Event Pod)
  | budget (event : Watch.Event Budget)
  | autoscaler (event : Watch.Event Autoscaler)

namespace News

/-- An object was created or changed. -/
def applied : Object → News
  | .node n => .node (.apply n)
  | .pod p => .pod (.apply p)
  | .budget b => .budget (.apply b)
  | .autoscaler a => .autoscaler (.apply a)

/-- An object was deleted. -/
def deleted : Object → News
  | .node n => .node (.delete n)
  | .pod p => .pod (.delete p)
  | .budget b => .budget (.delete b)
  | .autoscaler a => .autoscaler (.delete a)

/-- The list of the objects of a kind that are in scope: all, or those of one
namespace. Nodes have none and are always in scope. -/
def listing (s : Server) (scope : Option String) (kind : Kind) : List News :=
  let inScope {α : Type} [HasMetadata α] (t : Table ObjectKey α) : List α :=
    t.values.filter fun x => scope.all fun ns => decide ((HasMetadata.metadata x).ns = some ns)
  match kind with
  | .node => (Watch.Event.listing s.nodes.values).map .node
  | .pod => (Watch.Event.listing (inScope s.pods)).map .pod
  | .budget => (Watch.Event.listing (inScope s.budgets)).map .budget
  | .autoscaler => (Watch.Event.listing (inScope s.autoscalers)).map .autoscaler

end News

/-- The caches. -/
structure Caches where
  nodes : Watch.Cache Node := {}
  pods : Watch.PodIndex := {}
  budgets : Watch.Cache Budget := {}
  autoscalers : Watch.Cache Autoscaler := {}
  deriving Inhabited

namespace Caches

/-- Takes in what a watch tells. -/
def tell (c : Caches) : News → Caches
  | .node e => { c with nodes := c.nodes.apply e }
  | .pod e => { c with pods := c.pods.apply e }
  | .budget e => { c with budgets := c.budgets.apply e }
  | .autoscaler e => { c with autoscalers := c.autoscalers.apply e }

/-- The node of a name. -/
def node? (c : Caches) (name : String) : Option Node := c.nodes.find? ⟨none, name⟩

end Caches

end CordonWatch.Cluster
