import CordonWatch.Failure
import CordonWatch.Object.Autoscaler
import CordonWatch.Object.Budget
import CordonWatch.Object.Node
import CordonWatch.Object.Pod
import CordonWatch.Program

/-!
# Calls to the store

The six calls that a pass over a node makes: four reads and two writes. Each
may fail. A write carries the version that was read, so that it fails with a
conflict if the object has changed since.
-/

namespace CordonWatch.Store

/-- A call to the store. -/
inductive Call where
  /-- The node of that name. -/
  | getNode (name : String)
  /-- The pods assigned to a node. -/
  | podsOnNode (node : String)
  /-- The autoscalers of a namespace. -/
  | listAutoscalers (ns : String)
  /-- The budget of that namespace and name. -/
  | getBudget (ns name : String)
  /-- Writes the status of a pod. -/
  | updatePodStatus (pod : Pod)
  /-- Replaces an autoscaler, and gives back what is stored. -/
  | updateAutoscaler (autoscaler : Autoscaler)

/-- What a call gives when it succeeds. -/
@[reducible]
def Call.Result : Call → Type
  | .getNode _ => Option Node
  | .podsOnNode _ => List Pod
  | .listAutoscalers _ => List Autoscaler
  | .getBudget _ _ => Option Budget
  | .updatePodStatus _ => Unit
  | .updateAutoscaler _ => Autoscaler

/-- What a call is answered with. -/
@[reducible]
def Call.Answer (call : Call) : Type := Except Failure call.Result

/-- A program over the store that may fail. -/
abbrev Attempt (α : Type) : Type := Program Call Call.Answer (Except Failure α)

end CordonWatch.Store
