import CordonWatch.Selector.Basic
import CordonWatch.Store.Call
import CordonWatch.Text.Quoted

/-!
# The autoscaler of a pod

A pod is governed by the first autoscaler of its namespace whose budget, the
one of the same name, has a selector that matches the labels of the pod. The
autoscalers are tried as the store lists them, or by name. One without a
budget, or with a budget whose selector breaks the rules, is passed over; a
read that fails ends the search.
-/

namespace CordonWatch

/-- The order in which the autoscalers of a namespace are tried. -/
inductive PolicyOrder where
  /-- As the store lists them. -/
  | listing
  /-- By name. -/
  | name
  deriving DecidableEq, Repr, Inhabited

namespace PolicyOrder

/-- The order that is used unless another is asked for. -/
def standard : PolicyOrder := .listing

def text : PolicyOrder → String
  | .listing => "listing"
  | .name => "name"

/-- The order that a text names, or what is wrong with the text. -/
def parse (s : String) : Except String PolicyOrder :=
  match s with
  | "listing" => .ok .listing
  | "name" => .ok .name
  | other =>
    .error ("unknown policy order " ++ Text.quoted other ++ ", expected \"listing\" or \"name\"")

/-- Puts autoscalers into the order. Those of one name keep their order. -/
def arrange (order : PolicyOrder) (autoscalers : List Autoscaler) : List Autoscaler :=
  match order with
  | .listing => autoscalers
  | .name => autoscalers.mergeSort fun a b => decide (¬ b.name < a.name)

end PolicyOrder

namespace Pass

open Store (Attempt)

/-- Tries autoscalers in order for a pod with those labels. -/
def firstGoverning (ns : String) (labels : Table String String) :
    List Autoscaler → Attempt (Option Autoscaler)
  | [] => .done (.ok none)
  | candidate :: rest =>
    .ask (.getBudget ns candidate.name) fun
      | .error e => .done (.error e)
      | .ok none =>
        .log (.warn "No matching PodDisruptionBudget" [("namespace", ns), ("name", candidate.name)])
          (firstGoverning ns labels rest)
      | .ok (some budget) =>
        match Selector.parse budget.selector with
        | .error defect =>
          .log
            (.warn
              ("Invalid PodDisruptionBudget selector: "
                ++ (Failure.invalidSelector defect.message).message)
              [("namespace", ns), ("pdb", candidate.name)])
            (firstGoverning ns labels rest)
        | .ok selector =>
          if selector.matchesLabels labels then .done (.ok (some candidate))
          else firstGoverning ns labels rest

/-- Finds the autoscaler that governs a pod, if any does. -/
def findPolicy (order : PolicyOrder) (pod : Pod) : Attempt (Option Autoscaler) :=
  .ask (.listAutoscalers pod.nsOrDefault) fun
    | .error e => .done (.error e)
    | .ok autoscalers =>
      (firstGoverning pod.nsOrDefault pod.metadata.labelTable (order.arrange autoscalers)).bind fun
        | .ok none =>
          .log
            (.debug "No EvictionAutoScaler governs pod"
              [("namespace", pod.nsOrDefault), ("pod", pod.name)])
            (.done (.ok none))
        | found => .done found

end Pass

end CordonWatch
