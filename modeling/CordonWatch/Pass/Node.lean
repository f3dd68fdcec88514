import CordonWatch.Pass.Policy
import CordonWatch.Time.Span

/-!
# A pass over a node

When a node is cordoned, every pod on it that is governed by an autoscaler is
marked with the condition that an eviction is anticipated, and the eviction is
recorded on the autoscaler. The pods are handled one after the other; the
first call that fails ends the pass with its failure. While pods keep being
handled the node is to be looked at again after a cooldown, so that pods left
over are picked up as the autoscaler reacts.

Pods may share an autoscaler. The cache of autoscalers may not have seen what
the pass itself wrote, so the pass remembers every answer to a write and
builds the next write of that autoscaler on it.
-/

namespace CordonWatch.Pass

open Store (Attempt)

/-- How passes are run. -/
structure Config where
  /-- Delay until a node is looked at again; none if zero. -/
  cooldown : Span := Span.ofSeconds 60
  order : PolicyOrder := PolicyOrder.standard
  deriving Inhabited

/-- What is to happen after a pass. -/
inductive Outcome where
  /-- Nothing until the node changes. -/
  | done
  /-- Another pass after a delay. -/
  | requeueAfter (delay : Span)
  deriving DecidableEq, Repr, Inhabited

/-- The autoscalers written by a pass, as they were stored. -/
abbrev Written : Type := Table ObjectKey Autoscaler

/-- Marks a pod that an eviction is anticipated, unless it already is so marked. -/
def markPod (ns : String) (pod : Pod) : Attempt Unit :=
  .readClock fun now =>
    let (marked, changed) := pod.setCondition (.evictionAnticipated now)
    if changed then
      .ask (.updatePodStatus marked) fun
        | .error e =>
          .log
            (.error ("Unable to update pod status: " ++ e.message)
              [("namespace", ns), ("pod", pod.name)])
            (.done (.error e))
        | .ok () => .done (.ok ())
    else .done (.ok ())

/-- Records on an autoscaler that a pod is about to be evicted. -/
def recordEviction (ns : String) (pod : Pod) (policy : Autoscaler) (written : Written) :
    Attempt Written :=
  .readClock fun now =>
    let key : ObjectKey := ⟨ns, policy.name⟩
    -- What this pass wrote is newer than what the cache may have shown.
    let latest := (written.find? key).getD policy
    let eviction : Eviction := { podName := pod.name, evictionTime := some now }
    let recorded := { latest with spec := { latest.spec with lastEviction := eviction } }
    .ask (.updateAutoscaler recorded) fun
      | .error e =>
        .log
          (.error ("Unable to update EvictionAutoScaler: " ++ e.message)
            [("namespace", ns), ("name", policy.name)])
          (.done (.error e))
      | .ok stored => .done (.ok (written.insert key stored))

/-- Handles a pod that is governed by an autoscaler. -/
def handlePod (node : String) (pod : Pod) (policy : Autoscaler) (written : Written) :
    Attempt Written :=
  let ns := pod.nsOrDefault
  .note (.evictionSeen ns) <|
    .log
      (.info "Found EvictionAutoScaler for pod"
        [("name", policy.name), ("namespace", ns), ("pod", pod.name), ("node", node)]) <|
      (markPod ns pod).bind fun
        | .error e => .done (.error e)
        | .ok () => recordEviction ns pod policy written

/-- Handles the pods of a node in order, and says whether any was governed. -/
def handlePods (order : PolicyOrder) (node : String) :
    List Pod → Written → Bool → Attempt Bool
  | [], _, changed => .done (.ok changed)
  | pod :: rest, written, changed =>
    (findPolicy order pod).bind fun
      | .error e => .done (.error e)
      | .ok none => handlePods order node rest written changed
      | .ok (some policy) =>
        (handlePod node pod policy written).bind fun
          | .error e => .done (.error e)
          | .ok written => handlePods order node rest written true

/-- Passes over the node of that name. -/
def overNode (config : Config) (name : String) : Attempt Outcome :=
  .ask (.getNode name) fun
    | .error e => .done (.error e)
    | .ok none => .log (.debug "Node no longer exists" [("node", name)]) (.done (.ok .done))
    | .ok (some node) =>
      if !node.isCordoned then .done (.ok .done)
      else
        .note .cordonSeen <|
          .log (.info "Node is cordoned" [("node", name)]) <|
            .ask (.podsOnNode name) fun
              | .error e => .done (.error e)
              | .ok pods =>
                (handlePods config.order name pods Table.empty false).bind fun
                  | .error e => .done (.error e)
                  | .ok changed =>
                    if changed && !config.cooldown.isZero then
                      .done (.ok (.requeueAfter config.cooldown))
                    else .done (.ok .done)

end CordonWatch.Pass
