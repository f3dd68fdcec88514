import CordonWatch.Json.Record
import CordonWatch.Object.Meta

/-!
# Conditions of pods

A pod's status has a list of conditions, by convention one of each type. A
condition is set by type: the first one of that type is replaced, and where
there is none the condition is added at the end. The time of the last
transition belongs to the condition's status value, so setting a condition
whose status value is already the one set keeps the time that was there. The
caller learns whether anything changed, and need not write the pod back
otherwise.

The controller sets one condition, which says that an eviction is anticipated.
-/

namespace CordonWatch

/-- A condition of a pod. -/
structure PodCondition where
  type : String := ""
  status : String := ""
  reason : Option String := none
  message : Option String := none
  lastProbeTime : Option Instant := none
  lastTransitionTime : Option Instant := none
  deriving DecidableEq, Repr, Inhabited

namespace PodCondition

/-- A condition with a reason and a message whose status value is new at `now`. -/
def build (type status reason message : String) (now : Instant) : PodCondition where
  type := type
  status := status
  reason := some reason
  message := some message
  lastTransitionTime := some now

/-- The type of the condition that announces a disruption. -/
def disruptionTarget : String := "DisruptionTarget"

/-- The condition of a pod whose eviction is anticipated. -/
def evictionAnticipated (now : Instant) : PodCondition :=
  build disruptionTarget "True" "EvictionAttempt" "eviction attempt anticipated by node cordon" now

/-- The condition as it is stored over one of the same type: with the time of
that one's last transition, if the status value stays. -/
def replacing (new existing : PodCondition) : PodCondition :=
  if existing.status = new.status then
    { new with lastTransitionTime := existing.lastTransitionTime }
  else new

/-- Whether a condition says what the one of its type says that it is stored over. -/
def agrees (stored existing : PodCondition) : Bool :=
  existing.status = stored.status && existing.reason = stored.reason
    && existing.message = stored.message && existing.lastProbeTime = stored.lastProbeTime
    && existing.lastTransitionTime = stored.lastTransitionTime

/-- Sets a condition in a list of conditions, and says whether that changed the list. -/
def set (new : PodCondition) : List PodCondition → List PodCondition × Bool
  | [] => ([new], true)
  | c :: rest =>
    if c.type = new.type then
      let stored := new.replacing c
      (stored :: rest, !stored.agrees c)
    else
      let (rest, changed) := set new rest
      (c :: rest, changed)

/-- Reads a condition as an open record. -/
def ofJson? (v : Json) : Option PodCondition := do
  let fields ← v.open?
  return {
    type := (← Json.entry? "type" Json.asText fields).getD ""
    status := (← Json.entry? "status" Json.asText fields).getD ""
    reason := ← Json.entry? "reason" Json.asText fields
    message := ← Json.entry? "message" Json.asText fields
    lastProbeTime := ← Json.entry? "lastProbeTime" Instant.ofJson? fields
    lastTransitionTime := ← Json.entry? "lastTransitionTime" Instant.ofJson? fields }

/-- A condition as an object that lacks the absent fields; `time` writes an instant. -/
def toJsonWith (time : Instant → Json) (c : PodCondition) : Json := .object <|
  Json.present "lastProbeTime" time c.lastProbeTime
    ++ Json.present "lastTransitionTime" time c.lastTransitionTime
    ++ Json.present "message" .text c.message
    ++ Json.present "reason" .text c.reason
    ++ [("status", .text c.status), ("type", .text c.type)]

end PodCondition

end CordonWatch
