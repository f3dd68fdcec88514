import CordonWatch.Object.Meta

/-!
# Eviction autoscalers

The library's own resource. An autoscaler goes with the budget of its name and
namespace. It names the workload to scale, and the controller records in it the
last eviction that it anticipates for a pod of the budget. Its status belongs
to the component that scales; the controller only carries it along.

The parts are closed records (`CordonWatch.Json.Record`). Times are read at
full precision and written in whole seconds, so a part that was written and
read back differs from what it was at most in the fraction of a second.
-/

namespace CordonWatch

/-- An eviction that is anticipated. -/
structure Eviction where
  podName : String := ""
  evictionTime : Option Instant := none
  deriving DecidableEq, Repr, Inhabited

/-- What an autoscaler is to do, and the last eviction anticipated. -/
structure AutoscalerSpec where
  targetName : String := ""
  targetKind : String := "deployment"
  lastEviction : Eviction := {}
  deriving DecidableEq, Repr, Inhabited

/-- A condition of an autoscaler. The time of its last transition is free text. -/
structure AutoscalerCondition where
  type : String
  status : String
  lastTransitionTime : Option String := none
  reason : Option String := none
  message : Option String := none
  deriving DecidableEq, Repr, Inhabited

/-- The state of scaling. -/
structure AutoscalerStatus where
  /-- An integer of 32 bits with sign. -/
  minReplicas : Int := 0
  /-- An integer of 64 bits with sign. -/
  targetGeneration : Int := 0
  conditions : List AutoscalerCondition := []
  deriving DecidableEq, Repr, Inhabited

/-- An eviction autoscaler. -/
structure Autoscaler where
  metadata : ObjectMeta
  spec : AutoscalerSpec
  status : Option AutoscalerStatus := none
  deriving Inhabited

/-! ### Reading -/

/-- Reads an eviction. -/
def Eviction.ofJson? (v : Json) : Option Eviction := do
  match ← v.closed? ["podName", "evictionTime"] with
  | [podName, evictionTime] =>
    return {
      podName := ← Json.defaulted "" Json.asText podName
      evictionTime := ← Json.optional Instant.ofJson? evictionTime }
  | _ => none

/-- Reads a specification. -/
def AutoscalerSpec.ofJson? (v : Json) : Option AutoscalerSpec := do
  match ← v.closed? ["targetName", "targetKind", "lastEviction"] with
  | [targetName, targetKind, lastEviction] =>
    return {
      targetName := ← Json.defaulted "" Json.asText targetName
      targetKind := ← Json.defaulted "deployment" Json.asText targetKind
      lastEviction := ← Json.defaulted {} Eviction.ofJson? lastEviction }
  | _ => none

/-- Reads a condition. -/
def AutoscalerCondition.ofJson? (v : Json) : Option AutoscalerCondition := do
  match ← v.closed? ["type", "status", "lastTransitionTime", "reason", "message"] with
  | [type, status, lastTransitionTime, reason, message] =>
    return {
      type := ← Json.required Json.asText type
      status := ← Json.required Json.asText status
      lastTransitionTime := ← Json.optional Json.asText lastTransitionTime
      reason := ← Json.optional Json.asText reason
      message := ← Json.optional Json.asText message }
  | _ => none

/-- Reads a status. -/
def AutoscalerStatus.ofJson? (v : Json) : Option AutoscalerStatus := do
  match ← v.closed? ["minReplicas", "targetGeneration", "conditions"] with
  | [minReplicas, targetGeneration, conditions] =>
    return {
      minReplicas := ← Json.defaulted 0 Json.asInt32 minReplicas
      targetGeneration := ← Json.defaulted 0 Json.asInt64 targetGeneration
      conditions := ← Json.defaulted [] (Json.listOf AutoscalerCondition.ofJson?) conditions }
  | _ => none

/-- Whether a value, given as a list, has all its fields. -/
def Json.isComplete (count : Nat) : Json → Bool
  | .list items => items.length == count
  | _ => true

/-- Reads an autoscaler. Given as a list it has all its fields; version and
kind are not looked at. -/
def Autoscaler.ofJson? (v : Json) : Option Autoscaler := do
  match ← v.closed? ["metadata", "spec", "status"] with
  | [metadata, spec, status] =>
    if v.isComplete 3 then
      return {
        metadata := ← Json.required ObjectMeta.ofJson? metadata
        spec := ← Json.required AutoscalerSpec.ofJson? spec
        status := ← Json.optional AutoscalerStatus.ofJson? status }
    else none
  | _ => none

/-! ### Writing -/

/-- An eviction, where `time` writes an instant. The time is left out when absent. -/
def Eviction.toJsonWith (time : Instant → Json) (e : Eviction) : Json := .object <|
  [("podName", .text e.podName)] ++ Json.present "evictionTime" time e.evictionTime

/-- An eviction, its time in whole seconds. -/
def Eviction.toJson : Eviction → Json := toJsonWith Instant.toJson

/-- A specification, where `time` writes an instant. -/
def AutoscalerSpec.toJsonWith (time : Instant → Json) (s : AutoscalerSpec) : Json := .object [
  ("targetName", .text s.targetName),
  ("targetKind", .text s.targetKind),
  ("lastEviction", s.lastEviction.toJsonWith time)]

/-- A specification, its time in whole seconds. -/
def AutoscalerSpec.toJson : AutoscalerSpec → Json := toJsonWith Instant.toJson

/-- A condition. Absent parts are written as null. -/
def AutoscalerCondition.toJson (c : AutoscalerCondition) : Json := .object [
  ("type", .text c.type),
  ("status", .text c.status),
  ("lastTransitionTime", .ofText? c.lastTransitionTime),
  ("reason", .ofText? c.reason),
  ("message", .ofText? c.message)]

/-- A status. -/
def AutoscalerStatus.toJson (s : AutoscalerStatus) : Json := .object [
  ("minReplicas", .int s.minReplicas),
  ("targetGeneration", .int s.targetGeneration),
  ("conditions", .list (s.conditions.map AutoscalerCondition.toJson))]

namespace Autoscaler

/-- The group of the resource. -/
def group : String := "eviction-autoscaler.azure.com"

/-- The kind of the resource. -/
def kind : String := "EvictionAutoScaler"

/-- The plural under which the resource is requested. -/
def plural : String := "evictionautoscalers"

/-- The name of one object of the resource. -/
def singular : String := "evictionautoscaler"

/-- The version of the resource. -/
def version : String := "v1"

/-- Group and version of the resource. -/
def apiVersion : String := group ++ "/" ++ version

/-- The name of an autoscaler. -/
def name (a : Autoscaler) : String := a.metadata.nameAny

/-- An autoscaler, where `time` writes the time of the last eviction. Version
and kind are always written, an absent status never. -/
def toJsonWith (time : Instant → Json) (a : Autoscaler) : Json := .object <|
  [("apiVersion", .text apiVersion),
   ("kind", .text kind),
   ("metadata", a.metadata.toJson),
   ("spec", a.spec.toJsonWith time)]
    ++ Json.present "status" AutoscalerStatus.toJson a.status

/-- An autoscaler, its times in whole seconds. -/
def toJson : Autoscaler → Json := toJsonWith Instant.toJson

end Autoscaler

end CordonWatch
