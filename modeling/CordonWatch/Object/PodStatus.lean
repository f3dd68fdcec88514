import CordonWatch.Object.Condition
import CordonWatch.Object.ContainerStatus

/-!
# The status of a pod

The controller looks at the conditions alone and carries the rest along.
-/

namespace CordonWatch

/-- The claim to a resource that a pod has been given for one it asks for. -/
structure GrantedClaim where
  name : String := ""
  resourceClaimName : Option String := none
  deriving DecidableEq, Repr, Inhabited

/-- The status of a pod. -/
structure PodStatus where
  /-- The conditions, where a status may lack the list. -/
  conditions : Option (List PodCondition) := none
  containerStatuses : Option (List ContainerStatus) := none
  ephemeralContainerStatuses : Option (List ContainerStatus) := none
  hostIP : Option String := none
  hostIPs : Option (List String) := none
  initContainerStatuses : Option (List ContainerStatus) := none
  message : Option String := none
  nominatedNodeName : Option String := none
  phase : Option String := none
  podIP : Option String := none
  podIPs : Option (List String) := none
  qosClass : Option String := none
  reason : Option String := none
  resize : Option String := none
  resourceClaimStatuses : Option (List GrantedClaim) := none
  startTime : Option Instant := none
  deriving DecidableEq, Inhabited

/-- Reads a granted claim as an open record. -/
def GrantedClaim.ofJson? (v : Json) : Option GrantedClaim := do
  let fields ← v.open?
  return {
    name := (← Json.entry? "name" Json.asText fields).getD ""
    resourceClaimName := ← Json.entry? "resourceClaimName" Json.asText fields }

/-- A granted claim as an object. -/
def GrantedClaim.toJson (c : GrantedClaim) : Json := .object <|
  [("name", .text c.name)] ++ Json.present "resourceClaimName" .text c.resourceClaimName

namespace PodStatus

/-- Sets a condition, and says whether that changed the conditions. A list
that is lacking counts as empty. -/
def setCondition (s : PodStatus) (c : PodCondition) : PodStatus × Bool :=
  let (conditions, changed) := c.set (s.conditions.getD [])
  ({ s with conditions := some conditions }, changed)

/-- Reads an address, which stands in a record of its own. -/
def addressOf? (v : Json) : Option String := do
  return (← Json.entry? "ip" Json.asText (← v.open?)).getD ""

/-- Reads a status as an open record. -/
def ofJson? (v : Json) : Option PodStatus := do
  let fields ← v.open?
  let text name := Json.entry? name Json.asText fields
  let addresses name := Json.entry? name (Json.listOf addressOf?) fields
  let containers name := Json.entry? name (Json.listOf ContainerStatus.ofJson?) fields
  return {
    conditions := ← Json.entry? "conditions" (Json.listOf PodCondition.ofJson?) fields
    containerStatuses := ← containers "containerStatuses"
    ephemeralContainerStatuses := ← containers "ephemeralContainerStatuses"
    hostIP := ← text "hostIP"
    hostIPs := ← addresses "hostIPs"
    initContainerStatuses := ← containers "initContainerStatuses"
    message := ← text "message"
    nominatedNodeName := ← text "nominatedNodeName"
    phase := ← text "phase"
    podIP := ← text "podIP"
    podIPs := ← addresses "podIPs"
    qosClass := ← text "qosClass"
    reason := ← text "reason"
    resize := ← text "resize"
    resourceClaimStatuses :=
      ← Json.entry? "resourceClaimStatuses" (Json.listOf GrantedClaim.ofJson?) fields
    startTime := ← Json.entry? "startTime" Instant.ofJson? fields }

/-- Conditions as a list, where `time` writes an instant. -/
def conditionsToJson (time : Instant → Json) (cs : List PodCondition) : Json :=
  Json.ofList (PodCondition.toJsonWith time) cs

/-- A status as an object that lacks the absent fields; `time` writes the
instants of the conditions. -/
def toJsonWith (time : Instant → Json) (s : PodStatus) : Json :=
  let addresses : List String → Json := Json.ofList fun ip => .object [("ip", .text ip)]
  let containers : List ContainerStatus → Json := Json.ofList ContainerStatus.toJson
  .object <|
    Json.present "conditions" (conditionsToJson time) s.conditions
      ++ Json.present "containerStatuses" containers s.containerStatuses
      ++ Json.present "ephemeralContainerStatuses" containers s.ephemeralContainerStatuses
      ++ Json.present "hostIP" .text s.hostIP
      ++ Json.present "hostIPs" addresses s.hostIPs
      ++ Json.present "initContainerStatuses" containers s.initContainerStatuses
      ++ Json.present "message" .text s.message
      ++ Json.present "nominatedNodeName" .text s.nominatedNodeName
      ++ Json.present "phase" .text s.phase
      ++ Json.present "podIP" .text s.podIP
      ++ Json.present "podIPs" addresses s.podIPs
      ++ Json.present "qosClass" .text s.qosClass
      ++ Json.present "reason" .text s.reason
      ++ Json.present "resize" .text s.resize
      ++ Json.present "resourceClaimStatuses" (Json.ofList GrantedClaim.toJson)
        s.resourceClaimStatuses
      ++ Json.present "startTime" Instant.toJson s.startTime

end PodStatus

end CordonWatch
