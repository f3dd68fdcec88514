import CordonWatch.Object.ContainerState

/-!
# The status of a container

What a pod's status says of a single container: its image, its state, the
resources it has and what is mounted into it. The controller looks at none of
it and carries it along. All parts are open records (`CordonWatch.Json.Record`);
a text that must be there counts as empty when it is not, a number as zero,
and a container counts as not ready.
-/

namespace CordonWatch

/-- How healthy a single resource is. -/
structure ResourceHealth where
  health : Option String := none
  resourceID : String := ""
  deriving DecidableEq, Repr, Inhabited

/-- How healthy the resources of one name are. -/
structure ResourceStatus where
  name : String := ""
  resources : Option (List ResourceHealth) := none
  deriving DecidableEq, Repr, Inhabited

/-- A claim to a resource, by the claim's name. -/
structure ResourceClaim where
  name : String := ""
  request : Option String := none
  deriving DecidableEq, Repr, Inhabited

/-- The resources that a container may use. Quantities are kept as their texts. -/
structure ResourceRequirements where
  claims : Option (List ResourceClaim) := none
  limits : Option (Table String String) := none
  requests : Option (Table String String) := none
  deriving DecidableEq, Inhabited

/-- The user a container runs as, by numbers of 64 bits with sign. -/
structure NumberedUser where
  gid : Int := 0
  supplementalGroups : Option (List Int) := none
  uid : Int := 0
  deriving DecidableEq, Repr, Inhabited

/-- The user a container runs as, as far as its system is known. -/
structure ContainerUser where
  linux : Option NumberedUser := none
  deriving DecidableEq, Repr, Inhabited

/-- A volume that is mounted into a container. -/
structure VolumeMountStatus where
  mountPath : String := ""
  name : String := ""
  readOnly : Option Bool := none
  recursiveReadOnly : Option String := none
  deriving DecidableEq, Repr, Inhabited

/-- The status of a container. -/
structure ContainerStatus where
  allocatedResources : Option (Table String String) := none
  allocatedResourcesStatus : Option (List ResourceStatus) := none
  containerID : Option String := none
  image : String := ""
  imageID : String := ""
  lastState : Option ContainerState := none
  name : String := ""
  ready : Bool := false
  resources : Option ResourceRequirements := none
  /-- An integer of 32 bits with sign. -/
  restartCount : Int := 0
  started : Option Bool := none
  state : Option ContainerState := none
  user : Option ContainerUser := none
  volumeMounts : Option (List VolumeMountStatus) := none
  deriving DecidableEq, Inhabited

/-! ### Reading -/

/-- Reads the health of a resource. -/
def ResourceHealth.ofJson? (v : Json) : Option ResourceHealth := do
  let fields ← v.open?
  return {
    health := ← Json.entry? "health" Json.asText fields
    resourceID := (← Json.entry? "resourceID" Json.asText fields).getD "" }

/-- Reads the health of the resources of one name. -/
def ResourceStatus.ofJson? (v : Json) : Option ResourceStatus := do
  let fields ← v.open?
  return {
    name := (← Json.entry? "name" Json.asText fields).getD ""
    resources := ← Json.entry? "resources" (Json.listOf ResourceHealth.ofJson?) fields }

/-- Reads a claim. -/
def ResourceClaim.ofJson? (v : Json) : Option ResourceClaim := do
  let fields ← v.open?
  return {
    name := (← Json.entry? "name" Json.asText fields).getD ""
    request := ← Json.entry? "request" Json.asText fields }

/-- Reads the resources that a container may use. -/
def ResourceRequirements.ofJson? (v : Json) : Option ResourceRequirements := do
  let fields ← v.open?
  return {
    claims := ← Json.entry? "claims" (Json.listOf ResourceClaim.ofJson?) fields
    limits := ← Json.entry? "limits" Json.textTable fields
    requests := ← Json.entry? "requests" Json.textTable fields }

/-- Reads the numbers of a user. -/
def NumberedUser.ofJson? (v : Json) : Option NumberedUser := do
  let fields ← v.open?
  return {
    gid := (← Json.entry? "gid" Json.asInt64 fields).getD 0
    supplementalGroups := ← Json.entry? "supplementalGroups" (Json.listOf Json.asInt64) fields
    uid := (← Json.entry? "uid" Json.asInt64 fields).getD 0 }

/-- Reads a user. -/
def ContainerUser.ofJson? (v : Json) : Option ContainerUser := do
  let fields ← v.open?
  return { linux := ← Json.entry? "linux" NumberedUser.ofJson? fields }

/-- Reads a mounted volume. -/
def VolumeMountStatus.ofJson? (v : Json) : Option VolumeMountStatus := do
  let fields ← v.open?
  return {
    mountPath := (← Json.entry? "mountPath" Json.asText fields).getD ""
    name := (← Json.entry? "name" Json.asText fields).getD ""
    readOnly := ← Json.entry? "readOnly" Json.asBool fields
    recursiveReadOnly := ← Json.entry? "recursiveReadOnly" Json.asText fields }

/-- Reads the status of a container. -/
def ContainerStatus.ofJson? (v : Json) : Option ContainerStatus := do
  let fields ← v.open?
  return {
    allocatedResources := ← Json.entry? "allocatedResources" Json.textTable fields
    allocatedResourcesStatus :=
      ← Json.entry? "allocatedResourcesStatus" (Json.listOf ResourceStatus.ofJson?) fields
    containerID := ← Json.entry? "containerID" Json.asText fields
    image := (← Json.entry? "image" Json.asText fields).getD ""
    imageID := (← Json.entry? "imageID" Json.asText fields).getD ""
    lastState := ← Json.entry? "lastState" ContainerState.ofJson? fields
    name := (← Json.entry? "name" Json.asText fields).getD ""
    ready := (← Json.entry? "ready" Json.asBool fields).getD false
    resources := ← Json.entry? "resources" ResourceRequirements.ofJson? fields
    restartCount := (← Json.entry? "restartCount" Json.asInt32 fields).getD 0
    started := ← Json.entry? "started" Json.asBool fields
    state := ← Json.entry? "state" ContainerState.ofJson? fields
    user := ← Json.entry? "user" ContainerUser.ofJson? fields
    volumeMounts := ← Json.entry? "volumeMounts" (Json.listOf VolumeMountStatus.ofJson?) fields }

/-! ### Writing

What must be there is always written, an absent field never.
-/

/-- The health of a resource. -/
def ResourceHealth.toJson (h : ResourceHealth) : Json := .object <|
  Json.present "health" .text h.health ++ [("resourceID", .text h.resourceID)]

/-- The health of the resources of one name. -/
def ResourceStatus.toJson (s : ResourceStatus) : Json := .object <|
  [("name", .text s.name)]
    ++ Json.present "resources" (Json.ofList ResourceHealth.toJson) s.resources

/-- A claim. -/
def ResourceClaim.toJson (c : ResourceClaim) : Json := .object <|
  [("name", .text c.name)] ++ Json.present "request" .text c.request

/-- The resources that a container may use. -/
def ResourceRequirements.toJson (r : ResourceRequirements) : Json := .object <|
  Json.present "claims" (Json.ofList ResourceClaim.toJson) r.claims
    ++ Json.present "limits" Json.ofTextTable r.limits
    ++ Json.present "requests" Json.ofTextTable r.requests

/-- The numbers of a user. -/
def NumberedUser.toJson (u : NumberedUser) : Json := .object <|
  [("gid", .int u.gid)]
    ++ Json.present "supplementalGroups" (Json.ofList Json.int) u.supplementalGroups
    ++ [("uid", .int u.uid)]

/-- A user. -/
def ContainerUser.toJson (u : ContainerUser) : Json :=
  .object (Json.present "linux" NumberedUser.toJson u.linux)

/-- A mounted volume. -/
def VolumeMountStatus.toJson (m : VolumeMountStatus) : Json := .object <|
  [("mountPath", .text m.mountPath), ("name", .text m.name)]
    ++ Json.present "readOnly" .bool m.readOnly
    ++ Json.present "recursiveReadOnly" .text m.recursiveReadOnly

/-- The status of a container. -/
def ContainerStatus.toJson (s : ContainerStatus) : Json := .object <|
  Json.present "allocatedResources" Json.ofTextTable s.allocatedResources
    ++ Json.present "allocatedResourcesStatus" (Json.ofList ResourceStatus.toJson)
      s.allocatedResourcesStatus
    ++ Json.present "containerID" .text s.containerID
    ++ [("image", .text s.image), ("imageID", .text s.imageID)]
    ++ Json.present "lastState" ContainerState.toJson s.lastState
    ++ [("name", .text s.name), ("ready", .bool s.ready)]
    ++ Json.present "resources" ResourceRequirements.toJson s.resources
    ++ [("restartCount", .int s.restartCount)]
    ++ Json.present "started" .bool s.started
    ++ Json.present "state" ContainerState.toJson s.state
    ++ Json.present "user" ContainerUser.toJson s.user
    ++ Json.present "volumeMounts" (Json.ofList VolumeMountStatus.toJson) s.volumeMounts

end CordonWatch
