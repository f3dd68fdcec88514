import CordonWatch.Json.Record
import CordonWatch.Time.Rfc3339

/-!
# Object metadata

What every object carries. The controller reads the name, the namespace, the
labels and the version; the rest goes along unchanged when an object is
written back.
-/

namespace CordonWatch

/-- Reads an instant from a JSON text. -/
def Instant.ofJson? (v : Json) : Option Instant := v.asText.bind Instant.read

/-- An instant in whole seconds, as a JSON text. -/
def Instant.toJson (t : Instant) : Json := .text t.renderSeconds

/-- The object that another one belongs to. -/
structure OwnerReference where
  apiVersion : String := ""
  blockOwnerDeletion : Option Bool := none
  controller : Option Bool := none
  kind : String := ""
  name : String := ""
  uid : String := ""
  deriving Inhabited

/-- Who last wrote which fields of an object. -/
structure ManagedFields where
  apiVersion : Option String := none
  fieldsType : Option String := none
  fieldsV1 : Option Json := none
  manager : Option String := none
  operation : Option String := none
  subresource : Option String := none
  time : Option Instant := none
  deriving Inhabited

/-- The metadata of an object. -/
structure ObjectMeta where
  annotations : Option (Table String String) := none
  creationTimestamp : Option Instant := none
  deletionGracePeriodSeconds : Option Int := none
  deletionTimestamp : Option Instant := none
  finalizers : Option (List String) := none
  generateName : Option String := none
  generation : Option Int := none
  labels : Option (Table String String) := none
  managedFields : Option (List ManagedFields) := none
  name : Option String := none
  ns : Option String := none
  ownerReferences : Option (List OwnerReference) := none
  resourceVersion : Option String := none
  selfLink : Option String := none
  uid : Option String := none
  deriving Inhabited

/-- Containers in a record of field owners nest at most this deep: it stands
inside the object, its metadata and the list of owners. -/
def ManagedFields.nestingLimit : Nat := Json.nestingLimit - 4

def OwnerReference.ofJson? (v : Json) : Option OwnerReference := do
  let fields ← v.open?
  return {
    apiVersion := (← Json.entry? "apiVersion" Json.asText fields).getD ""
    blockOwnerDeletion := ← Json.entry? "blockOwnerDeletion" Json.asBool fields
    controller := ← Json.entry? "controller" Json.asBool fields
    kind := (← Json.entry? "kind" Json.asText fields).getD ""
    name := (← Json.entry? "name" Json.asText fields).getD ""
    uid := (← Json.entry? "uid" Json.asText fields).getD "" }

def OwnerReference.toJson (r : OwnerReference) : Json := .object <|
  [("apiVersion", .text r.apiVersion)]
    ++ Json.present "blockOwnerDeletion" .bool r.blockOwnerDeletion
    ++ Json.present "controller" .bool r.controller
    ++ [("kind", .text r.kind), ("name", .text r.name), ("uid", .text r.uid)]

def ManagedFields.ofJson? (v : Json) : Option ManagedFields := do
  let fields ← v.open?
  return {
    apiVersion := ← Json.entry? "apiVersion" Json.asText fields
    fieldsType := ← Json.entry? "fieldsType" Json.asText fields
    fieldsV1 := ← Json.entry? "fieldsV1" (Json.kept? nestingLimit) fields
    manager := ← Json.entry? "manager" Json.asText fields
    operation := ← Json.entry? "operation" Json.asText fields
    subresource := ← Json.entry? "subresource" Json.asText fields
    time := ← Json.entry? "time" Instant.ofJson? fields }

def ManagedFields.toJson (m : ManagedFields) : Json := .object <|
  Json.present "apiVersion" .text m.apiVersion
    ++ Json.present "fieldsType" .text m.fieldsType
    ++ Json.present "fieldsV1" id m.fieldsV1
    ++ Json.present "manager" .text m.manager
    ++ Json.present "operation" .text m.operation
    ++ Json.present "subresource" .text m.subresource
    ++ Json.present "time" Instant.toJson m.time

namespace ObjectMeta

/-- The name of an object: its own, else the prefix it is to be named by, else empty. -/
def nameAny (m : ObjectMeta) : String := (m.name.orElse fun _ => m.generateName).getD ""

/-- The labels, of which there may be none. -/
def labelTable (m : ObjectMeta) : Table String String := m.labels.getD Table.empty

/-- The namespace, where an object without one belongs to the default one. -/
def nsOrDefault (m : ObjectMeta) : String := m.ns.getD "default"

/-- Reads metadata as an open record. -/
def ofJson? (v : Json) : Option ObjectMeta := do
  let fields ← v.open?
  return {
    annotations := ← Json.entry? "annotations" Json.textTable fields
    creationTimestamp := ← Json.entry? "creationTimestamp" Instant.ofJson? fields
    deletionGracePeriodSeconds := ← Json.entry? "deletionGracePeriodSeconds" Json.asInt64 fields
    deletionTimestamp := ← Json.entry? "deletionTimestamp" Instant.ofJson? fields
    finalizers := ← Json.entry? "finalizers" (Json.listOf Json.asText) fields
    generateName := ← Json.entry? "generateName" Json.asText fields
    generation := ← Json.entry? "generation" Json.asInt64 fields
    labels := ← Json.entry? "labels" Json.textTable fields
    managedFields := ← Json.entry? "managedFields" (Json.listOf ManagedFields.ofJson?) fields
    name := ← Json.entry? "name" Json.asText fields
    ns := ← Json.entry? "namespace" Json.asText fields
    ownerReferences := ← Json.entry? "ownerReferences" (Json.listOf OwnerReference.ofJson?) fields
    resourceVersion := ← Json.entry? "resourceVersion" Json.asText fields
    selfLink := ← Json.entry? "selfLink" Json.asText fields
    uid := ← Json.entry? "uid" Json.asText fields }

/-- Metadata as an object that lacks the absent fields. -/
def toJson (m : ObjectMeta) : Json := .object <|
  Json.present "annotations" Json.ofTextTable m.annotations
    ++ Json.present "creationTimestamp" Instant.toJson m.creationTimestamp
    ++ Json.present "deletionGracePeriodSeconds" Json.int m.deletionGracePeriodSeconds
    ++ Json.present "deletionTimestamp" Instant.toJson m.deletionTimestamp
    ++ Json.present "finalizers" (Json.ofList .text) m.finalizers
    ++ Json.present "generateName" .text m.generateName
    ++ Json.present "generation" Json.int m.generation
    ++ Json.present "labels" Json.ofTextTable m.labels
    ++ Json.present "managedFields" (Json.ofList ManagedFields.toJson) m.managedFields
    ++ Json.present "name" .text m.name
    ++ Json.present "namespace" .text m.ns
    ++ Json.present "ownerReferences" (Json.ofList OwnerReference.toJson) m.ownerReferences
    ++ Json.present "resourceVersion" .text m.resourceVersion
    ++ Json.present "selfLink" .text m.selfLink
    ++ Json.present "uid" .text m.uid

end ObjectMeta

end CordonWatch
