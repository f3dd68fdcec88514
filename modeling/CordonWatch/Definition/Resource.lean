import CordonWatch.Definition.Schema
import CordonWatch.Object.Autoscaler

/-!
# The definition of the resource

What a cluster is told so that it knows eviction autoscalers: the names of the
resource, the columns in which they are listed, and the schema of their
specification and status. Defaults in the schema are those with which missing
fields are read.
-/

namespace CordonWatch.Definition

/-- What is said of a field with a description. -/
def described (text : String) : Schema.About := { description := some text }

/-- What is said of a field that may be null. -/
def optional (text : String) : Schema.About := { description := some text, nullable := true }

/-- What is said of a field that has a default. -/
def withDefault (text : String) (fallback : Json) : Schema.About :=
  { description := some text, fallback := some fallback }

/-- The schema of an eviction. -/
def eviction : Schema :=
  .record
    (withDefault "The most recent eviction anticipated for a pod covered by the paired budget"
      ({} : Eviction).toJson)
    [("evictionTime", .text (optional "When the eviction was anticipated") (some "date-time")),
     ("podName",
      .text (withDefault "Name of the pod expected to be evicted" (.text ({} : Eviction).podName))
        none)]
    []

/-- The schema of a specification. -/
def spec : Schema :=
  let defaults : AutoscalerSpec := {}
  .record (described "EvictionAutoScaler is the Schema for the evictionautoscalers API")
    [("lastEviction", eviction),
     ("targetKind",
      .text
        (withDefault "Kind of the target workload (deployment or statefulset)"
          (.text defaults.targetKind))
        none),
     ("targetName",
      .text
        (withDefault "Name of the workload scaled in response to evictions"
          (.text defaults.targetName))
        none)]
    []

/-- The schema of a condition. -/
def condition : Schema :=
  .record (described "Condition of the EvictionAutoScaler")
    [("lastTransitionTime", .text (optional "Last time the condition transitioned") none),
     ("message", .text (optional "Human-readable message") none),
     ("reason", .text (optional "Reason for the condition") none),
     ("status", .text (described "Status of the condition (True, False, Unknown)") none),
     ("type", .text (described "Type of condition") none)]
    ["status", "type"]

/-- The schema of a status. -/
def status : Schema :=
  let defaults : AutoscalerStatus := {}
  .record (optional "Status of the EvictionAutoScaler, owned by the scaling component")
    [("conditions",
      .list (withDefault "Conditions representing the autoscaler state" (.list [])) condition),
     ("minReplicas",
      .integer
        (withDefault "Replica count the target is returned to after a surge"
          (.int defaults.minReplicas))
        "int32"),
     ("targetGeneration",
      .integer
        (withDefault "Generation of the target observed at the last scaling decision"
          (.int defaults.targetGeneration))
        "int64")]
    []

/-- The schema of an autoscaler. -/
def autoscaler : Schema :=
  .record
    { title := some Autoscaler.kind
      description := some "Auto-generated derived type for EvictionAutoScalerSpec via `CustomResource`" }
    [("spec", spec), ("status", status)]
    ["spec"]

/-- A column of a listing. -/
def column (name type path : String) : Json :=
  .object [("jsonPath", .text path), ("name", .text name), ("type", .text type)]

/-- The version of the resource, which is the only one. -/
def version : Json := .object [
  ("additionalPrinterColumns", .list [
    column "Target" "string" ".spec.targetName",
    column "Last Evicted" "string" ".spec.lastEviction.podName",
    column "Eviction Time" "date" ".spec.lastEviction.evictionTime",
    column "Age" "date" ".metadata.creationTimestamp"]),
  ("name", .text Autoscaler.version),
  ("schema", .object [("openAPIV3Schema", autoscaler.toJson)]),
  ("served", .bool true),
  ("storage", .bool true),
  ("subresources", .object [("status", .object [])])]

/-- The definition of the resource. -/
def resource : Json := .object [
  ("apiVersion", .text "apiextensions.k8s.io/v1"),
  ("kind", .text "CustomResourceDefinition"),
  ("metadata", .object [("name", .text (Autoscaler.plural ++ "." ++ Autoscaler.group))]),
  ("spec", .object [
    ("group", .text Autoscaler.group),
    ("names", .object [
      ("categories", .list []),
      ("kind", .text Autoscaler.kind),
      ("plural", .text Autoscaler.plural),
      ("shortNames", .list [.text "eas"]),
      ("singular", .text Autoscaler.singular)]),
    ("scope", .text "Namespaced"),
    ("versions", .list [version])])]

end CordonWatch.Definition
