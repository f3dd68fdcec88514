import CordonWatch.Api.Request
import CordonWatch.Object.Kind

/-!
# Writes to the API server

A pass writes in two ways. The conditions of a pod are merged into its status;
an autoscaler is replaced as a whole. Both writes carry the version that was
read, and the server refuses them when the object has another one.
-/

namespace CordonWatch.Api

/-- A write. -/
inductive Write where
  /-- Merges the conditions of a pod into its status. -/
  | podConditions (pod : Pod)
  /-- Replaces an autoscaler. -/
  | autoscaler (autoscaler : Autoscaler)
  deriving Inhabited

namespace Write

/-- The kind of the object written. -/
def kind : Write → Kind
  | .podConditions _ => .pod
  | .autoscaler _ => .autoscaler

/-- What the server stores when it performs a write. -/
@[reducible]
def Stored : Write → Type
  | .podConditions _ => Pod
  | .autoscaler _ => Autoscaler

/-- What is stored, as an object. -/
def object : (w : Write) → w.Stored → Object
  | .podConditions _, pod => .pod pod
  | .autoscaler _, a => .autoscaler a

/-- The metadata of the object written. -/
def metadata : Write → ObjectMeta
  | .podConditions pod => pod.metadata
  | .autoscaler a => a.metadata

/-- The method of the request. -/
def method : Write → Method
  | .podConditions _ => .patch
  | .autoscaler _ => .put

/-- The version that the write carries, if any. -/
def version (w : Write) : Option String := w.metadata.resourceVersion

/-- The namespace that the request names. -/
def ns (w : Write) : String := w.metadata.nsOrDefault

/-- The name that the request names. -/
def name (w : Write) : String := w.metadata.nameAny

/-- The path of the request. -/
def path (w : Write) : String :=
  match w with
  | .podConditions _ => "/api/v1/namespaces/" ++ w.ns ++ "/pods/" ++ w.name ++ "/status"
  | .autoscaler _ =>
    "/apis/" ++ Autoscaler.apiVersion ++ "/namespaces/" ++ w.ns ++ "/" ++ Autoscaler.plural
      ++ "/" ++ w.name

/-- Why the request cannot be made, if so. -/
def defect? (w : Write) : Option RequestDefect :=
  if w.name.isEmpty then some .nameless else (Http.Target.defect? w.path).map .target

/-- The body of the request, where `time` writes an instant. -/
def bodyWith (time : Instant → Json) : Write → Json
  | .podConditions pod => .object [
      ("metadata", .object [("resourceVersion", .ofText? pod.metadata.resourceVersion)]),
      ("status", .object [
        ("conditions",
          match pod.conditions with
          | some cs => PodStatus.conditionsToJson time cs
          | none => .null)])]
  | .autoscaler a => a.toJsonWith time

/-- The body of the request, its times in whole seconds. -/
def body : Write → Json := bodyWith Instant.toJson

end Write

end CordonWatch.Api
