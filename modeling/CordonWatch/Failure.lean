/-!
# What can go wrong

Every operation of the controller that fails does so with one of five causes.
A conflict is set apart from the other causes because it is retried soon: it
says that the object written had changed since it was read.
-/

namespace CordonWatch

/-- Why an operation failed. -/
inductive Failure where
  /-- The API server refused a request, or was not reached. -/
  | api (message : String)
  /-- The object written had changed since it was read. -/
  | conflict (message : String)
  | configuration (message : String)
  | serialization (message : String)
  /-- A label selector breaks the rules. -/
  | invalidSelector (message : String)
  deriving DecidableEq, Repr, Inhabited

/-- Whether the failure is a write on a stale version. -/
def Failure.isConflict : Failure → Bool
  | .conflict _ => true
  | _ => false

/-- The text of a failure. -/
def Failure.message : Failure → String
  | .api m => "Kubernetes API error: " ++ m
  | .conflict m => "Update conflict: " ++ m
  | .configuration m => "Configuration error: " ++ m
  | .serialization m => "Serialization error: " ++ m
  | .invalidSelector m => "Invalid label selector: " ++ m

end CordonWatch
