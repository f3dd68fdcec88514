import CordonWatch.Api.Status

/-!
# Requests to the API server

A request has a method and a path, and is answered with a code; a request that
never reached the server is told with code 0. One that could not be made is
not told at all.
-/

namespace CordonWatch.Api

/-- What a request asks for. -/
inductive Method where
  | get
  | post
  | put
  | patch
  | watch
  deriving DecidableEq, Repr, Inhabited

def Method.text : Method → String
  | .get => "GET"
  | .post => "POST"
  | .put => "PUT"
  | .patch => "PATCH"
  | .watch => "WATCH"

/-- A request, and the code it was answered with. -/
structure Exchange where
  method : Method
  path : String
  code : Nat
  deriving DecidableEq, Repr, Inhabited

/-- An exchange in one line. -/
def Exchange.text (e : Exchange) : String :=
  e.method.text ++ " " ++ e.path ++ " " ++ toString e.code

/-- How a request was refused: the code of the answer, 0 if the server was not
reached, and the failure that is read from the answer. -/
structure Refusal where
  code : Nat
  failure : RequestFailure
  deriving DecidableEq, Repr, Inhabited

namespace Refusal

/-- A refusal whose answer has the code of its status object. -/
def answered (answer : ErrorAnswer) : Refusal := ⟨answer.code, .answered answer⟩

/-- A refusal with some body. -/
def withBody (code : Nat) (body : String) : Refusal := ⟨code, .answered (.ofBody code body)⟩

/-- A request that did not reach the server. -/
def unreachable (message : String) : Refusal := ⟨0, .unreachable message⟩

end Refusal

/-- The reason by which a missing object is told. -/
def notFoundReason : String := "NotFound"

/-- The refusal of a request for an object that is not there. -/
def Refusal.notFound (message : String) : Refusal :=
  .answered { status := "Failure", message, reason := notFoundReason, code := 404 }

/-- The refusal of a write on a stale version, or of a second creation. -/
def Refusal.stale (message : String) : Refusal :=
  .answered { status := "Failure", message, reason := "Conflict", code := conflictCode }

/-- Whether a request failed because the object is not there. The reason
decides, whatever the code. -/
def RequestFailure.isNotFound : RequestFailure → Bool
  | .answered a => a.reason == notFoundReason
  | .unreachable _ | .unmade _ => false

end CordonWatch.Api
