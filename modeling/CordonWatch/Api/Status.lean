import CordonWatch.Failure
import CordonWatch.Http.Target
import CordonWatch.Json.Reader
import CordonWatch.Json.Record
import CordonWatch.Text.Quoted

/-!
# Failures of the API server

A request fails with an error answer, because the server is not reached, or
because it cannot even be made. The body of an error answer is a status
object, whose code need not be the one that the answer came with; a body that
is none is read as one that quotes it. An error answer with code 409 is a
conflict, everything else a failure of the API.
-/

namespace CordonWatch.Api

/-- An error answer. -/
structure ErrorAnswer where
  status : String
  message : String
  reason : String
  code : Nat
  deriving DecidableEq, Repr, Inhabited

/-- Why no request could be made. -/
inductive RequestDefect where
  /-- The object asked for has no name. -/
  | nameless
  | target (defect : Http.TargetDefect)
  deriving DecidableEq, Repr, Inhabited

/-- What is wrong, in words. -/
def RequestDefect.message : RequestDefect → String
  | .nameless => "failed to validate request: A non-empty name is required"
  | .target defect => "failed to build request: " ++ defect.message

/-- Why a request failed. -/
inductive RequestFailure where
  | answered (answer : ErrorAnswer)
  | unreachable (message : String)
  | unmade (defect : RequestDefect)
  deriving DecidableEq, Repr, Inhabited

/-- Code of an answer that refuses a write on a stale version. -/
def conflictCode : Nat := 409

/-- The text of an error answer: in plain words first, then field by field. -/
def ErrorAnswer.describe (a : ErrorAnswer) : String :=
  "ApiError: " ++ a.message ++ ": " ++ a.reason
    ++ " (ErrorResponse \x7b status: " ++ Text.quoted a.status
    ++ ", message: " ++ Text.quoted a.message
    ++ ", reason: " ++ Text.quoted a.reason
    ++ ", code: " ++ toString a.code ++ " \x7d)"

/-- The text of a failed request. -/
def RequestFailure.message : RequestFailure → String
  | .answered a => a.describe
  | .unreachable m => "ServiceError: " ++ m
  | .unmade d => "Failed to build request: " ++ d.message

/-- Whether a write was refused because its version is stale. -/
def RequestFailure.isConflict : RequestFailure → Bool
  | .answered a => a.code == conflictCode
  | .unreachable _ | .unmade _ => false

/-- The failure of an operation whose request failed. -/
def RequestFailure.toFailure : RequestFailure → Failure
  | .answered a => if a.code = conflictCode then .conflict a.message else .api a.describe
  | other => .api other.message

/-- The standard phrase of an answer code. -/
def phrase : Nat → String
  | 100 => "Continue"
  | 101 => "Switching Protocols"
  | 102 => "Processing"
  | 200 => "OK"
  | 201 => "Created"
  | 202 => "Accepted"
  | 203 => "Non Authoritative Information"
  | 204 => "No Content"
  | 205 => "Reset Content"
  | 206 => "Partial Content"
  | 207 => "Multi-Status"
  | 208 => "Already Reported"
  | 226 => "IM Used"
  | 300 => "Multiple Choices"
  | 301 => "Moved Permanently"
  | 302 => "Found"
  | 303 => "See Other"
  | 304 => "Not Modified"
  | 305 => "Use Proxy"
  | 307 => "Temporary Redirect"
  | 308 => "Permanent Redirect"
  | 400 => "Bad Request"
  | 401 => "Unauthorized"
  | 402 => "Payment Required"
  | 403 => "Forbidden"
  | 404 => "Not Found"
  | 405 => "Method Not Allowed"
  | 406 => "Not Acceptable"
  | 407 => "Proxy Authentication Required"
  | 408 => "Request Timeout"
  | 409 => "Conflict"
  | 410 => "Gone"
  | 411 => "Length Required"
  | 412 => "Precondition Failed"
  | 413 => "Payload Too Large"
  | 414 => "URI Too Long"
  | 415 => "Unsupported Media Type"
  | 416 => "Range Not Satisfiable"
  | 417 => "Expectation Failed"
  | 418 => "I'm a teapot"
  | 421 => "Misdirected Request"
  | 422 => "Unprocessable Entity"
  | 423 => "Locked"
  | 424 => "Failed Dependency"
  | 425 => "Too Early"
  | 426 => "Upgrade Required"
  | 428 => "Precondition Required"
  | 429 => "Too Many Requests"
  | 431 => "Request Header Fields Too Large"
  | 451 => "Unavailable For Legal Reasons"
  | 500 => "Internal Server Error"
  | 501 => "Not Implemented"
  | 502 => "Bad Gateway"
  | 503 => "Service Unavailable"
  | 504 => "Gateway Timeout"
  | 505 => "HTTP Version Not Supported"
  | 506 => "Variant Also Negotiates"
  | 507 => "Insufficient Storage"
  | 508 => "Loop Detected"
  | 510 => "Not Extended"
  | 511 => "Network Authentication Required"
  | _ => "<unknown status code>"

/-- Reads a status object as a closed record. -/
def ErrorAnswer.ofJson? (v : Json) : Option ErrorAnswer :=
  match v.closed? ["status", "message", "reason", "code"] with
  | some [status, message, reason, code] => do
    return {
      status := ← Json.required Json.asText status
      message := ← Json.defaulted "" Json.asText message
      reason := ← Json.defaulted "" Json.asText reason
      code := (← Json.required (Json.asIntIn 0 (2 ^ 16 - 1)) code).toNat }
  | _ => none

/-- The error answer of a body that is no status object. -/
def ErrorAnswer.quoting (code : Nat) (body : String) : ErrorAnswer where
  status := toString code ++ " " ++ phrase code
  message := Text.quoted body
  reason := "Failed to parse error data"
  code := code

/-- The error answer that is read from the body of an answer with that code. -/
def ErrorAnswer.ofBody (code : Nat) (body : String) : ErrorAnswer :=
  ((Json.read body).bind ofJson?).getD (quoting code body)

end CordonWatch.Api
