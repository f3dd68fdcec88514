/-!
# Log lines

What the controller reports: a level, a message and named values.
-/

namespace CordonWatch

/-- How much a line matters. -/
inductive LogLevel where
  | debug
  | info
  | warn
  | error
  deriving DecidableEq, Repr, Inhabited

def LogLevel.text : LogLevel → String
  | .debug => "DEBUG"
  | .info => "INFO"
  | .warn => "WARN"
  | .error => "ERROR"

/-- A value that is reported with a line. -/
inductive LogValue where
  | text (s : String)
  | count (n : Nat)
  | flag (b : Bool)
  deriving DecidableEq, Repr, Inhabited

/-- A line of the log. -/
structure LogLine where
  level : LogLevel
  message : String
  fields : List (String × LogValue) := []
  deriving DecidableEq, Repr, Inhabited

namespace LogLine

def debug (message : String) (fields : List (String × String)) : LogLine :=
  ⟨.debug, message, fields.map fun f => (f.1, .text f.2)⟩

def info (message : String) (fields : List (String × String)) : LogLine :=
  ⟨.info, message, fields.map fun f => (f.1, .text f.2)⟩

def warn (message : String) (fields : List (String × String)) : LogLine :=
  ⟨.warn, message, fields.map fun f => (f.1, .text f.2)⟩

def error (message : String) (fields : List (String × String)) : LogLine :=
  ⟨.error, message, fields.map fun f => (f.1, .text f.2)⟩

/-- The names under which a filter finds what a line says: the message has one, too. -/
def fieldNames (l : LogLine) : List String := "message" :: l.fields.map (·.1)

end LogLine

end CordonWatch
