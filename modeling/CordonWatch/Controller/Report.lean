import CordonWatch.Api.Write
import CordonWatch.Pass.Node

/-!
# What the controller reports

Three records are kept: the writes sent to the API server, the passes that
succeeded, and the passes that failed. Times are nanoseconds since the start.
A report is told by whole seconds, and within a second by node.
-/

namespace CordonWatch.Controller

/-- What became of the version that a write carried. -/
inductive VersionFate where
  /-- None was carried. -/
  | absent
  | sent
  /-- The write was refused because of it. -/
  | stale
  deriving DecidableEq, Repr, Inhabited

/-- A write that was sent during a pass over a node. -/
structure SentWrite where
  time : Nat
  node : String
  write : Api.Write
  code : Nat
  version : VersionFate
  deriving Inhabited

/-- A pass that succeeded. -/
structure FinishedPass where
  time : Nat
  node : String
  outcome : Pass.Outcome
  deriving DecidableEq, Repr, Inhabited

/-- A pass that failed, and the delay until it is tried again. -/
structure FailedPass where
  time : Nat
  node : String
  failure : Failure
  delay : Span
  deriving DecidableEq, Repr, Inhabited

/-- The line that tells of a pass that succeeded. -/
def FinishedPass.line (p : FinishedPass) : LogLine :=
  let requeue :=
    match p.outcome with
    | .done => "None"
    | .requeueAfter delay => "Some(" ++ delay.render ++ ")"
  .debug ("Reconciled node " ++ p.node ++ ": Action \x7b requeue_after: " ++ requeue ++ " \x7d") []

/-- The line that tells of a pass that failed. -/
def FailedPass.line (p : FailedPass) : LogLine where
  level := .error
  message := "Reconciliation error: " ++ p.failure.message
  fields :=
    [("node", .text p.node), ("conflict", .flag p.failure.isConflict),
     ("delay", .text p.delay.render)]

/-- The records of a stretch of time. -/
structure Report where
  writes : List SentWrite := []
  finished : List FinishedPass := []
  failed : List FailedPass := []
  deriving Inhabited

namespace Report

/-- Whole seconds. -/
def seconds (time : Nat) : Nat := time / 10 ^ 9

/-- Whether an entry is told no later than another: by second, then by text. -/
def inOrder (time : Nat) (key : String) (time' : Nat) (key' : String) : Bool :=
  seconds time < seconds time' || (seconds time == seconds time' && !(key' < key : Bool))

/-- The report in the order in which it is told. Writes for one node within
one second stay in the order in which they were sent. -/
def sorted (r : Report) : Report where
  writes := r.writes.mergeSort fun a b => inOrder a.time a.node b.time b.node
  finished := r.finished.mergeSort fun a b =>
    inOrder a.time a.line.message b.time b.line.message
  failed := r.failed.mergeSort fun a b => inOrder a.time a.node b.time b.node

end Report

end CordonWatch.Controller
