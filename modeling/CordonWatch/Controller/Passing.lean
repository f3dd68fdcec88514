import CordonWatch.Controller.Following

/-!
# Passing over nodes

A pass reads from the caches and writes to the API server. What it writes
comes back through the watches. Passes take no time.
-/

namespace CordonWatch.Controller

/-- Sends a write: shows it to the faults, has the server perform it if none
strikes, and records it. What was stored comes back through the watch. A write
for which no request can be made goes nowhere. -/
def send (c : Controller) (node : String) (w : Api.Write) :
    Except Api.RequestFailure w.Stored × Controller :=
  match w.defect? with
  | some defect => (.error (.unmade defect), c)
  | none =>
    let (refusal, faults) := Fault.meet (w.method, w.kind) c.faults
    let c := { c with faults }
    let sentVersion : VersionFate := if w.version.isSome then .sent else .absent
    let record (c : Controller) (code : Nat) (version : VersionFate) : Controller :=
      let entry : SentWrite := { time := c.time, node, write := w, code, version }
      { c with report := { c.report with writes := c.report.writes ++ [entry] } }
    match refusal with
    | some e => (.error e.failure, record c e.code sentVersion)
    | none =>
      match c.server.write w with
      | (.error e, _) =>
        (.error e.failure, record c e.code (if e.failure.isConflict then .stale else sentVersion))
      | (.ok stored, server) =>
        (.ok stored, (record { c with server } 200 sentVersion).tellOf (w.object stored) .applied)

/-- How a pass over a node reaches the cluster. -/
def link (node : String) : Cluster.Link Controller where
  caches := caches
  send := fun w c => c.send node w
  clock := now
  record := fun note c => { c with metrics := c.metrics.record note }

/-- Takes the result of a pass over a node: a success forgets the failures of
the node, a failure counts as one more. -/
def conclude (c : Controller) (place : Place) (node : String) :
    Except Failure Pass.Outcome → Controller
  | .ok outcome =>
    let entry : FinishedPass := { time := c.time, node, outcome }
    let c := { c with
      retry := c.retry.reset node
      report := { c.report with finished := c.report.finished ++ [entry] } }
    match outcome with
    | .done => c
    | .requeueAfter delay => c.schedule place (c.elapsed + nanosOf delay)
  | .error failure =>
    let (retry, delay) := c.retry.next node failure
    let entry : FailedPass := { time := c.time, node, failure, delay }
    let c := { c with
      retry
      report := { c.report with failed := c.report.failed ++ [entry] } }
    c.schedule place (c.elapsed + nanosOf delay)

/-- Passes over the node at a place that is due. One that is gone from the
cache is let be. -/
def passOver (c : Controller) (place : Place) : Controller :=
  -- From here on a change during the pass makes the node due anew.
  let c := { c with due := c.due.erase place }
  match c.caches.nodes.find? place with
  | none => c
  | some found =>
    let (result, c) := (Pass.overNode c.config found.name).run (link found.name).handler c
    c.conclude place found.name result

end CordonWatch.Controller
