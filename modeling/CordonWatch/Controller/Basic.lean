import CordonWatch.Cluster.Feeds
import CordonWatch.Cluster.Link
import CordonWatch.Controller.Report
import CordonWatch.Fault
import CordonWatch.Metrics
import CordonWatch.Retry
import CordonWatch.Watch.CordonFilter

/-!
# The controller

The controller follows the watches and passes over nodes. A node is due at
once when it gets past the cordon filter, again after the cooldown that a pass
asks for, and after the retry delay of a pass that failed. A node is due at
most once: the earlier of two times counts.

Time is counted in nanoseconds from the moment at which the caches begin to be
filled; what is reported is counted from the moment at which they are full.
-/

namespace CordonWatch

/-- The controller, the API server it talks to, and the time. -/
structure Controller where
  config : Pass.Config := {}
  /-- The namespace whose pods, budgets and autoscalers are watched; all if none. -/
  scope : Option String := none
  server : Cluster.Server := {}
  feeds : Cluster.Feeds := {}
  /-- The patience with failures of the watch of nodes, which only a node that
  gets past the filter restores. -/
  patience : Watch.Patience := .fresh
  caches : Cluster.Caches := {}
  filter : Watch.CordonFilter := {}
  retry : Retry := {}
  metrics : Metrics := {}
  /-- Faults of requests, by method and kind. -/
  faults : List (Fault (Api.Method × Kind) Api.Refusal) := []
  /-- When the node at each place is due. -/
  due : Table Place Nat := Table.empty
  report : Controller.Report := {}
  /-- What the clock showed when the caches were full. -/
  started : Instant
  elapsed : Nat := 0
  /-- When the caches were full. -/
  ready : Nat := 0
  deriving Inhabited

namespace Controller

/-- The time as it is reported. -/
def time (c : Controller) : Nat := c.elapsed - c.ready

/-- What the clock shows. -/
def now (c : Controller) : Instant := c.started.addNanos c.time

/-- The length of a span in nanoseconds. -/
def nanosOf (span : Span) : Nat := span.millis * 10 ^ 6

/-- Has a node passed over at a time, unless it is due earlier. -/
def schedule (c : Controller) (place : Place) (time : Nat) : Controller :=
  let time :=
    match c.due.find? place with
    | some other => min other time
    | none => time
  { c with due := c.due.insert place time }

/-- Takes in what a watch tells. Of nodes, the deleted lose their retry
history, and those that get past the filter are due at once. -/
def hear (c : Controller) (news : Cluster.News) : Controller :=
  let c := { c with caches := c.caches.tell news }
  match news with
  | .node event =>
    let (filter, passed) := c.filter.handle event
    let c := { c with filter, retry := c.retry.forgetDeleted event }
    match passed with
    | some node =>
      { c with patience := c.patience.restore }.schedule (placeOf node) c.elapsed
    | none => c
  | _ => c

/-- Whether the watches follow an object. -/
def isInScope (c : Controller) : Object → Bool
  | .node _ => true
  | .pod p => c.scope.all fun ns => decide (p.metadata.ns = some ns)
  | .budget b => c.scope.all fun ns => decide (b.metadata.ns = some ns)
  | .autoscaler a => c.scope.all fun ns => decide (a.metadata.ns = some ns)

/-- The kind of an object. -/
def kindOf : Object → Kind
  | .node _ => .node
  | .pod _ => .pod
  | .budget _ => .budget
  | .autoscaler _ => .autoscaler

end Controller

end CordonWatch
