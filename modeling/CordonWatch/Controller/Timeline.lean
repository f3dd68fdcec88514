import CordonWatch.Controller.Passing

/-!
# The course of time

Between the changes that come from outside, what happens is fixed: nodes are
passed over when they are due, and the followers of the watches go on after
their pauses. `advanceTo` lets time pass in that way, moment by moment.

A change from outside, the start included, takes a moment itself: whoever makes
it lets the controller `settle` before the next one.
-/

namespace CordonWatch.Controller

/-- What happens at a moment. -/
inductive Moment where
  /-- The follower of a kind goes on. -/
  | goOn (kind : Kind)
  | pass (place : Place)
  deriving DecidableEq, Repr, Inhabited

/-- The earlier of two moments, the first if they coincide. -/
def earlier {α : Type} (a : Option (Nat × α)) (b : Nat × α) : Option (Nat × α) :=
  match a with
  | some a => if b.1 < a.1 then some b else some a
  | none => some b

/-- The kinds of which the caches are full before the controller begins. -/
def cachedFirst : List Kind := [.pod, .autoscaler, .budget]

/-- The next moment. The followers go on before a pass of the same time, and
passes of the same time come by node. -/
def nextMoment? (c : Controller) : Option (Nat × Moment) :=
  let resumptions := (c.feeds.resumptions (cachedFirst ++ [.node])).map fun (time, kind) =>
    (time, Moment.goOn kind)
  let passes := c.due.entries.map fun (place, time) => (time, Moment.pass place)
  (resumptions ++ passes).foldl earlier none

/-- Has happen what happens at a moment. -/
def perform (c : Controller) : Moment → Controller
  | .goOn kind => c.goOn kind
  | .pass place => c.passOver place

/-- Goes from moment to moment until a time. -/
def goThrough (target : Nat) : Nat → Controller → Controller
  | 0, c => c
  | fuel + 1, c =>
    match c.nextMoment? with
    | some (time, moment) =>
      if time ≤ target then
        goThrough target fuel ({ c with elapsed := max c.elapsed time }.perform moment)
      else c
    | none => c

/-- More moments than can lie between now and a time. Each node is passed over
once and each follower goes on once in a millisecond at most, and once more
whenever a follower makes it due. -/
def momentsUntil (c : Controller) (target : Nat) : Nat :=
  ((target - c.elapsed) / 10 ^ 6 + 2) * (2 * c.server.nodes.size + c.due.size + 8)

/-- Lets time pass until a time. -/
def advanceTo (c : Controller) (target : Nat) : Controller :=
  let c := goThrough target (c.momentsUntil target) c
  { c with elapsed := max c.elapsed target }

/-- Lets a number of nanoseconds pass. -/
def advance (c : Controller) (nanos : Nat) : Controller := c.advanceTo (c.elapsed + nanos)

/-! ### The start -/

/-- Whether the objects of a kind have been listed. -/
def isListed (c : Controller) (kind : Kind) : Bool := (c.feeds.get kind).stage ≠ .unlisted

/-- Goes from pause to pause until the caches are full. -/
def fill : Nat → Controller → Controller
  | 0, c => c
  | fuel + 1, c =>
    if cachedFirst.all c.isListed then c
    else
      match (c.feeds.resumptions cachedFirst).foldl earlier none with
      | some (time, kind) => fill fuel ({ c with elapsed := max c.elapsed time }.goOn kind)
      | none => c

/-- More requests than can fail before no fault strikes any more. -/
def faultLimit (c : Controller) : Nat :=
  c.faults.foldl (fun n f => n + f.skip + f.times + 1) 1

/-- The nanoseconds that a change from outside takes until all that follows
from it at once has happened. -/
def changeTime : Nat := 25 * 10 ^ 6

/-- Lets pass the time that a change takes. -/
def settle (c : Controller) : Controller := c.advance changeTime

/-- Fills the caches and starts. -/
def start (c : Controller) : Controller :=
  let c := fill c.faultLimit (cachedFirst.foldl goOn c)
  ({ c with ready := c.elapsed }.goOn .node).settle

/-! ### Changes from outside -/

/-- Puts an object on the server; a silent change is not told by the watch. -/
def put (c : Controller) (object : Object) (silent : Bool) : Controller :=
  let (stored, server) := c.server.put object
  let c := { c with server }
  if silent then c else c.tellOf stored .applied

/-- Deletes an object from the server; a silent change is not told by the watch. -/
def delete (c : Controller) (kind : Kind) (key : ObjectKey) (silent : Bool) : Controller :=
  match c.server.find? kind key with
  | none => c
  | some object =>
    let c := { c with server := c.server.delete kind key }
    if silent then c else c.tellOf object .deleted

/-- Gives an object another version, of which nobody hears. -/
def touch (c : Controller) (kind : Kind) (key : ObjectKey) : Controller :=
  { c with server := c.server.touch kind key }

/-- Schedules a fault. -/
def addFault (c : Controller) (fault : Fault (Api.Method × Kind) Api.Refusal) : Controller :=
  { c with faults := c.faults ++ [fault] }

/-- The watch of a kind reports a failure. -/
def failWatch (c : Controller) (kind : Kind) (code : Nat) : Controller :=
  c.tell kind (.failure code)

/-- The watch of a kind is closed. -/
def closeWatch (c : Controller) (kind : Kind) : Controller := c.tell kind .closed

/-- Forgets what was reported so far. -/
def forgetReport (c : Controller) : Controller := { c with report := {} }

end CordonWatch.Controller
