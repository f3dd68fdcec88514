import CordonWatch.Watch.PodIndex

/-!
# Waiting for the index

Readers may wait until the index has completed a list. Completing one and
waiting for it go in small steps that may come in any order between each
other, so this module takes both apart.

A list is completed in four steps: what was collected is taken, it takes the
place of the index, the flag is set, and those who wait are woken. A waiter
first registers, then looks at the flag, and only then waits; a call to wake
reaches everyone who registered before it. So whoever looked at the flag
before it was set has registered before the call that follows.
-/

namespace CordonWatch.Watch

/-- How far an update that completes a list has come. -/
inductive Completion where
  /-- What was collected is taken. -/
  | taken (collected : Placement)
  /-- It has taken the place of the index. -/
  | replaced
  /-- The flag is set. -/
  | flagged
  deriving Inhabited

/-- How far a waiter has come. Who has registered remembers how many calls to
wake there were before. -/
inductive Waiter where
  | starting
  | registered (calls : Nat)
  | waiting (calls : Nat)
  | returned
  deriving DecidableEq, Repr, Inhabited

/-- The index, and how many calls to wake there were. -/
structure Readiness where
  index : PodIndex := {}
  calls : Nat := 0
  deriving Inhabited

namespace Readiness

/-- Starts to complete a list. -/
def complete (r : Readiness) : Readiness × Completion :=
  ({ r with index := { r.index with staged := none } }, .taken (r.index.staged.getD {}))

/-- One step of completing a list, and what is left to do. -/
def completionStep (r : Readiness) : Completion → Readiness × Option Completion
  | .taken collected => ({ r with index := { r.index with live := collected } }, some .replaced)
  | .replaced => ({ r with index := { r.index with ready := true } }, some .flagged)
  | .flagged => ({ r with calls := r.calls + 1 }, none)

/-- One step of a waiter. Who waits stays where it is until it is woken, and
then begins anew. -/
def waiterStep (r : Readiness) : Waiter → Waiter
  | .starting => .registered r.calls
  | .registered calls => if r.index.ready then .returned else .waiting calls
  | .waiting calls => if calls < r.calls then .starting else .waiting calls
  | .returned => .returned

/-- Whether a waiter returns without having to wait. -/
def returnsAtOnce (r : Readiness) : Bool :=
  r.waiterStep (r.waiterStep .starting) = .returned

/-- The steps of completing a list, one after the other, are what the index
does when a list is complete. -/
theorem complete_steps (r : Readiness) :
    (((r.complete.1.completionStep r.complete.2).1.completionStep .replaced).1.completionStep
      .flagged).1 = { index := r.index.apply .initDone, calls := r.calls + 1 } := rfl

end Readiness

end CordonWatch.Watch
