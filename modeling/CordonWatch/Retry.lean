import CordonWatch.Failure
import CordonWatch.Object.Node
import CordonWatch.Table
import CordonWatch.Time.Span
import CordonWatch.Watch.Event

/-!
# Retry delays

A node whose pass failed is tried again. After a conflict that is soon, since
a fresh read usually settles it; after any other failure the delay doubles
with every such failure of the node, up to a limit, until a pass of the node
succeeds or the node is deleted.

The count of failures is a number of 32 bits and stays at the greatest one;
so does the power of two.
-/

namespace CordonWatch

/-- How often each node has failed since it last succeeded. -/
structure Retry where
  failures : Table String Nat := Table.empty
  deriving DecidableEq, Inhabited

namespace Retry

/-- The greatest number of 32 bits. -/
def countLimit : Nat := 2 ^ 32 - 1

/-- Delay after a conflict. -/
def conflictDelay : Span := Span.ofSeconds 1

/-- Seconds of delay after the first failure. -/
def baseSeconds : Nat := 5

/-- Seconds of delay that are never exceeded. -/
def maxSeconds : Nat := 300

/-- Two to a power, at most the greatest number of 32 bits. -/
def boundedPower (n : Nat) : Nat := if n < 32 then 2 ^ n else countLimit

/-- The delay after a failure that follows `count` others. -/
def delayAfter (count : Nat) : Span :=
  Span.ofSeconds (min (baseSeconds * boundedPower count) maxSeconds)

/-- The failures counted for a node. -/
def count (r : Retry) (node : String) : Nat := (r.failures.find? node).getD 0

/-- Records a failure of a node, and says after which delay to try again. -/
def next (r : Retry) (node : String) (failure : Failure) : Retry × Span :=
  if failure.isConflict then (r, conflictDelay)
  else
    let count := r.count node
    ({ failures := r.failures.insert node (min (count + 1) countLimit) }, delayAfter count)

/-- Forgets the failures of a node. -/
def reset (r : Retry) (node : String) : Retry := { failures := r.failures.erase node }

/-- Forgets the failures of a node that is deleted. -/
def forgetDeleted (r : Retry) : Watch.Event Node → Retry
  | .delete node => r.reset node.name
  | _ => r

end Retry

end CordonWatch
