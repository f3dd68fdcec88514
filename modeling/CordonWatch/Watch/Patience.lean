import CordonWatch.Number.Power

/-!
# Patience

Who follows a watch pauses after a failure, and twice as long after the next
one, up to a limit. As soon as something is heard the pauses are short again,
and so they are when there was no failure for a good while. Times and lengths
of time are in nanoseconds.
-/

namespace CordonWatch.Watch

/-- How long the next pause is, and when the last one began. -/
structure Patience where
  next : Nat
  lastFailure : Option Nat := none
  deriving DecidableEq, Repr

namespace Patience

/-- The first pause. -/
def shortest : Nat := 800 * 10 ^ 6

/-- The pause that is never exceeded. -/
def longest : Nat := 30 * 10 ^ 9

/-- A time without failures after which the pauses are short again. -/
def calm : Nat := 120 * 10 ^ 9

/-- The patience at the beginning. -/
def fresh : Patience := { next := shortest }

instance : Inhabited Patience := ⟨fresh⟩

/-- The pause after a failure at a time. -/
def pauseAt (p : Patience) (now : Nat) : Nat :=
  if p.lastFailure.any fun last => last + calm < now then shortest else p.next

/-- What patience is left after a failure at a time. -/
def fail (p : Patience) (now : Nat) : Patience where
  next := min (2 * p.pauseAt now) longest
  lastFailure := some now

/-- The patience after something was heard. -/
def restore (p : Patience) : Patience := { p with next := shortest }

/-- After something was heard the next pause is a short one. -/
@[simp] theorem pauseAt_restore (p : Patience) (now : Nat) : p.restore.pauseAt now = shortest := by
  unfold pauseAt restore
  split <;> rfl

end Patience

end CordonWatch.Watch
