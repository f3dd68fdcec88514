/-!
# Scheduled faults

A fault makes calls of one kind fail: it lets the first `skip` of them pass
and then fails the next `times`. Several faults may be scheduled for one kind.
A call is shown to them in order; each that still skips counts the call and
lets it pass on to the next.
-/

namespace CordonWatch

/-- A fault for the calls of kind `on`. -/
structure Fault (κ ε : Type) where
  on : κ
  skip : Nat := 0
  times : Nat := 1
  failure : ε
  deriving Inhabited

namespace Fault

variable {κ ε : Type} [DecidableEq κ]

/-- Shows a call to the faults: the failure it meets with, if any, and what is
left of the faults. -/
def meet (call : κ) : List (Fault κ ε) → Option ε × List (Fault κ ε)
  | [] => (none, [])
  | f :: rest =>
    if f.on = call then
      if f.skip > 0 then
        let (failure, rest) := meet call rest
        (failure, { f with skip := f.skip - 1 } :: rest)
      else if f.times > 0 then (some f.failure, { f with times := f.times - 1 } :: rest)
      else
        let (failure, rest) := meet call rest
        (failure, f :: rest)
    else
      let (failure, rest) := meet call rest
      (failure, f :: rest)

/-- Without faults nothing fails. -/
@[simp] theorem meet_nil (call : κ) : meet call ([] : List (Fault κ ε)) = (none, []) := rfl

end Fault

end CordonWatch
