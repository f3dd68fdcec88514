import CordonWatch.Log
import CordonWatch.Time.Instant

/-!
# Programs that wait for answers

A pass over a node and an attempt at the lease are sequences of calls whose
answers decide what comes next. A `Program` is such a sequence as data: it
makes a call and goes on with the answer, reads the clock, leaves a note, or
is done. What a call does is up to the handler that runs the program, so the
same program runs against a store in memory, against the caches and the API
server, or one call at a time between the calls of others.

Programs are finite: `Program.run` is a plain recursion, and running two
programs in a row is running the first and then the second (`run_bind`).
-/

namespace CordonWatch

/-- What a program leaves behind besides its calls. -/
inductive Note where
  | log (line : LogLine)
  /-- A pass saw a cordoned node. -/
  | cordonSeen
  /-- A pass chose the autoscaler of a pod in that namespace. -/
  | evictionSeen (ns : String)
  deriving DecidableEq, Repr

/-- A program with calls of type `Call`, each with its own type of answer. -/
inductive Program (Call : Type) (Answer : Call → Type) (α : Type) where
  | done (result : α)
  | ask (call : Call) (next : Answer call → Program Call Answer α)
  | readClock (next : Instant → Program Call Answer α)
  | note (entry : Note) (next : Program Call Answer α)

namespace Program

variable {Call : Type} {Answer : Call → Type} {α β σ : Type}

/-- Goes on with `f` when the program is done. -/
def bind : Program Call Answer α → (α → Program Call Answer β) → Program Call Answer β
  | .done a, f => f a
  | .ask call next, f => .ask call fun answer => (next answer).bind f
  | .readClock next, f => .readClock fun now => (next now).bind f
  | .note entry next, f => .note entry (next.bind f)

/-- Leaves a line in the log. -/
def log (line : LogLine) (next : Program Call Answer α) : Program Call Answer α :=
  .note (.log line) next

/-- What runs programs: the answers to calls, the clock, and where notes go. -/
structure Handler (Call : Type) (Answer : Call → Type) (σ : Type) where
  answer : (call : Call) → σ → Answer call × σ
  clock : σ → Instant
  record : Note → σ → σ

/-- Runs a program from a state. -/
def run (h : Handler Call Answer σ) : Program Call Answer α → σ → α × σ
  | .done a, s => (a, s)
  | .ask call next, s =>
    let (answer, s) := h.answer call s
    (next answer).run h s
  | .readClock next, s => (next (h.clock s)).run h s
  | .note entry next, s => next.run h (h.record entry s)

@[simp] theorem run_done (h : Handler Call Answer σ) (a : α) (s : σ) :
    (Program.done a : Program Call Answer α).run h s = (a, s) := rfl

@[simp] theorem run_ask (h : Handler Call Answer σ) (call : Call)
    (next : Answer call → Program Call Answer α) (s : σ) :
    (Program.ask call next).run h s = (next (h.answer call s).1).run h (h.answer call s).2 := rfl

@[simp] theorem run_readClock (h : Handler Call Answer σ)
    (next : Instant → Program Call Answer α) (s : σ) :
    (Program.readClock next).run h s = (next (h.clock s)).run h s := rfl

@[simp] theorem run_note (h : Handler Call Answer σ) (entry : Note)
    (next : Program Call Answer α) (s : σ) :
    (Program.note entry next).run h s = next.run h (h.record entry s) := rfl

/-- Running two programs in a row is running one after the other. -/
theorem run_bind (h : Handler Call Answer σ) (p : Program Call Answer α)
    (f : α → Program Call Answer β) (s : σ) :
    (p.bind f).run h s = (f (p.run h s).1).run h (p.run h s).2 := by
  induction p generalizing s with
  | done a => rfl
  | ask call next ih => exact ih (h.answer call s).1 (h.answer call s).2
  | readClock next ih => exact ih (h.clock s) s
  | note entry next ih => exact ih (h.record entry s)

end Program

end CordonWatch
