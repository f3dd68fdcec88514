import CordonWatch.Program

/-!
# Rules that a program keeps

Where several programs run at once a call may be answered with anything that
the others make possible, so no handler describes what a program meets with.
What can be said about it alone is which calls it makes, in terms of what it
has come to know from the answers and the clock before.

A `Conduct` says which calls are allowed with what knowledge, and how the
knowledge grows. A program keeps it (`Keeps`) if it makes allowed calls only,
whatever it is answered. That is a property of what is left of the program:
it holds step by step (each step of a program that keeps the rules leaves one
that does, by definition), and for two programs in a row if it holds for both
(`Keeps.bind`).
-/

namespace CordonWatch.Program

variable {Call : Type} {Answer : Call → Type} {α β κ : Type}

/-- Which calls are allowed to one who has knowledge of type `κ`, and what is
learned from the answer to a call and from the clock. -/
structure Conduct (Call : Type) (Answer : Call → Type) (κ : Type) where
  allows : κ → Call → Prop
  hears : κ → (call : Call) → Answer call → κ
  sees : κ → Instant → κ

/-- The program makes allowed calls only, beginning with the knowledge `k`, and
when it is done its result fits what it then knows. -/
def Keeps (c : Conduct Call Answer κ) (fits : κ → α → Prop) :
    Program Call Answer α → κ → Prop
  | .done a, k => fits k a
  | .ask call next, k =>
    c.allows k call ∧ ∀ answer, (next answer).Keeps c fits (c.hears k call answer)
  | .readClock next, k => ∀ now, (next now).Keeps c fits (c.sees k now)
  | .note _ next, k => next.Keeps c fits k

variable {c : Conduct Call Answer κ}

theorem Keeps.imp {fits fits' : κ → α → Prop} {p : Program Call Answer α} {k : κ}
    (hp : p.Keeps c fits k) (h : ∀ k a, fits k a → fits' k a) : p.Keeps c fits' k := by
  induction p generalizing k with
  | done a => exact h k a hp
  | ask call next ih =>
    obtain ⟨hcall, hnext⟩ := hp
    exact ⟨hcall, fun answer => ih answer (hnext answer)⟩
  | readClock next ih => exact fun now => ih now (hp now)
  | note entry next ih => exact ih hp

/-- Nothing is asked of the result. -/
def Unasked (_ : κ) (_ : α) : Prop := True

theorem Keeps.unasked {fits : κ → α → Prop} {p : Program Call Answer α} {k : κ}
    (hp : p.Keeps c fits k) : p.Keeps c Unasked k :=
  hp.imp fun _ _ _ => trivial

/-- What keeps the rules keeps rules that allow more, where the same is learned. -/
theorem Keeps.mono {c' : Conduct Call Answer κ} {fits : κ → α → Prop} {p : Program Call Answer α}
    {k : κ} (hp : p.Keeps c fits k) (hallows : ∀ k call, c.allows k call → c'.allows k call)
    (hhears : c'.hears = c.hears) (hsees : c'.sees = c.sees) : p.Keeps c' fits k := by
  induction p generalizing k with
  | done a => exact hp
  | ask call next ih =>
    obtain ⟨hcall, hnext⟩ := hp
    refine ⟨hallows k call hcall, fun answer => ?_⟩
    rw [hhears]
    exact ih answer (hnext answer)
  | readClock next ih =>
    intro now
    rw [hsees]
    exact ih now (hp now)
  | note entry next ih => exact ih hp

/-- Two programs in a row keep the rules if the second does with whatever the
first may have come to know. -/
theorem Keeps.bind {fits : κ → α → Prop} {fits' : κ → β → Prop} {p : Program Call Answer α}
    {f : α → Program Call Answer β} {k : κ}
    (hp : p.Keeps c fits k) (hf : ∀ k a, fits k a → (f a).Keeps c fits' k) :
    (p.bind f).Keeps c fits' k := by
  induction p generalizing k with
  | done a => exact hf k a hp
  | ask call next ih =>
    obtain ⟨hcall, hnext⟩ := hp
    exact ⟨hcall, fun answer => ih answer (hnext answer)⟩
  | readClock next ih => exact fun now => ih now (hp now)
  | note entry next ih => exact ih hp

/-! ### What runs keep -/

/-- What no answer and no note ends holds after a run if it held before. -/
theorem run_invariant {σ : Type} {h : Handler Call Answer σ} (holds : σ → Prop)
    (hanswer : ∀ call s, holds s → holds (h.answer call s).2)
    (hrecord : ∀ entry s, holds s → holds (h.record entry s)) (p : Program Call Answer α) {s : σ}
    (hs : holds s) : holds (p.run h s).2 := by
  induction p generalizing s with
  | done a => exact hs
  | ask call next ih => exact ih _ (hanswer call s hs)
  | readClock next ih => exact ih _ hs
  | note entry next ih => exact ih (hrecord entry s hs)

end CordonWatch.Program
