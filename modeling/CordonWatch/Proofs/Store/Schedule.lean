import CordonWatch.Proofs.Store.Dialogue

/-!
# The answers that a schedule of faults leaves

Faults are counted down call by call. What they come to can be said at once: the call
that is number `n` of its kind meets with the failure of the first fault that neither
still skips it nor is used up by then (`Fault.failureAt`). So the answer to a read is
settled when a run begins, by how many calls of its kind come before it and by what the
store holds (`Memory.answer_of_reads`).
-/

namespace CordonWatch

namespace Fault

variable {κ ε : Type} [DecidableEq κ]

/-- The failure that call number `n` of a kind meets with, counted from 0. -/
def failureAt (call : κ) : List (Fault κ ε) → Nat → Option ε
  | [], _ => none
  | f :: rest, n =>
    if f.on = call then
      if n < f.skip then failureAt call rest n
      else if n < f.skip + f.times then some f.failure
      else failureAt call rest (n - f.times)
    else failureAt call rest n

/-- The next call of a kind is its number 0. -/
theorem meet_fst (call : κ) (faults : List (Fault κ ε)) :
    (meet call faults).1 = failureAt call faults 0 := by
  induction faults with
  | nil => rfl
  | cons f rest ih =>
    unfold meet failureAt
    by_cases hon : f.on = call
    · by_cases hskip : f.skip > 0
      · rw [if_pos hon, if_pos hskip, if_pos hon, if_pos hskip]
        exact ih
      · by_cases htimes : f.times > 0
        · rw [if_pos hon, if_neg hskip, if_pos htimes, if_pos hon, if_neg (by omega),
            if_pos (by omega)]
        · rw [if_pos hon, if_neg hskip, if_neg htimes, if_pos hon, if_neg (by omega),
            if_neg (by omega), Nat.zero_sub]
          exact ih
    · rw [if_neg hon, if_neg hon]
      exact ih

/-- A call of the same kind moves the count on by one. -/
theorem failureAt_meet (call : κ) (faults : List (Fault κ ε)) (n : Nat) :
    failureAt call (meet call faults).2 n = failureAt call faults (n + 1) := by
  induction faults generalizing n with
  | nil => rfl
  | cons f rest ih =>
    rw [meet]
    by_cases hon : f.on = call
    · by_cases hskip : f.skip > 0
      · -- The fault skips one call less, and those after it see the call too.
        rw [if_pos hon, if_pos hskip]
        simp only [failureAt, if_pos hon, ih]
        grind
      · by_cases htimes : f.times > 0
        · -- The fault strikes once less, and those after it do not see the call.
          rw [if_pos hon, if_neg hskip, if_pos htimes]
          simp only [failureAt, if_pos hon]
          grind
        · rw [if_pos hon, if_neg hskip, if_neg htimes]
          simp only [failureAt, if_pos hon, ih]
          grind
    · rw [if_neg hon]
      simp only [failureAt, if_neg hon, ih]

/-- A call of another kind does not count. -/
theorem failureAt_meet_of_ne {call other : κ} (hne : call ≠ other) (faults : List (Fault κ ε))
    (n : Nat) : failureAt other (meet call faults).2 n = failureAt other faults n := by
  induction faults generalizing n with
  | nil => rfl
  | cons f rest ih =>
    rw [meet]
    by_cases hon : f.on = call
    · have hother : ¬ f.on = other := fun h => hne (hon.symm.trans h)
      rw [if_pos hon]
      split
      · simp only [failureAt, if_neg hother, ih]
      · split
        · simp only [failureAt, if_neg hother]
        · simp only [failureAt, if_neg hother, ih]
    · rw [if_neg hon]
      simp only [failureAt, ih]

end Fault

namespace Store.Memory

variable {clock : Memory → Instant} {lags : Memory → Bool} {α : Type}

/-- What a call is answered with if it is number `n` of its kind. -/
def answerAt (m : Memory) (call : Call) (n : Nat) : call.Answer :=
  match Fault.failureAt call.kind m.faults n with
  | some e => .error e
  | none => (m.perform call).1

/-- A read is answered as the next call of its kind. -/
theorem answer_eq_answerAt {call : Call} (hread : call.target? = none) (m : Memory) :
    ((handlerUnder clock lags).answer call m).1 = m.answerAt call 0 := by
  rw [answerAt, ← Fault.meet_fst]
  simp only [handlerUnder, answer]
  cases (Fault.meet call.kind m.faults).1 with
  | some e => rfl
  | none =>
    cases call with
    | updatePodStatus | updateAutoscaler => cases hread
    | getNode | podsOnNode | listAutoscalers | getBudget => rfl

/-- A read moves the count of its kind on, and changes nothing else of the answers to reads. -/
theorem answerAt_after_read {call other : Call} (hread : call.target? = none)
    (hother : other.target? = none) (m : Memory) (n : Nat) :
    ((handlerUnder clock lags).answer call m).2.answerAt other n
      = m.answerAt other (if call.kind = other.kind then n + 1 else n) := by
  have hstate : ((handlerUnder clock lags).answer call m).2
      = { m with
          calls := m.calls ++ [call]
          lag := lags m
          faults := (Fault.meet call.kind m.faults).2 } := by
    simp only [handlerUnder, answer]
    cases (Fault.meet call.kind m.faults).1 with
    | some e => rfl
    | none =>
      cases call with
      | updatePodStatus | updateAutoscaler => cases hread
      | getNode | podsOnNode | listAutoscalers | getBudget => rfl
  have hfailure : Fault.failureAt other.kind (Fault.meet call.kind m.faults).2 n
      = Fault.failureAt other.kind m.faults (if call.kind = other.kind then n + 1 else n) := by
    split
    next hsame => rw [hsame, Fault.failureAt_meet]
    next hne => exact Fault.failureAt_meet_of_ne hne m.faults n
  rw [hstate, answerAt, answerAt, hfailure]
  cases other with
  | updatePodStatus | updateAutoscaler => cases hother
  | getNode | podsOnNode | listAutoscalers | getBudget => rfl

theorem answerAt_record {call : Call} (hread : call.target? = none) (entry : Note) (m : Memory)
    (n : Nat) : ((handlerUnder clock lags).record entry m).answerAt call n = m.answerAt call n := by
  cases call with
  | updatePodStatus | updateAutoscaler => cases hread
  | getNode | podsOnNode | listAutoscalers | getBudget => cases entry <;> rfl

/-- In a run that only reads, each call is answered by its number among the calls of its kind. -/
theorem answer_of_reads (p : Attempt α) {m : Memory}
    (hreads : ∀ x ∈ p.dialogue (handlerUnder clock lags) m, x.1.target? = none) {i : Nat}
    {x : Exchange} (hx : (p.dialogue (handlerUnder clock lags) m)[i]? = some x) :
    x.2 = m.answerAt x.1
      (((p.dialogue (handlerUnder clock lags) m).take i).countP (·.1.kind = x.1.kind)) := by
  have hread : x.1.target? = none := hreads x (List.mem_of_getElem? hx)
  induction p generalizing m i with
  | done a => cases hx
  | ask call next ih =>
    obtain ⟨hcall, hlater⟩ := List.forall_mem_cons.mp hreads
    rw [Program.dialogue] at hx ⊢
    cases i with
    | zero =>
      cases hx
      exact answer_eq_answerAt hcall m
    | succ i =>
      rw [List.take_succ_cons, List.countP_cons, ih _ hlater hx, answerAt_after_read hcall hread]
      by_cases hkind : call.kind = x.1.kind <;> simp [hkind]
  | readClock next ih => exact ih _ hreads hx
  | note entry next ih =>
    rw [Program.dialogue] at hreads hx ⊢
    rw [ih hreads hx, answerAt_record hread]

end Store.Memory

end CordonWatch
