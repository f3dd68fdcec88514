import CordonWatch.Proofs.Store.Memory

/-!
# Calls and their answers

The dialogue of a run are the calls that it makes, in order, each with its
answer. What a run does to a store in memory can be read off its dialogue: the
calls recorded are those of the dialogue, and the server ends with what the
accepted writes of the dialogue have stored, one after the other (`run_eq`).

A program that fails fast goes on while its calls succeed and ends with the
failure of the first one that does not. Two runs of such a program, one under a
handler where more calls fail, are the same run up to the first failure
(`FailsFast.cases`); for a store in memory, these are a run with faults and the
run from the same state without them (`failsMore_faultless`).
-/

namespace CordonWatch

namespace Program

variable {Call : Type} {Answer : Call → Type} {α β σ : Type}

/-- The calls that a run makes, in order, each with its answer. -/
def dialogue (h : Handler Call Answer σ) :
    Program Call Answer α → σ → List ((call : Call) × Answer call)
  | .done _, _ => []
  | .ask call next, s =>
    ⟨call, (h.answer call s).1⟩ :: (next (h.answer call s).1).dialogue h (h.answer call s).2
  | .readClock next, s => (next (h.clock s)).dialogue h s
  | .note entry next, s => next.dialogue h (h.record entry s)

/-- The calls of two programs in a row are those of the one and then those of the other. -/
theorem dialogue_bind (h : Handler Call Answer σ) (p : Program Call Answer α)
    (f : α → Program Call Answer β) (s : σ) :
    (p.bind f).dialogue h s
      = p.dialogue h s ++ (f (p.run h s).1).dialogue h (p.run h s).2 := by
  induction p generalizing s with
  | done a => rfl
  | ask call next ih => exact congrArg (_ :: ·) (ih _ _)
  | readClock next ih => exact ih _ s
  | note entry next ih => exact ih _

end Program

namespace Store

/-- A call and its answer. -/
abbrev Exchange : Type := (call : Call) × call.Answer

/-- The call of an exchange has succeeded. -/
def Exchange.Succeeded (x : Exchange) : Prop := ∃ result, x.2 = .ok result

/-! ### Programs that end with the first failure -/

variable {α β σ τ : Type}

/-- The program makes no further call and ends with that failure. -/
def GivesUp (e : Failure) : Attempt α → Prop
  | .done result => result = .error e
  | .note _ next => GivesUp e next
  | .ask _ _ | .readClock _ => False

/-- The program makes allowed calls only. It gives up as soon as a call fails,
with the failure of that call, and not otherwise. -/
def FailsFast (allowed : Call → Prop) : Attempt α → Prop
  | .done result => ∃ a, result = .ok a
  | .ask call next =>
    allowed call ∧ (∀ e, GivesUp e (next (.error e))) ∧
      ∀ result, FailsFast allowed (next (.ok result))
  | .readClock next => ∀ now, FailsFast allowed (next now)
  | .note _ next => FailsFast allowed next

theorem GivesUp.bind {e : Failure} {p : Attempt α} {f : Except Failure α → Attempt β}
    (hp : GivesUp e p) (hf : f (.error e) = .done (.error e)) : GivesUp e (p.bind f) := by
  induction p with
  | done result =>
    rw [show result = .error e from hp, Program.bind, hf]
    rfl
  | ask | readClock => exact hp.elim
  | note entry next ih => exact ih hp

theorem FailsFast.imp {allowed allowed' : Call → Prop} {p : Attempt α} (hp : FailsFast allowed p)
    (h : ∀ call, allowed call → allowed' call) : FailsFast allowed' p := by
  induction p with
  | done result => exact hp
  | ask call next ih =>
    obtain ⟨hcall, hfailed, hnext⟩ := hp
    exact ⟨h call hcall, hfailed, fun result => ih (.ok result) (hnext result)⟩
  | readClock next ih => exact fun now => ih now (hp now)
  | note entry next ih => exact ih hp

/-- Two programs in a row fail fast if the second one only hands on a failure of the first. -/
theorem FailsFast.bind {allowed : Call → Prop} {p : Attempt α} {f : Except Failure α → Attempt β}
    (hp : FailsFast allowed p) (hfailed : ∀ e, f (.error e) = .done (.error e))
    (hf : ∀ a, FailsFast allowed (f (.ok a))) : FailsFast allowed (p.bind f) := by
  induction p with
  | done result =>
    obtain ⟨a, rfl⟩ := hp
    exact hf a
  | ask call next ih =>
    obtain ⟨hcall, hgiven, hnext⟩ := hp
    exact ⟨hcall, fun e => (hgiven e).bind (hfailed e),
      fun result => ih (.ok result) (hnext result)⟩
  | readClock next ih => exact fun now => ih now (hp now)
  | note entry next ih => exact ih hp

theorem GivesUp.run {e : Failure} {p : Attempt α} (hp : GivesUp e p)
    (h : Program.Handler Call Call.Answer σ) (s : σ) :
    (p.run h s).1 = .error e ∧ p.dialogue h s = [] := by
  induction p generalizing s with
  | done result => exact ⟨hp, rfl⟩
  | ask | readClock => exact hp.elim
  | note entry next ih => exact ih hp (h.record entry s)

/-- In related states the handlers do the same, except that a call may fail
under the first one alone. -/
structure FailsMore (R : σ → τ → Prop) (h : Program.Handler Call Call.Answer σ)
    (h' : Program.Handler Call Call.Answer τ) : Prop where
  answer : ∀ {s t} (call : Call) {result}, R s t → (h.answer call s).1 = .ok result →
    (h'.answer call t).1 = .ok result ∧ R (h.answer call s).2 (h'.answer call t).2
  clock : ∀ {s t}, R s t → h.clock s = h'.clock t
  record : ∀ {s t} (entry : Note), R s t → R (h.record entry s) (h'.record entry t)

/-- A run ends with the failure of its last call, after calls that have all
succeeded, and the run under the second handler makes the same calls and gets
the same answers up to that one. -/
structure Fails (h : Program.Handler Call Call.Answer σ) (h' : Program.Handler Call Call.Answer τ)
    (p : Attempt α) (s : σ) (t : τ) (e : Failure) (said : List Exchange) (call : Call) : Prop where
  result : (p.run h s).1 = .error e
  dialogue : p.dialogue h s = said ++ [⟨call, .error e⟩]
  succeeded : ∀ x ∈ said, x.Succeeded
  dialogue' : ∃ answer after, p.dialogue h' t = said ++ ⟨call, answer⟩ :: after

/-- A program that fails fast either succeeds, and then does under the second
handler what it does under the first, or ends with the failure of a call. -/
theorem FailsFast.cases {allowed : Call → Prop} {R : σ → τ → Prop}
    {h : Program.Handler Call Call.Answer σ} {h' : Program.Handler Call Call.Answer τ}
    (hmore : FailsMore R h h') {p : Attempt α} (hp : FailsFast allowed p) {s : σ} {t : τ}
    (hR : R s t) :
    (∃ a, (p.run h s).1 = .ok a ∧ (p.run h' t).1 = .ok a ∧ R (p.run h s).2 (p.run h' t).2) ∨
      ∃ e said call, Fails h h' p s t e said call ∧ allowed call ∧ ∀ x ∈ said, allowed x.1 := by
  induction p generalizing s t with
  | done result =>
    obtain ⟨a, rfl⟩ := hp
    exact Or.inl ⟨a, rfl, rfl, hR⟩
  | ask call next ih =>
    obtain ⟨hcall, hfailed, hnext⟩ := hp
    cases hanswer : (h.answer call s).1 with
    | error e =>
      obtain ⟨hresult, hsilent⟩ := (hfailed e).run h (h.answer call s).2
      have hnone : ∀ x ∈ ([] : List Exchange), False := fun x => List.not_mem_nil
      refine Or.inr ⟨e, [], call, ⟨?_, ?_, fun x hx => (hnone x hx).elim, _, _, rfl⟩, hcall,
        fun x hx => (hnone x hx).elim⟩
      · rw [Program.run_ask, hanswer, hresult]
      · rw [Program.dialogue, hanswer, hsilent]
        rfl
    | ok result =>
      obtain ⟨hsame, hR'⟩ := hmore.answer call hR hanswer
      rw [Program.run_ask, Program.run_ask, hanswer, hsame]
      refine (ih (.ok result) (hnext result) hR').imp_right ?_
      rintro ⟨e, said, call', hfails, hcall', hsaid⟩
      obtain ⟨answer, after, hdialogue'⟩ := hfails.dialogue'
      refine ⟨e, ⟨call, .ok result⟩ :: said, call', ⟨?_, ?_, ?_, answer, after, ?_⟩, hcall', ?_⟩
      · rw [Program.run_ask, hanswer, hfails.result]
      · rw [Program.dialogue, hanswer, hfails.dialogue]
        rfl
      · exact List.forall_mem_cons.mpr ⟨⟨result, rfl⟩, hfails.succeeded⟩
      · rw [Program.dialogue, hsame, hdialogue']
        rfl
      · exact List.forall_mem_cons.mpr ⟨hcall, hsaid⟩
  | readClock next ih =>
    refine (ih (h.clock s) (hp (h.clock s)) hR).imp ?_ ?_
    · rw [Program.run_readClock, Program.run_readClock, ← hmore.clock hR]
      exact id
    · rintro ⟨e, said, call, ⟨hresult, hdialogue, hsucceeded, hdialogue'⟩, hallowed⟩
      refine ⟨e, said, call, ⟨hresult, hdialogue, hsucceeded, ?_⟩, hallowed⟩
      rw [Program.dialogue, ← hmore.clock hR]
      exact hdialogue'
  | note entry next ih =>
    refine (ih hp (hmore.record entry hR)).imp_right ?_
    rintro ⟨e, said, call, ⟨hresult, hdialogue, hsucceeded, hdialogue'⟩, hallowed⟩
    exact ⟨e, said, call, ⟨hresult, hdialogue, hsucceeded, hdialogue'⟩, hallowed⟩

/-! ### What the server holds after a dialogue -/

/-- What a server holds of the kinds of objects that a pass writes. -/
@[ext]
structure Contents where
  pods : Shelf Pod
  autoscalers : Shelf Autoscaler

/-- What an exchange leaves: a write that was accepted is stored, and anything
else leaves all as it was. -/
def Contents.after (c : Contents) : Exchange → Contents
  | ⟨.updatePodStatus pod, .ok ()⟩ =>
    match Shelf.at? (placeOf pod) c.pods with
    | none => c
    | some stored =>
      let version := some (nextVersion (versionOf stored))
      { c with pods := Shelf.put (withVersion version { stored with status := pod.status }) c.pods }
  | ⟨.updateAutoscaler _, .ok stored⟩ => { c with autoscalers := Shelf.put stored c.autoscalers }
  | _ => c

/-- A call that does not succeed leaves all as it was. -/
@[simp] theorem Contents.after_error (c : Contents) (call : Call) (e : Failure) :
    c.after ⟨call, .error e⟩ = c := by
  cases call <;> rfl

/-- Reading leaves all as it was. -/
theorem Contents.after_of_read (c : Contents) {x : Exchange} (h : x.1.target? = none) :
    c.after x = c := by
  obtain ⟨call, answer⟩ := x
  cases call with
  | updatePodStatus | updateAutoscaler => cases h
  | getNode | podsOnNode | listAutoscalers | getBudget => rfl

theorem Contents.foldl_after_of_reads (c : Contents) {said : List Exchange}
    (h : ∀ x ∈ said, x.1.target? = none) : said.foldl after c = c := by
  induction said with
  | nil => rfl
  | cons x rest ih =>
    obtain ⟨hx, hrest⟩ := List.forall_mem_cons.mp h
    rw [List.foldl_cons, c.after_of_read hx, ih hrest]

namespace Memory

/-- What the server holds that passes write. -/
def contents (m : Memory) : Contents := ⟨m.pods, m.autoscalers⟩

/-- The same store with no faults scheduled. -/
def faultless (m : Memory) : Memory := { m with faults := [] }

theorem faultless_eq {m : Memory} (h : m.faults = []) : m.faultless = m := by
  unfold faultless
  rw [← h]

theorem Untouched.faultless {m m' : Memory} (h : Untouched m m') :
    Untouched m.faultless m'.faultless :=
  { h with faults := rfl }

theorem untouched_record (clock : Memory → Instant) (lags : Memory → Bool) (note : Note)
    (m : Memory) : Untouched m.faultless ((handlerUnder clock lags).record note m).faultless :=
  (Untouched.of_record note m).faultless

variable {clock : Memory → Instant} {lags : Memory → Bool}

/-- A call that meets with a fault is only recorded, and any other is performed then. -/
theorem answer_cases (clock : Memory → Instant) (lags : Memory → Bool) (call : Call) (m : Memory) :
    ∃ faults, ((∃ e, (handlerUnder clock lags).answer call m
        = (.error e, { m with calls := m.calls ++ [call], lag := lags m, faults }))
      ∨ (handlerUnder clock lags).answer call m
        = perform { m with calls := m.calls ++ [call], lag := lags m, faults } call) := by
  simp only [handlerUnder, answer]
  cases (Fault.meet call.kind m.faults).1 with
  | some e => exact ⟨_, Or.inl ⟨e, rfl⟩⟩
  | none => exact ⟨_, Or.inr rfl⟩

/-- A call that fails, or only reads, is recorded, and changes no object. -/
theorem answer_idle (call : Call) (m : Memory)
    (h : call.target? = none ∨ ∃ e, ((handlerUnder clock lags).answer call m).1 = .error e) :
    ∃ faults, ((handlerUnder clock lags).answer call m).2
      = { m with calls := m.calls ++ [call], lag := lags m, faults } := by
  obtain ⟨faults, ⟨e, hanswer⟩ | hanswer⟩ := answer_cases clock lags call m
  · exact ⟨faults, by rw [hanswer]⟩
  · refine ⟨faults, ?_⟩
    rw [hanswer] at h ⊢
    cases call with
    | getNode | podsOnNode | listAutoscalers | getBudget => rfl
    | updatePodStatus pod =>
      obtain h | ⟨e, h⟩ := h
      · cases h
      · simp only [perform, updatePodStatus] at h ⊢
        cases hat : Shelf.at? (placeOf pod) m.pods with
        | none => rfl
        | some stored =>
          rw [hat] at h
          dsimp only at h ⊢
          split at h
          next hne => rw [if_pos hne]
          next => cases h
    | updateAutoscaler a =>
      obtain h | ⟨e, h⟩ := h
      · cases h
      · simp only [perform, updateAutoscaler] at h ⊢
        cases hat : Shelf.at? (placeOf a) m.autoscalers with
        | none => rfl
        | some stored =>
          rw [hat] at h
          dsimp only at h ⊢
          split at h
          next hne => rw [if_pos hne]
          next => cases h

/-- A read that meets with no fault is answered from the store. -/
theorem answer_read {call : Call} (hread : call.target? = none) (m : Memory) :
    ((∃ e, ((handlerUnder clock lags).answer call m).1 = .error e) ∧ m.faults ≠ [] ∨
      ((handlerUnder clock lags).answer call m).1 = (m.perform call).1) ∧
      Untouched m.faultless ((handlerUnder clock lags).answer call m).2.faultless ∧
      (m.faults = [] → ((handlerUnder clock lags).answer call m).2.faults = []) := by
  have hanswer : ∀ faults,
      (perform { m with calls := m.calls ++ [call], lag := lags m, faults } call).1
        = (m.perform call).1 := by
    intro faults
    cases call with
    | updatePodStatus | updateAutoscaler => cases hread
    | getNode | podsOnNode | listAutoscalers | getBudget => rfl
  refine ⟨?_, ?_, fun h => ?_⟩
  · by_cases h : m.faults = []
    · rw [answer_of_no_faults h]
      exact Or.inr (hanswer [])
    · obtain ⟨faults, ⟨e, herror⟩ | hperformed⟩ := answer_cases clock lags call m
      · exact Or.inl ⟨⟨e, by rw [herror]⟩, h⟩
      · rw [hperformed]
        exact Or.inr (hanswer faults)
  · obtain ⟨faults, hstate⟩ : ∃ faults, ((handlerUnder clock lags).answer call m).2 = _ :=
      answer_idle call m (Or.inl hread)
    rw [hstate]
    have hasked : Untouched m.faultless (m.faultless.asked (fun _ => lags m) call) :=
      Untouched.of_read rfl hread
    exact hasked
  · rw [answer_of_no_faults h]
    cases call with
    | updatePodStatus | updateAutoscaler => cases hread
    | getNode | podsOnNode | listAutoscalers | getBudget => rfl

/-- A status that is accepted was written over the version that the server had. -/
theorem answer_updatePodStatus_ok {pod : Pod} {m : Memory}
    (h : ((handlerUnder clock lags).answer (.updatePodStatus pod) m).1 = .ok ()) :
    ∃ stored faults index logs, Shelf.at? (placeOf pod) m.pods = some stored ∧
      versionOf stored = versionOf pod ∧
      ((handlerUnder clock lags).answer (.updatePodStatus pod) m).2 =
        { m with
          calls := m.calls ++ [.updatePodStatus pod], lag := lags m, faults, index, logs
          pods := Shelf.put (withVersion (some (nextVersion (versionOf stored)))
            { stored with status := pod.status }) m.pods } := by
  obtain ⟨faults, ⟨e, hanswer⟩ | hanswer⟩ := answer_cases clock lags (.updatePodStatus pod) m
  · rw [hanswer] at h
    cases h
  · rw [hanswer] at h ⊢
    simp only [perform, updatePodStatus] at h ⊢
    cases hat : Shelf.at? (placeOf pod) m.pods with
    | none =>
      rw [hat] at h
      cases h
    | some stored =>
      rw [hat] at h
      dsimp only at h ⊢
      split at h
      next => cases h
      next heq =>
        obtain ⟨index, logs, hput⟩ := putPod_eq
          { m with calls := m.calls ++ [.updatePodStatus pod], lag := lags m, faults }
          (withVersion (some (nextVersion (versionOf stored))) { stored with status := pod.status })
        rw [if_neg heq, hput]
        exact ⟨stored, faults, index, logs, rfl, Decidable.not_not.mp heq, rfl⟩

/-- An autoscaler that is accepted was written over the version that the server had. -/
theorem answer_updateAutoscaler_ok {a stored : Autoscaler} {m : Memory}
    (h : ((handlerUnder clock lags).answer (.updateAutoscaler a) m).1 = .ok stored) :
    ∃ old faults cached, Shelf.at? (placeOf a) m.autoscalers = some old ∧
      versionOf old = versionOf a ∧
      stored = withVersion (some (nextVersion (versionOf old))) a ∧
      (cached = m.cached ∨ cached = Shelf.put stored m.cached) ∧
      ((handlerUnder clock lags).answer (.updateAutoscaler a) m).2 =
        { m with
          calls := m.calls ++ [.updateAutoscaler a], lag := lags m, faults, cached
          autoscalers := Shelf.put stored m.autoscalers } := by
  obtain ⟨faults, ⟨e, hanswer⟩ | hanswer⟩ := answer_cases clock lags (.updateAutoscaler a) m
  · rw [hanswer] at h
    cases h
  · rw [hanswer] at h ⊢
    simp only [perform, updateAutoscaler] at h ⊢
    cases hat : Shelf.at? (placeOf a) m.autoscalers with
    | none =>
      rw [hat] at h
      cases h
    | some old =>
      rw [hat] at h
      dsimp only at h ⊢
      split at h
      next => cases h
      next heq =>
        have hstored : withVersion (some (nextVersion (versionOf old))) a = stored :=
          Except.ok.inj h
        obtain ⟨cached, hcached, hput⟩ := putAutoscaler_eq
          { m with calls := m.calls ++ [.updateAutoscaler a], lag := lags m, faults } stored
        rw [if_neg heq, hstored, hput]
        exact ⟨old, faults, cached, rfl, Decidable.not_not.mp heq, hstored.symm, hcached, rfl⟩

/-- An answer leaves on the server what the exchange stores, and adds the call to the record. -/
theorem answer_eq (call : Call) (m : Memory) :
    ((handlerUnder clock lags).answer call m).2.contents
        = m.contents.after ⟨call, ((handlerUnder clock lags).answer call m).1⟩ ∧
      ((handlerUnder clock lags).answer call m).2.nodes = m.nodes ∧
      ((handlerUnder clock lags).answer call m).2.budgets = m.budgets ∧
      ((handlerUnder clock lags).answer call m).2.calls = m.calls ++ [call] := by
  by_cases hidle : call.target? = none ∨
      ∃ e, ((handlerUnder clock lags).answer call m).1 = .error e
  · obtain ⟨faults, hstate⟩ := answer_idle call m hidle
    rw [hstate]
    refine ⟨?_, rfl, rfl, rfl⟩
    obtain hread | ⟨e, he⟩ := hidle
    · exact (m.contents.after_of_read hread).symm
    · rw [he, Contents.after_error]
      rfl
  · obtain ⟨hwrite, hok⟩ := not_or.mp hidle
    cases call with
    | getNode | podsOnNode | listAutoscalers | getBudget => exact absurd rfl hwrite
    | updatePodStatus pod =>
      cases hanswer : ((handlerUnder clock lags).answer (.updatePodStatus pod) m).1 with
      | error e => exact absurd ⟨e, hanswer⟩ hok
      | ok result =>
        obtain ⟨stored, faults, index, logs, hat, -, hstate⟩ := answer_updatePodStatus_ok hanswer
        rw [hstate]
        refine ⟨?_, rfl, rfl, rfl⟩
        rw [Contents.after, show m.contents.pods = m.pods from rfl, hat]
        rfl
    | updateAutoscaler a =>
      cases hanswer : ((handlerUnder clock lags).answer (.updateAutoscaler a) m).1 with
      | error e => exact absurd ⟨e, hanswer⟩ hok
      | ok stored =>
        obtain ⟨old, faults, cached, -, -, -, -, hstate⟩ := answer_updateAutoscaler_ok hanswer
        rw [hstate]
        exact ⟨rfl, rfl, rfl, rfl⟩

/-- The server ends with what the dialogue of a run has stored, and the calls of
the dialogue are recorded. -/
theorem run_eq (p : Attempt α) (m : Memory) :
    (p.run (handlerUnder clock lags) m).2.contents
        = (p.dialogue (handlerUnder clock lags) m).foldl Contents.after m.contents ∧
      (p.run (handlerUnder clock lags) m).2.nodes = m.nodes ∧
      (p.run (handlerUnder clock lags) m).2.budgets = m.budgets ∧
      (p.run (handlerUnder clock lags) m).2.calls
        = m.calls ++ (p.dialogue (handlerUnder clock lags) m).map (·.1) := by
  induction p generalizing m with
  | done a => exact ⟨rfl, rfl, rfl, (List.append_nil _).symm⟩
  | ask call next ih =>
    have hanswer := @answer_eq clock lags call m
    obtain ⟨hcontents, hnodes, hbudgets, hcalls⟩ := hanswer
    obtain ⟨hcontents', hnodes', hbudgets', hcalls'⟩ :=
      ih ((handlerUnder clock lags).answer call m).1 ((handlerUnder clock lags).answer call m).2
    rw [Program.run_ask, Program.dialogue, List.foldl_cons, ← hcontents, List.map_cons]
    refine ⟨hcontents', hnodes'.trans hnodes, hbudgets'.trans hbudgets, ?_⟩
    rw [hcalls', hcalls, List.append_assoc]
    rfl
  | readClock next ih => exact ih _ m
  | note entry next ih =>
    rw [Program.run_note, Program.dialogue]
    cases entry <;> exact ih _

/-! ### Runs with and without faults -/

/-- What is read off a state does not depend on the faults that are scheduled. -/
def Unaware {α : Type} (f : Memory → α) : Prop := ∀ m faults, f { m with faults } = f m

theorem perform_faults (call : Call) (m : Memory) (faults : List (Fault Call.Kind Failure)) :
    ({ m with faults } : Memory).perform call
      = ((m.perform call).1, { (m.perform call).2 with faults }) := by
  cases call with
  | getNode | podsOnNode | listAutoscalers | getBudget => rfl
  | updatePodStatus pod =>
    simp only [perform, updatePodStatus, putPod, tellIndex]
    cases Shelf.at? (placeOf pod) m.pods with
    | none => rfl
    | some stored =>
      dsimp only
      split
      · rfl
      · cases m.lag <;> rfl
  | updateAutoscaler a =>
    simp only [perform, updateAutoscaler, putAutoscaler]
    cases Shelf.at? (placeOf a) m.autoscalers with
    | none => rfl
    | some stored =>
      dsimp only
      split
      · rfl
      · cases m.lag <;> rfl

/-- Taking the scheduled faults away makes fewer calls fail, and changes nothing else. -/
theorem failsMore_faultless (hclock : Unaware clock) (hlags : Unaware lags) :
    FailsMore (fun m m' => m' = m.faultless) (handlerUnder clock lags)
      (handlerUnder clock lags) where
  answer := by
    rintro m _ call result rfl hok
    obtain ⟨faults, ⟨e, hanswer⟩ | hanswer⟩ := answer_cases clock lags call m
    · rw [hanswer] at hok
      cases hok
    · rw [hanswer] at hok ⊢
      -- The state in which the call is performed, but for the faults that are left.
      generalize hm₁ : ({ m with calls := m.calls ++ [call], lag := lags m, faults } : Memory) = m₁
        at hok ⊢
      have hfaultless : (handlerUnder clock lags).answer call m.faultless
          = ({ m₁ with faults := [] } : Memory).perform call := by
        rw [answer_of_no_faults rfl, asked, show lags m.faultless = lags m from hlags m [], ← hm₁]
        rfl
      rw [hfaultless, perform_faults]
      exact ⟨hok, rfl⟩
  clock := by
    rintro m _ rfl
    exact (hclock m []).symm
  record := by
    rintro m _ entry rfl
    cases entry <;> rfl

end Memory

end Store

end CordonWatch
