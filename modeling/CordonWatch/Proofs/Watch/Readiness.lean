import CordonWatch.Watch.Readiness

/-!
# Nobody waits in vain for the index

Any number of updates complete lists and any number of waiters wait for the first one,
each in its own small steps and in any order between them. A waiting room holds how far
each has come, and a history says what happened in it (`WaitingRoom.Leads`).

What readers see is read off the history: the events told of before an update took what
they collected, and those told of after it put that in place (`ShowsList`). The flag is set
only when that has come about (`Sound.ready`), so nobody returns before the index of a
completed list is there.

Before the flag is set nobody is called (`Sound.calls`), so whoever waits has registered
before any call at all (`Sound.waiting`), and the first call reaches everyone who waits.
Whoever looks at the flag later finds it set. So nobody waits in vain (`no_call_missed`).
-/

namespace CordonWatch.Watch

/-- The index, how far each update that completes a list has come, and how far each
waiter. Updates and waiters are numbered; a waiter who has not come yet is to start. -/
structure WaitingRoom where
  readiness : Readiness := {}
  updates : Nat → Option Completion := fun _ => none
  waiters : Nat → Waiter := fun _ => .starting

/-- What happens in a waiting room. -/
inductive Happening where
  /-- An event that completes no list is taken in. -/
  | told (event : Event Pod)
  /-- An update takes what was collected. -/
  | took (update : Nat)
  /-- An update puts what it took in the place of the index. -/
  | replaced (update : Nat)
  /-- An update sets the flag. -/
  | flagged (update : Nat)
  /-- An update wakes those who wait, and is finished. -/
  | woke (update : Nat)
  /-- A waiter takes a step. -/
  | stepped (waiter : Nat)

/-- What an update does next. -/
def Completion.next (update : Nat) : Completion → Happening
  | .taken _ => .replaced update
  | .replaced => .flagged update
  | .flagged => .woke update

/-- Whether it is a step of that waiter. -/
def Happening.isStepOf (waiter : Nat) : Happening → Bool
  | .stepped other => other == waiter
  | .told _ | .took _ | .replaced _ | .flagged _ | .woke _ => false

/-- The event that is taken in, if there is one. -/
def Happening.event? : Happening → Option (Event Pod)
  | .told event => some event
  | .took _ | .replaced _ | .flagged _ | .woke _ | .stepped _ => none

/-- The events that were told of. -/
def toldIn (history : List Happening) : List (Event Pod) := history.filterMap Happening.event?

/-- Adds what happens to the events told of since an update last took what was collected. -/
def collect (told : List (Event Pod)) : Happening → List (Event Pod)
  | .told event => told ++ [event]
  | .took _ => []
  | .replaced _ | .flagged _ | .woke _ | .stepped _ => told

/-- The events told of since an update last took what was collected. -/
def collecting (history : List Happening) : List (Event Pod) := history.foldl collect []

/-- What an update has taken and not yet put in place: the list that was collected when it
last took something. -/
def HoldsList (history : List Happening) (i : Nat) (collected : Placement) : Prop :=
  ∃ earlier between, history = earlier ++ .took i :: between ∧ .took i ∉ between ∧
    collected = (PodIndex.applyAll {} (collecting earlier ++ [.initDone])).live

/-- Readers see the list that some update took last and put in place, with what was told of
after it was in place; no update has put another one in place since. -/
def ShowsList (history : List Happening) (live : Placement) : Prop :=
  ∃ i earlier between after,
    history = earlier ++ .took i :: between ++ .replaced i :: after ∧
    .took i ∉ between ∧ (∀ j, .replaced j ∉ after) ∧
    live = (PodIndex.applyAll {} (collecting earlier ++ .initDone :: toldIn after)).live

/-- How many steps a waiter has still to take when the flag is set and it was called. -/
def Waiter.stepsLeft : Waiter → Nat
  | .waiting _ => 3
  | .starting => 2
  | .registered _ => 1
  | .returned => 0

/-! ### What was told -/

section

variable {history : List Happening} {happening : Happening} {i : Nat} {collected live : Placement}

theorem collecting_append : collecting (history ++ [happening])
    = collect (collecting history) happening := by
  rw [collecting, List.foldl_append]
  rfl

theorem toldIn_append_quiet (h : happening.event? = none) :
    toldIn (history ++ [happening]) = toldIn history := by
  simp [toldIn, List.filterMap_append, h]

/-- What has not happened has still not happened after something else. -/
theorem not_mem_concat {other : Happening} (h : other ∉ history) (hne : happening ≠ other) :
    other ∉ history ++ [happening] :=
  List.not_mem_append h fun hlast => hne (List.mem_singleton.mp hlast).symm

/-- What a list has collected comes from what it had collected before. -/
theorem staged_apply {ix ix' : PodIndex} (h : ix.staged = ix'.staged) (event : Event Pod) :
    (ix.apply event).staged = (ix'.apply event).staged := by
  cases event with
  | init | initDone => rfl
  | initApply pod => simp only [PodIndex.apply, h]
  | apply | delete => exact h

/-- What readers see comes from what they saw before, unless a list is complete. -/
theorem live_apply {ix ix' : PodIndex} (h : ix.live = ix'.live) {event : Event Pod}
    (hevent : event ≠ .initDone) : (ix.apply event).live = (ix'.apply event).live := by
  cases event with
  | init | initApply => exact h
  | initDone => exact absurd rfl hevent
  | apply | delete => simp only [PodIndex.apply, h]

theorem HoldsList.append (h : HoldsList history i collected) (hother : happening ≠ .took i) :
    HoldsList (history ++ [happening]) i collected := by
  obtain ⟨earlier, between, rfl, hbetween, hcollected⟩ := h
  exact ⟨earlier, between ++ [happening], by simp, not_mem_concat hbetween hother, hcollected⟩

/-- An update that puts a list in place makes it what readers see. -/
theorem HoldsList.replaced (h : HoldsList history i collected) :
    ShowsList (history ++ [.replaced i]) collected := by
  obtain ⟨earlier, between, rfl, hbetween, hcollected⟩ := h
  exact ⟨i, earlier, between, [], rfl, hbetween, fun _ => List.not_mem_nil, hcollected⟩

theorem ShowsList.quiet (h : ShowsList history live) (hquiet : happening.event? = none)
    (hnone : ∀ j, happening ≠ .replaced j) : ShowsList (history ++ [happening]) live := by
  obtain ⟨i, earlier, between, after, rfl, hbetween, hafter, hlive⟩ := h
  refine ⟨i, earlier, between, after ++ [happening], by simp, hbetween,
    fun j => not_mem_concat (hafter j) (hnone j), ?_⟩
  rw [toldIn_append_quiet hquiet]
  exact hlive

theorem ShowsList.told {ix : PodIndex} (h : ShowsList history ix.live) {event : Event Pod}
    (hevent : event ≠ .initDone) :
    ShowsList (history ++ [.told event]) (ix.apply event).live := by
  obtain ⟨i, earlier, between, after, rfl, hbetween, hafter, hlive⟩ := h
  refine ⟨i, earlier, between, after ++ [.told event], by simp, hbetween,
    fun j => not_mem_concat (hafter j) Happening.noConfusion, ?_⟩
  have hevents : collecting earlier ++ .initDone :: toldIn (after ++ [.told event])
      = (collecting earlier ++ .initDone :: toldIn after) ++ [event] := by
    simp [toldIn, Happening.event?]
  rw [hevents, PodIndex.applyAll, List.foldl_append]
  exact live_apply hlive hevent

end

namespace WaitingRoom

/-- The room where an update has come to something else, and the index with it. -/
def setUpdate (r : WaitingRoom) (readiness : Readiness) (i : Nat) (update : Option Completion) :
    WaitingRoom :=
  { r with readiness, updates := fun j => if j = i then update else r.updates j }

/-- The room where a waiter has come to something else. -/
def setWaiter (r : WaitingRoom) (i : Nat) (waiter : Waiter) : WaitingRoom :=
  { r with waiters := fun j => if j = i then waiter else r.waiters j }

/-- What may happen next, and the room after it. -/
inductive Step (r : WaitingRoom) : Happening → WaitingRoom → Prop
  | tell (event : Event Pod) (completesNone : event ≠ .initDone) :
    Step r (.told event)
      { r with readiness := { r.readiness with index := r.readiness.index.apply event } }
  | take {i : Nat} (idle : r.updates i = none) :
    Step r (.took i) (r.setUpdate r.readiness.complete.1 i (some r.readiness.complete.2))
  | goOn {i : Nat} {update : Completion} (busy : r.updates i = some update) :
    Step r (update.next i) (r.setUpdate (r.readiness.completionStep update).1 i
      (r.readiness.completionStep update).2)
  | wait (i : Nat) :
    Step r (.stepped i) (r.setWaiter i (r.readiness.waiterStep (r.waiters i)))

/-- What may come of a room, and what happens on the way. -/
inductive Leads (r : WaitingRoom) : List Happening → WaitingRoom → Prop
  | start : Leads r [] r
  | step {history : List Happening} {r' r'' : WaitingRoom} {happening : Happening}
    (h : Leads r history r') (hstep : Step r' happening r'') :
    Leads r (history ++ [happening]) r''

variable {r r' r'' : WaitingRoom} {happening : Happening} {history later : List Happening}

theorem Leads.trans (h : Leads r history r') (h' : Leads r' later r'') :
    Leads r (history ++ later) r'' := by
  induction h' with
  | start => exact (List.append_nil history).symm ▸ h
  | step _ hstep ih => exact List.append_assoc history _ _ ▸ ih.step hstep

theorem setUpdate_setUpdate (readiness readiness' : Readiness) (i : Nat)
    (update update' : Option Completion) :
    (r.setUpdate readiness i update).setUpdate readiness' i update'
      = r.setUpdate readiness' i update' := by
  simp only [setUpdate]
  congr 1
  funext j
  split <;> rfl

theorem setUpdate_of_idle {i : Nat} (idle : r.updates i = none) (readiness : Readiness) :
    r.setUpdate readiness i none = { r with readiness } := by
  simp only [setUpdate]
  congr 1
  funext j
  split
  next hj => rw [hj, idle]
  next => rfl

/-- The steps of an update that nothing comes between are what the index does when a list
is complete. -/
theorem leads_complete {i : Nat} (idle : r.updates i = none) :
    Leads r [.took i, .replaced i, .flagged i, .woke i]
      { r with readiness :=
          { index := r.readiness.index.apply .initDone, calls := r.readiness.calls + 1 } } := by
  have hreplaced := (Leads.start.step (.take idle)).step
    (@Step.goOn _ i r.readiness.complete.2 (if_pos rfl))
  have hwoke := (hreplaced.step (@Step.goOn _ i .replaced (if_pos rfl))).step
    (@Step.goOn _ i .flagged (if_pos rfl))
  simp only [setUpdate_setUpdate] at hwoke
  rw [← Readiness.complete_steps, ← setUpdate_of_idle idle]
  exact hwoke

/-! ### The flag and the calls -/

theorem ready_apply {ix : PodIndex} {event : Event Pod} (h : event ≠ .initDone) :
    (ix.apply event).ready = ix.ready := by
  cases event with
  | init | initApply | apply | delete => rfl
  | initDone => exact absurd rfl h

/-- The flag is never taken back. -/
theorem Step.ready (hstep : Step r happening r') (h : r.readiness.index.ready = true) :
    r'.readiness.index.ready = true := by
  cases hstep with
  | tell event completesNone => exact (ready_apply completesNone).trans h
  | take | wait => exact h
  | @goOn i update busy =>
    cases update with
    | taken | flagged => exact h
    | replaced => rfl

theorem Leads.ready (hlater : Leads r history r') (h : r.readiness.index.ready = true) :
    r'.readiness.index.ready = true := by
  induction hlater with
  | start => exact h
  | step _ hstep ih => exact hstep.ready ih

/-- No call is taken back. -/
theorem Step.calls_le (hstep : Step r happening r') :
    r.readiness.calls ≤ r'.readiness.calls := by
  cases hstep with
  | tell | take | wait => exact Nat.le_refl _
  | @goOn i update busy =>
    cases update with
    | taken | replaced => exact Nat.le_refl _
    | flagged => exact Nat.le_succ _

/-! ### What holds at any time -/

/-- What holds of a room with that history. -/
structure Sound (history : List Happening) (r : WaitingRoom) : Prop where
  /-- A running list has collected what was told of since one was taken. -/
  staged : r.readiness.index.staged = (PodIndex.applyAll {} (collecting history)).staged
  taken : ∀ i collected, r.updates i = some (.taken collected) → HoldsList history i collected
  /-- The flag is set, or about to be, only while readers see a completed list. -/
  ready : r.readiness.index.ready = true → ShowsList history r.readiness.index.live
  replaced : ∀ i, r.updates i = some .replaced → ShowsList history r.readiness.index.live
  /-- Nobody is called, or about to be, before the flag is set. -/
  flagged : ∀ i, r.updates i = some .flagged → r.readiness.index.ready = true
  calls : r.readiness.index.ready = false → r.readiness.calls = 0
  /-- An update that is finished has called. -/
  woke : (∃ i, .woke i ∈ history) → r.readiness.calls ≠ 0
  returned : ∀ w, r.waiters w = .returned → r.readiness.index.ready = true
  registered : ∀ w n, r.waiters w = .registered n → n ≤ r.readiness.calls
  /-- Who waits has found the flag unset, so there was no call before it registered. -/
  waiting : ∀ w n, r.waiters w = .waiting n → n = 0

theorem sound_start : Sound [] {} where
  staged := rfl
  taken := fun _ _ h => nomatch h
  ready := fun h => nomatch h
  replaced := fun _ h => nomatch h
  flagged := fun _ h => nomatch h
  calls := fun _ => rfl
  woke := fun ⟨_, h⟩ => nomatch h
  returned := fun _ h => nomatch h
  registered := fun _ _ h => nomatch h
  waiting := fun _ _ h => nomatch h

/-- What happens other than a call leaves the calls of the history as they were. -/
theorem exists_woke_of_append (hnone : ∀ i, happening ≠ .woke i)
    (h : ∃ i, .woke i ∈ history ++ [happening]) : ∃ i, .woke i ∈ history := by
  obtain ⟨i, hi⟩ := h
  rcases List.mem_append.mp hi with hi | hi
  · exact ⟨i, hi⟩
  · exact absurd (List.mem_singleton.mp hi).symm (hnone i)

theorem updates_setUpdate {readiness : Readiness} {i j : Nat} {update : Option Completion}
    {c : Completion} (h : (r.setUpdate readiness i update).updates j = some c) :
    j = i ∧ update = some c ∨ r.updates j = some c := by
  dsimp only [setUpdate] at h
  split at h
  next hj => exact Or.inl ⟨hj, h⟩
  next => exact Or.inr h

theorem waiters_setWaiter {i j : Nat} {waiter w : Waiter}
    (h : (r.setWaiter i waiter).waiters j = w) : waiter = w ∨ r.waiters j = w := by
  dsimp only [setWaiter] at h
  split at h
  · exact Or.inl h
  · exact Or.inr h

section

variable {readiness : Readiness} {waiter : Waiter} {n : Nat}

theorem waiterStep_returned (h : readiness.waiterStep waiter = .returned) :
    waiter = .returned ∨ readiness.index.ready = true := by
  cases waiter with
  | starting => cases h
  | registered calls =>
    dsimp only [Readiness.waiterStep] at h
    split at h
    next hready => exact Or.inr hready
    next => cases h
  | waiting calls =>
    dsimp only [Readiness.waiterStep] at h
    split at h <;> cases h
  | returned => exact Or.inl rfl

theorem waiterStep_registered (h : readiness.waiterStep waiter = .registered n) :
    n = readiness.calls := by
  cases waiter with
  | starting =>
    cases h
    rfl
  | registered calls | waiting calls =>
    dsimp only [Readiness.waiterStep] at h
    split at h <;> cases h
  | returned => cases h

theorem waiterStep_waiting (h : readiness.waiterStep waiter = .waiting n) :
    waiter = .waiting n ∨ waiter = .registered n ∧ readiness.index.ready = false := by
  cases waiter with
  | starting | returned => cases h
  | registered calls =>
    dsimp only [Readiness.waiterStep] at h
    split at h
    · cases h
    next hready =>
      cases h
      exact Or.inr ⟨rfl, Bool.not_eq_true _ ▸ hready⟩
  | waiting calls =>
    dsimp only [Readiness.waiterStep] at h
    split at h
    · cases h
    · exact Or.inl h

end

theorem Sound.told (h : Sound history r) {event : Event Pod} (hevent : event ≠ .initDone) :
    Sound (history ++ [.told event])
      { r with readiness := { r.readiness with index := r.readiness.index.apply event } } where
  staged := by
    rw [collecting_append, collect, PodIndex.applyAll, List.foldl_append]
    exact staged_apply h.staged event
  taken := fun i collected hi => (h.taken i collected hi).append Happening.noConfusion
  ready := fun hr => (h.ready ((ready_apply hevent).symm.trans hr)).told hevent
  replaced := fun i hi => (h.replaced i hi).told hevent
  flagged := fun i hi => (ready_apply hevent).trans (h.flagged i hi)
  calls := fun hr => h.calls ((ready_apply hevent).symm.trans hr)
  woke := fun hw => h.woke (exists_woke_of_append (by simp) hw)
  returned := fun w hw => (ready_apply hevent).trans (h.returned w hw)
  registered := h.registered
  waiting := h.waiting

/-- What an update takes is the list collected since the last one was taken. -/
theorem Sound.holdsList (h : Sound history r) (i : Nat) :
    HoldsList (history ++ [.took i]) i (r.readiness.index.staged.getD {}) := by
  refine ⟨history, [], rfl, by simp, ?_⟩
  rw [PodIndex.applyAll, List.foldl_append, h.staged]
  rfl

theorem Sound.took (h : Sound history r) {i : Nat} (idle : r.updates i = none) :
    Sound (history ++ [.took i])
      (r.setUpdate r.readiness.complete.1 i (some r.readiness.complete.2)) where
  staged := by
    rw [collecting_append]
    rfl
  taken := by
    intro j collected hj
    rcases updates_setUpdate hj with ⟨rfl, hself⟩ | hj
    · cases hself
      exact h.holdsList j
    · refine (h.taken j collected hj).append fun hi => ?_
      cases hi
      cases idle.symm.trans hj
  ready := fun hr => (h.ready hr).quiet rfl (by simp)
  replaced := by
    intro j hj
    rcases updates_setUpdate hj with ⟨-, hj⟩ | hj
    · cases hj
    · exact (h.replaced j hj).quiet rfl (by simp)
  flagged := by
    intro j hj
    rcases updates_setUpdate hj with ⟨-, hj⟩ | hj
    · cases hj
    · exact h.flagged j hj
  calls := h.calls
  woke := fun hw => h.woke (exists_woke_of_append (by simp) hw)
  returned := h.returned
  registered := h.registered
  waiting := h.waiting

/-- What an update holds stays what it is while any update goes on. -/
theorem Sound.taken_goneOn (h : Sound history r) {i j : Nat} {update : Completion}
    {readiness : Readiness} {rest : Option Completion} {collected : Placement}
    (hrest : rest ≠ some (.taken collected))
    (hj : (r.setUpdate readiness i rest).updates j = some (.taken collected)) :
    HoldsList (history ++ [update.next i]) j collected := by
  rcases updates_setUpdate hj with ⟨-, hj⟩ | hj
  · exact absurd hj hrest
  · exact (h.taken j collected hj).append (by cases update <;> simp [Completion.next])

/-- An update that goes on replaces the index, then sets the flag, and only then calls. -/
theorem Sound.goneOn (h : Sound history r) {i : Nat} {update : Completion}
    (busy : r.updates i = some update) :
    Sound (history ++ [update.next i])
      (r.setUpdate (r.readiness.completionStep update).1 i
        (r.readiness.completionStep update).2) := by
  cases update with
  | taken collected =>
    have hshows : ShowsList (history ++ [.replaced i]) collected :=
      (h.taken i collected busy).replaced
    exact
      { staged := collecting_append ▸ h.staged
        taken := fun _ _ hj => h.taken_goneOn (by simp [Readiness.completionStep]) hj
        ready := fun _ => hshows
        replaced := fun _ _ => hshows
        flagged := by
          intro j hj
          rcases updates_setUpdate hj with ⟨-, hj⟩ | hj
          · cases hj
          · exact h.flagged j hj
        calls := h.calls
        woke := fun hw => h.woke (exists_woke_of_append (by simp [Completion.next]) hw)
        returned := h.returned
        registered := h.registered
        waiting := h.waiting }
  | replaced =>
    have hshows : ShowsList (history ++ [.flagged i]) r.readiness.index.live :=
      (h.replaced i busy).quiet rfl (by simp)
    exact
      { staged := collecting_append ▸ h.staged
        taken := fun _ _ hj => h.taken_goneOn (by simp [Readiness.completionStep]) hj
        ready := fun _ => hshows
        replaced := fun _ _ => hshows
        flagged := fun _ _ => rfl
        calls := fun hr => Bool.noConfusion hr
        woke := fun hw => h.woke (exists_woke_of_append (by simp [Completion.next]) hw)
        returned := fun _ _ => rfl
        registered := h.registered
        waiting := h.waiting }
  | flagged =>
    have hready := h.flagged i busy
    have hshows : ShowsList (history ++ [.woke i]) r.readiness.index.live :=
      (h.ready hready).quiet rfl (by simp)
    exact
      { staged := collecting_append ▸ h.staged
        taken := fun _ _ hj => h.taken_goneOn (by simp [Readiness.completionStep]) hj
        ready := fun _ => hshows
        replaced := fun _ _ => hshows
        flagged := fun _ _ => hready
        calls := fun hr => Bool.noConfusion (hready.symm.trans hr)
        woke := fun _ => Nat.succ_ne_zero _
        returned := h.returned
        registered := fun w n hw => Nat.le_succ_of_le (h.registered w n hw)
        waiting := h.waiting }

/-- A waiter that goes on returns only if it finds the flag set, and waits only if it does
not; then nobody was called yet. -/
theorem Sound.waited (h : Sound history r) (i : Nat) :
    Sound (history ++ [.stepped i])
      (r.setWaiter i (r.readiness.waiterStep (r.waiters i))) where
  staged := collecting_append ▸ h.staged
  taken := fun j collected hj => (h.taken j collected hj).append Happening.noConfusion
  ready := fun hr => (h.ready hr).quiet rfl (by simp)
  replaced := fun j hj => (h.replaced j hj).quiet rfl (by simp)
  flagged := h.flagged
  calls := h.calls
  woke := fun hw => h.woke (exists_woke_of_append (by simp) hw)
  returned := by
    intro w hw
    rcases waiters_setWaiter hw with hi | hw
    · rcases waiterStep_returned hi with hi | hready
      · exact h.returned i hi
      · exact hready
    · exact h.returned w hw
  registered := by
    intro w n hw
    rcases waiters_setWaiter hw with hi | hw
    · exact Nat.le_of_eq (waiterStep_registered hi)
    · exact h.registered w n hw
  waiting := by
    intro w n hw
    rcases waiters_setWaiter hw with hi | hw
    · rcases waiterStep_waiting hi with hi | ⟨hi, hready⟩
      · exact h.waiting i n hi
      -- It has registered before, and while the flag is unset there are no calls to count.
      · exact Nat.eq_zero_of_le_zero (h.calls hready ▸ h.registered i n hi)
    · exact h.waiting w n hw

theorem Leads.sound (hrun : Leads {} history r) : Sound history r := by
  induction hrun with
  | start => exact sound_start
  | step _ hstep ih =>
    cases hstep with
    | tell event completesNone => exact ih.told completesNone
    | take idle => exact ih.took idle
    | goOn busy => exact ih.goneOn busy
    | wait i => exact ih.waited i

/-! ### Who was called comes back -/

/-- A waiter that is called, or has not come to wait, does not come to wait again once
the flag is set, and each step of its own brings it nearer to its return. -/
theorem Step.stepsLeft {w : Nat} (hstep : Step r happening r')
    (hready : r.readiness.index.ready = true)
    (hcalled : ∀ n, r.waiters w = .waiting n → n < r.readiness.calls) :
    (∀ n, r'.waiters w = .waiting n → n < r'.readiness.calls) ∧
      (r'.waiters w).stepsLeft ≤ (r.waiters w).stepsLeft - [happening].countP (·.isStepOf w) := by
  have hleft : r'.waiters w = r.waiters w → happening.isStepOf w = false →
      (∀ n, r'.waiters w = .waiting n → n < r'.readiness.calls) ∧
      (r'.waiters w).stepsLeft
        ≤ (r.waiters w).stepsLeft - [happening].countP (·.isStepOf w) := by
    intro hsame hother
    rw [hsame, List.countP_singleton, hother]
    exact ⟨fun n hn => Nat.lt_of_lt_of_le (hcalled n hn) hstep.calls_le, Nat.le_refl _⟩
  cases hstep with
  | tell | take => exact hleft rfl rfl
  | @goOn i update busy => cases update <;> exact hleft rfl rfl
  | wait i =>
    by_cases hi : w = i
    · subst hi
      have hcount : [Happening.stepped w].countP (·.isStepOf w) = 1 := by simp [Happening.isStepOf]
      have hself : (r.setWaiter w (r.readiness.waiterStep (r.waiters w))).waiters w
          = r.readiness.waiterStep (r.waiters w) := if_pos rfl
      rw [hself, hcount]
      cases hcome : r.waiters w with
      | starting => exact ⟨fun _ hn => Waiter.noConfusion hn, Nat.le_refl 1⟩
      | registered calls =>
        rw [Readiness.waiterStep, if_pos hready]
        exact ⟨fun _ hn => Waiter.noConfusion hn, Nat.le_refl 0⟩
      | waiting calls =>
        rw [Readiness.waiterStep, if_pos (hcalled calls hcome)]
        exact ⟨fun _ hn => Waiter.noConfusion hn, Nat.le_refl 2⟩
      | returned => exact ⟨fun _ hn => Waiter.noConfusion hn, Nat.le_refl 0⟩
    · exact hleft (if_neg hi) (beq_false_of_ne (Ne.symm hi))

theorem Leads.stepsLeft {w : Nat} {later : List Happening} (hlater : Leads r later r')
    (hready : r.readiness.index.ready = true)
    (hcalled : ∀ n, r.waiters w = .waiting n → n < r.readiness.calls) :
    (∀ n, r'.waiters w = .waiting n → n < r'.readiness.calls) ∧
      (r'.waiters w).stepsLeft ≤ (r.waiters w).stepsLeft - later.countP (·.isStepOf w) := by
  induction hlater with
  | start => exact ⟨hcalled, Nat.le_refl _⟩
  | step hearlier hstep ih =>
    obtain ⟨hstill, hle⟩ := ih
    obtain ⟨hthen, hle'⟩ := hstep.stepsLeft (hearlier.ready hready) hstill
    refine ⟨hthen, ?_⟩
    rw [List.countP_append]
    omega

/-- Whatever steps updates and waiters take, in whatever order: a waiter returns only when
readers see a list that was completed and put in place, and the flag says so. As soon as
some update is finished, everyone who waits has been called, then and from then on, and
needs no more than three steps of its own to return. And the flag, once set, stays set. -/
theorem no_call_missed (hrun : Leads {} history r) :
    (∀ w, r.waiters w = .returned →
      r.readiness.index.ready = true ∧ ShowsList history r.readiness.index.live) ∧
    ((∃ i, .woke i ∈ history) → ∀ w,
      (∀ calls, r.waiters w = .waiting calls → calls < r.readiness.calls) ∧
      ∀ later r', Leads r later r' → 3 ≤ later.countP (·.isStepOf w) → r'.waiters w = .returned) ∧
    (r.readiness.index.ready = true →
      ∀ later r', Leads r later r' → r'.readiness.index.ready = true) := by
  have h := hrun.sound
  refine ⟨fun w hw => ⟨h.returned w hw, h.ready (h.returned w hw)⟩, fun hwoke w => ?_,
    fun hready later r' hlater => hlater.ready hready⟩
  have hready : r.readiness.index.ready = true := by
    cases hflag : r.readiness.index.ready with
    | true => rfl
    | false => exact absurd (h.calls hflag) (h.woke hwoke)
  have hcalled : ∀ calls, r.waiters w = .waiting calls → calls < r.readiness.calls := by
    intro calls hw
    rw [h.waiting w calls hw]
    exact Nat.pos_of_ne_zero (h.woke hwoke)
  refine ⟨hcalled, fun later r' hlater hsteps => ?_⟩
  have hle := (hlater.stepsLeft hready hcalled).2
  have hmost : (r.waiters w).stepsLeft ≤ 3 := by
    cases r.waiters w <;> simp [Waiter.stepsLeft]
  have hnone : (r'.waiters w).stepsLeft = 0 := by omega
  cases hcome : r'.waiters w with
  | returned => rfl
  | starting | registered | waiting => simp [hcome, Waiter.stepsLeft] at hnone

/-- A pod on a node. -/
def onNode (name : String) : Pod where
  metadata := { name := some name }
  nodeName := some "n1"

/-- One pod is listed, another is told of when the list is in place but not yet announced.
The first waiter looks at the flag just before it is set, and waits; the second looks
between the flag and the call, and returns without it. -/
def race : List Happening :=
  [.stepped 0, .stepped 1, .told .init, .told (.initApply (onNode "web-0")), .took 0, .stepped 0,
    .replaced 0, .told (.apply (onNode "web-1")), .flagged 0, .stepped 1, .woke 0]

/-- Another list follows, of one pod, and is completed at once. -/
def relist : List Happening :=
  [.told .init, .told (.initApply (onNode "web-2")), .took 1, .replaced 1, .flagged 1, .woke 1]

theorem no_call_missed_race : ∃ r r', (Leads {} race r ∧ Leads {} (race ++ relist) r') ∧
    (r.waiters 0 = .waiting 0 ∧ r.waiters 1 = .returned) ∧
    ((r.readiness.index.podsOn "n1").map Pod.name = ["web-0", "web-1"] ∧
      ShowsList race r.readiness.index.live) ∧
    0 < r.readiness.calls ∧
    (∀ later r', Leads r later r' → 3 ≤ later.countP (·.isStepOf 0) → r'.waiters 0 = .returned) ∧
    (∀ later r', Leads r later r' → r'.readiness.index.ready = true) ∧
    (r'.readiness.index.podsOn "n1").map Pod.name = ["web-2"] ∧
      ShowsList (race ++ relist) r'.readiness.index.live := by
  have htaken := ((((Leads.start (r := {})).step (.wait 0)).step (.wait 1)).step
    (.tell .init (by simp))).step (.tell (.initApply (onNode "web-0")) (by simp))
    |>.step (.take (i := 0) rfl)
  have hflagged := (((htaken.step (.wait 0)).step (@Step.goOn _ 0 (.taken _) rfl)).step
    (.tell (.apply (onNode "web-1")) (by simp))).step (@Step.goOn _ 0 .replaced rfl)
  have hrun : Leads {} race _ := (hflagged.step (.wait 1)).step (@Step.goOn _ 0 .flagged rfl)
  have htold := (hrun.step (.tell .init (by simp))).step
    (.tell (.initApply (onNode "web-2")) (by simp))
  have hagain : Leads {} (race ++ relist) _ := (htold.trans (leads_complete (i := 1) rfl))
  obtain ⟨hreturned, hcalled, hflag⟩ := no_call_missed hrun
  obtain ⟨hready, hshows⟩ := hreturned 1 rfl
  obtain ⟨hwoken, hback⟩ := hcalled ⟨0, by simp [race]⟩ 0
  have hreturned' := (no_call_missed hagain).1
  exact ⟨_, _, ⟨hrun, hagain⟩, ⟨rfl, rfl⟩, ⟨by decide, hshows⟩, hwoken 0 rfl, hback,
    hflag hready, by decide, (hreturned' 1 rfl).2⟩

end WaitingRoom

end CordonWatch.Watch
