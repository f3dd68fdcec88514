import CordonWatch.Proofs.Object.Edits
import CordonWatch.Proofs.Pass.Selection

/-!
# Handling one pod

What a pass does for a pod that is governed by an autoscaler, where no call
meets with a fault and nobody else writes. The pod is marked (`run_markPod`):
it is written if that changes its conditions, and not written otherwise. The
eviction is recorded (`run_recordEviction`): the autoscaler is written in the
version that the server has, because what the pass remembers of it, or else
what the cache has of it, is what the server has.

`run_handlePod` puts the two together; a proof about the whole pass needs
nothing but it, and `Handled` says all that has changed.
-/

namespace CordonWatch

/-- A pod as it is left by a pass that handles it at `now`. -/
def Pod.marked (now : Instant) (pod : Pod) : Pod :=
  if (pod.setCondition (.evictionAnticipated now)).2 then
    withVersion (some (Store.nextVersion (versionOf pod)))
      (pod.setCondition (.evictionAnticipated now)).1
  else pod

/-- The first condition that announces a disruption is, once a pod is marked,
the announcement of its eviction; only the time may be an older one. -/
theorem Pod.find?_marked (now : Instant) (pod : Pod) :
    ∃ since, ((pod.marked now).conditions.getD []).find? (·.type = PodCondition.disruptionTarget)
      = some { PodCondition.evictionAnticipated now with lastTransitionTime := since } := by
  have hlist : (pod.marked now).conditions.getD []
      = ((PodCondition.evictionAnticipated now).set (pod.conditions.getD [])).1 := by
    unfold Pod.marked
    split
    · rfl
    next h => exact (PodCondition.set_eq_self (Bool.eq_false_iff.mpr h)).symm
  have hset := PodCondition.find?_set (.evictionAnticipated now) (pod.conditions.getD [])
  rw [hlist]
  cases hfound : (pod.conditions.getD []).find? (·.type = PodCondition.disruptionTarget) with
  | none =>
    refine ⟨some now, hset.trans ?_⟩
    rw [show PodCondition.type (.evictionAnticipated now) = PodCondition.disruptionTarget from rfl,
      hfound]
    rfl
  | some c =>
    obtain ⟨since, hsince⟩ := PodCondition.replacing_evictionAnticipated now c
    refine ⟨since, hset.trans ?_⟩
    rw [show PodCondition.type (.evictionAnticipated now) = PodCondition.disruptionTarget from rfl,
      hfound, ← hsince]
    rfl

/-- The version that a version becomes by so many writes. -/
def Store.versionAfter : Nat → Option String → Option String
  | 0, version => version
  | writes + 1, version => some (nextVersion (versionAfter writes version))

/-- An autoscaler as it is left by so many writes, of which the last one
recorded the eviction of a pod at `now`. -/
def Autoscaler.recording (writes : Nat) (pod : Pod) (now : Instant) (a : Autoscaler) : Autoscaler :=
  withVersion (Store.versionAfter writes (versionOf a)) (a.noting pod now)

namespace Store.Memory

section

variable (clock : Memory → Instant) (lags : Memory → Bool) {m : Memory}

/-- The clock shows `t` at a moment from one state on and up to another one. -/
def ShownBetween (m m' : Memory) (t : Instant) : Prop :=
  ∃ s : Memory, s.now = m.now ∧ m.calls <+: s.calls ∧ s.calls <+: m'.calls ∧ clock s = t

theorem ShownBetween.widen {clock : Memory → Instant} {m₀ m₁ m₂ m₃ : Memory} {t : Instant}
    (h : ShownBetween clock m₁ m₂ t) (hnow : m₁.now = m₀.now)
    (hbefore : m₀.calls <+: m₁.calls) (hafter : m₂.calls <+: m₃.calls) :
    ShownBetween clock m₀ m₃ t := by
  obtain ⟨s, hs, h₁, h₂, ht⟩ := h
  exact ⟨s, hs.trans hnow, hbefore.trans h₁, h₂.trans hafter, ht⟩

/-- The writes for marking a pod. They are the same at any time. -/
def markingWrites (now : Instant) (pod : Pod) : List (CordonWatch.Kind × Place) :=
  if (pod.setCondition (.evictionAnticipated now)).2 then [(.pod, placeOf pod)] else []

/-- What changes when a pod is marked at the time `t`. -/
structure Marked (t : Instant) (pod : Pod) (m m' : Memory) : Prop where
  nodes : m'.nodes = m.nodes
  budgets : m'.budgets = m.budgets
  podPlaces : Shelf.places m'.pods = Shelf.places m.pods
  pods : ∀ place, Shelf.at? place m'.pods
    = if placeOf pod = place then some (pod.marked t) else Shelf.at? place m.pods
  autoscalers : m'.autoscalers = m.autoscalers
  cached : m'.cached = m.cached
  faults : m'.faults = m.faults
  now : m'.now = m.now
  calls : m.calls <+: m'.calls
  writes : m'.writes = m.writes ++ markingWrites t pod

/-- A pod that is as the server has it is marked, and written only if that changes it. -/
theorem run_markPod (ns : String) {pod : Pod} (h : m.faults = [])
    (hstored : Shelf.at? (placeOf pod) m.pods = some pod) :
    ∃ m', (Pass.markPod ns pod).run (handlerUnder clock lags) m = (.ok (), m') ∧
      Marked (clock m) pod m m' := by
  obtain ⟨announced, changed, hset⟩ :
      ∃ announced changed,
        pod.setCondition (.evictionAnticipated (clock m)) = (announced, changed) :=
    ⟨_, _, rfl⟩
  -- Nothing but the status differs from what is stored.
  have hannounced : announced = { pod with status := announced.status } := by
    rw [← show (pod.setCondition _).1 = announced from congrArg Prod.fst hset]
    rfl
  have hplace : placeOf announced = placeOf pod := by rw [hannounced]; rfl
  have hversion : versionOf pod = versionOf announced := by rw [hannounced]; rfl
  unfold Pass.markPod
  rw [Program.run_readClock, show (handlerUnder clock lags).clock m = clock m from rfl, hset]
  cases changed with
  | true =>
    have hmarked : pod.marked (clock m)
        = withVersion (some (nextVersion (versionOf pod))) announced := by
      rw [Pod.marked, hset, if_pos rfl]
    have hput : (m.asked lags (.updatePodStatus announced)).updatePodStatus announced
        = (.ok (), (m.asked lags (.updatePodStatus announced)).putPod (pod.marked (clock m))) := by
      have hstored' : Shelf.at? (placeOf announced) m.pods = some pod := hplace ▸ hstored
      rw [updatePodStatus_ok (m := m.asked lags (.updatePodStatus announced)) hstored' hversion,
        hmarked, ← hannounced]
    obtain ⟨index, logs, hstate⟩ :=
      putPod_eq (m.asked lags (.updatePodStatus announced)) (pod.marked (clock m))
    have hplace' : placeOf (pod.marked (clock m)) = placeOf pod := by rw [hmarked]; exact hplace
    dsimp only
    rw [if_pos rfl, Program.run_ask, answer_of_no_faults h]
    simp only [perform]
    rw [hput, hstate]
    refine ⟨_, rfl, rfl, rfl, ?_, ?_, rfl, rfl, h.symm, rfl, List.prefix_append _ _, ?_⟩
    · exact Shelf.places_put (hplace' ▸ hstored)
    · intro place
      rw [← hplace']
      exact Shelf.at?_put _ _ _
    · rw [markingWrites, hset, if_pos rfl, ← hplace]
      exact writes_asked lags (.updatePodStatus announced)
  | false =>
    have hmarked : pod.marked (clock m) = pod := by
      rw [Pod.marked, hset]
      exact if_neg Bool.false_ne_true
    refine ⟨m, rfl, rfl, rfl, rfl, ?_, rfl, rfl, rfl, rfl, List.prefix_refl _, ?_⟩
    · intro place
      rw [hmarked]
      split
      next hat => rw [← hat, hstored]
      next => rfl
    · rw [markingWrites, hset, if_neg Bool.false_ne_true, List.append_nil]

/-- What changes when an eviction is recorded and the autoscaler stored that says so. -/
structure Recorded (stored : Autoscaler) (m m' : Memory) : Prop where
  nodes : m'.nodes = m.nodes
  budgets : m'.budgets = m.budgets
  pods : m'.pods = m.pods
  autoscalers : m'.autoscalers = Shelf.put stored m.autoscalers
  cached : m'.cached = m.cached ∨ m'.cached = Shelf.put stored m.cached
  faults : m'.faults = m.faults
  now : m'.now = m.now
  calls : m.calls <+: m'.calls
  writes : m'.writes = m.writes ++ [(.autoscaler, placeOf stored)]

/-- The eviction is recorded on what the server has, if that is what the pass
remembers of the autoscaler or, where it remembers nothing, selected. -/
theorem run_recordEviction (ns : String) (pod : Pod) (policy : Autoscaler)
    (written : Pass.Written) {latest : Autoscaler} (h : m.faults = [])
    (hlatest : (written.find? ⟨ns, policy.name⟩).getD policy = latest)
    (hstored : Shelf.at? (placeOf latest) m.autoscalers = some latest) :
    ∃ m', (Pass.recordEviction ns pod policy written).run (handlerUnder clock lags) m
        = (.ok (written.insert ⟨ns, policy.name⟩ (latest.recording 1 pod (clock m))), m') ∧
      Recorded (latest.recording 1 pod (clock m)) m m' := by
  have hput : (m.asked lags (.updateAutoscaler (latest.noting pod (clock m)))).updateAutoscaler
        (latest.noting pod (clock m))
      = (.ok (latest.recording 1 pod (clock m)),
          (m.asked lags (.updateAutoscaler (latest.noting pod (clock m)))).putAutoscaler
            (latest.recording 1 pod (clock m))) :=
    updateAutoscaler_ok hstored rfl
  obtain ⟨cached, hcached, hstate⟩ := putAutoscaler_eq
    (m.asked lags (.updateAutoscaler (latest.noting pod (clock m))))
    (latest.recording 1 pod (clock m))
  have hnoted : ({ latest with spec := { latest.spec with
      lastEviction := { podName := pod.name, evictionTime := some (clock m) } } } : Autoscaler)
      = latest.noting pod (clock m) := rfl
  unfold Pass.recordEviction
  rw [Program.run_readClock, show (handlerUnder clock lags).clock m = clock m from rfl]
  dsimp only
  rw [hlatest, hnoted, Program.run_ask, answer_of_no_faults h,
    show Memory.perform _ (.updateAutoscaler _) = _ from hput, hstate]
  exact ⟨_, rfl, rfl, rfl, rfl, rfl, hcached, h.symm, rfl, List.prefix_append _ _,
    writes_asked lags (.updateAutoscaler (latest.noting pod (clock m)))⟩

/-- What changes when a pod is handled: the pod is marked, and the eviction
recorded on the autoscaler that was `latest`. -/
structure Handled (pod : Pod) (latest stored : Autoscaler) (m m' : Memory) : Prop where
  nodes : m'.nodes = m.nodes
  budgets : m'.budgets = m.budgets
  podPlaces : Shelf.places m'.pods = Shelf.places m.pods
  pods : ∃ t, ShownBetween clock m m' t ∧ ∀ place, Shelf.at? place m'.pods
    = if placeOf pod = place then some (pod.marked t) else Shelf.at? place m.pods
  recorded : ∃ t, ShownBetween clock m m' t ∧ stored = latest.recording 1 pod t
  autoscalers : m'.autoscalers = Shelf.put stored m.autoscalers
  cached : m'.cached = m.cached ∨ m'.cached = Shelf.put stored m.cached
  faults : m'.faults = m.faults
  now : m'.now = m.now
  calls : m.calls <+: m'.calls
  writes : ∀ t, m'.writes = m.writes ++ (markingWrites t pod ++ [(.autoscaler, placeOf latest)])

section

variable {clock} {pod : Pod} {latest stored : Autoscaler} {m' : Memory}

theorem Handled.placeOf_stored (h : Handled clock pod latest stored m m') :
    placeOf stored = placeOf latest := by
  obtain ⟨t, _, rfl⟩ := h.recorded
  rfl

theorem Handled.at?_autoscalers (h : Handled clock pod latest stored m m') (place : Place) :
    Shelf.at? place m'.autoscalers
      = if placeOf latest = place then some stored else Shelf.at? place m.autoscalers := by
  rw [h.autoscalers, Shelf.at?_put, h.placeOf_stored]

end

/-- A pod that is as the server has it is handled without a failure, and what
the pass then remembers of the autoscaler is what was stored. -/
theorem run_handlePod (node : String) {pod : Pod} (policy : Autoscaler) (written : Pass.Written)
    {latest : Autoscaler} (h : m.faults = [])
    (hpod : Shelf.at? (placeOf pod) m.pods = some pod)
    (hlatest : (written.find? ⟨pod.nsOrDefault, policy.name⟩).getD policy = latest)
    (hstored : Shelf.at? (placeOf latest) m.autoscalers = some latest) :
    ∃ m' stored, (Pass.handlePod node pod policy written).run (handlerUnder clock lags) m
        = (.ok (written.insert ⟨pod.nsOrDefault, policy.name⟩ stored), m') ∧
      Handled clock pod latest stored m m' := by
  unfold Pass.handlePod
  dsimp only [Program.log]
  rw [Program.run_note, Program.run_note, Program.run_bind]
  -- The notes come first; they touch nothing that the writes depend on.
  generalize hm₁ : (handlerUnder clock lags).record _ ((handlerUnder clock lags).record _ m) = m₁
  have hnotes : Untouched m m₁ :=
    hm₁ ▸ (Untouched.of_record _ m).trans (Untouched.of_record _ _)
  obtain ⟨m₂, hmark, hmarked⟩ := run_markPod clock lags pod.nsOrDefault
    (hnotes.faults.trans h) (hnotes.pods ▸ hpod)
  have hfaults : m₂.faults = m.faults := hmarked.faults.trans hnotes.faults
  have hautoscalers : m₂.autoscalers = m.autoscalers :=
    hmarked.autoscalers.trans hnotes.autoscalers
  have hnow : m₂.now = m.now := hmarked.now.trans hnotes.now
  have hcalls : m.calls <+: m₂.calls := hnotes.calls.trans hmarked.calls
  obtain ⟨m₃, hrecord, hrecorded⟩ := run_recordEviction clock lags
    pod.nsOrDefault pod policy written (hfaults.trans h) hlatest (hautoscalers ▸ hstored)
  rw [hmark]
  refine ⟨m₃, latest.recording 1 pod (clock m₂), hrecord, ?_⟩
  constructor
  · exact hrecorded.nodes.trans (hmarked.nodes.trans hnotes.nodes)
  · exact hrecorded.budgets.trans (hmarked.budgets.trans hnotes.budgets)
  · rw [hrecorded.pods, hmarked.podPlaces, hnotes.pods]
  · refine ⟨clock m₁, ⟨m₁, hnotes.now, hnotes.calls, hmarked.calls.trans hrecorded.calls, rfl⟩, ?_⟩
    intro place
    rw [hrecorded.pods, hmarked.pods, hnotes.pods]
  · exact ⟨clock m₂, ⟨m₂, hnow, hcalls, hrecorded.calls, rfl⟩, rfl⟩
  · rw [hrecorded.autoscalers, hautoscalers]
  · have hcached : m₂.cached = m.cached := hmarked.cached.trans hnotes.cached
    rw [← hcached]
    exact hrecorded.cached
  · exact hrecorded.faults.trans hfaults
  · exact hrecorded.now.trans hnow
  · exact hcalls.trans hrecorded.calls
  · intro t
    have ht : markingWrites t pod = markingWrites (clock m₁) pod := by
      rw [markingWrites, pod.changed_evictionAnticipated t (clock m₁)]
      rfl
    rw [hrecorded.writes, hmarked.writes, hnotes.writes, List.append_assoc, ht]
    rfl

end

end Store.Memory

end CordonWatch
