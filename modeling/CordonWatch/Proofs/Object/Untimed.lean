import CordonWatch.Proofs.Pass.Handling

/-!
# Objects but for versions and times

Two passes that do the same do it at different times, and leave objects in
different versions. `Pod.untimed` and `Autoscaler.untimed` are what is left of
an object without its version and without the times that a pass takes from the
clock; `Pod.clockless` and `Autoscaler.clockless` keep the version.

Without its times the marking of a pod is a function of what the pod is without
its own (`Pod.untimed_marked`), and to mark a pod twice is to mark it once
(`Pod.announced_announced`). Two passes that mark a pod at different times make
the same of it but for the time (`Pod.clockless_marked`).
-/

namespace CordonWatch

namespace PodCondition

/-- A condition without the time of its last transition, if it announces a disruption. -/
def untimed (c : PodCondition) : PodCondition :=
  if c.type = disruptionTarget then { c with lastTransitionTime := none } else c

/-- The announcement of an eviction without the time. -/
def announcement : PodCondition :=
  { evictionAnticipated ⟨0, 0⟩ with lastTransitionTime := none }

theorem untimed_type (c : PodCondition) : c.untimed.type = c.type := by
  unfold untimed
  split
  · rfl
  · rfl

theorem untimed_replacing (now : Instant) (c : PodCondition) :
    ((evictionAnticipated now).replacing c).untimed = announcement := by
  obtain ⟨since, hsince⟩ := replacing_evictionAnticipated now c
  rw [hsince]
  rfl

theorem announcement_replacing {c : PodCondition} (h : c.lastTransitionTime = none) :
    announcement.replacing c = announcement := by
  unfold replacing
  split
  · rw [h]
    rfl
  · rfl

/-- Without the times, announcing an eviction is setting the announcement. -/
theorem untimed_set (now : Instant) (l : List PodCondition) :
    ((evictionAnticipated now).set l).1.map untimed = (announcement.set (l.map untimed)).1 := by
  induction l with
  | nil => rfl
  | cons c rest ih =>
    by_cases hc : c.type = disruptionTarget
    · have htime : c.untimed.lastTransitionTime = none := by rw [untimed, if_pos hc]
      rw [set, if_pos (show c.type = (evictionAnticipated now).type from hc), List.map_cons,
        List.map_cons, untimed_replacing, set,
        if_pos (show c.untimed.type = announcement.type from (untimed_type c).trans hc)]
      dsimp only
      rw [announcement_replacing htime]
    · have hc' : ¬c.untimed.type = announcement.type :=
        fun he => hc ((untimed_type c).symm.trans he)
      rw [set, if_neg (show ¬c.type = (evictionAnticipated now).type from hc), List.map_cons,
        List.map_cons, set, if_neg hc', ih]

theorem replacing_replacing (new c : PodCondition) :
    new.replacing (new.replacing c) = new.replacing c := by
  by_cases h : c.status = new.status
  · have hkept : new.replacing c = { new with lastTransitionTime := c.lastTransitionTime } :=
      if_pos h
    rw [hkept]
    exact if_pos rfl
  · have hnew : new.replacing c = new := if_neg h
    rw [hnew]
    exact if_pos rfl

/-- To set a condition again changes nothing. -/
theorem set_set (new : PodCondition) (l : List PodCondition) :
    (new.set (new.set l).1).1 = (new.set l).1 := by
  induction l with
  | nil =>
    rw [show (new.set []).1 = [new] from rfl, set, if_pos rfl]
    exact congrArg ([·]) (if_pos rfl)
  | cons c rest ih =>
    by_cases hc : c.type = new.type
    · rw [set, if_pos hc]
      dsimp only
      rw [set, if_pos (replacing_type new c)]
      dsimp only
      rw [replacing_replacing]
    · rw [set, if_neg hc]
      dsimp only
      rw [set, if_neg hc]
      dsimp only
      rw [ih]

end PodCondition

namespace Pod

/-- A pod without the times of announcements of disruptions. -/
def clockless (pod : Pod) : Pod :=
  { pod with status :=
    { pod.status with conditions := pod.conditions.map (·.map PodCondition.untimed) } }

theorem placeOf_clockless (pod : Pod) : placeOf pod.clockless = placeOf pod := rfl

theorem versionOf_clockless (pod : Pod) : versionOf pod.clockless = versionOf pod := rfl

/-- A pod without its version and the times of announcements of disruptions. -/
def untimed (pod : Pod) : Pod :=
  withVersion none { pod with status :=
    { pod.status with conditions := pod.conditions.map (·.map PodCondition.untimed) } }

/-- A pod with its eviction announced at no time. -/
def announced (pod : Pod) : Pod := (pod.setCondition .announcement).1

/-- What a pass never changes of a pod. -/
def core (pod : Pod) : Pod := withVersion none { pod with status := {} }

/-- A marked pod is the pod with the announcement set, in some version. -/
theorem marked_eq (now : Instant) (pod : Pod) :
    ∃ version, pod.marked now = withVersion version { pod with status := { pod.status with
      conditions :=
        some ((PodCondition.evictionAnticipated now).set (pod.conditions.getD [])).1 } } := by
  unfold marked
  split
  · exact ⟨_, rfl⟩
  next h =>
    have hsame : ((PodCondition.evictionAnticipated now).set (pod.conditions.getD [])).2 = false :=
      Bool.eq_false_iff.mpr h
    have hconditions : pod.conditions = some (pod.conditions.getD []) := by
      cases hc : pod.conditions with
      | none =>
        rw [hc] at hsame
        cases hsame
      | some l => rfl
    refine ⟨versionOf pod, ?_⟩
    rw [PodCondition.set_eq_self hsame, ← hconditions]
    rfl

/-- Without the times it does not matter when the announcement is made. -/
theorem clockless_setCondition (now : Instant) (pod : Pod) :
    (pod.setCondition (.evictionAnticipated now)).1.clockless = pod.clockless.announced := by
  have hlist : pod.clockless.conditions.getD []
      = (pod.conditions.getD []).map PodCondition.untimed := by
    show (pod.conditions.map (·.map PodCondition.untimed)).getD [] = _
    cases pod.conditions <;> rfl
  rw [announced, setCondition_fst, setCondition_fst, hlist, ← PodCondition.untimed_set now]
  rfl

/-- Without the times it does not matter when a pod is marked. -/
theorem untimed_marked (now : Instant) (pod : Pod) :
    (pod.marked now).untimed = pod.untimed.announced := by
  obtain ⟨version, hmarked⟩ := pod.marked_eq now
  rw [hmarked, show pod.untimed.announced = withVersion none pod.clockless.announced from rfl,
    ← pod.clockless_setCondition now]
  rfl

theorem clockless_marked (now now' : Instant) (pod : Pod) :
    (pod.marked now).clockless = (pod.marked now').clockless := by
  have hset : (pod.setCondition (.evictionAnticipated now)).1.clockless
      = (pod.setCondition (.evictionAnticipated now')).1.clockless := by
    rw [clockless_setCondition, clockless_setCondition]
  unfold marked
  rw [pod.changed_evictionAnticipated now now']
  split
  · exact congrArg (withVersion (some (Store.nextVersion (versionOf pod)))) hset
  · rfl

theorem announced_announced (pod : Pod) : pod.announced.announced = pod.announced := by
  unfold announced
  rw [setCondition_fst, setCondition_fst]
  dsimp only [conditions, Option.getD_some]
  rw [PodCondition.set_set]

end Pod

namespace Autoscaler

/-- An autoscaler without the time of its last eviction. -/
def clockless (a : Autoscaler) : Autoscaler :=
  { a with spec :=
    { a.spec with lastEviction := { a.spec.lastEviction with evictionTime := none } } }

theorem placeOf_clockless (a : Autoscaler) : placeOf a.clockless = placeOf a := rfl

theorem versionOf_clockless (a : Autoscaler) : versionOf a.clockless = versionOf a := rfl

/-- Without the times it does not matter when an eviction is noted. -/
theorem clockless_noting (pod : Pod) (now now' : Instant) (a : Autoscaler) :
    (a.noting pod now).clockless = (a.clockless.noting pod now').clockless := rfl

/-- An autoscaler without its version and the time of its last eviction. -/
def untimed (a : Autoscaler) : Autoscaler :=
  withVersion none { a with spec :=
    { a.spec with lastEviction := { a.spec.lastEviction with evictionTime := none } } }

/-- What a pass never changes of an autoscaler. -/
def core (a : Autoscaler) : Autoscaler :=
  withVersion none { a with spec := { a.spec with lastEviction := {} } }

theorem core_noting (version : Option String) (pod : Pod) (now : Instant) (a : Autoscaler) :
    (withVersion version (a.noting pod now)).core = a.core := rfl

/-- Without version and time, a recorded eviction is the name of the pod. -/
theorem untimed_recording (writes : Nat) (pod : Pod) (now : Instant) (a : Autoscaler) :
    (a.recording writes pod now).untimed
      = { a.core with spec := { a.core.spec with lastEviction := { podName := pod.name } } } :=
  rfl

end Autoscaler

end CordonWatch
