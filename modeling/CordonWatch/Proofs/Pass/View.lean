import CordonWatch.Proofs.Object.Untimed
import CordonWatch.Store.Memory

/-!
# What passes are compared by

Two passes that run at different times leave objects with different times in them,
and are compared without those (`View.timeless`). Passes that read the same times
can be compared in everything (`View.exact`). A `View` is either of these, with what
a comparison needs of it: that an object is seen with its place and its version, and
that of what a pass makes of objects the same is seen if it is seen of the objects.
-/

namespace CordonWatch.Store

/-- What is looked at of an object, and which times are taken for the same. -/
structure View where
  pod : Pod → Pod
  autoscaler : Autoscaler → Autoscaler
  sameTime : Instant → Instant → Prop
  placeOf_pod : ∀ p, placeOf (pod p) = placeOf p
  versionOf_pod : ∀ p, versionOf (pod p) = versionOf p
  pod_marked : ∀ (p : Pod) {t t'}, sameTime t t' → pod (p.setCondition (.evictionAnticipated t')).1
    = pod (p.setCondition (.evictionAnticipated t)).1
  pod_stored : ∀ {p p' stored stored' : Pod} version, pod p' = pod p → pod stored' = pod stored →
    pod (withVersion version { stored' with status := p'.status })
      = pod (withVersion version { stored with status := p.status })
  placeOf_autoscaler : ∀ a, placeOf (autoscaler a) = placeOf a
  versionOf_autoscaler : ∀ a, versionOf (autoscaler a) = versionOf a
  autoscaler_noting : ∀ {a a' : Autoscaler} pod {t t'}, autoscaler a' = autoscaler a →
    sameTime t t' → autoscaler (a'.noting pod t') = autoscaler (a.noting pod t)
  autoscaler_stored : ∀ {a a'} version, autoscaler a' = autoscaler a →
    autoscaler (withVersion version a') = autoscaler (withVersion version a)

namespace View

/-- Everything is looked at. -/
def exact : View where
  pod := id
  autoscaler := id
  sameTime t t' := t' = t
  placeOf_pod _ := rfl
  versionOf_pod _ := rfl
  pod_marked := by
    rintro p t _ rfl
    rfl
  pod_stored := by
    rintro p _ stored _ version rfl rfl
    rfl
  placeOf_autoscaler _ := rfl
  versionOf_autoscaler _ := rfl
  autoscaler_noting := by
    rintro a _ pod t _ rfl rfl
    rfl
  autoscaler_stored := by
    rintro a _ version rfl
    rfl

/-- All but the times that are taken from the clock is looked at. -/
def timeless : View where
  pod := Pod.clockless
  autoscaler := Autoscaler.clockless
  sameTime _ _ := True
  placeOf_pod := Pod.placeOf_clockless
  versionOf_pod := Pod.versionOf_clockless
  pod_marked p t t' _ := by rw [Pod.clockless_setCondition, Pod.clockless_setCondition]
  pod_stored {p p' stored stored'} version hp hstored := by
    show withVersion version { stored'.clockless with status := p'.clockless.status } = _
    rw [hp, hstored]
    rfl
  placeOf_autoscaler := Autoscaler.placeOf_clockless
  versionOf_autoscaler := Autoscaler.versionOf_clockless
  autoscaler_noting {a a'} pod t t' ha _ := by
    rw [Autoscaler.clockless_noting pod t' t, ha, ← Autoscaler.clockless_noting]
  autoscaler_stored version ha := congrArg (withVersion version) ha

variable (view : View)

theorem placeOf_eq_of_pod {p p' : Pod} (h : view.pod p' = view.pod p) :
    placeOf p' = placeOf p := by
  rw [← view.placeOf_pod, h, view.placeOf_pod]

theorem versionOf_eq_of_pod {p p' : Pod} (h : view.pod p' = view.pod p) :
    versionOf p' = versionOf p := by
  rw [← view.versionOf_pod, h, view.versionOf_pod]

theorem placeOf_eq_of_autoscaler {a a' : Autoscaler} (h : view.autoscaler a' = view.autoscaler a) :
    placeOf a' = placeOf a := by
  rw [← view.placeOf_autoscaler, h, view.placeOf_autoscaler]

theorem versionOf_eq_of_autoscaler {a a' : Autoscaler}
    (h : view.autoscaler a' = view.autoscaler a) : versionOf a' = versionOf a := by
  rw [← view.versionOf_autoscaler, h, view.versionOf_autoscaler]

/-- What is seen of a call. -/
def call : Call → Call
  | .updatePodStatus p => .updatePodStatus (view.pod p)
  | .updateAutoscaler a => .updateAutoscaler (view.autoscaler a)
  | call => call

theorem kind_call (call : Call) : (view.call call).kind = call.kind := by
  cases call <;> rfl

theorem call_exact : exact.call = id :=
  funext fun call => by cases call <;> rfl

/-- The clocks of two passes read the same times where the same calls were made. -/
def SameClock (clock clock' : Memory → Instant) : Prop :=
  ∀ m s : Memory, s.now = m.now → s.calls.map view.call = m.calls.map view.call →
    view.sameTime (clock m) (clock' s)

theorem sameClock_exact {clock clock' : Memory → Instant}
    (h : ∀ m s : Memory, s.now = m.now → s.calls = m.calls → clock' s = clock m) :
    exact.SameClock clock clock' := by
  intro m s hnow hcalls
  rw [call_exact, List.map_id, List.map_id] at hcalls
  exact h m s hnow hcalls

theorem sameClock_timeless (clock clock' : Memory → Instant) : timeless.SameClock clock clock' :=
  fun _ _ _ _ => trivial

end View

end CordonWatch.Store
