import CordonWatch.Proofs.Pass.View
import CordonWatch.Proofs.Store.Dialogue

/-!
# What a pass writes

The calls that a pass makes for a pod carry the times of the clock, and nothing
else in them depends on when they are made. `Memory.wrote` are the writes among the
calls so far, in order and without those times.

What handling a pod writes is a function of the pod, of its autoscaler and of how
often the pass has written that autoscaler before (`wrote_handlePod`).
-/

namespace CordonWatch.Store.Memory

/-- The writes among the calls so far, in order and without the times. -/
def wrote (m : Memory) : List Call :=
  (m.calls.filter fun call => call.target?.isSome).map View.timeless.call

/-- What marking a pod writes. Whether it writes does not depend on the time. -/
def marking (pod : Pod) : List Call :=
  if (pod.setCondition (.evictionAnticipated ⟨0, 0⟩)).2 then
    [.updatePodStatus pod.clockless.announced]
  else []

/-- What recording the eviction of a pod writes, where the pass has written the
autoscaler so many times. -/
def recording (writes : Nat) (pod : Pod) (a : Autoscaler) : Call :=
  .updateAutoscaler
    (withVersion (versionAfter writes (versionOf a)) (a.noting pod ⟨0, 0⟩)).clockless

variable {clock : Memory → Instant} {lags : Memory → Bool} {m m' : Memory}

/-- Where calls were made that write nothing, nothing is added to the writes. -/
theorem wrote_of_writes (hcalls : m.calls <+: m'.calls) (hwrites : m'.writes = m.writes) :
    m'.wrote = m.wrote := by
  obtain ⟨calls, hcalls⟩ := hcalls
  unfold Memory.writes at hwrites
  rw [← hcalls, List.filterMap_append] at hwrites
  have hnone : calls.filterMap Call.target? = [] :=
    List.append_cancel_left (hwrites.trans (List.append_nil _).symm)
  have hreads : calls.filter (fun call => call.target?.isSome) = [] := by
    refine List.filter_eq_nil_iff.mpr fun call hcall => ?_
    rw [List.filterMap_eq_nil_iff.mp hnone call hcall]
    exact Bool.false_ne_true
  unfold Memory.wrote
  rw [← hcalls, List.filter_append, hreads, List.append_nil]

theorem Untouched.wrote (h : Untouched m m') : m'.wrote = m.wrote :=
  wrote_of_writes h.calls h.writes

/-- A run adds the writes of its dialogue. -/
theorem wrote_run {α : Type} (p : Attempt α) (m : Memory) :
    (p.run (handlerUnder clock lags) m).2.wrote = m.wrote ++
      (((p.dialogue (handlerUnder clock lags) m).map (·.1)).filter
        fun call => call.target?.isSome).map View.timeless.call := by
  obtain ⟨-, -, -, hcalls⟩ := @run_eq _ clock lags p m
  unfold wrote
  rw [hcalls, List.filter_append, List.map_append]

theorem calls_markPod (ns : String) (pod : Pod) (m : Memory) :
    ((Pass.markPod ns pod).dialogue (handlerUnder clock lags) m).map (·.1)
      = if (pod.setCondition (.evictionAnticipated (clock m))).2 then
          [.updatePodStatus (pod.setCondition (.evictionAnticipated (clock m))).1]
        else [] := by
  unfold Pass.markPod
  rw [Program.dialogue, show (handlerUnder clock lags).clock m = clock m from rfl]
  dsimp only
  split
  · rw [Program.dialogue, List.map_cons]
    cases ((handlerUnder clock lags).answer (.updatePodStatus
      (pod.setCondition (.evictionAnticipated (clock m))).1) m).1 with
    | error e => rfl
    | ok result => rfl
  · rfl

/-- An eviction is recorded by noting it on what the pass last wrote of the autoscaler. -/
theorem recordEviction_eq (ns : String) (pod : Pod) (policy : Autoscaler)
    (written : Pass.Written) :
    Pass.recordEviction ns pod policy written = .readClock fun now =>
      .ask (.updateAutoscaler
          (((written.find? ⟨ns, policy.name⟩).getD policy).noting pod now)) fun
        | .error e =>
          .log
            (.error ("Unable to update EvictionAutoScaler: " ++ e.message)
              [("namespace", ns), ("name", policy.name)])
            (.done (.error e))
        | .ok stored => .done (.ok (written.insert ⟨ns, policy.name⟩ stored)) := by
  unfold Pass.recordEviction
  refine congrArg Program.readClock (funext fun now => ?_)
  refine congrArg (Program.ask _) (funext fun answer => ?_)
  cases answer with
  | error e => rfl
  | ok stored => rfl

theorem calls_recordEviction (ns : String) (pod : Pod) (policy : Autoscaler)
    (written : Pass.Written) (m : Memory) :
    ((Pass.recordEviction ns pod policy written).dialogue (handlerUnder clock lags) m).map (·.1)
      = [.updateAutoscaler
          (((written.find? ⟨ns, policy.name⟩).getD policy).noting pod (clock m))] := by
  rw [recordEviction_eq, Program.dialogue, Program.dialogue, List.map_cons,
    show (handlerUnder clock lags).clock m = clock m from rfl]
  cases ((handlerUnder clock lags).answer (.updateAutoscaler
      (((written.find? ⟨ns, policy.name⟩).getD policy).noting pod (clock m))) m).1 with
  | error e => rfl
  | ok stored => rfl

theorem wrote_markPod (ns : String) (pod : Pod) (m : Memory) :
    ((Pass.markPod ns pod).run (handlerUnder clock lags) m).2.wrote = m.wrote ++ marking pod := by
  rw [wrote_run, calls_markPod, marking, pod.changed_evictionAnticipated (clock m) ⟨0, 0⟩,
    ← pod.clockless_setCondition (clock m)]
  split
  · rfl
  · rfl

theorem wrote_recordEviction (ns : String) (pod : Pod) (policy : Autoscaler)
    (written : Pass.Written) (m : Memory) :
    ((Pass.recordEviction ns pod policy written).run (handlerUnder clock lags) m).2.wrote
      = m.wrote ++ [.updateAutoscaler
          (((written.find? ⟨ns, policy.name⟩).getD policy).noting pod ⟨0, 0⟩).clockless] := by
  rw [wrote_run, calls_recordEviction]
  rfl

/-- A pod that is as the server has it is marked, and its eviction noted. -/
theorem wrote_handlePod (node : String) {pod : Pod} (policy : Autoscaler)
    (written : Pass.Written) (h : m.faults = [])
    (hpod : Shelf.at? (placeOf pod) m.pods = some pod) :
    ((Pass.handlePod node pod policy written).run (handlerUnder clock lags) m).2.wrote
      = m.wrote ++ (marking pod ++ [.updateAutoscaler
          (((written.find? ⟨pod.nsOrDefault, policy.name⟩).getD policy).noting
            pod ⟨0, 0⟩).clockless]) := by
  unfold Pass.handlePod
  dsimp only [Program.log]
  rw [Program.run_note, Program.run_note, Program.run_bind]
  generalize hm₁ : (handlerUnder clock lags).record _ ((handlerUnder clock lags).record _ m) = m₁
  have hnotes : Untouched m m₁ :=
    hm₁ ▸ (Untouched.of_record _ m).trans (Untouched.of_record _ _)
  have hmarking := @wrote_markPod clock lags pod.nsOrDefault pod m₁
  obtain ⟨m₂, hmark, -⟩ := run_markPod clock lags pod.nsOrDefault
    (hnotes.faults.trans h) (hnotes.pods ▸ hpod)
  rw [hmark] at hmarking ⊢
  dsimp only at hmarking ⊢
  rw [wrote_recordEviction, hmarking, hnotes.wrote, List.append_assoc]

end CordonWatch.Store.Memory
