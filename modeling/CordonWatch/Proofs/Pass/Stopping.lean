import CordonWatch.Proofs.Pass.Progress
import CordonWatch.Proofs.Watch.PodIndex

/-!
# How a failing pass stops

A pass fails fast: it ends with the failure of the first call that fails, and
makes no call after that one. Up to there it is the pass that would have run
without faults. What it leaves behind is a clean cut: the pods before the one
that it stopped at are handled, that one is marked at most, and the pods after
it are as they were (`run_overNode_stops`).

Nothing is assumed of the caches but that they were filled by some watch. A
copy in the index that shows the announcement already is not written, whatever
the server has, so being handled does not mean that the server shows the
announcement (`stale_not_announced`).
-/

namespace CordonWatch

namespace Pass

open Store (FailsFast)

/-- The calls with which the autoscaler of a pod in a namespace is looked for. -/
def ReadsFor (ns : String) : Store.Call → Prop
  | .listAutoscalers ns' | .getBudget ns' _ => ns' = ns
  | .getNode _ | .podsOnNode _ | .updatePodStatus _ | .updateAutoscaler _ => False

theorem ReadsFor.target? {ns : String} {call : Store.Call} (h : ReadsFor ns call) :
    call.target? = none := by
  cases call with
  | listAutoscalers | getBudget | getNode | podsOnNode => rfl
  | updatePodStatus | updateAutoscaler => exact h.elim

theorem failsFast_firstGoverning (ns : String) (labels : Table String String)
    (l : List Autoscaler) : FailsFast (ReadsFor ns) (firstGoverning ns labels l) := by
  induction l with
  | nil => exact ⟨none, rfl⟩
  | cons candidate rest ih =>
    refine ⟨rfl, fun e => rfl, fun found => ?_⟩
    cases found with
    | none => exact ih
    | some budget =>
      dsimp only
      split
      · exact ih
      · split
        · exact ⟨some candidate, rfl⟩
        · exact ih

theorem failsFast_findPolicy (order : PolicyOrder) (pod : Pod) :
    FailsFast (ReadsFor pod.nsOrDefault) (findPolicy order pod) := by
  refine ⟨rfl, fun e => rfl, fun autoscalers => ?_⟩
  refine (failsFast_firstGoverning _ _ _).bind (fun e => rfl) fun found => ?_
  cases found with
  | none => exact ⟨none, rfl⟩
  | some a => exact ⟨some a, rfl⟩

theorem failsFast_markPod (ns : String) (pod : Pod) :
    FailsFast (fun _ => True) (markPod ns pod) := by
  intro now
  dsimp only
  split
  · exact ⟨trivial, fun e => rfl, fun _ => ⟨(), rfl⟩⟩
  · exact ⟨(), rfl⟩

theorem failsFast_recordEviction (ns : String) (pod : Pod) (policy : Autoscaler)
    (written : Written) : FailsFast (fun _ => True) (recordEviction ns pod policy written) :=
  fun _ => ⟨trivial, fun _ => rfl, fun _ => ⟨_, rfl⟩⟩

theorem failsFast_handlePod (node : String) (pod : Pod) (policy : Autoscaler) (written : Written) :
    FailsFast (fun _ => True) (handlePod node pod policy written) :=
  FailsFast.bind (failsFast_markPod _ pod) (fun _ => rfl) fun _ =>
    failsFast_recordEviction _ pod policy written

theorem failsFast_handlePods (order : PolicyOrder) (node : String) (pods : List Pod) :
    ∀ written changed, FailsFast (fun _ => True) (handlePods order node pods written changed) := by
  induction pods with
  | nil => exact fun _ changed => ⟨changed, rfl⟩
  | cons pod rest ih =>
    intro written changed
    refine ((failsFast_findPolicy order pod).imp fun _ _ => trivial).bind (fun _ => rfl) ?_
    intro found
    cases found with
    | none => exact ih written changed
    | some policy =>
      exact (failsFast_handlePod node pod policy written).bind (fun _ => rfl) fun written' =>
        ih written' true

theorem failsFast_overNode (config : Config) (name : String) :
    FailsFast (fun _ => True) (overNode config name) := by
  refine ⟨trivial, fun e => rfl, fun found => ?_⟩
  cases found with
  | none => exact ⟨.done, rfl⟩
  | some node =>
    dsimp only
    split
    · exact ⟨.done, rfl⟩
    · refine ⟨trivial, fun e => rfl, fun pods => ?_⟩
      refine (failsFast_handlePods config.order name pods Table.empty false).bind (fun _ => rfl) ?_
      intro changed
      dsimp only
      split
      · exact ⟨_, rfl⟩
      · exact ⟨_, rfl⟩

end Pass

namespace Store.Memory

variable {clock : Memory → Instant} {lags : Memory → Bool} {m s s' : Memory}
  {pod : Pod} {handled : List (Pod × Autoscaler)} {written : Pass.Written} {e : Failure}

/-! ### The search for an autoscaler -/

theorem selected_congr (order : PolicyOrder) (pod : Pod) (hcached : s'.cached = s.cached)
    (hbudgets : s'.budgets = s.budgets) : s'.selected order pod = s.selected order pod := by
  unfold selected candidates
  rw [hcached, hbudgets]

/-- A search that fails was stopped by one of its reads. -/
theorem run_findPolicy_error (hclock : Unaware clock) (hlags : Unaware lags) (order : PolicyOrder)
    (pod : Pod)
    (h : (Pass.findPolicy order pod).run (handlerUnder clock lags) s = (.error e, s')) :
    ∃ call, Pass.ReadsFor pod.nsOrDefault call ∧ StoppedBy call s s' := by
  rcases (Pass.failsFast_findPolicy order pod).cases (failsMore_faultless hclock hlags)
      (rfl : s.faultless = s.faultless) with ⟨a, hok, _⟩ | ⟨e, said, call, hfails, hcall, hsaid⟩
  · rw [h] at hok
    cases hok
  · have hreads : ∀ x ∈ said ++ ([⟨call, .error e⟩] : List Exchange), x.1.target? = none :=
      List.forall_mem_append.mpr ⟨fun x hx => (hsaid x hx).target?,
        List.forall_mem_singleton.mpr hcall.target?⟩
    have hrun := @run_eq _ clock lags (Pass.findPolicy order pod) s
    rw [hfails.dialogue, Contents.foldl_after_of_reads _ hreads, h] at hrun
    obtain ⟨hcontents, hnodes, hbudgets, hcalls⟩ := hrun
    refine ⟨call, hcall, ⟨hnodes, hbudgets, congrArg Contents.pods hcontents,
      congrArg Contents.autoscalers hcontents, ?_⟩, ?_, ?_⟩
    · exact hcalls ▸ List.prefix_append _ _
    · rw [hcalls, List.map_append, List.map_singleton, ← List.append_assoc, List.getLast?_concat]
    · have hnone : ((said ++ ([⟨call, .error e⟩] : List Exchange)).map (·.1)).filterMap
          Call.target? = [] := by
        rw [List.filterMap_eq_nil_iff]
        exact List.forall_mem_map.mpr hreads
      rw [writes, hcalls, List.filterMap_append, hnone, hcall.target?]
      rfl

/-! ### The pod at which a pass stops -/

/-- The call is made for a pod: to find its autoscaler, to mark it, or to record
its eviction on the autoscaler that is selected for it. -/
def Concerns (m : Memory) (order : PolicyOrder) (pod : Pod) : Call → Prop
  | .getNode _ | .podsOnNode _ => False
  | .listAutoscalers ns | .getBudget ns _ => ns = pod.nsOrDefault
  | .updatePodStatus p => placeOf p = placeOf pod
  | .updateAutoscaler a => (m.selected order pod).map placeOf = some (placeOf a)

/-- The pod that has been marked and not recorded yet when a call is made for it:
none, but for the call that is to record it. -/
def markedBy (pod : Pod) : Call → List Pod
  | .updateAutoscaler _ => [pod]
  | .getNode _ | .podsOnNode _ | .listAutoscalers _ | .getBudget _ _ | .updatePodStatus _ => []

theorem markedBy_subset {p : Pod} {call : Call} (h : p ∈ markedBy pod call) : p ∈ [pod] := by
  cases call with
  | updateAutoscaler => exact h
  | getNode | podsOnNode | listAutoscalers | getBudget | updatePodStatus =>
    exact absurd h List.not_mem_nil

theorem mem_governed {order : PolicyOrder} {pods : List Pod} {g : Pod × Autoscaler} :
    g ∈ m.faultless.governed order pods ↔ g.1 ∈ pods ∧ m.selected order g.1 = some g.2 := by
  have hgovernor : ∀ p, m.faultless.governor order p = m.selected order p :=
    fun p => governor_eq_selected rfl order p
  unfold governed
  rw [List.mem_filterMap]
  constructor
  · rintro ⟨p, hp, hg⟩
    obtain ⟨a, ha, rfl⟩ := Option.map_eq_some_iff.mp hg
    exact ⟨hp, (hgovernor p).symm.trans ha⟩
  · rintro ⟨hp, ha⟩
    exact ⟨g.1, hp, Option.map_eq_some_iff.mpr ⟨g.2, (hgovernor g.1).trans ha, rfl⟩⟩

/-- What a pass has done that stopped at a pod, in a call for it, after it had
handled some pods, each with its autoscaler. -/
structure Halted (clock : Memory → Instant) (order : PolicyOrder)
    (handled : List (Pod × Autoscaler)) (pod : Pod) (call : Call) (m s : Memory) : Prop where
  concerns : m.Concerns order pod call
  progress : Progress clock (handled.map (·.1) ++ markedBy pod call) handled m s
  writes : ∀ t, s.writes = m.writes
    ++ (handled.flatMap fun g => markingWrites t g.1 ++ [(.autoscaler, placeOf g.2)])
    ++ (markedBy pod call).flatMap (markingWrites t) ++ call.target?.toList

theorem Halted.of_stopped {order : PolicyOrder} {marking : List Pod} {call : Call}
    (h : Advance clock handled marking written m s) (hcall : m.Concerns order pod call)
    (hmarking : markedBy pod call = marking) (hs : StoppedBy call s s') :
    Halted clock order handled pod call m s' where
  concerns := hcall
  progress := hmarking ▸ h.toProgress.idle hs.toIdle
  writes := fun t => by rw [hs.writes, h.writes t, hmarking]

/-- Handling a pod is marking it and then recording its eviction. -/
theorem run_handlePod_cases (node : String) (pod : Pod) (policy : Autoscaler)
    (written : Pass.Written) (s : Memory) :
    ∃ s₁ s₂, Untouched s.faultless s₁.faultless ∧
      ((∃ e, (Pass.markPod pod.nsOrDefault pod).run (handlerUnder clock lags) s₁ = (.error e, s₂) ∧
        (Pass.handlePod node pod policy written).run (handlerUnder clock lags) s = (.error e, s₂)) ∨
      (Pass.markPod pod.nsOrDefault pod).run (handlerUnder clock lags) s₁ = (.ok (), s₂) ∧
        (Pass.handlePod node pod policy written).run (handlerUnder clock lags) s
          = (Pass.recordEviction pod.nsOrDefault pod policy written).run
              (handlerUnder clock lags) s₂) := by
  unfold Pass.handlePod
  dsimp only [Program.log]
  rw [Program.run_note, Program.run_note, Program.run_bind]
  generalize hs₁ : (handlerUnder clock lags).record _ ((handlerUnder clock lags).record _ s) = s₁
  have hnotes : Untouched s.faultless s₁.faultless :=
    hs₁ ▸ (untouched_record clock lags _ s).trans (untouched_record clock lags _ _)
  cases hmark : (Pass.markPod pod.nsOrDefault pod).run (handlerUnder clock lags) s₁ with
  | mk result s₂ =>
    refine ⟨s₁, s₂, hnotes, ?_⟩
    cases result with
    | error e => exact Or.inl ⟨e, hmark, rfl⟩
    | ok => exact Or.inr ⟨hmark, rfl⟩

section

variable {order : PolicyOrder} {policy a : Autoscaler}

/-- What the pass writes next is built on a copy of the autoscaler. -/
theorem Advance.copied {marking : List Pod} (h : Advance clock handled marking written m s)
    (hpolicy : policy ∈ s.cached) {ns : String} (hplace : placeOf policy = ⟨some ns, policy.name⟩) :
    placeOf ((written.find? ⟨ns, policy.name⟩).getD policy) = placeOf policy ∧
      m.Copied ((written.find? ⟨ns, policy.name⟩).getD policy) := by
  cases hfound : written.find? ⟨ns, policy.name⟩ with
  | none => exact ⟨rfl, h.cachedCopies policy hpolicy⟩
  | some stored =>
    obtain ⟨hstored, hcopied⟩ := h.writtenCopies _ _ _ hfound
    exact ⟨hstored.trans hplace.symm, hcopied⟩

/-- A search that succeeds changes no object, and finds what it would have found in
the beginning. -/
theorem Advance.findPolicy_ok (h : Advance clock handled [] written m s)
    {found : Option Autoscaler}
    (hrun : (Pass.findPolicy order pod).run (handlerUnder clock lags) s = (.ok found, s')) :
    Advance clock handled [] written m s' ∧ s'.selected order pod = found ∧
      (m.selected order pod).map placeOf = found.map placeOf := by
  obtain ⟨hfound, huntouched⟩ := run_findPolicy_ok clock lags hrun
  refine ⟨h.untouched huntouched, ?_, ?_⟩
  · exact (selected_congr order pod huntouched.cached huntouched.budgets).trans hfound.symm
  · rw [hfound]
    exact (placeOf_selected_congr order pod h.cachedPlaces h.budgets).symm

/-- A search that fails leaves the pod as it was. -/
theorem Advance.findPolicy_error (h : Advance clock handled [] written m s) (hclock : Unaware clock)
    (hlags : Unaware lags)
    (hrun : (Pass.findPolicy order pod).run (handlerUnder clock lags) s = (.error e, s')) :
    ∃ call, s'.calls.getLast? = some call ∧ Halted clock order handled pod call m s' := by
  obtain ⟨call, hreads, hstopped⟩ := run_findPolicy_error hclock hlags order pod hrun
  refine ⟨call, hstopped.last, .of_stopped h ?_ ?_ hstopped⟩
  · cases call with
    | listAutoscalers | getBudget => exact hreads
    | getNode | podsOnNode | updatePodStatus | updateAutoscaler => exact hreads.elim
  · cases call with
    | updateAutoscaler => exact hreads.elim
    | getNode | podsOnNode | listAutoscalers | getBudget | updatePodStatus => rfl

/-- A pod that is handled without a failure is one more of those that are handled. -/
theorem Advance.handlePod_ok {written' : Pass.Written} {node : String}
    (h : Advance clock handled [] written m s) (hnew : ∀ g ∈ handled, placeOf g.1 ≠ placeOf pod)
    (hpolicy : s.selected order pod = some policy) (ha : placeOf a = placeOf policy)
    (hrun : (Pass.handlePod node pod policy written).run (handlerUnder clock lags) s
      = (.ok written', s')) :
    Advance clock (handled ++ [(pod, a)]) [] written' m s' := by
  obtain ⟨hcached, hplace⟩ := mem_cached_of_selected hpolicy
  obtain ⟨s₁, s₂, huntouched, ⟨e, _, herror⟩ | ⟨hmark, hrecord⟩⟩ :=
    run_handlePod_cases node pod policy written s
  · rw [hrun] at herror
    cases herror
  · rw [hrun] at hrecord
    have hmarked := (h.untouched huntouched).mark hnew (run_markPod_ok _ pod hmark) rfl
    obtain ⟨hlatestPlace, hcopied⟩ := h.copied hcached hplace
    obtain ⟨stored, version, hstored, rfl, hat, hrecorded⟩ :=
      run_recordEviction_ok rfl hrecord.symm
    exact hmarked.record (ha.trans hplace) (hlatestPlace.trans ha.symm) hcopied hstored hat
      hrecorded

/-- A failure to handle a pod leaves it marked at most. -/
theorem Advance.handlePod_error {node : String} (h : Advance clock handled [] written m s)
    (hnew : ∀ g ∈ handled, placeOf g.1 ≠ placeOf pod)
    (hpolicy : s.selected order pod = some policy) (ha : m.selected order pod = some a)
    (hsame : placeOf a = placeOf policy)
    (hrun : (Pass.handlePod node pod policy written).run (handlerUnder clock lags) s
      = (.error e, s')) :
    ∃ call, s'.calls.getLast? = some call ∧ Halted clock order handled pod call m s' := by
  obtain ⟨hcached, hplace⟩ := mem_cached_of_selected hpolicy
  obtain ⟨s₁, s₂, huntouched, ⟨e', hmark, herror⟩ | ⟨hmark, hrecord⟩⟩ :=
    run_handlePod_cases node pod policy written s
  · rw [hrun] at herror
    obtain ⟨-, rfl⟩ := Prod.mk.inj herror
    obtain ⟨announced, hannounced, hstopped⟩ := run_markPod_error _ pod hmark
    exact ⟨_, hstopped.last, .of_stopped (h.untouched huntouched) hannounced rfl hstopped⟩
  · rw [hrun] at hrecord
    have hmarked := (h.untouched huntouched).mark hnew (run_markPod_ok _ pod hmark) rfl
    obtain ⟨hlatestPlace, _⟩ := h.copied hcached hplace
    obtain ⟨recorded, hrecorded, hstopped⟩ := run_recordEviction_error rfl hrecord.symm
    refine ⟨_, hstopped.last, .of_stopped hmarked ?_ rfl hstopped⟩
    show (m.selected order pod).map placeOf = some (placeOf recorded)
    rw [ha, hrecorded, hlatestPlace, ← hsame]
    rfl

end

/-- A failure while pods are handled one after the other leaves those before the
one that it stopped at handled, as far as they are governed. -/
theorem run_handlePods_error (hclock : Unaware clock) (hlags : Unaware lags) (order : PolicyOrder)
    (node : String) (pods : List Pod) :
    ∀ {handled : List (Pod × Autoscaler)} {written : Pass.Written} {s : Memory} (changed : Bool),
      Advance clock handled [] written m s →
      (handled.map (placeOf ·.1) ++ pods.map placeOf).Nodup →
      (Pass.handlePods order node pods written changed).run (handlerUnder clock lags) s
        = (.error e, s') →
      ∃ before pod rest call, pods = before ++ pod :: rest ∧ s'.calls.getLast? = some call ∧
        Halted clock order (handled ++ m.faultless.governed order before) pod call m s' := by
  induction pods with
  | nil =>
    intro handled written s changed _ _ hrun
    cases hrun
  | cons pod rest ih =>
    intro handled written s changed h hnodup hrun
    have hnew : ∀ g ∈ handled, placeOf g.1 ≠ placeOf pod := by
      intro g hg
      exact (List.nodup_append.mp hnodup).2.2 _ (List.mem_map_of_mem hg) _ (List.mem_cons_self ..)
    have hgovernor : m.faultless.governor order pod = m.selected order pod :=
      governor_eq_selected rfl order pod
    -- The pass may stop at this pod, with those handled that were before.
    have hhere :
        (∃ call, s'.calls.getLast? = some call ∧ Halted clock order handled pod call m s') →
        ∃ before pod' rest' call, pod :: rest = before ++ pod' :: rest' ∧
          s'.calls.getLast? = some call ∧
          Halted clock order (handled ++ m.faultless.governed order before) pod' call m s' := by
      rintro ⟨call, hlast, hhalted⟩
      refine ⟨[], pod, rest, call, rfl, hlast, ?_⟩
      rw [show m.faultless.governed order [] = [] from rfl, List.append_nil]
      exact hhalted
    rw [Pass.handlePods, Program.run_bind] at hrun
    cases hsearch : (Pass.findPolicy order pod).run (handlerUnder clock lags) s with
    | mk result s₁ =>
      rw [hsearch] at hrun
      cases result with
      | error e' =>
        obtain ⟨-, rfl⟩ := Prod.mk.inj hrun
        exact hhere (h.findPolicy_error hclock hlags hsearch)
      | ok found =>
        obtain ⟨hsearched, hselected, hplaces⟩ := h.findPolicy_ok hsearch
        cases found with
        | none =>
          have hnone : m.selected order pod = none := Option.map_eq_none_iff.mp hplaces
          obtain ⟨before, pod', rest', call, hpods, hlast, hhalted⟩ := ih changed hsearched
            (hnodup.sublist (List.Sublist.append_left (List.sublist_cons_self ..) _)) hrun
          refine ⟨pod :: before, pod', rest', call, by rw [hpods]; rfl, hlast, ?_⟩
          rw [governed_cons_of_none (hgovernor.trans hnone)]
          exact hhalted
        | some policy =>
          obtain ⟨a, ha, hsame⟩ := Option.map_eq_some_iff.mp hplaces
          dsimp only at hrun
          rw [Program.run_bind] at hrun
          cases hhandle : (Pass.handlePod node pod policy written).run (handlerUnder clock lags) s₁
            with
          | mk result' s₂ =>
            rw [hhandle] at hrun
            cases result' with
            | error e' =>
              obtain ⟨-, rfl⟩ := Prod.mk.inj hrun
              exact hhere (hsearched.handlePod_error hnew hselected ha hsame hhandle)
            | ok written' =>
              have hnext := hsearched.handlePod_ok hnew hselected hsame hhandle
              obtain ⟨before, pod', rest', call, hpods, hlast, hhalted⟩ := ih true hnext (by
                simpa only [List.map_append, List.map_cons, List.map_nil, List.append_assoc,
                  List.singleton_append] using hnodup) hrun
              refine ⟨pod :: before, pod', rest', call, by rw [hpods]; rfl, hlast, ?_⟩
              rw [governed_cons_of_some (hgovernor.trans ha), List.append_cons]
              exact hhalted

/-! ### The whole pass -/

/-- The node of that name is there, and cordoned. -/
def Cordoned (m : Memory) (name : String) : Prop :=
  ∃ node, m.nodes.find? (·.name = name) = some node ∧ node.isCordoned = true

theorem due_of_cordoned {order : PolicyOrder} {name : String} (h : m.Cordoned name) :
    m.due order name = m.governed order (m.index.podsOn name) := by
  obtain ⟨node, hnode, hcordoned⟩ := h
  unfold due
  rw [hnode]
  exact if_pos hcordoned

theorem due_of_not_cordoned {order : PolicyOrder} {name : String} (h : ¬ m.Cordoned name) :
    m.due order name = [] := by
  unfold due
  split
  · rfl
  next node hnode => exact if_neg fun hcordoned => h ⟨node, hnode, hcordoned⟩

/-- What comes of a pass when its pods have been handled. -/
def conclude (config : Pass.Config) (result : Except Failure Bool) : Except Failure Pass.Outcome :=
  result.map fun changed =>
    if changed && !config.cooldown.isZero then .requeueAfter config.cooldown else .done

theorem StoppedBy.of_untouched {call : Call} (hs : Untouched m.faultless s.faultless)
    (h : StoppedBy call s s') : StoppedBy call m s' where
  nodes := h.nodes.trans hs.nodes
  budgets := h.budgets.trans hs.budgets
  pods := h.pods.trans hs.pods
  autoscalers := h.autoscalers.trans hs.autoscalers
  calls := List.IsPrefix.trans hs.calls h.calls
  last := h.last
  writes := h.writes.trans (congrArg (· ++ call.target?.toList) hs.writes)

/-- What a pass does when it has found its node cordoned. -/
def overPods (config : Pass.Config) (name : String) : Attempt Pass.Outcome :=
  .ask (.podsOnNode name) fun
    | .error e => .done (.error e)
    | .ok pods =>
      (Pass.handlePods config.order name pods Table.empty false).bind fun
        | .error e => .done (.error e)
        | .ok changed =>
          if changed && !config.cooldown.isZero then
            .done (.ok (.requeueAfter config.cooldown))
          else .done (.ok .done)

theorem overNode_eq (config : Pass.Config) (name : String) :
    Pass.overNode config name = .ask (.getNode name) fun
      | .error e => .done (.error e)
      | .ok none => .log (.debug "Node no longer exists" [("node", name)]) (.done (.ok .done))
      | .ok (some node) =>
        if !node.isCordoned then .done (.ok .done)
        else
          .note .cordonSeen <|
            .log (.info "Node is cordoned" [("node", name)]) (overPods config name) :=
  rfl

/-- It fails to read the pods of the node, or goes on to handle those that the index has. -/
theorem run_overPods_cases (clock : Memory → Instant) (lags : Memory → Bool)
    (config : Pass.Config) (name : String) (m : Memory) :
    ((∃ e, ((overPods config name).run (handlerUnder clock lags) m).1 = .error e ∧
        StoppedBy (.podsOnNode name) m
          ((overPods config name).run (handlerUnder clock lags) m).2) ∧ m.faults ≠ []) ∨
    ∃ s result s', Untouched m.faultless s.faultless ∧ (m.faults = [] → s.faults = []) ∧
      (Pass.handlePods config.order name (m.index.podsOn name) Table.empty false).run
        (handlerUnder clock lags) s = (result, s') ∧
      (overPods config name).run (handlerUnder clock lags) m = (conclude config result, s') := by
  obtain ⟨hpods, huntouched, hfaults⟩ := @answer_read clock lags (.podsOnNode name) rfl m
  rw [overPods, Program.run_ask]
  rcases hpods with ⟨⟨e, he⟩, hfaulty⟩ | hpods
  · have hstopped := StoppedBy.of_refused he
    rw [he]
    exact Or.inl ⟨⟨e, rfl, hstopped⟩, hfaulty⟩
  · rw [hpods]
    generalize ((handlerUnder clock lags).answer (.podsOnNode name) m).2 = s
      at huntouched hfaults ⊢
    simp only [perform]
    rw [Program.run_bind]
    cases hrun : (Pass.handlePods config.order name (m.index.podsOn name) Table.empty
        false).run (handlerUnder clock lags) s with
    | mk result s' =>
      refine Or.inr ⟨s, result, s', huntouched, hfaults, hrun, ?_⟩
      cases result with
      | error e => rfl
      | ok changed =>
        dsimp only [conclude, Except.map]
        split <;> rfl

/-- A pass fails in one of its first two reads, or finds that the node is not
cordoned, or goes on to handle the pods that the index has for the node. -/
theorem run_overNode_cases (clock : Memory → Instant) (lags : Memory → Bool)
    (config : Pass.Config) (name : String) (m : Memory) :
    ((∃ e call, ((Pass.overNode config name).run (handlerUnder clock lags) m).1 = .error e ∧
        (call = .getNode name ∨ call = .podsOnNode name) ∧
        StoppedBy call m ((Pass.overNode config name).run (handlerUnder clock lags) m).2) ∧
      m.faults ≠ []) ∨
    (¬ m.Cordoned name ∧
      ((Pass.overNode config name).run (handlerUnder clock lags) m).1 = .ok .done ∧
      Untouched m.faultless
        ((Pass.overNode config name).run (handlerUnder clock lags) m).2.faultless ∧
      (m.faults = [] →
        ((Pass.overNode config name).run (handlerUnder clock lags) m).2.faults = [])) ∨
    (m.Cordoned name ∧ ∃ s result s', Untouched m.faultless s.faultless ∧
      (m.faults = [] → s.faults = []) ∧
      (Pass.handlePods config.order name (m.index.podsOn name) Table.empty false).run
        (handlerUnder clock lags) s = (result, s') ∧
      (Pass.overNode config name).run (handlerUnder clock lags) m
        = (conclude config result, s')) := by
  obtain ⟨hnode, huntouched, hfaults⟩ := @answer_read clock lags (.getNode name) rfl m
  rw [overNode_eq, Program.run_ask]
  rcases hnode with ⟨⟨e, he⟩, hfaulty⟩ | hnode
  · have hstopped := StoppedBy.of_refused he
    rw [he]
    exact Or.inl ⟨⟨e, _, rfl, Or.inl rfl, hstopped⟩, hfaulty⟩
  · rw [hnode]
    generalize ((handlerUnder clock lags).answer (.getNode name) m).2 = m₁ at huntouched hfaults ⊢
    simp only [perform]
    cases hfound : m.nodes.find? (·.name = name) with
    | none =>
      refine Or.inr (Or.inl
        ⟨?_, rfl, huntouched.trans (untouched_record clock lags _ m₁), hfaults⟩)
      rintro ⟨node, hnode, _⟩
      rw [hfound] at hnode
      cases hnode
    | some node =>
      dsimp only
      cases hcordoned : node.isCordoned with
      | false =>
        refine Or.inr (Or.inl ⟨?_, rfl, huntouched, hfaults⟩)
        rintro ⟨node', hnode', hcordoned'⟩
        rw [hfound] at hnode'
        rw [← Option.some.inj hnode', hcordoned] at hcordoned'
        cases hcordoned'
      | true =>
        rw [if_neg (by decide)]
        dsimp only [Program.log]
        rw [Program.run_note, Program.run_note]
        -- Up to here the pass has only read and left notes.
        generalize hm₂ : (handlerUnder clock lags).record _
          ((handlerUnder clock lags).record _ m₁) = m₂
        have hnotes : Untouched m.faultless m₂.faultless := hm₂ ▸ huntouched.trans
          ((untouched_record clock lags _ m₁).trans (untouched_record clock lags _ _))
        have hfaults₂ : m.faults = [] → m₂.faults = [] := by
          rw [← hm₂]
          exact hfaults
        rcases run_overPods_cases clock lags config name m₂ with
          ⟨⟨e, he, hstopped⟩, hfaulty⟩ | ⟨s, result, s', hread, hend, hpods, hrun⟩
        · exact Or.inl ⟨⟨e, _, he, Or.inr rfl, hstopped.of_untouched hnotes⟩,
            fun h => hfaulty (hfaults₂ h)⟩
        · rw [show m₂.index = m.index from hnotes.index] at hpods
          exact Or.inr (Or.inr ⟨⟨node, hfound, hcordoned⟩, s, result, s', hnotes.trans hread,
            fun h => hend (hfaults₂ h), hpods, hrun⟩)

/-- The pods that an index has for a node stand at different places. -/
theorem nodup_places_podsOn (events : List (Watch.Event Pod)) (node : String) :
    (Shelf.places ((Watch.PodIndex.applyAll {} events).podsOn node)).Nodup := by
  have hascending := (Watch.PodIndex.shows_empty.applyAll events).ascending node
  exact nodup_places_of_keys (List.pairwise_map.mpr (hascending.imp fun h => KeyOrder.ne_of_lt h))

/-- The pods that a pass has begun with when it stops are governed. -/
theorem Halted.begun {order : PolicyOrder} {before : List Pod} {call : Call}
    (h : Halted clock order (m.faultless.governed order before) pod call m s) :
    ∀ p ∈ (m.faultless.governed order before).map (·.1) ++ markedBy pod call,
      p ∈ before ++ [pod] ∧ ∃ place, (m.selected order p).map placeOf = some place := by
  refine List.forall_mem_append.mpr ⟨List.forall_mem_map.mpr fun g hg => ?_, fun p hp => ?_⟩
  · obtain ⟨hpod, ha⟩ := mem_governed.mp hg
    exact ⟨List.mem_append_left _ hpod, _, congrArg (Option.map placeOf) ha⟩
  · have hpod := markedBy_subset hp
    obtain rfl := List.mem_singleton.mp hpod
    cases call with
    | updateAutoscaler a => exact ⟨List.mem_append_right _ hpod, _, h.concerns⟩
    | getNode | podsOnNode | listAutoscalers | getBudget | updatePodStatus =>
      exact absurd hp List.not_mem_nil

/-- The pods after the one that a pass stopped at are as they were. -/
theorem Halted.spared_after {order : PolicyOrder} {before rest : List Pod} {call : Call}
    (h : Halted clock order (m.faultless.governed order before) pod call m s)
    (hnodup : (Shelf.places (before ++ pod :: rest)).Nodup) :
    ∀ later ∈ rest, Shelf.at? (placeOf later) s.pods = Shelf.at? (placeOf later) m.pods := by
  intro later hlater
  rw [List.append_cons, Shelf.places, List.map_append] at hnodup
  refine h.progress.spared _ fun p hp => ?_
  exact (List.nodup_append.mp hnodup).2.2 _ (List.mem_map_of_mem (h.begun p hp).1) _
    (List.mem_map_of_mem hlater)

/-- A pass that fails ends with the failure of the first call that failed, which
is its last one; its calls begin those of the pass from the same state without
the faults. The server is left with what the calls that succeeded have stored.
If the pass stopped at a pod, those before it are handled as far as they are
governed, and those after it are as they were. -/
theorem run_overNode_stops {m' : Memory} (hclock : Unaware clock) (hlags : Unaware lags)
    {events : List (Watch.Event Pod)} (hindex : m.index = Watch.PodIndex.applyAll {} events)
    (config : Pass.Config) (name : String)
    (hrun : (Pass.overNode config name).run (handlerUnder clock lags) m = (.error e, m')) :
    ∃ said call,
      Fails (handlerUnder clock lags) (handlerUnder clock lags) (Pass.overNode config name)
        m m.faultless e said call ∧
      m'.calls = m.calls ++ said.map (·.1) ++ [call] ∧
      m'.nodes = m.nodes ∧ m'.budgets = m.budgets ∧
      m'.contents = said.foldl Contents.after m.contents ∧
      ((call = .getNode name ∨ call = .podsOnNode name) ∧ m'.contents = m.contents ∨
        ∃ before pod rest, m.index.podsOn name = before ++ pod :: rest ∧
          Halted clock config.order (m.faultless.governed config.order before) pod call m m' ∧
          ∀ later ∈ rest,
            Shelf.at? (placeOf later) m'.pods = Shelf.at? (placeOf later) m.pods) := by
  rcases (Pass.failsFast_overNode config name).cases (failsMore_faultless hclock hlags)
      (rfl : m.faultless = m.faultless) with ⟨a, hok, _⟩ | ⟨e', said, call, hfails, _⟩
  · rw [hrun] at hok
    cases hok
  · have hresult := hfails.result
    rw [hrun] at hresult
    obtain rfl := Except.error.inj hresult
    have hall := @run_eq _ clock lags (Pass.overNode config name) m
    rw [hfails.dialogue, hrun, List.foldl_append, List.foldl_cons, List.foldl_nil,
      Contents.after_error, List.map_append, ← List.append_assoc] at hall
    obtain ⟨hcontents, hnodes, hbudgets, hcalls⟩ := hall
    refine ⟨said, call, hfails, hcalls, hnodes, hbudgets, hcontents, ?_⟩
    have hlast : m'.calls.getLast? = some call := by rw [hcalls, List.map_singleton,
      List.getLast?_concat]
    rcases run_overNode_cases clock lags config name m with
      ⟨⟨_, call', _, hcall, hstopped⟩, _⟩ | ⟨_, hdone, _⟩ |
      ⟨_, s, result, s', hread, _, hpods, hend⟩
    · rw [hrun] at hstopped
      obtain rfl := Option.some.inj (hlast.symm.trans hstopped.last)
      exact Or.inl ⟨hcall, Contents.ext hstopped.pods hstopped.autoscalers⟩
    · rw [hrun] at hdone
      cases hdone
    · rw [hrun] at hend
      obtain ⟨hresult, rfl⟩ := Prod.mk.inj hend
      cases result with
      | ok changed => cases hresult
      | error e' =>
        have hnodup := nodup_places_podsOn events name
        rw [← hindex] at hnodup
        obtain ⟨before, pod, rest, call', hsplit, hlast', hhalted⟩ :=
          run_handlePods_error hclock hlags config.order name _ false
            ((Advance.start clock m).untouched hread) hnodup hpods
        obtain rfl := Option.some.inj (hlast.symm.trans hlast')
        exact Or.inr ⟨before, pod, rest, hsplit, hhalted, hhalted.spared_after (hsplit ▸ hnodup)⟩

/-- The node with two pods again, where the index still has both pods from when
their evictions were announced, and the server has them from after that. The
search for the autoscaler of the second pod fails. -/
def stale : Memory :=
  { shared with
    pods := shared.pods.map (withVersion (some "2"))
    index := Watch.PodIndex.applyAll {} (shared.pods.map fun pod => .apply (pod.marked ⟨0, 0⟩))
    faults := [{ on := .listAutoscalers, skip := 1, failure := .api "unavailable" }] }

/-- A pass over that node stops at the second pod. -/
theorem run_overNode_stops_stale :
    ∃ m', stale.pass {} "n1" = (.error (.api "unavailable"), m') ∧ Unaware now ∧ Unaware lag ∧
      ∃ said call, Fails handler handler (Pass.overNode {} "n1") stale stale.faultless
          (.api "unavailable") said call ∧
        m'.calls = [] ++ said.map (·.1) ++ [call] ∧ m'.nodes = stale.nodes ∧
        m'.budgets = stale.budgets ∧ m'.contents = said.foldl Contents.after stale.contents ∧
        ((call = .getNode "n1" ∨ call = .podsOnNode "n1") ∧ m'.contents = stale.contents ∨
          ∃ before pod rest, stale.index.podsOn "n1" = before ++ pod :: rest ∧
            Halted now .listing (stale.faultless.governed .listing before) pod call stale m' ∧
            ∀ later ∈ rest,
              Shelf.at? (placeOf later) m'.pods = Shelf.at? (placeOf later) stale.pods) :=
  have hrun : stale.pass {} "n1" = (.error (.api "unavailable"), (stale.pass {} "n1").2) :=
    Prod.ext rfl rfl
  ⟨_, hrun, fun _ _ => rfl, fun _ _ => rfl,
    run_overNode_stops (fun _ _ => rfl) (fun _ _ => rfl) rfl {} "n1" hrun⟩

/-- The first pod is governed and comes before the one that the pass stopped at,
and yet the server does not show its eviction announced. -/
theorem stale_not_announced :
    ∃ m' first second a stored, stale.pass {} "n1" = (.error (.api "unavailable"), m') ∧
      m'.calls.map Call.kind = [.getNode, .podsOnNode, .listAutoscalers, .getBudget,
        .updateAutoscaler, .listAutoscalers] ∧
      stale.index.podsOn "n1" = [first, second] ∧
      stale.faultless.governor .listing first = some a ∧
      Shelf.at? (placeOf first) m'.pods = some stored ∧ ¬ stored.Announces := by
  refine ⟨_, _, _, _, _, Prod.ext rfl rfl, rfl, rfl, rfl, rfl, ?_⟩
  rintro ⟨now, since, h⟩
  cases h

end Store.Memory

end CordonWatch
