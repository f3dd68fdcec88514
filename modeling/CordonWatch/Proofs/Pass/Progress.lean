import CordonWatch.Proofs.Pass.Effect
import CordonWatch.Proofs.Store.Dialogue

/-!
# How far a pass has come

What a pass has done to the server at some moment, whatever faults are
scheduled and however old the caches are. `Progress` says which pods it has
begun with and which of them it has handled: of a pod that was begun with, the
marked status of the copy in the cache has been written over the pod that the
server had, unless the copy was marked already (`Pod.Marks`); for a pod that was
handled, its autoscaler is one that the cache had, with the eviction of the last
of its pods. All else is as it was.

A pass selects autoscalers by their places and nothing else
(`placeOf_selected`), and its own writes leave the places of the cached ones as
they are, so it goes on selecting those that it would have selected to begin
with. `Advance` is what a pass carries from one pod to the next.
-/

namespace CordonWatch

/-- The first condition that announces a disruption is the announcement of the eviction. -/
def Pod.Announces (pod : Pod) : Prop :=
  ∃ now since, (pod.conditions.getD []).find? (·.type = PodCondition.disruptionTarget)
    = some { PodCondition.evictionAnticipated now with lastTransitionTime := since }

theorem Pod.announces_marked (now : Instant) (pod : Pod) : (pod.marked now).Announces :=
  ⟨now, pod.find?_marked now⟩

/-- A pod of the server when the status of a copy, marked at `now`, has been written
over its own. -/
def Pod.overwritten (copy : Pod) (now : Instant) (stored : Pod) : Pod :=
  withVersion (some (Store.nextVersion (versionOf stored)))
    { stored with status := (copy.setCondition (.evictionAnticipated now)).1.status }

theorem Pod.announces_overwritten {copy : Pod} {now : Instant} (stored : Pod)
    (h : (copy.setCondition (.evictionAnticipated now)).2 = true) :
    (copy.overwritten now stored).Announces := by
  have hmarked := copy.announces_marked now
  rw [Pod.marked, if_pos h] at hmarked
  exact hmarked

/-- What the marking of a copy at `now` does to the pod that the server has at the
place: nothing, if the copy announces the eviction already. -/
inductive Pod.Marks (copy : Pod) (now : Instant) : Option Pod → Option Pod → Prop where
  | spared {stored : Option Pod} (hshown : copy.Announces)
      (hsame : (copy.setCondition (.evictionAnticipated now)).2 = false) :
      Marks copy now stored stored
  | written {stored : Pod} (hchanged : (copy.setCondition (.evictionAnticipated now)).2 = true)
      (hversion : versionOf stored = versionOf copy)
      (hshown : (copy.overwritten now stored).Announces) :
      Marks copy now (some stored) (some (copy.overwritten now stored))

namespace Store

/-- The place of the autoscaler that is selected for a pod among cached ones at those places. -/
def pick (order : PolicyOrder) (budgets : Shelf Budget) (places : List Place) (pod : Pod) :
    Option Place :=
  let there := places.filter (·.ns = some pod.nsOrDefault)
  let tried := match order with
    | .listing => there
    | .name => there.mergeSort fun a b => decide (¬ b.name < a.name)
  tried.find? fun place =>
    match Shelf.at? ⟨some pod.nsOrDefault, place.name⟩ budgets with
    | none => false
    | some budget =>
      match Selector.parse budget.selector with
      | .error _ => false
      | .ok selector => selector.matchesLabels pod.metadata.labelTable

namespace Memory

variable {clock : Memory → Instant} {lags : Memory → Bool} {m s s' : Memory}
  {pod : Pod} {begun marking : List Pod} {handled : List (Pod × Autoscaler)}
  {written : Pass.Written}

/-- Where the autoscaler selected for a pod stands is a matter of the budgets and
of the places of the cached ones. -/
theorem placeOf_selected (m : Memory) (order : PolicyOrder) (pod : Pod) :
    (m.selected order pod).map placeOf = pick order m.budgets (Shelf.places m.cached) pod := by
  have htried := map_placeOf_candidates m order pod
  unfold pick
  cases order with
  | listing =>
    dsimp only at htried ⊢
    rw [← htried, List.find?_map]
    rfl
  | name =>
    dsimp only at htried ⊢
    rw [← htried, List.find?_map]
    rfl

theorem placeOf_selected_congr (order : PolicyOrder) (pod : Pod)
    (hplaces : Shelf.places s.cached = Shelf.places m.cached) (hbudgets : s.budgets = m.budgets) :
    (s.selected order pod).map placeOf = (m.selected order pod).map placeOf := by
  rw [placeOf_selected, placeOf_selected, hplaces, hbudgets]

/-- The autoscaler is a copy of a cached one, but perhaps for its version and the last eviction. -/
def Copied (m : Memory) (a : Autoscaler) : Prop :=
  ∃ copy ∈ m.cached, placeOf copy = placeOf a ∧
    ∀ pod t, a.noting pod t = withVersion (versionOf a) (copy.noting pod t)

theorem copied_of_mem {a : Autoscaler} (h : a ∈ m.cached) : m.Copied a :=
  ⟨a, h, rfl, fun _ _ => rfl⟩

/-- Noting an eviction on a copy gives another copy. -/
theorem Copied.stored {a : Autoscaler} (h : m.Copied a) (version : Option String) (pod : Pod)
    (t : Instant) : m.Copied (withVersion version (a.noting pod t)) := by
  obtain ⟨copy, hcopy, hplace, hnoting⟩ := h
  refine ⟨copy, hcopy, hplace, fun pod' t' => ?_⟩
  show withVersion version (a.noting pod' t') = _
  rw [hnoting]
  rfl

/-! ### What has been done to the server -/

/-- What a pass that began in the state `m` has done to the server in the state `s`,
when it has begun with some pods and handled some, each with its autoscaler. -/
structure Progress (clock : Memory → Instant) (begun : List Pod)
    (handled : List (Pod × Autoscaler)) (m s : Memory) : Prop where
  nodes : s.nodes = m.nodes
  budgets : s.budgets = m.budgets
  podPlaces : Shelf.places s.pods = Shelf.places m.pods
  autoscalerPlaces : Shelf.places s.autoscalers = Shelf.places m.autoscalers
  marked : ∀ pod ∈ begun, ∃ t, ShownBetween clock m s t ∧
    pod.Marks t (Shelf.at? (placeOf pod) m.pods) (Shelf.at? (placeOf pod) s.pods)
  spared : ∀ place, (∀ pod ∈ begun, placeOf pod ≠ place) →
    Shelf.at? place s.pods = Shelf.at? place m.pods
  /-- An autoscaler ends as the cache had it, but for its version and the eviction of
  the last of its pods. -/
  recorded : ∀ g ∈ handled, ∃ pod t copy version, (podsOf g.2 handled).getLast? = some pod ∧
    ShownBetween clock m s t ∧ copy ∈ m.cached ∧ placeOf copy = placeOf g.2 ∧
    Shelf.at? (placeOf g.2) s.autoscalers = some (withVersion version (copy.noting pod t))
  unrecorded : ∀ place, (∀ g ∈ handled, placeOf g.2 ≠ place) →
    Shelf.at? place s.autoscalers = Shelf.at? place m.autoscalers

theorem Progress.start (clock : Memory → Instant) (m : Memory) : Progress clock [] [] m m where
  nodes := rfl
  budgets := rfl
  podPlaces := rfl
  autoscalerPlaces := rfl
  marked := fun _ hp => absurd hp List.not_mem_nil
  spared := fun _ _ => rfl
  recorded := fun _ hg => absurd hg List.not_mem_nil
  unrecorded := fun _ _ => rfl

/-- No object of the server differs from one state to the other, and the second comes later. -/
structure Idle (s s' : Memory) : Prop where
  nodes : s'.nodes = s.nodes
  budgets : s'.budgets = s.budgets
  pods : s'.pods = s.pods
  autoscalers : s'.autoscalers = s.autoscalers
  calls : s.calls <+: s'.calls

/-- Nothing more is done while no object changes. -/
theorem Progress.idle (h : Progress clock begun handled m s) (hs : Idle s s') :
    Progress clock begun handled m s' where
  nodes := hs.nodes.trans h.nodes
  budgets := hs.budgets.trans h.budgets
  podPlaces := by rw [hs.pods, h.podPlaces]
  autoscalerPlaces := by rw [hs.autoscalers, h.autoscalerPlaces]
  marked := by
    intro pod hpod
    obtain ⟨t, ht, hmarks⟩ := h.marked pod hpod
    exact ⟨t, ht.later hs.calls, by rw [hs.pods]; exact hmarks⟩
  spared := by
    intro place hplace
    rw [hs.pods, h.spared place hplace]
  recorded := by
    intro g hg
    obtain ⟨pod, t, copy, version, hlast, ht, hcopy, hplace, hat⟩ := h.recorded g hg
    exact ⟨pod, t, copy, version, hlast, ht.later hs.calls, hcopy, hplace,
      by rw [hs.autoscalers, hat]⟩
  unrecorded := by
    intro place hplace
    rw [hs.autoscalers, h.unrecorded place hplace]

/-! ### What a pass carries along -/

/-- How far a pass has come that is between two pods or has marked one (`marking`)
and not recorded its eviction yet. -/
structure Advance (clock : Memory → Instant) (handled : List (Pod × Autoscaler))
    (marking : List Pod) (written : Pass.Written) (m s : Memory) : Prop
    extends Progress clock (handled.map (·.1) ++ marking) handled m s where
  now : s.now = m.now
  calls : m.calls <+: s.calls
  writes : ∀ t, s.writes = m.writes
    ++ (handled.flatMap fun g => markingWrites t g.1 ++ [(.autoscaler, placeOf g.2)])
    ++ marking.flatMap (markingWrites t)
  cachedPlaces : Shelf.places s.cached = Shelf.places m.cached
  /-- What is cached or remembered are copies of what was cached to begin with. -/
  cachedCopies : ∀ a ∈ s.cached, m.Copied a
  writtenCopies : ∀ ns name a, written.find? ⟨ns, name⟩ = some a →
    placeOf a = ⟨some ns, name⟩ ∧ m.Copied a

theorem Advance.start (clock : Memory → Instant) (m : Memory) :
    Advance clock [] [] Table.empty m m where
  toProgress := Progress.start clock m
  now := rfl
  calls := List.prefix_refl _
  writes := fun _ => by
    rw [List.flatMap_nil, List.flatMap_nil, List.append_nil, List.append_nil]
  cachedPlaces := rfl
  cachedCopies := fun _ ha => copied_of_mem ha
  writtenCopies := fun _ _ _ ha => nomatch ha

/-- What was only read, with whatever faults, changes nothing about how far a pass has come. -/
theorem Advance.untouched (h : Advance clock handled marking written m s)
    (hs : Untouched s.faultless s'.faultless) : Advance clock handled marking written m s' where
  toProgress := h.toProgress.idle ⟨hs.nodes, hs.budgets, hs.pods, hs.autoscalers, hs.calls⟩
  now := hs.now.trans h.now
  calls := h.calls.trans hs.calls
  writes := fun t => hs.writes.trans (h.writes t)
  cachedPlaces := (congrArg Shelf.places hs.cached).trans h.cachedPlaces
  cachedCopies := fun a ha => h.cachedCopies a (hs.cached ▸ ha)
  writtenCopies := h.writtenCopies

/-! ### Marking a pod -/

/-- What changes when a copy of a pod is marked at the time `t`. -/
structure Marking (t : Instant) (pod : Pod) (s s' : Memory) : Prop where
  nodes : s'.nodes = s.nodes
  budgets : s'.budgets = s.budgets
  podPlaces : Shelf.places s'.pods = Shelf.places s.pods
  marks : pod.Marks t (Shelf.at? (placeOf pod) s.pods) (Shelf.at? (placeOf pod) s'.pods)
  spared : ∀ place, placeOf pod ≠ place → Shelf.at? place s'.pods = Shelf.at? place s.pods
  autoscalers : s'.autoscalers = s.autoscalers
  cached : s'.cached = s.cached
  now : s'.now = s.now
  calls : s.calls <+: s'.calls
  writes : s'.writes = s.writes ++ markingWrites t pod

/-- A copy that shows the announcement already is not written. -/
theorem Marking.of_unchanged {t : Instant}
    (h : (pod.setCondition (.evictionAnticipated t)).2 = false) : Marking t pod s s where
  nodes := rfl
  budgets := rfl
  podPlaces := rfl
  marks := by
    have hshown := pod.announces_marked t
    rw [Pod.marked, h] at hshown
    exact .spared hshown h
  spared := fun _ _ => rfl
  autoscalers := rfl
  cached := rfl
  now := rfl
  calls := List.prefix_refl _
  writes := by
    rw [markingWrites, h]
    exact (List.append_nil _).symm

/-- The status of any other copy is written over that of the server's pod. -/
theorem Marking.of_answer {announced : Pod} {result : Unit}
    (hannounced : (pod.setCondition (.evictionAnticipated (clock s))).1 = announced)
    (hchanged : (pod.setCondition (.evictionAnticipated (clock s))).2 = true)
    (hanswer : ((handlerUnder clock lags).answer (.updatePodStatus announced) s).1 = .ok result) :
    Marking (clock s) pod s
      ((handlerUnder clock lags).answer (.updatePodStatus announced) s).2 := by
  obtain ⟨stored, faults, index, logs, hat, hversion, hstate⟩ := answer_updatePodStatus_ok hanswer
  have hplace : placeOf announced = placeOf pod := by rw [← hannounced]; rfl
  have hput : withVersion (some (nextVersion (versionOf stored)))
      { stored with status := announced.status } = pod.overwritten (clock s) stored := by
    rw [Pod.overwritten, hannounced]
  have hstored : placeOf (pod.overwritten (clock s) stored) = placeOf pod :=
    (Shelf.placeOf_of_at? hat).trans hplace
  rw [hplace] at hat
  rw [hstate, hput]
  refine ⟨rfl, rfl, ?_, ?_, ?_, rfl, rfl, rfl, List.prefix_append _ _, ?_⟩
  · exact Shelf.places_put (hstored ▸ hat)
  · rw [hat, Shelf.at?_put, if_pos hstored]
    refine .written hchanged ?_ (pod.announces_overwritten stored hchanged)
    rw [hversion, ← hannounced]
    rfl
  · intro place hne
    rw [Shelf.at?_put, hstored, if_neg hne]
  · rw [markingWrites, hchanged, if_pos rfl, ← hplace]
    exact writes_asked lags (.updatePodStatus announced)

/-- Between two states nothing was written, and the last call was `call`. -/
structure StoppedBy (call : Call) (s s' : Memory) : Prop extends Idle s s' where
  last : s'.calls.getLast? = some call
  writes : s'.writes = s.writes ++ call.target?.toList

theorem StoppedBy.of_refused {call : Call} {e : Failure}
    (h : ((handlerUnder clock lags).answer call s).1 = .error e) :
    StoppedBy call s ((handlerUnder clock lags).answer call s).2 := by
  obtain ⟨faults, hstate⟩ := answer_idle call s (Or.inr ⟨e, h⟩)
  rw [hstate]
  exact ⟨⟨rfl, rfl, rfl, rfl, List.prefix_append _ _⟩, List.getLast?_concat,
    writes_asked lags call⟩

/-- A note after the call changes nothing about that. -/
theorem StoppedBy.noted {call : Call} (h : StoppedBy call s s') (note : Note) :
    StoppedBy call s ((handlerUnder clock lags).record note s') := by
  cases note <;> exact ⟨⟨h.nodes, h.budgets, h.pods, h.autoscalers, h.calls⟩, h.last, h.writes⟩

theorem run_markPod_ok (ns : String) (pod : Pod)
    (h : (Pass.markPod ns pod).run (handlerUnder clock lags) s = (.ok (), s')) :
    Marking (clock s) pod s s' := by
  unfold Pass.markPod at h
  rw [Program.run_readClock, show (handlerUnder clock lags).clock s = clock s from rfl] at h
  dsimp only at h
  split at h
  next hchanged =>
    rw [Program.run_ask] at h
    split at h
    next =>
      dsimp only [Program.log] at h
      rw [Program.run_note, Program.run_done] at h
      cases congrArg Prod.fst h
    next hanswer =>
      rw [Program.run_done] at h
      obtain ⟨-, rfl⟩ := Prod.mk.inj h
      exact .of_answer rfl hchanged hanswer
  next hunchanged =>
    rw [Program.run_done] at h
    obtain ⟨-, rfl⟩ := Prod.mk.inj h
    exact .of_unchanged (Bool.eq_false_iff.mpr hunchanged)

theorem run_markPod_error {e : Failure} (ns : String) (pod : Pod)
    (h : (Pass.markPod ns pod).run (handlerUnder clock lags) s = (.error e, s')) :
    ∃ announced, placeOf announced = placeOf pod ∧ StoppedBy (.updatePodStatus announced) s s' := by
  refine ⟨(pod.setCondition (.evictionAnticipated (clock s))).1, rfl, ?_⟩
  unfold Pass.markPod at h
  rw [Program.run_readClock, show (handlerUnder clock lags).clock s = clock s from rfl] at h
  dsimp only at h
  split at h
  · rw [Program.run_ask] at h
    split at h
    next hanswer =>
      dsimp only [Program.log] at h
      rw [Program.run_note, Program.run_done] at h
      obtain ⟨-, rfl⟩ := Prod.mk.inj h
      exact (StoppedBy.of_refused hanswer).noted _
    next hanswer =>
      rw [Program.run_done] at h
      cases congrArg Prod.fst h
  · rw [Program.run_done] at h
    cases congrArg Prod.fst h

/-- Marking a pod of which the pass has not been yet leads half a step further. -/
theorem Advance.mark {t : Instant} (h : Advance clock handled [] written m s)
    (hnew : ∀ g ∈ handled, placeOf g.1 ≠ placeOf pod) (hs : Marking t pod s s')
    (ht : clock s = t) : Advance clock handled [pod] written m s' where
  nodes := hs.nodes.trans h.nodes
  budgets := hs.budgets.trans h.budgets
  podPlaces := hs.podPlaces.trans h.podPlaces
  autoscalerPlaces := by rw [hs.autoscalers, h.autoscalerPlaces]
  marked := by
    have hbefore : ∀ p ∈ handled.map (·.1), placeOf p ≠ placeOf pod := List.forall_mem_map.mpr hnew
    refine List.forall_mem_append.mpr ⟨fun p hp => ?_, List.forall_mem_singleton.mpr ?_⟩
    · obtain ⟨t', ht', hmarks⟩ := h.marked p (List.mem_append_left _ hp)
      refine ⟨t', ht'.later hs.calls, ?_⟩
      rw [hs.spared _ (Ne.symm (hbefore p hp))]
      exact hmarks
    · refine ⟨t, ⟨s, h.now, h.calls, hs.calls, ht⟩, ?_⟩
      rw [← h.spared (placeOf pod) (by simpa only [List.append_nil] using hbefore)]
      exact hs.marks
  spared := by
    intro place hother
    obtain ⟨hold, hpod⟩ := List.forall_mem_append.mp hother
    rw [hs.spared place (hpod pod (List.mem_singleton_self _)),
      h.spared place (by simpa only [List.append_nil] using hold)]
  recorded := by
    intro g hg
    obtain ⟨pod, t, copy, version, hlast, ht, hcopy, hplace, hat⟩ := h.recorded g hg
    exact ⟨pod, t, copy, version, hlast, ht.later hs.calls, hcopy, hplace,
      by rw [hs.autoscalers, hat]⟩
  unrecorded := by
    intro place hother
    rw [hs.autoscalers, h.unrecorded place hother]
  now := hs.now.trans h.now
  calls := h.calls.trans hs.calls
  writes := by
    intro t'
    have hsame : markingWrites t' pod = markingWrites t pod := by
      rw [markingWrites, pod.changed_evictionAnticipated t' t]
      rfl
    rw [hs.writes, h.writes t', List.flatMap_nil, List.append_nil, List.flatMap_singleton, hsame]
  cachedPlaces := by rw [hs.cached, h.cachedPlaces]
  cachedCopies := fun a ha => h.cachedCopies a (hs.cached ▸ ha)
  writtenCopies := h.writtenCopies

/-! ### Recording its eviction -/

theorem run_recordEviction_ok {ns : String} {policy latest : Autoscaler} {written' : Pass.Written}
    (hlatest : (written.find? ⟨ns, policy.name⟩).getD policy = latest)
    (h : (Pass.recordEviction ns pod policy written).run (handlerUnder clock lags) s
      = (.ok written', s')) :
    ∃ stored version, stored = withVersion version (latest.noting pod (clock s)) ∧
      written' = written.insert ⟨ns, policy.name⟩ stored ∧
      (∃ old, Shelf.at? (placeOf stored) s.autoscalers = some old) ∧
      Recorded stored s.faultless s'.faultless := by
  unfold Pass.recordEviction at h
  rw [Program.run_readClock, show (handlerUnder clock lags).clock s = clock s from rfl] at h
  dsimp only at h
  rw [hlatest, Program.run_ask] at h
  split at h
  next =>
    dsimp only [Program.log] at h
    rw [Program.run_note, Program.run_done] at h
    cases congrArg Prod.fst h
  next stored hanswer =>
    obtain ⟨old, faults, cached, hat, -, hstored, hcached, hstate⟩ :=
      answer_updateAutoscaler_ok hanswer
    rw [hstate, Program.run_done] at h
    obtain ⟨hwritten, rfl⟩ := Prod.mk.inj h
    refine ⟨stored, _, hstored, (Except.ok.inj hwritten).symm, ⟨old, ?_⟩, ?_⟩
    · rw [hstored]
      exact hat
    · refine ⟨rfl, rfl, rfl, rfl, hcached, rfl, rfl, List.prefix_append _ _, ?_⟩
      rw [hstored]
      exact writes_asked lags (.updateAutoscaler _)

theorem run_recordEviction_error {e : Failure} {ns : String} {policy latest : Autoscaler}
    (hlatest : (written.find? ⟨ns, policy.name⟩).getD policy = latest)
    (h : (Pass.recordEviction ns pod policy written).run (handlerUnder clock lags) s
      = (.error e, s')) :
    ∃ recorded, placeOf recorded = placeOf latest ∧
      StoppedBy (.updateAutoscaler recorded) s s' := by
  refine ⟨latest.noting pod (clock s), rfl, ?_⟩
  unfold Pass.recordEviction at h
  rw [Program.run_readClock, show (handlerUnder clock lags).clock s = clock s from rfl] at h
  dsimp only at h
  rw [hlatest, Program.run_ask] at h
  split at h
  next hanswer =>
    dsimp only [Program.log] at h
    rw [Program.run_note, Program.run_done] at h
    obtain ⟨-, rfl⟩ := Prod.mk.inj h
    exact (StoppedBy.of_refused hanswer).noted _
  next =>
    rw [Program.run_done] at h
    cases congrArg Prod.fst h

theorem podsOf_congr {a b : Autoscaler} (h : placeOf a = placeOf b)
    (handled : List (Pod × Autoscaler)) : podsOf a handled = podsOf b handled := by
  unfold podsOf
  rw [h]

/-- A pod is handled when its autoscaler, as a copy of the cached one, is stored
with the eviction of the pod. -/
theorem Progress.record {t : Instant} {a copy stored : Autoscaler} {version : Option String}
    (h : Progress clock begun handled m s) (hcopy : copy ∈ m.cached)
    (hplace : placeOf copy = placeOf a) (ht : ShownBetween clock m s t)
    (hstored : stored = withVersion version (copy.noting pod t))
    (hat : ∃ old, Shelf.at? (placeOf stored) s.autoscalers = some old)
    (hs : Recorded stored s.faultless s'.faultless) :
    Progress clock begun (handled ++ [(pod, a)]) m s' := by
  have hpods : s'.pods = s.pods := hs.pods
  have hcalls : s.calls <+: s'.calls := hs.calls
  have hputs : s'.autoscalers = Shelf.put stored s.autoscalers := hs.autoscalers
  have hstoredPlace : placeOf stored = placeOf a := by
    rw [hstored]
    exact hplace
  have hautoscalers : ∀ place, Shelf.at? place s'.autoscalers
      = if placeOf a = place then some stored else Shelf.at? place s.autoscalers := by
    intro place
    rw [hputs, Shelf.at?_put, hstoredPlace]
  refine ⟨hs.nodes.trans h.nodes, hs.budgets.trans h.budgets, ?_, ?_, ?_, ?_, ?_, ?_⟩
  · rw [hpods, h.podPlaces]
  · obtain ⟨old, hold⟩ := hat
    rw [hputs, Shelf.places_put hold, h.autoscalerPlaces]
  · intro p hp
    obtain ⟨t', ht', hmarks⟩ := h.marked p hp
    exact ⟨t', ht'.later hcalls, by rw [hpods]; exact hmarks⟩
  · intro place hother
    rw [hpods, h.spared place hother]
  · -- The entry for the autoscaler that has just been written.
    have hlast : ∃ pod' t' copy' version',
        (podsOf a (handled ++ [(pod, a)])).getLast? = some pod' ∧ ShownBetween clock m s' t' ∧
          copy' ∈ m.cached ∧ placeOf copy' = placeOf a ∧
          Shelf.at? (placeOf a) s'.autoscalers
            = some (withVersion version' (copy'.noting pod' t')) := by
      refine ⟨pod, t, copy, version, ?_, ht.later hcalls, hcopy, hplace, ?_⟩
      · rw [podsOf_concat, if_pos rfl, List.getLast?_concat]
      · rw [hautoscalers, if_pos rfl, hstored]
    refine List.forall_mem_append.mpr ⟨fun g hg => ?_, List.forall_mem_singleton.mpr hlast⟩
    by_cases hga : placeOf g.2 = placeOf a
    · rw [podsOf_congr hga, hga]
      exact hlast
    · obtain ⟨pod', t', copy', version', hget, ht', hcopy', hplace', hg'⟩ := h.recorded g hg
      rw [podsOf_concat, if_neg (Ne.symm hga)]
      refine ⟨pod', t', copy', version', hget, ht'.later hcalls, hcopy', hplace', ?_⟩
      rw [hautoscalers, if_neg (Ne.symm hga), hg']
  · intro place hother
    obtain ⟨hold, ha⟩ := List.forall_mem_append.mp hother
    rw [hautoscalers, if_neg (ha _ (List.mem_singleton_self _)), h.unrecorded place hold]

/-- Recording the eviction of the pod that was marked completes the step. -/
theorem Advance.record {a latest stored : Autoscaler} {version : Option String}
    {ns name : String} (h : Advance clock handled [pod] written m s)
    (hplace : placeOf a = ⟨some ns, name⟩) (hlatest : placeOf latest = placeOf a)
    (hcopied : m.Copied latest)
    (hstored : stored = withVersion version (latest.noting pod (clock s)))
    (hat : ∃ old, Shelf.at? (placeOf stored) s.autoscalers = some old)
    (hs : Recorded stored s.faultless s'.faultless) :
    Advance clock (handled ++ [(pod, a)]) [] (written.insert ⟨ns, name⟩ stored) m s' := by
  have hcopies : m.Copied stored := hstored ▸ hcopied.stored version pod (clock s)
  have hstoredPlace : placeOf stored = placeOf a := by
    rw [hstored]
    exact hlatest
  obtain ⟨copy, hcopy, hcopyPlace, hnoting⟩ := hcopied
  have hstoredCopy : stored = withVersion version (copy.noting pod (clock s)) := by
    rw [hstored, hnoting]
    rfl
  have hprogress := h.toProgress.record hcopy (hcopyPlace.trans hlatest)
    ⟨s, h.now, h.calls, List.prefix_refl _, rfl⟩ hstoredCopy hat hs
  have hcached : s'.cached = s.cached ∨ s'.cached = Shelf.put stored s.cached := hs.cached
  constructor
  · rw [List.map_append, List.append_nil]
    exact hprogress
  · exact hs.now.trans h.now
  · exact h.calls.trans hs.calls
  · intro t
    rw [show s'.writes = s.writes ++ [(.autoscaler, placeOf stored)] from hs.writes, h.writes t,
      hstoredPlace, List.flatMap_append, List.flatMap_singleton, List.flatMap_singleton,
      List.flatMap_nil, List.append_nil]
    simp only [List.append_assoc]
  · -- The copy that is replaced is one that was there to begin with.
    have hthere : placeOf stored ∈ Shelf.places s.cached := by
      rw [h.cachedPlaces, hstoredPlace, ← hlatest, ← hcopyPlace]
      exact List.mem_map_of_mem hcopy
    rw [places_putAutoscaler hcached hthere, h.cachedPlaces]
  · intro b hb
    rcases hcached with hc | hc
    · exact h.cachedCopies b (hc ▸ hb)
    · rcases Shelf.mem_of_mem_put (hc ▸ hb) with rfl | hb
      · exact hcopies
      · exact h.cachedCopies b hb
  · intro ns' name' b hb
    rw [Table.find?_insert] at hb
    split at hb
    next hkey =>
      obtain ⟨rfl, rfl⟩ := ObjectKey.mk.inj hkey
      obtain rfl := Option.some.inj hb
      exact ⟨hstoredPlace.trans hplace, hcopies⟩
    next => exact h.writtenCopies ns' name' b hb

end Memory

end Store

end CordonWatch
