import CordonWatch.Proofs.Pass.Stopping
import CordonWatch.Proofs.Text.Bytes

/-!
# Which autoscaler governs a pod

The autoscalers that a pass writes are those that govern the pods of the node when the
pass begins. It writes them in the order of the pods, each with the eviction of its pod,
and all of them unless it fails (`records_overNode`). Faults, the lag of the caches and
what the pass has written before do not change which autoscaler that is.

Where autoscalers are tried by name, a pod is governed by the one that qualifies whose
name is least by its bytes (`leastQualifying_governor`).
-/

namespace CordonWatch.Store

/-- The eviction that a call is to record: the place of the autoscaler, and the name of
the pod. -/
def Call.eviction? : Call → Option (Place × String)
  | .updateAutoscaler a => some (placeOf a, a.spec.lastEviction.podName)
  | .getNode _ | .podsOnNode _ | .listAutoscalers _ | .getBudget _ _ | .updatePodStatus _ => none

namespace Memory

/-- The evictions that the calls so far were to record, in order. -/
def evictions (m : Memory) : List (Place × String) := m.calls.filterMap Call.eviction?

/-- The eviction of a pod that an autoscaler governs. -/
def evictionOf (g : Pod × Autoscaler) : Place × String := (placeOf g.2, g.1.name)

variable {clock : Memory → Instant} {lags : Memory → Bool} {m s s' : Memory} {pod : Pod}
  {written : Pass.Written}

/-! ### The evictions that calls record -/

theorem evictions_eq (m : Memory) : m.evictions = m.wrote.filterMap Call.eviction? := by
  unfold evictions wrote
  rw [List.filterMap_map, List.filterMap_filter]
  refine congrArg (m.calls.filterMap ·) (funext fun call => ?_)
  cases call <;> rfl

theorem Untouched.evictions (h : Untouched m s) : s.evictions = m.evictions := by
  rw [evictions_eq, evictions_eq, h.wrote]

theorem evictions_markPod (ns : String) (pod : Pod) (m : Memory) :
    ((Pass.markPod ns pod).run (handlerUnder clock lags) m).2.evictions = m.evictions := by
  have hnone : (marking pod).filterMap Call.eviction? = [] := by
    unfold marking
    split
    · rfl
    · rfl
  rw [evictions_eq, wrote_markPod, List.filterMap_append, hnone, List.append_nil, evictions_eq]

theorem evictions_recordEviction (ns : String) (pod : Pod) (policy : Autoscaler)
    (written : Pass.Written) (m : Memory) :
    ((Pass.recordEviction ns pod policy written).run (handlerUnder clock lags) m).2.evictions
      = m.evictions
        ++ [(placeOf ((written.find? ⟨ns, policy.name⟩).getD policy), pod.name)] := by
  rw [evictions_eq, wrote_recordEviction, List.filterMap_append, evictions_eq]
  rfl

/-- A run that began in the state `m` has recorded the evictions that were due, in order,
and all of them unless it failed. -/
structure Records {α : Type} (due : List (Place × String)) (m : Memory)
    (ended : Except Failure α × Memory) : Prop where
  begun : ∃ told, told <+: due ∧ ended.2.evictions = m.evictions ++ told
  all : ∀ a, ended.1 = .ok a → ended.2.evictions = m.evictions ++ due

section

variable {α : Type} {due : List (Place × String)} {ended : Except Failure α × Memory}

theorem Records.none (h : ended.2.evictions = m.evictions) : Records [] m ended where
  begun := ⟨[], List.prefix_refl _, h.trans (List.append_nil _).symm⟩
  all := fun _ _ => h.trans (List.append_nil _).symm

theorem Records.failed {e : Failure} (hfailed : ended.1 = .error e)
    (h : ended.2.evictions = m.evictions) : Records due m ended where
  begun := ⟨[], List.nil_prefix, h.trans (List.append_nil _).symm⟩
  all := fun a hok => by
    rw [hfailed] at hok
    cases hok

/-- What was recorded before comes first. -/
theorem Records.after {before : List (Place × String)} (h : Records due s ended)
    (hs : s.evictions = m.evictions ++ before) : Records (before ++ due) m ended where
  begun := by
    obtain ⟨told, hprefix, htold⟩ := h.begun
    refine ⟨before ++ told, (List.prefix_append_right_inj before).mpr hprefix, ?_⟩
    rw [htold, hs, List.append_assoc]
  all := fun a hok => by rw [h.all a hok, hs, List.append_assoc]

/-- A failure ends also what was to follow. -/
theorem Records.stopped {β : Type} {before : List (Place × String)} {e : Failure}
    (h : Records before m ((.error e : Except Failure α), s)) :
    Records (before ++ due) m ((.error e : Except Failure β), s) where
  begun := by
    obtain ⟨told, hprefix, htold⟩ := h.begun
    exact ⟨told, hprefix.trans (List.prefix_append before due), htold⟩
  all := fun a hok => by cases hok

theorem Records.later (h : Records due s ended) (hs : s.evictions = m.evictions) :
    Records due m ended :=
  h.after (hs.trans (List.append_nil _).symm)

end

/-! ### The evictions that a pass records -/

/-- What a pass leaves as it was when it began: the budgets, the places of the cached
autoscalers, and of those it remembers. The autoscaler of a pod is found by these. -/
structure Steady (written : Pass.Written) (m s : Memory) : Prop where
  budgets : s.budgets = m.budgets
  cachedPlaces : Shelf.places s.cached = Shelf.places m.cached
  writtenPlaces : ∀ ns name a, written.find? ⟨ns, name⟩ = some a → placeOf a = ⟨some ns, name⟩

theorem Steady.start (m : Memory) : Steady Table.empty m m :=
  ⟨rfl, rfl, fun _ _ _ ha => nomatch ha⟩

theorem Steady.untouched (h : Steady written m s) (hs : Untouched s.faultless s'.faultless) :
    Steady written m s' where
  budgets := hs.budgets.trans h.budgets
  cachedPlaces := (congrArg Shelf.places hs.cached).trans h.cachedPlaces
  writtenPlaces := h.writtenPlaces

theorem Steady.marked {t : Instant} (h : Steady written m s) (hs : Marking t pod s s') :
    Steady written m s' where
  budgets := hs.budgets.trans h.budgets
  cachedPlaces := by rw [hs.cached, h.cachedPlaces]
  writtenPlaces := h.writtenPlaces

theorem Steady.recorded {stored : Autoscaler} {ns name : String} (h : Steady written m s)
    (hplace : placeOf stored = ⟨some ns, name⟩) (hthere : placeOf stored ∈ Shelf.places s.cached)
    (hs : Recorded stored s.faultless s'.faultless) :
    Steady (written.insert ⟨ns, name⟩ stored) m s' where
  budgets := hs.budgets.trans h.budgets
  cachedPlaces := (places_putAutoscaler (m := s) hs.cached hthere).trans h.cachedPlaces
  writtenPlaces := by
    intro ns' name' a ha
    rw [Table.find?_insert] at ha
    split at ha
    next hkey =>
      obtain ⟨rfl, rfl⟩ := ObjectKey.mk.inj hkey
      exact Option.some.inj ha ▸ hplace
    next => exact h.writtenPlaces ns' name' a ha

/-- To handle a pod is to record its eviction on its autoscaler. -/
theorem Steady.handlePod {order : PolicyOrder} {policy : Autoscaler} {node : String}
    {result : Except Failure Pass.Written} (h : Steady written m s)
    (hpolicy : s.selected order pod = some policy)
    (hrun : (Pass.handlePod node pod policy written).run (handlerUnder clock lags) s
      = (result, s')) :
    Records [(placeOf policy, pod.name)] s (result, s') ∧
      ∀ written', result = .ok written' → Steady written' m s' := by
  obtain ⟨hcached, hplace⟩ := mem_cached_of_selected hpolicy
  obtain ⟨s₁, s₂, huntouched, hcases⟩ :=
    @run_handlePod_cases clock lags node pod policy written s
  have hmarked : ∀ {result₂}, (Pass.markPod pod.nsOrDefault pod).run (handlerUnder clock lags) s₁
      = (result₂, s₂) → s₂.evictions = s.evictions := by
    intro result₂ hmark
    have hsame := @evictions_markPod clock lags pod.nsOrDefault pod s₁
    rw [hmark] at hsame
    exact hsame.trans huntouched.evictions
  obtain ⟨e, hmark, herror⟩ | ⟨hmark, hrecord⟩ := hcases
  · rw [hrun] at herror
    obtain ⟨rfl, rfl⟩ := Prod.mk.inj herror
    exact ⟨Records.failed rfl (hmarked hmark), fun _ hok => by cases hok⟩
  · rw [hrun] at hrecord
    generalize hlatest : (written.find? ⟨pod.nsOrDefault, policy.name⟩).getD policy = latest
    have hlatestPlace : placeOf latest = placeOf policy := by
      rw [← hlatest]
      cases hfound : written.find? ⟨pod.nsOrDefault, policy.name⟩ with
      | none => rfl
      | some a => exact (h.writtenPlaces _ _ _ hfound).trans hplace.symm
    have hevictions := @evictions_recordEviction clock lags pod.nsOrDefault pod policy written s₂
    rw [← hrecord, hmarked hmark, hlatest, hlatestPlace] at hevictions
    refine ⟨⟨⟨_, List.prefix_refl _, hevictions⟩, fun _ _ => hevictions⟩, ?_⟩
    rintro written' rfl
    obtain ⟨stored, version, hstored, rfl, -, hrecorded⟩ :=
      run_recordEviction_ok hlatest hrecord.symm
    have hstoredPlace : placeOf stored = placeOf policy := by
      rw [hstored]
      exact hlatestPlace
    have hsteady := (h.untouched huntouched).marked (run_markPod_ok _ pod hmark)
    have hthere : placeOf stored ∈ Shelf.places s₂.cached := by
      rw [hsteady.cachedPlaces, ← h.cachedPlaces, hstoredPlace]
      exact List.mem_map_of_mem hcached
    exact hsteady.recorded (hstoredPlace.trans hplace) hthere hrecorded

/-- While pods are handled one after the other, their evictions are recorded on the
autoscalers that governed them when the pass began. -/
theorem Steady.handlePods (order : PolicyOrder) (node : String) (pods : List Pod) :
    ∀ {written : Pass.Written} {s : Memory} (changed : Bool), Steady written m s →
      Records ((m.faultless.governed order pods).map evictionOf) s
        ((Pass.handlePods order node pods written changed).run (handlerUnder clock lags) s) := by
  induction pods with
  | nil => exact fun _ _ => Records.none rfl
  | cons pod rest ih =>
    intro written s changed h
    have hplaces : (s.selected order pod).map placeOf
        = (m.faultless.governor order pod).map placeOf := by
      rw [governor_eq_selected rfl]
      exact placeOf_selected_congr order pod h.cachedPlaces h.budgets
    obtain ⟨hresult, huntouched, -⟩ := searched_findPolicy clock lags order pod s
    rw [Pass.handlePods, Program.run_bind]
    generalize (Pass.findPolicy order pod).run (handlerUnder clock lags) s = searched
      at hresult huntouched ⊢
    obtain ⟨result, s₁⟩ := searched
    have hsearched : s₁.evictions = s.evictions := huntouched.evictions
    rcases hresult with ⟨⟨e, rfl⟩, -⟩ | rfl
    · exact Records.failed rfl hsearched
    · cases hselected : s.selected order pod with
      | none =>
        rw [hselected] at hplaces
        rw [governed_cons_of_none (Option.map_eq_none_iff.mp hplaces.symm)]
        exact (ih changed (h.untouched huntouched)).later hsearched
      | some policy =>
        rw [hselected] at hplaces
        obtain ⟨a, ha, hsame⟩ := Option.map_eq_some_iff.mp hplaces.symm
        rw [governed_cons_of_some ha, List.map_cons, evictionOf, hsame]
        dsimp only
        rw [Program.run_bind]
        generalize hhandle : (Pass.handlePod node pod policy written).run
          (handlerUnder clock lags) s₁ = handled
        obtain ⟨result', s₂⟩ := handled
        have hselected₁ : s₁.selected order pod = some policy :=
          (selected_congr order pod huntouched.cached huntouched.budgets).trans hselected
        obtain ⟨hrecords, hnext⟩ := (h.untouched huntouched).handlePod hselected₁ hhandle
        replace hrecords := hrecords.later hsearched
        cases result' with
        | error e => exact hrecords.stopped
        | ok written' => exact (ih true (hnext _ rfl)).after (hrecords.all _ rfl)

/-- A pass records the evictions of the pods that are governed when it begins, each on
the autoscaler that governs it, whatever faults are scheduled and however the caches lag. -/
theorem records_overNode (clock : Memory → Instant) (lags : Memory → Bool)
    (config : Pass.Config) (name : String) (m : Memory) :
    Records ((m.faultless.due config.order name).map evictionOf) m
      ((Pass.overNode config name).run (handlerUnder clock lags) m) := by
  rcases run_overNode_cases clock lags config name m with
    ⟨⟨e, call, herror, hcall, hstopped⟩, -⟩ | ⟨hcordoned, -, huntouched, -⟩ |
    ⟨hcordoned, s, result, s', huntouched, -, hpods, hrun⟩
  · have hread : call.target? = none := by rcases hcall with rfl | rfl <;> rfl
    have hwrites := hstopped.writes
    rw [hread] at hwrites
    refine Records.failed herror ?_
    rw [evictions_eq, evictions_eq,
      wrote_of_writes hstopped.calls (hwrites.trans (List.append_nil _))]
  · rw [due_of_not_cordoned (m := m.faultless) hcordoned]
    exact Records.none huntouched.evictions
  · rw [due_of_cordoned (m := m.faultless) hcordoned, hrun]
    have hrecords := @Steady.handlePods clock lags m config.order name (m.index.podsOn name) _ _
      false ((Steady.start m).untouched huntouched)
    rw [hpods] at hrecords
    obtain ⟨hbegun, hall⟩ := hrecords.later huntouched.evictions
    refine ⟨hbegun, fun outcome hok => ?_⟩
    cases result with
    | error e => cases hok
    | ok changed => exact hall changed rfl

/-! ### The least name -/

/-- The least name among the cached autoscalers of the pod's namespace that qualify,
compared by bytes. No autoscaler is found only if none qualifies. -/
def LeastQualifying (t : Memory) (pod : Pod) : Option Autoscaler → Prop
  | none => ∀ b ∈ t.cached, b.metadata.ns = some pod.nsOrDefault →
      qualifies t.budgets pod.nsOrDefault pod.metadata.labelTable b = false
  | some a => a ∈ t.cached ∧ a.metadata.ns = some pod.nsOrDefault ∧
      qualifies t.budgets pod.nsOrDefault pod.metadata.labelTable a = true ∧
      ∀ b ∈ t.cached, b.metadata.ns = some pod.nsOrDefault →
        qualifies t.budgets pod.nsOrDefault pod.metadata.labelTable b = true →
        ¬ Text.bytes b.name < Text.bytes a.name

/-- Tried by name, the autoscaler that governs a pod has the least name that qualifies. -/
theorem leastQualifying_governor (m : Memory) (pod : Pod) :
    m.LeastQualifying pod (m.faultless.governor .name pod) := by
  rw [governor_eq_selected rfl]
  show m.LeastQualifying pod (m.selected .name pod)
  have hsorted : (m.candidates .name pod).Pairwise fun a b => ¬ b.name < a.name :=
    pairwise_mergeSort_of_key Autoscaler.name _
  cases hselected : m.selected .name pod with
  | none =>
    unfold selected at hselected
    intro b hb hns
    exact Bool.eq_false_iff.mpr
      (List.find?_eq_none.mp hselected b (mem_candidates.mpr ⟨hb, hns⟩))
  | some a =>
    unfold selected at hselected
    obtain ⟨hcached, hns⟩ := mem_candidates.mp (List.mem_of_find?_eq_some hselected)
    obtain ⟨hqualifies, before, after, hsplit, hbefore⟩ :=
      List.find?_eq_some_iff_append.mp hselected
    refine ⟨hcached, hns, hqualifies, fun b hb hbns hb' => ?_⟩
    rw [Text.bytes_lt_iff]
    have hmem : b ∈ m.candidates .name pod := mem_candidates.mpr ⟨hb, hbns⟩
    rw [hsplit] at hmem hsorted
    rcases List.mem_append.mp hmem with hin | hin
    · have hnot := hbefore b hin
      rw [hb'] at hnot
      exact absurd hnot (by decide)
    · rcases List.mem_cons.mp hin with rfl | hin
      · exact String.lt_irrefl b.name
      · exact List.rel_of_pairwise_cons (List.pairwise_append.mp hsorted).2.1 hin

end Memory

end CordonWatch.Store
