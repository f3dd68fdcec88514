import CordonWatch.Proofs.Pass.Governing
import CordonWatch.Proofs.Pass.Parallel

/-!
# Passes that try autoscalers by name

Where autoscalers are tried by name it does not matter in which order the server
and the cache list them. A pass over a server with other lists of the same
autoscalers makes the same calls, meets with the same faults, comes to the same
end and leaves the same objects, at whatever times it runs and however the caches
lag (`run_overNode_enumeration`).
-/

namespace CordonWatch.Store.Memory

variable {view : View} {clock clock' : Memory → Instant} {lags lags' : Memory → Bool}
  {m s : Memory}

/-- A pass by name is the same over both servers. -/
theorem parallel_overNode (hclock : view.SameClock clock clock') {config : Pass.Config}
    (horder : config.order = .name) (name : String)
    (h : SideBySide view Table.empty Table.empty m s) (hindex : s.index = m.index) :
    Parallel (handlerUnder clock lags) (handlerUnder clock' lags') (Alike view)
      (fun outcome outcome' m' s' => outcome' = outcome ∧ Alike view m' s')
      (Pass.overNode config name) (Pass.overNode config name) m s := by
  refine h.ask rfl (fun e {_ _} h₁ => Parallel.error e h₁.toAlike)
    fun {m₁ s₁} h₁ _ _ hm₁ hs₁ => ?_
  simp only [perform]
  rw [h₁.nodes]
  cases m₁.nodes.find? (·.name = name) with
  | none => exact Parallel.note (Parallel.ok ⟨rfl, (h₁.record _ _).toAlike⟩)
  | some node =>
    dsimp only
    split
    · exact Parallel.ok ⟨rfl, h₁.toAlike⟩
    refine Parallel.note (Parallel.note ?_)
    refine ((h₁.record _ _).record _ _).ask rfl (fun e {_ _} h₂ => Parallel.error e h₂.toAlike)
      fun {m₂ s₂} h₂ _ _ hm₂ hs₂ => ?_
    -- Both passes list the pods before they write any, so their indexes are still the same.
    have hindex₂ : s₂.index = m₂.index :=
      hs₂.trans (hs₁.trans (hindex.trans (hm₁.symm.trans hm₂.symm)))
    simp only [perform]
    rw [hindex₂, horder]
    refine (parallel_handlePods hclock name (m₂.index.podsOn name) false h₂).bind (fun _ => rfl)
      (fun _ => rfl) fun {changed changed' m₃ s₃} hpods => ?_
    obtain ⟨rfl, h₃⟩ := hpods
    dsimp only
    split
    · exact Parallel.ok ⟨rfl, h₃⟩
    · exact Parallel.ok ⟨rfl, h₃⟩

/-! ### Two lists of the same autoscalers -/

/-- Two states have the same objects, as far as they are looked at and but for the order
of the autoscalers, and the same calls were made in the same order. -/
structure Same (view : View) (m s : Memory) : Prop where
  nodes : s.nodes = m.nodes
  budgets : s.budgets = m.budgets
  pods : s.pods.map view.pod = m.pods.map view.pod
  autoscalers : (s.autoscalers.map view.autoscaler).Perm (m.autoscalers.map view.autoscaler)
  calls : s.calls.map view.call = m.calls.map view.call

theorem Alike.same (h : Alike view m s) : Same view m s where
  nodes := h.nodes
  budgets := h.budgets
  pods := h.pods
  autoscalers := by
    have hperm := Shelf.perm_map_of_at? h.distinct h.distinct' (fun _ => true)
      view.placeOf_autoscaler fun place _ => h.autoscalers place
    rwa [List.filter_true, List.filter_true] at hperm
  calls := h.calls

/-- Before a pass, two lists of the same autoscalers are side by side. -/
theorem SideBySide.start {listed cached : Shelf Autoscaler} (hlisted : listed.Perm m.autoscalers)
    (hcached : cached.Perm m.cached) (hdistinct : (Shelf.places m.autoscalers).Nodup)
    (hdistinct' : (Shelf.places m.cached).Nodup) :
    SideBySide view Table.empty Table.empty m { m with autoscalers := listed, cached } := by
  have hat : ∀ {l l' : Shelf Autoscaler}, l'.Perm l → (Shelf.places l).Nodup → ∀ place,
      Shelf.at? place l' = Shelf.at? place l := by
    intro l l' hperm hl place
    have hplaces : (Shelf.places l').Perm (Shelf.places l) := hperm.map placeOf
    refine Shelf.at?_eq_of_perm hl (hplaces.nodup_iff.mpr hl) (fun _ => true) ?_ rfl
    rwa [List.filter_true, List.filter_true]
  have hlistedPlaces : (Shelf.places listed).Perm (Shelf.places m.autoscalers) :=
    hlisted.map placeOf
  constructor
  case toAlike =>
    exact ⟨rfl, rfl, rfl, hdistinct, hlistedPlaces.nodup_iff.mpr hdistinct,
      fun place => by rw [hat hlisted hdistinct place], rfl, rfl, rfl⟩
  case cachedOnce => exact hdistinct'
  case cachedPlaces => exact hcached.map placeOf
  case cachedElsewhere => exact fun ns name _ => hat hcached hdistinct' ⟨some ns, name⟩
  case remembered => exact fun _ => rfl
  case inPlace =>
    intro ns name a ha
    rw [Table.find?_empty] at ha
    cases ha

/-- With autoscalers tried by name, passes over servers that list the same autoscalers in
different orders, in the caches and elsewhere, make the same calls, end with the same
outcome or failure and leave the same objects, whatever faults are scheduled and however
the caches lag. The calls and objects are the same but for times, and entirely if the
clocks read the same. The evictions are recorded on the autoscalers that govern the pods,
which are those of the least names that qualify. -/
theorem run_overNode_enumeration {config : Pass.Config} (horder : config.order = .name)
    (name : String) {listed cached : Shelf Autoscaler} (hlisted : listed.Perm m.autoscalers)
    (hcached : cached.Perm m.cached) (hdistinct : (Shelf.places m.autoscalers).Nodup)
    (hdistinct' : (Shelf.places m.cached).Nodup) (clock clock' : Memory → Instant)
    (lags lags' : Memory → Bool) :
    ∃ result m' s', (Pass.overNode config name).run (handlerUnder clock lags) m = (result, m') ∧
      (Pass.overNode config name).run (handlerUnder clock' lags')
        { m with autoscalers := listed, cached } = (result, s') ∧
      Same .timeless m' s' ∧
      ((∀ t t' : Memory, t'.now = t.now → t'.calls = t.calls → clock' t' = clock t) →
        Same .exact m' s') ∧
      Records ((m.faultless.due .name name).map evictionOf) m (result, m') ∧
      ∀ pod, m.LeastQualifying pod (m.faultless.governor .name pod) := by
  have hrecords := records_overNode clock lags config name m
  rw [horder] at hrecords
  have hparallel : ∀ view : View, view.SameClock clock clock' →
      Parallel (handlerUnder clock lags) (handlerUnder clock' lags') (Alike view)
        (fun outcome outcome' m' s' => outcome' = outcome ∧ Alike view m' s')
        (Pass.overNode config name) (Pass.overNode config name) m
        { m with autoscalers := listed, cached } := fun view hclock =>
    parallel_overNode hclock horder name
      (SideBySide.start hlisted hcached hdistinct hdistinct') rfl
  unfold Parallel at hparallel
  generalize (Pass.overNode config name).run (handlerUnder clock lags) m = left
    at hrecords hparallel ⊢
  generalize (Pass.overNode config name).run (handlerUnder clock' lags')
    { m with autoscalers := listed, cached } = right at hparallel ⊢
  have hsame : ∀ view : View, view.SameClock clock clock' →
      right.1 = left.1 ∧ Same view left.2 right.2 := by
    intro view hclock
    rcases hparallel view hclock with ⟨outcome, _, hm, hs, rfl, halike⟩ | ⟨e, hm, hs, halike⟩
    · exact ⟨hs.trans hm.symm, halike.same⟩
    · exact ⟨hs.trans hm.symm, halike.same⟩
  obtain ⟨hresult, htimeless⟩ := hsame .timeless (View.sameClock_timeless clock clock')
  exact ⟨left.1, left.2, right.2, rfl, Prod.ext hresult rfl, htimeless,
    fun hclock => (hsame .exact (View.sameClock_exact hclock)).2, hrecords,
    leastQualifying_governor m⟩

/-- A cordoned node with two pods that two autoscalers could govern, of which the first
by name is listed last. The second write of an autoscaler is refused. -/
def contested : Memory :=
  { rivals with
    faults := [{ on := .updateAutoscaler, skip := 1, failure := .conflict "changed" }] }

/-- A pass over that node is the same where the autoscalers are listed the other way round. -/
theorem run_overNode_enumeration_contested :
    contested.autoscalers.map Autoscaler.name = ["web", "app"] ∧
    contested.autoscalers.reverse.Perm contested.autoscalers ∧
    contested.cached.reverse.Perm contested.cached ∧
    (Shelf.places contested.autoscalers).Nodup ∧ (Shelf.places contested.cached).Nodup ∧
    ∃ result m' s', contested.pass { order := .name } "n1" = (result, m') ∧
      { contested with
        autoscalers := contested.autoscalers.reverse
        cached := contested.cached.reverse }.pass { order := .name } "n1" = (result, s') ∧
      Same .timeless m' s' ∧ Same .exact m' s' ∧
      Records ((contested.faultless.due .name "n1").map evictionOf) contested (result, m') ∧
      ∀ pod, contested.LeastQualifying pod (contested.faultless.governor .name pod) := by
  have hlisted : contested.autoscalers.reverse.Perm contested.autoscalers := List.reverse_perm _
  have hcached : contested.cached.reverse.Perm contested.cached := List.reverse_perm _
  have hdistinct : (Shelf.places contested.autoscalers).Nodup := by decide +kernel
  have hdistinct' : (Shelf.places contested.cached).Nodup := by decide +kernel
  obtain ⟨result, m', s', hm, hs, htimeless, hexact, hrecords, hleast⟩ :=
    @run_overNode_enumeration contested { order := .name } rfl "n1" _ _ hlisted hcached hdistinct
      hdistinct' now now lag lag
  exact ⟨rfl, hlisted, hcached, hdistinct, hdistinct', result, m', s', hm, hs, htimeless,
    hexact fun _ _ hnow _ => hnow, hrecords, hleast⟩

end CordonWatch.Store.Memory
