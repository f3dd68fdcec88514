import CordonWatch.Proofs.Pass.Writing
import Mathlib.Data.List.Forall2

/-!
# Two passes side by side

Two servers that differ in the order of their autoscalers alone answer a pass
alike, but the two passes drift apart in more than that: they run at different
times, and the caches of one may follow its writes where those of the other do
not. What stays alike is said by `Alike` of the servers and of the calls made, and
by `SideBySide` of all that the rest of a pass depends on: what the two remember of
their writes, the faults to come, and the places of the cached autoscalers.

All this is said of what a `View` shows of objects and calls.

`Parallel` relates two programs, each in its state: either both succeed with results
that fit together, or both end with the same failure. One rule for each way in which
programs are built (`Parallel.ask`, `Parallel.bind`) leads from one call
(`SideBySide.ask`) to the loop over all pods (`parallel_handlePods`).
-/

namespace CordonWatch.Store

/-! ### Programs side by side -/

section

variable {α β γ δ σ τ : Type} {h : Program.Handler Call Call.Answer σ}
  {h' : Program.Handler Call Call.Answer τ} {s : σ} {t : τ}

/-- Two runs both succeed, or both fail alike. -/
def Parallel (h : Program.Handler Call Call.Answer σ) (h' : Program.Handler Call Call.Answer τ)
    (failed : σ → τ → Prop) (good : α → β → σ → τ → Prop) (p : Attempt α) (q : Attempt β)
    (s : σ) (t : τ) : Prop :=
  (∃ a b, (p.run h s).1 = .ok a ∧ (q.run h' t).1 = .ok b ∧
    good a b (p.run h s).2 (q.run h' t).2) ∨
  ∃ e, (p.run h s).1 = .error e ∧ (q.run h' t).1 = .error e ∧
    failed (p.run h s).2 (q.run h' t).2

variable {failed : σ → τ → Prop} {good : α → β → σ → τ → Prop} {good' : γ → δ → σ → τ → Prop}
  {p : Attempt α} {q : Attempt β}

theorem Parallel.ok {a : α} {b : β} (hgood : good a b s t) :
    Parallel h h' failed good (.done (.ok a)) (.done (.ok b)) s t :=
  Or.inl ⟨a, b, rfl, rfl, hgood⟩

theorem Parallel.error (e : Failure) (hfailed : failed s t) :
    Parallel h h' failed good (.done (.error e)) (.done (.error e)) s t :=
  Or.inr ⟨e, rfl, rfl, hfailed⟩

theorem Parallel.note {entry entry' : Note}
    (hnext : Parallel h h' failed good p q (h.record entry s) (h'.record entry' t)) :
    Parallel h h' failed good (.note entry p) (.note entry' q) s t :=
  hnext

theorem Parallel.readClock {next : Instant → Attempt α} {next' : Instant → Attempt β}
    (hnext : Parallel h h' failed good (next (h.clock s)) (next' (h'.clock t)) s t) :
    Parallel h h' failed good (.readClock next) (.readClock next') s t :=
  hnext

/-- Programs that begin with a call go on side by side if they do after its answers. -/
theorem Parallel.ask {call call' : Call} {next : call.Answer → Attempt α}
    {next' : call'.Answer → Attempt β}
    (hnext : Parallel h h' failed good (next (h.answer call s).1) (next' (h'.answer call' t).1)
      (h.answer call s).2 (h'.answer call' t).2) :
    Parallel h h' failed good (.ask call next) (.ask call' next') s t :=
  hnext

/-- Two programs in a row stay side by side if the second ones hand on a failure, and go
on side by side where the first ones succeed. -/
theorem Parallel.bind {f : Except Failure α → Attempt γ} {g : Except Failure β → Attempt δ}
    (hfirst : Parallel h h' failed good p q s t)
    (hf : ∀ e, f (.error e) = .done (.error e)) (hg : ∀ e, g (.error e) = .done (.error e))
    (hnext : ∀ {a b s t}, good a b s t →
      Parallel h h' failed good' (f (.ok a)) (g (.ok b)) s t) :
    Parallel h h' failed good' (p.bind f) (q.bind g) s t := by
  unfold Parallel
  rw [Program.run_bind, Program.run_bind]
  rcases hfirst with ⟨a, b, hp, hq, hgood⟩ | ⟨e, hp, hq, hfailed⟩
  · rw [hp, hq]
    exact hnext hgood
  · rw [hp, hq, hf, hg]
    exact Or.inr ⟨e, rfl, rfl, hfailed⟩

end

/-! ### Servers and passes side by side -/

namespace Memory

/-- Two servers have the same objects, but for the order of the autoscalers, and met
with the same calls. -/
structure Alike (view : View) (m s : Memory) : Prop where
  nodes : s.nodes = m.nodes
  budgets : s.budgets = m.budgets
  pods : s.pods.map view.pod = m.pods.map view.pod
  distinct : (Shelf.places m.autoscalers).Nodup
  distinct' : (Shelf.places s.autoscalers).Nodup
  autoscalers : ∀ place, (Shelf.at? place s.autoscalers).map view.autoscaler
    = (Shelf.at? place m.autoscalers).map view.autoscaler
  faults : s.faults = m.faults
  calls : s.calls.map view.call = m.calls.map view.call
  now : s.now = m.now

/-- What two passes have come to that began with the same autoscalers in their caches,
in whatever order, and what they remember of their writes. -/
structure SideBySide (view : View) (written written' : Pass.Written) (m s : Memory) : Prop
    extends Alike view m s where
  cachedOnce : (Shelf.places m.cached).Nodup
  cachedPlaces : (Shelf.places s.cached).Perm (Shelf.places m.cached)
  /-- The caches may differ in what was written. -/
  cachedElsewhere : ∀ ns name, written.find? ⟨ns, name⟩ = none →
    Shelf.at? ⟨some ns, name⟩ s.cached = Shelf.at? ⟨some ns, name⟩ m.cached
  remembered : ∀ key, (written'.find? key).map view.autoscaler
    = (written.find? key).map view.autoscaler
  inPlace : ∀ ns name a, written.find? ⟨ns, name⟩ = some a → placeOf a = ⟨some ns, name⟩

variable {view : View} {clock clock' : Memory → Instant} {lags lags' : Memory → Bool}
  {m m' s s' : Memory} {written written' : Pass.Written}

/-- Nothing else that is alike depends on the calls made, on the lag or on the faults. -/
theorem SideBySide.asked (h : SideBySide view written written' m s) (calls calls' : List Call)
    (lag lag' : Bool) (faults : List (Fault Call.Kind Failure))
    (hcalls : calls'.map view.call = calls.map view.call) :
    SideBySide view written written' { m with calls, lag, faults }
      { s with calls := calls', lag := lag', faults } where
  nodes := h.nodes
  budgets := h.budgets
  pods := h.pods
  distinct := h.distinct
  distinct' := h.distinct'
  autoscalers := h.autoscalers
  faults := rfl
  calls := hcalls
  now := h.now
  cachedOnce := h.cachedOnce
  cachedPlaces := h.cachedPlaces
  cachedElsewhere := h.cachedElsewhere
  remembered := h.remembered
  inPlace := h.inPlace

theorem SideBySide.record (h : SideBySide view written written' m s) (entry entry' : Note) :
    SideBySide view written written' ((handlerUnder clock lags).record entry m)
      ((handlerUnder clock' lags').record entry' s) := by
  cases entry <;> cases entry' <;>
    exact ⟨⟨h.nodes, h.budgets, h.pods, h.distinct, h.distinct', h.autoscalers, h.faults,
      h.calls, h.now⟩,
      h.cachedOnce, h.cachedPlaces, h.cachedElsewhere, h.remembered, h.inPlace⟩

/-- Calls that look the same meet with the same fault, or are both performed. -/
theorem SideBySide.ask {α β : Type} {good : α → β → Memory → Memory → Prop} {call call' : Call}
    {next : call.Answer → Attempt α} {next' : call'.Answer → Attempt β}
    (h : SideBySide view written written' m s) (hcall : view.call call' = view.call call)
    (hfailed : ∀ e {m₁ s₁ : Memory}, SideBySide view written written' m₁ s₁ →
      Parallel (handlerUnder clock lags) (handlerUnder clock' lags') (Alike view) good
        (next (.error e)) (next' (.error e)) m₁ s₁)
    (hnext : ∀ {m₁ s₁ : Memory}, SideBySide view written written' m₁ s₁ →
      m₁.cached = m.cached → s₁.cached = s.cached → m₁.index = m.index → s₁.index = s.index →
      Parallel (handlerUnder clock lags) (handlerUnder clock' lags') (Alike view) good
        (next (m₁.perform call).1) (next' (s₁.perform call').1) (m₁.perform call).2
        (s₁.perform call').2) :
    Parallel (handlerUnder clock lags) (handlerUnder clock' lags') (Alike view) good
      (.ask call next) (.ask call' next') m s := by
  -- Faults are scheduled by kind, and calls that look the same are of one kind.
  have hkind : call'.kind = call.kind := by rw [← view.kind_call, hcall, view.kind_call]
  have hcalls : (s.calls ++ [call']).map view.call = (m.calls ++ [call]).map view.call := by
    rw [List.map_append, List.map_append, h.calls, List.map_cons, List.map_cons, hcall]
  have hasked := h.asked (m.calls ++ [call]) (s.calls ++ [call']) (lags m) (lags' s)
    (Fault.meet call.kind m.faults).2 hcalls
  refine Parallel.ask ?_
  simp only [handlerUnder, answer, hkind, h.faults]
  cases (Fault.meet call.kind m.faults).1 with
  | some e => exact hfailed e hasked
  | none => exact hnext hasked rfl rfl rfl rfl

/-! ### The search for an autoscaler -/

/-- The copies that two caches have of an autoscaler of a namespace. -/
structure Paired (ns : String) (m s : Memory) (a b : Autoscaler) : Prop where
  cached : a ∈ m.cached
  cached' : b ∈ s.cached
  ns : a.metadata.ns = some ns
  place : placeOf b = placeOf a

/-- Two searches found copies of one autoscaler, or both found none. -/
structure FoundAlike (view : View) (written written' : Pass.Written)
    (fits : Autoscaler → Autoscaler → Prop) (cached cached' : Shelf Autoscaler)
    (found found' : Option Autoscaler) (m s : Memory) : Prop where
  sideBySide : SideBySide view written written' m s
  cached : m.cached = cached
  cached' : s.cached = cached'
  found : Option.Rel fits found found'

/-- Trying autoscalers of the same names finds those at the same position. -/
theorem parallel_firstGoverning (ns : String) (labels : Table String String)
    {fits : Autoscaler → Autoscaler → Prop} (hname : ∀ {a b}, fits a b → b.name = a.name)
    {cached cached' : Shelf Autoscaler} {l l' : List Autoscaler} (hl : List.Forall₂ fits l l') :
    ∀ {m s : Memory}, SideBySide view written written' m s → m.cached = cached →
      s.cached = cached' → Parallel (handlerUnder clock lags) (handlerUnder clock' lags')
        (Alike view) (FoundAlike view written written' fits cached cached')
        (Pass.firstGoverning ns labels l) (Pass.firstGoverning ns labels l') m s := by
  induction hl with
  | nil => exact fun h hm hs => Parallel.ok ⟨h, hm, hs, .none⟩
  | @cons a b rest rest' hab _ ih =>
    intro m s h hm hs
    refine h.ask (by rw [hname hab]) (fun e {_ _} h₁ => Parallel.error e h₁.toAlike)
      fun {m₁ s₁} h₁ hm₁ hs₁ _ _ => ?_
    -- What is left of the two lists is searched, with a line of the log more or not.
    have hrest : ∀ {m₂ s₂ : Memory}, SideBySide view written written' m₂ s₂ →
        m₂.cached = m₁.cached → s₂.cached = s₁.cached →
        Parallel (handlerUnder clock lags) (handlerUnder clock' lags') (Alike view)
          (FoundAlike view written written' fits cached cached')
          (Pass.firstGoverning ns labels rest) (Pass.firstGoverning ns labels rest') m₂ s₂ :=
      fun h₂ hm₂ hs₂ => ih h₂ (hm₂.trans (hm₁.trans hm)) (hs₂.trans (hs₁.trans hs))
    simp only [perform]
    rw [hname hab, h₁.budgets]
    cases Shelf.at? ⟨some ns, a.name⟩ m₁.budgets with
    | none => exact Parallel.note (hrest (h₁.record _ _) rfl rfl)
    | some budget =>
      dsimp only
      cases Selector.parse budget.selector with
      | error defect => exact Parallel.note (hrest (h₁.record _ _) rfl rfl)
      | ok selector =>
        dsimp only
        cases selector.matchesLabels labels with
        | true => exact Parallel.ok ⟨h₁, hm₁.trans hm, hs₁.trans hs, .some hab⟩
        | false => exact hrest h₁ rfl rfl

/-- By name, copies of the same autoscalers are tried in the same order. -/
theorem SideBySide.candidates (h : SideBySide view written written' m s) (pod : Pod) :
    List.Forall₂ (Paired pod.nsOrDefault m s) (m.candidates .name pod)
      (s.candidates .name pod) := by
  have hplaces : (s.candidates .name pod).map placeOf = (m.candidates .name pod).map placeOf := by
    rw [map_placeOf_candidates, map_placeOf_candidates]
    dsimp only
    -- In one namespace places are told by their names, so sorting forgets how they are listed.
    refine mergeSort_eq_of_perm Place.name (h.cachedPlaces.filter _) fun a ha b hb hname => ?_
    have hns : ∀ c ∈ (Shelf.places m.cached).filter (·.ns = some pod.nsOrDefault),
        c.ns = some pod.nsOrDefault := fun c hc => of_decide_eq_true (List.mem_filter.mp hc).2
    exact Place.ext ((hns a ha).trans (hns b hb).symm) hname
  have hpaired : List.Forall₂ (fun a b => placeOf b = placeOf a) (m.candidates .name pod)
      (s.candidates .name pod) := by
    have hmaps : List.Forall₂ (fun p q : Place => q = p) ((m.candidates .name pod).map placeOf)
        ((s.candidates .name pod).map placeOf) := by
      rw [hplaces]
      exact List.forall₂_same.mpr fun _ _ => rfl
    exact List.forall₂_map_right_iff.mp (List.forall₂_map_left_iff.mp hmaps)
  have hmem : ∀ {t : Memory}, ∀ a ∈ t.candidates .name pod,
      a ∈ t.cached ∧ a.metadata.ns = some pod.nsOrDefault := fun a ha => mem_candidates.mp ha
  have hleft := (List.forall₂_and_left _ _).mpr ⟨hmem, hpaired⟩
  have hboth := (List.forall₂_and_left _ _).mpr ⟨hmem, hleft.flip⟩
  refine hboth.flip.imp fun a b h => ?_
  obtain ⟨⟨hb, _⟩, ⟨ha, hns⟩, hplace⟩ := h
  exact ⟨ha, hb, hns, hplace⟩

/-- By name, the searches for the autoscaler of a pod find copies of the same one. -/
theorem parallel_findPolicy (pod : Pod) (h : SideBySide view written written' m s) :
    Parallel (handlerUnder clock lags) (handlerUnder clock' lags') (Alike view)
      (FoundAlike view written written' (Paired pod.nsOrDefault m s) m.cached s.cached)
      (Pass.findPolicy .name pod) (Pass.findPolicy .name pod) m s := by
  refine h.ask rfl (fun e {_ _} h₁ => Parallel.error e h₁.toAlike)
    fun {m₁ s₁} h₁ hm₁ hs₁ _ _ => ?_
  simp only [perform]
  rw [hm₁, hs₁]
  have hsearch := @parallel_firstGoverning view clock clock' lags lags' written written'
    pod.nsOrDefault pod.metadata.labelTable _ (fun hab => congrArg Place.name hab.place)
    m.cached s.cached _ _ (h.candidates pod) m₁ s₁ h₁ hm₁ hs₁
  refine hsearch.bind (fun _ => rfl) (fun _ => rfl) fun {found found' m₂ s₂} hfound => ?_
  cases hfound.found with
  | none =>
    refine Parallel.note (Parallel.ok ?_)
    exact ⟨hfound.sideBySide.record _ _, hfound.cached, hfound.cached', .none⟩
  | some hab =>
    exact Parallel.ok ⟨hfound.sideBySide, hfound.cached, hfound.cached', .some hab⟩

/-! ### Writes side by side -/

/-- Pods that are alike are put on both servers. -/
theorem SideBySide.putPod (h : SideBySide view written written' m s) {pod pod' : Pod}
    (hpod : view.pod pod' = view.pod pod) :
    SideBySide view written written' (m.putPod pod) (s.putPod pod') ∧
      (m.putPod pod).cached = m.cached ∧ (s.putPod pod').cached = s.cached := by
  obtain ⟨index, logs, hm⟩ := putPod_eq m pod
  obtain ⟨index', logs', hs⟩ := putPod_eq s pod'
  rw [hm, hs]
  have hpods : (Shelf.put pod' s.pods).map view.pod
      = (Shelf.put pod m.pods).map view.pod := by
    rw [Shelf.map_put view.placeOf_pod, Shelf.map_put view.placeOf_pod, hpod, h.pods]
  exact ⟨⟨⟨h.nodes, h.budgets, hpods, h.distinct, h.distinct', h.autoscalers, h.faults,
      h.calls, h.now⟩,
    h.cachedOnce, h.cachedPlaces, h.cachedElsewhere, h.remembered, h.inPlace⟩, rfl, rfl⟩

/-- Statuses that are alike are accepted by both servers or by neither. -/
theorem SideBySide.updatePodStatus (h : SideBySide view written written' m s) {pod pod' : Pod}
    (hpod : view.pod pod' = view.pod pod) :
    (s.updatePodStatus pod').1 = (m.updatePodStatus pod).1 ∧
      SideBySide view written written' (m.updatePodStatus pod).2 (s.updatePodStatus pod').2 ∧
      (m.updatePodStatus pod).2.cached = m.cached ∧
      (s.updatePodStatus pod').2.cached = s.cached := by
  have hplace : placeOf pod' = placeOf pod := view.placeOf_eq_of_pod hpod
  have hversion : versionOf pod' = versionOf pod := view.versionOf_eq_of_pod hpod
  have hat : (Shelf.at? (placeOf pod) s.pods).map view.pod
      = (Shelf.at? (placeOf pod) m.pods).map view.pod := by
    rw [← Shelf.at?_map view.placeOf_pod, ← Shelf.at?_map view.placeOf_pod, h.pods]
  unfold Memory.updatePodStatus
  rw [hplace, hversion]
  cases hm : Shelf.at? (placeOf pod) m.pods with
  | none =>
    rw [hm] at hat
    rw [Option.map_eq_none_iff.mp hat]
    exact ⟨rfl, h, rfl, rfl⟩
  | some stored =>
    rw [hm] at hat
    obtain ⟨stored', hs, hstored⟩ := Option.map_eq_some_iff.mp hat
    have hversions : versionOf stored' = versionOf stored := view.versionOf_eq_of_pod hstored
    rw [hs]
    dsimp only
    rw [hversions]
    -- Both are written over the version they were read in, or neither is.
    split
    · exact ⟨rfl, h, rfl, rfl⟩
    · have hwritten := view.pod_stored (some (nextVersion (versionOf stored))) hpod hstored
      exact ⟨rfl, h.putPod hwritten⟩

/-- Autoscalers that are alike are put on both servers, and remembered. -/
theorem SideBySide.putAutoscaler (h : SideBySide view written written' m s) {a a' : Autoscaler}
    (ha : view.autoscaler a' = view.autoscaler a) {ns name : String}
    (hplace : placeOf a = ⟨some ns, name⟩) {old old' : Autoscaler}
    (hold : Shelf.at? (placeOf a) m.autoscalers = some old)
    (hold' : Shelf.at? (placeOf a) s.autoscalers = some old')
    (hthere : placeOf a ∈ Shelf.places m.cached) :
    SideBySide view (written.insert ⟨ns, name⟩ a) (written'.insert ⟨ns, name⟩ a')
      (m.putAutoscaler a) (s.putAutoscaler a') := by
  have hplace' : placeOf a' = placeOf a := view.placeOf_eq_of_autoscaler ha
  have hthere' : placeOf a' ∈ Shelf.places s.cached :=
    hplace' ▸ h.cachedPlaces.mem_iff.mpr hthere
  obtain ⟨cached, hcached, hm⟩ := putAutoscaler_eq m a
  obtain ⟨cached', hcached', hs⟩ := putAutoscaler_eq s a'
  rw [hm, hs]
  have hother : ∀ {ns' name'}, (⟨ns, name⟩ : ObjectKey) ≠ ⟨ns', name'⟩ →
      placeOf a ≠ ⟨some ns', name'⟩ := by
    intro ns' name' hne he
    obtain ⟨hns, rfl⟩ := Place.mk.inj (hplace.symm.trans he)
    exact hne (by rw [Option.some.inj hns])
  constructor
  case toAlike =>
    refine ⟨h.nodes, h.budgets, h.pods, ?_, ?_, fun place => ?_, h.faults, h.calls, h.now⟩
    · rw [Shelf.places_put hold]
      exact h.distinct
    · rw [Shelf.places_put (hplace' ▸ hold')]
      exact h.distinct'
    · rw [Shelf.at?_put, Shelf.at?_put, hplace']
      split
      · exact congrArg some ha
      · exact h.autoscalers place
  case cachedOnce =>
    rw [places_putAutoscaler hcached hthere]
    exact h.cachedOnce
  case cachedPlaces =>
    rw [places_putAutoscaler hcached hthere, places_putAutoscaler hcached' hthere']
    exact h.cachedPlaces
  case cachedElsewhere =>
    intro ns' name' hnone
    rw [Table.find?_insert] at hnone
    split at hnone
    · cases hnone
    next hne =>
      rw [at?_putAutoscaler hcached (hother hne), at?_putAutoscaler hcached' (hplace' ▸ hother hne),
        h.cachedElsewhere ns' name' hnone]
  case remembered =>
    intro key
    rw [Table.find?_insert, Table.find?_insert]
    split
    · exact congrArg some ha
    · exact h.remembered key
  case inPlace =>
    intro ns' name' b hb
    rw [Table.find?_insert] at hb
    split at hb
    next he =>
      obtain ⟨rfl, rfl⟩ := ObjectKey.mk.inj he
      rw [← Option.some.inj hb, hplace]
    next => exact h.inPlace ns' name' b hb

/-- Autoscalers that are alike are accepted by both servers or by neither. -/
theorem SideBySide.updateAutoscaler (h : SideBySide view written written' m s) {a a' : Autoscaler}
    (ha : view.autoscaler a' = view.autoscaler a) {ns name : String}
    (hplace : placeOf a = ⟨some ns, name⟩)
    (hthere : placeOf a ∈ Shelf.places m.cached) :
    (∃ e, m.updateAutoscaler a = (.error e, m) ∧ s.updateAutoscaler a' = (.error e, s)) ∨
    ∃ stored stored', (m.updateAutoscaler a).1 = .ok stored ∧
      (s.updateAutoscaler a').1 = .ok stored' ∧
      SideBySide view (written.insert ⟨ns, name⟩ stored) (written'.insert ⟨ns, name⟩ stored')
        (m.updateAutoscaler a).2 (s.updateAutoscaler a').2 := by
  have hplace' : placeOf a' = placeOf a := view.placeOf_eq_of_autoscaler ha
  have hversion : versionOf a' = versionOf a := view.versionOf_eq_of_autoscaler ha
  have hat := h.autoscalers (placeOf a)
  unfold Memory.updateAutoscaler
  rw [hplace', hversion]
  cases hm : Shelf.at? (placeOf a) m.autoscalers with
  | none =>
    rw [hm] at hat
    rw [Option.map_eq_none_iff.mp hat]
    exact Or.inl ⟨_, rfl, rfl⟩
  | some old =>
    rw [hm] at hat
    obtain ⟨old', hs, hold⟩ := Option.map_eq_some_iff.mp hat
    have hversions : versionOf old' = versionOf old := view.versionOf_eq_of_autoscaler hold
    rw [hs]
    dsimp only
    rw [hversions]
    split
    · exact Or.inl ⟨_, rfl, rfl⟩
    · have hstored := view.autoscaler_stored (some (nextVersion (versionOf old))) ha
      exact Or.inr ⟨_, _, rfl, rfl, h.putAutoscaler hstored hplace hm hs hthere⟩

/-! ### Pods handled side by side -/

/-- A pod is marked by both passes. -/
theorem parallel_markPod (hclock : view.SameClock clock clock') (ns : String) (pod : Pod)
    (h : SideBySide view written written' m s) :
    Parallel (handlerUnder clock lags) (handlerUnder clock' lags') (Alike view)
      (fun _ _ m' s' => SideBySide view written written' m' s' ∧ m'.cached = m.cached ∧
        s'.cached = s.cached) (Pass.markPod ns pod) (Pass.markPod ns pod) m s := by
  have hchanged := pod.changed_evictionAnticipated (clock' s) (clock m)
  have halike := view.pod_marked pod (hclock m s h.now h.calls)
  unfold Pass.markPod
  refine Parallel.readClock ?_
  rw [show (handlerUnder clock lags).clock m = clock m from rfl,
    show (handlerUnder clock' lags').clock s = clock' s from rfl]
  dsimp only
  rw [hchanged]
  split
  · refine h.ask (congrArg Call.updatePodStatus halike) (fun e {_ _} h₁ => ?_)
      fun {m₁ s₁} h₁ hm₁ hs₁ _ _ => ?_
    · exact Parallel.note (Parallel.error e (h₁.record _ _).toAlike)
    · obtain ⟨hsame, h₂, hm₂, hs₂⟩ := h₁.updatePodStatus halike
      simp only [perform]
      rw [hsame]
      cases (m₁.updatePodStatus (pod.setCondition (.evictionAnticipated (clock m))).1).1 with
      | error e => exact Parallel.note (Parallel.error e (h₂.record _ _).toAlike)
      | ok result => exact Parallel.ok ⟨h₂, hm₂.trans hm₁, hs₂.trans hs₁⟩
  · exact Parallel.ok ⟨h, rfl, rfl⟩

/-- The two passes build the next write of an autoscaler on what is alike. -/
theorem SideBySide.latest (h : SideBySide view written written' m s) {ns : String}
    {policy policy' : Autoscaler} (hpolicy : Paired ns m s policy policy') :
    view.autoscaler ((written'.find? ⟨ns, policy'.name⟩).getD policy')
        = view.autoscaler ((written.find? ⟨ns, policy.name⟩).getD policy) ∧
      placeOf ((written.find? ⟨ns, policy.name⟩).getD policy) = ⟨some ns, policy.name⟩ := by
  have hname : policy'.name = policy.name := congrArg Place.name hpolicy.place
  have hplace : placeOf policy = ⟨some ns, policy.name⟩ := Place.ext hpolicy.ns rfl
  have hremembered := h.remembered ⟨ns, policy.name⟩
  rw [hname]
  cases hw : written.find? ⟨ns, policy.name⟩ with
  | none =>
    rw [hw] at hremembered
    rw [Option.map_eq_none_iff.mp hremembered]
    -- Nothing was written there, so both caches have what they began with.
    have hcached := h.cachedElsewhere ns policy.name hw
    have hleft := Shelf.at?_of_mem h.cachedOnce hpolicy.cached
    have hright := Shelf.at?_of_mem (h.cachedPlaces.nodup_iff.mpr h.cachedOnce) hpolicy.cached'
    rw [hpolicy.place, hplace, hcached, ← hplace, hleft] at hright
    obtain rfl := Option.some.inj hright
    exact ⟨rfl, hplace⟩
  | some a =>
    rw [hw] at hremembered
    obtain ⟨a', hw', ha'⟩ := Option.map_eq_some_iff.mp hremembered
    rw [hw']
    exact ⟨ha', h.inPlace ns policy.name a hw⟩

/-- An eviction is recorded by both passes. -/
theorem parallel_recordEviction (hclock : view.SameClock clock clock') (ns : String) (pod : Pod)
    {policy policy' : Autoscaler} (h : SideBySide view written written' m s)
    (hpolicy : Paired ns m s policy policy') :
    Parallel (handlerUnder clock lags) (handlerUnder clock' lags') (Alike view) (SideBySide view)
      (Pass.recordEviction ns pod policy written) (Pass.recordEviction ns pod policy' written')
      m s := by
  obtain ⟨hlatest, hplace⟩ := h.latest hpolicy
  have hname : policy'.name = policy.name := congrArg Place.name hpolicy.place
  rw [recordEviction_eq, recordEviction_eq]
  refine Parallel.readClock ?_
  rw [show (handlerUnder clock lags).clock m = clock m from rfl,
    show (handlerUnder clock' lags').clock s = clock' s from rfl, hname]
  rw [hname] at hlatest
  generalize (written.find? ⟨ns, policy.name⟩).getD policy = latest at hlatest hplace ⊢
  generalize (written'.find? ⟨ns, policy.name⟩).getD policy' = latest' at hlatest ⊢
  have hnoting := view.autoscaler_noting pod hlatest (hclock m s h.now h.calls)
  refine h.ask (congrArg Call.updateAutoscaler hnoting) (fun e {_ _} h₁ => ?_)
    fun {m₁ s₁} h₁ hm₁ hs₁ _ _ => ?_
  · exact Parallel.note (Parallel.error e (h₁.record _ _).toAlike)
  · have hthere : placeOf (latest.noting pod (clock m)) ∈ Shelf.places m₁.cached := by
      have hpolicyPlace : placeOf policy = ⟨some ns, policy.name⟩ := Place.ext hpolicy.ns rfl
      rw [show placeOf (latest.noting pod (clock m)) = placeOf latest from rfl, hplace,
        ← hpolicyPlace, hm₁]
      exact List.mem_map_of_mem hpolicy.cached
    simp only [perform]
    rcases h₁.updateAutoscaler hnoting hplace hthere with
      ⟨e, hleft, hright⟩ | ⟨stored, stored', hleft, hright, h₂⟩
    · rw [hleft, hright]
      exact Parallel.note (Parallel.error e (h₁.record _ _).toAlike)
    · rw [hleft, hright]
      exact Parallel.ok h₂

/-- A pod is handled by both passes. -/
theorem parallel_handlePod (hclock : view.SameClock clock clock') (node : String) (pod : Pod)
    {policy policy' : Autoscaler} (h : SideBySide view written written' m s)
    (hpolicy : Paired pod.nsOrDefault m s policy policy') :
    Parallel (handlerUnder clock lags) (handlerUnder clock' lags') (Alike view) (SideBySide view)
      (Pass.handlePod node pod policy written) (Pass.handlePod node pod policy' written') m s := by
  unfold Pass.handlePod
  refine Parallel.note (Parallel.note (Parallel.bind
    (parallel_markPod hclock pod.nsOrDefault pod ((h.record _ _).record _ _)) (fun _ => rfl)
    (fun _ => rfl) fun {_ _ m₁ s₁} hmarked => ?_))
  obtain ⟨h₁, hm₁, hs₁⟩ := hmarked
  refine parallel_recordEviction hclock pod.nsOrDefault pod h₁ ⟨?_, ?_, hpolicy.ns, hpolicy.place⟩
  · rw [hm₁]
    exact hpolicy.cached
  · rw [hs₁]
    exact hpolicy.cached'

/-- The loop over the pods takes both passes the same way. -/
theorem parallel_handlePods (hclock : view.SameClock clock clock') (node : String)
    (pods : List Pod) : ∀ {written written' : Pass.Written} {m s : Memory} (changed : Bool),
      SideBySide view written written' m s →
      Parallel (handlerUnder clock lags) (handlerUnder clock' lags') (Alike view)
        (fun changed changed' m' s' => changed' = changed ∧ Alike view m' s')
        (Pass.handlePods .name node pods written changed)
        (Pass.handlePods .name node pods written' changed) m s := by
  induction pods with
  | nil => exact fun changed h => Parallel.ok ⟨rfl, h.toAlike⟩
  | cons pod rest ih =>
    intro written written' m s changed h
    rw [Pass.handlePods, Pass.handlePods]
    refine (parallel_findPolicy pod h).bind (fun _ => rfl) (fun _ => rfl)
      fun {found found' m₁ s₁} hfound => ?_
    obtain ⟨h₁, hm₁, hs₁, hpaired⟩ := hfound
    cases hpaired with
    | none => exact ih changed h₁
    | @some policy policy' hpolicy =>
      -- The search wrote nothing, so the caches still have what it found.
      have hpolicy₁ : Paired pod.nsOrDefault m₁ s₁ policy policy' :=
        ⟨hm₁ ▸ hpolicy.cached, hs₁ ▸ hpolicy.cached', hpolicy.ns, hpolicy.place⟩
      refine (parallel_handlePod hclock node pod h₁ hpolicy₁).bind (fun _ => rfl) (fun _ => rfl)
        fun {_ _ m₂ s₂} h₂ => ?_
      exact ih true h₂

end Memory

end CordonWatch.Store
