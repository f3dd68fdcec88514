import CordonWatch.Proofs.Pass.Writing

/-!
# The effect of a pass

What a whole pass over a node leaves behind, where no call meets with a fault,
nobody else writes, and the caches show what is on the server when the pass
begins. Whether they follow what the pass itself writes does not matter.

The pods that a pass is to handle, each with its autoscaler, are known before
it begins (`Memory.due`). `Effect` says all that changes while they are
handled one after the other: the pods are marked, each autoscaler is written
once for each of its pods and ends with the eviction of the last one, and all
else stays. The pass succeeds with exactly this effect
(`run_overNode_effect`); in particular no write of it is ever refused.

The loop over the pods carries `Midway`. Beside the effect of the pods that
have been handled it says what keeps the next write from being refused: what
the pass remembers of an autoscaler is what the server has, and of an
autoscaler of which it remembers nothing the cache has what the server has.
-/

namespace CordonWatch.Store.Memory

/-- No two pods have one key, and no two autoscalers stand at one place. -/
structure OnePerPlace (m : Memory) : Prop where
  pods : (m.pods.map Pod.key).Nodup
  autoscalers : (Shelf.places m.autoscalers).Nodup

/-- The caches show what is on the server: the index has the pods of each
node, by namespace and name, and the cached autoscalers are the ones there are. -/
structure InSync (m : Memory) : Prop where
  indexed : ∀ node pod, pod ∈ m.index.podsOn node ↔ pod ∈ m.pods ∧ pod.node? = some node
  ordered : ∀ node, (m.index.podsOn node).Pairwise fun p q => p.key < q.key
  cached : m.cached.Perm m.autoscalers

/-- The autoscaler that is found for a pod in a state. -/
def governor (m : Memory) (order : PolicyOrder) (pod : Pod) : Option Autoscaler :=
  match ((Pass.findPolicy order pod).run handler m).1 with
  | .ok found => found
  | .error _ => none

/-- The governed ones among some pods, each with its autoscaler. -/
def governed (m : Memory) (order : PolicyOrder) (pods : List Pod) : List (Pod × Autoscaler) :=
  pods.filterMap fun pod => (m.governor order pod).map fun a => (pod, a)

/-- The pods that a pass over the node of that name is to handle, each with
its autoscaler: none unless the node is there and cordoned. -/
def due (m : Memory) (order : PolicyOrder) (name : String) : List (Pod × Autoscaler) :=
  match m.nodes.find? (·.name = name) with
  | none => []
  | some node => if node.isCordoned then m.governed order (m.index.podsOn name) else []

/-- The pods of an autoscaler among the governed ones. -/
def podsOf (a : Autoscaler) (handled : List (Pod × Autoscaler)) : List Pod :=
  (handled.filter fun g => placeOf g.2 = placeOf a).map (·.1)

/-- What a pass writes for governed pods when it has handled others before. -/
def writesAfter : List (Pod × Autoscaler) → List (Pod × Autoscaler) → List Call
  | _, [] => []
  | before, g :: rest =>
    marking g.1 ++ recording (podsOf g.2 before).length g.1 g.2 :: writesAfter (before ++ [g]) rest

/-- What changes from one state to another when pods with their autoscalers are handled. -/
structure Effect (clock : Memory → Instant) (handled : List (Pod × Autoscaler)) (m m' : Memory) :
    Prop where
  nodes : m'.nodes = m.nodes
  budgets : m'.budgets = m.budgets
  podPlaces : Shelf.places m'.pods = Shelf.places m.pods
  autoscalerPlaces : Shelf.places m'.autoscalers = Shelf.places m.autoscalers
  /-- A pod that is handled ends with its eviction announced. -/
  marked : ∀ g ∈ handled, ∃ t since, ShownBetween clock m m' t ∧
    Shelf.at? (placeOf g.1) m'.pods = some (g.1.marked t) ∧
    ((g.1.marked t).conditions.getD []).find? (·.type = PodCondition.disruptionTarget)
      = some { PodCondition.evictionAnticipated t with lastTransitionTime := since }
  spared : ∀ place, (∀ g ∈ handled, placeOf g.1 ≠ place) →
    Shelf.at? place m'.pods = Shelf.at? place m.pods
  /-- An autoscaler has been written once for each of its pods, and ends with the last one. -/
  recorded : ∀ g ∈ handled, ∃ pod t, (podsOf g.2 handled).getLast? = some pod ∧
    ShownBetween clock m m' t ∧
    Shelf.at? (placeOf g.2) m'.autoscalers
      = some (g.2.recording (podsOf g.2 handled).length pod t)
  unrecorded : ∀ place, (∀ g ∈ handled, placeOf g.2 ≠ place) →
    Shelf.at? place m'.autoscalers = Shelf.at? place m.autoscalers
  /-- A pod is written if that changes its conditions, and its autoscaler in any case. -/
  writes : ∀ t, m'.writes = m.writes ++
    handled.flatMap fun g => markingWrites t g.1 ++ [(.autoscaler, placeOf g.2)]

/-- How far a pass has come: what it has handled, what it remembers of its
writes, the state in which it began, and the state it has reached. -/
structure Midway (clock : Memory → Instant) (handled : List (Pod × Autoscaler))
    (written : Pass.Written) (m s : Memory) : Prop extends Effect clock handled m s where
  faults : s.faults = []
  now : s.now = m.now
  calls : m.calls <+: s.calls
  chosen : ∀ g ∈ handled, g.2 ∈ m.cached
  cachedPlaces : Shelf.places s.cached = Shelf.places m.cached
  /-- Where the pass has not written, the cache is as it was. -/
  cachedElsewhere : ∀ place, (∀ g ∈ handled, placeOf g.2 ≠ place) →
    Shelf.at? place s.cached = Shelf.at? place m.cached
  /-- Where the pass has written, it remembers what the server has. -/
  remembered : ∀ ns name, (∃ g ∈ handled, placeOf g.2 = ⟨some ns, name⟩) →
    written.find? ⟨ns, name⟩ = Shelf.at? ⟨some ns, name⟩ s.autoscalers
  unremembered : ∀ ns name, (∀ g ∈ handled, placeOf g.2 ≠ ⟨some ns, name⟩) →
    written.find? ⟨ns, name⟩ = none

variable {clock : Memory → Instant} {lags : Memory → Bool} {m s : Memory}
  {handled : List (Pod × Autoscaler)} {written : Pass.Written}

/-! ### The beginning and the states that follow without a write -/

theorem Midway.start (clock : Memory → Instant) (h : m.faults = []) :
    Midway clock [] Table.empty m m where
  nodes := rfl
  budgets := rfl
  podPlaces := rfl
  autoscalerPlaces := rfl
  marked := fun _ hg => absurd hg List.not_mem_nil
  spared := fun _ _ => rfl
  recorded := fun _ hg => absurd hg List.not_mem_nil
  unrecorded := fun _ _ => rfl
  writes := fun _ => (List.append_nil _).symm
  faults := h
  now := rfl
  calls := List.prefix_refl _
  chosen := fun _ hg => absurd hg List.not_mem_nil
  cachedPlaces := rfl
  cachedElsewhere := fun _ _ => rfl
  remembered := fun _ _ ⟨_, hg, _⟩ => absurd hg List.not_mem_nil
  unremembered := fun _ _ _ => rfl

theorem ShownBetween.later {s' : Memory} {t : Instant} (h : ShownBetween clock m s t)
    (hcalls : s.calls <+: s'.calls) : ShownBetween clock m s' t :=
  h.widen rfl (List.prefix_refl _) hcalls

/-- What was only read changes nothing about how far a pass has come. -/
theorem Midway.untouched {s' : Memory} (h : Midway clock handled written m s)
    (hs : Untouched s s') : Midway clock handled written m s' where
  nodes := hs.nodes.trans h.nodes
  budgets := hs.budgets.trans h.budgets
  podPlaces := by rw [hs.pods, h.podPlaces]
  autoscalerPlaces := by rw [hs.autoscalers, h.autoscalerPlaces]
  marked := by
    intro g hg
    obtain ⟨t, since, ht, hat, hfirst⟩ := h.marked g hg
    exact ⟨t, since, ht.later hs.calls, by rw [hs.pods, hat], hfirst⟩
  spared := by
    intro place hplace
    rw [hs.pods, h.spared place hplace]
  recorded := by
    intro g hg
    obtain ⟨pod, t, hlast, ht, hat⟩ := h.recorded g hg
    exact ⟨pod, t, hlast, ht.later hs.calls, by rw [hs.autoscalers, hat]⟩
  unrecorded := by
    intro place hplace
    rw [hs.autoscalers, h.unrecorded place hplace]
  writes := fun t => hs.writes.trans (h.writes t)
  faults := hs.faults.trans h.faults
  now := hs.now.trans h.now
  calls := h.calls.trans hs.calls
  chosen := h.chosen
  cachedPlaces := by rw [hs.cached, h.cachedPlaces]
  cachedElsewhere := by
    intro place hplace
    rw [hs.cached, h.cachedElsewhere place hplace]
  remembered := by
    intro ns name hg
    rw [hs.autoscalers, h.remembered ns name hg]
  unremembered := h.unremembered

/-! ### The search for the next autoscaler -/

/-- In a state without faults the autoscaler that is found is the one selected. -/
theorem governor_eq_selected (h : m.faults = []) (order : PolicyOrder) (pod : Pod) :
    m.governor order pod = m.selected order pod := by
  unfold governor
  rw [← handlerUnder_now_lag, (run_findPolicy now lag order pod h).1]

theorem governed_cons_of_none {order : PolicyOrder} {pod : Pod} {pods : List Pod}
    (h : m.governor order pod = none) :
    m.governed order (pod :: pods) = m.governed order pods := by
  unfold governed
  rw [List.filterMap_cons, h]
  rfl

theorem governed_cons_of_some {order : PolicyOrder} {pod : Pod} {pods : List Pod}
    {a : Autoscaler} (h : m.governor order pod = some a) :
    m.governed order (pod :: pods) = (pod, a) :: m.governed order pods := by
  unfold governed
  rw [List.filterMap_cons, h]
  rfl

theorem nodup_cached (hm : OnePerPlace m) (hsync : InSync m) : (Shelf.places m.cached).Nodup :=
  (hsync.cached.map placeOf).nodup_iff.mpr hm.autoscalers

theorem at?_of_mem_cached (hm : OnePerPlace m) (hsync : InSync m) {a : Autoscaler}
    (h : a ∈ m.cached) : Shelf.at? (placeOf a) m.autoscalers = some a :=
  Shelf.at?_of_mem hm.autoscalers (hsync.cached.mem_iff.mp h)

theorem eq_of_placeOf_eq (hm : OnePerPlace m) (hsync : InSync m) {a b : Autoscaler}
    (ha : a ∈ m.cached) (hb : b ∈ m.cached) (h : placeOf a = placeOf b) : a = b := by
  have hat := at?_of_mem_cached hm hsync ha
  rw [h, at?_of_mem_cached hm hsync hb] at hat
  exact (Option.some.inj hat).symm

/-- The copy of an autoscaler that the cache has in another state. -/
def copyIn (s : Memory) (a : Autoscaler) : Autoscaler :=
  (Shelf.at? (placeOf a) s.cached).getD a

theorem placeOf_copyIn (s : Memory) (a : Autoscaler) : placeOf (copyIn s a) = placeOf a := by
  unfold copyIn
  cases h : Shelf.at? (placeOf a) s.cached with
  | none => rfl
  | some b => exact Shelf.placeOf_of_at? h

/-- On its way a pass selects for a pod the autoscaler that it would have
selected to begin with, as the cache now has it. -/
theorem Midway.selected (h : Midway clock handled written m s) (hm : OnePerPlace m)
    (hsync : InSync m) (order : PolicyOrder) (pod : Pod) :
    s.selected order pod = (m.selected order pod).map (copyIn s) :=
  selected_of_copies order pod (placeOf_copyIn s)
    (Shelf.eq_map_of_places (nodup_cached hm hsync) h.cachedPlaces) h.budgets

/-- What the next write of an autoscaler is built on is what the server has: the
autoscaler with the writes that the pass has made so far. -/
theorem Midway.latest (h : Midway clock handled written m s) (hm : OnePerPlace m)
    (hsync : InSync m) {order : PolicyOrder} {pod : Pod} {a : Autoscaler}
    (ha : m.selected order pod = some a) :
    ∃ latest,
      (written.find? ⟨pod.nsOrDefault, (copyIn s a).name⟩).getD (copyIn s a) = latest ∧
      placeOf latest = placeOf a ∧ Shelf.at? (placeOf latest) s.autoscalers = some latest ∧
      ∀ pod' t, latest.noting pod' t
        = withVersion (versionAfter (podsOf a handled).length (versionOf a)) (a.noting pod' t) := by
  obtain ⟨hcached, hplace⟩ := mem_cached_of_selected ha
  rw [show (copyIn s a).name = a.name from congrArg Place.name (placeOf_copyIn s a)]
  by_cases hwritten : ∃ g ∈ handled, placeOf g.2 = placeOf a
  · obtain ⟨g, hg, hga⟩ := hwritten
    have hsame : g.2 = a := eq_of_placeOf_eq hm hsync (h.chosen g hg) hcached hga
    obtain ⟨last, t, _, _, hat⟩ := h.recorded g hg
    rw [hsame] at hat
    refine ⟨a.recording (podsOf a handled).length last t, ?_, rfl, hat, fun _ _ => rfl⟩
    rw [h.remembered _ _ ⟨g, hg, hga.trans hplace⟩, ← hplace, hat, Option.getD_some]
  · have hnone : ∀ g ∈ handled, placeOf g.2 ≠ placeOf a := fun g hg he => hwritten ⟨g, hg, he⟩
    have hserver := at?_of_mem_cached hm hsync hcached
    have hcopy : copyIn s a = a := by
      rw [copyIn, h.cachedElsewhere _ hnone, Shelf.at?_of_mem (nodup_cached hm hsync) hcached,
        Option.getD_some]
    have hpods : podsOf a handled = [] := by
      unfold podsOf
      rw [List.filter_eq_nil_iff.mpr fun g hg => by simpa using hnone g hg, List.map_nil]
    refine ⟨a, ?_, rfl, ?_, fun _ _ => by rw [hpods]; rfl⟩
    · rw [h.unremembered _ _ (hplace ▸ hnone), hcopy, Option.getD_none]
    · rw [h.unrecorded _ hnone, hserver]

/-- What is noted on an autoscaler with some writes is stored with one write more. -/
theorem recording_of_noting {a latest : Autoscaler} {writes : Nat}
    (h : ∀ pod t, latest.noting pod t
      = withVersion (versionAfter writes (versionOf a)) (a.noting pod t)) (pod : Pod)
    (t : Instant) : latest.recording 1 pod t = a.recording (writes + 1) pod t := by
  have hversion : versionOf latest = versionAfter writes (versionOf a) :=
    congrArg versionOf (h pod t)
  unfold Autoscaler.recording
  rw [h, hversion]
  rfl

/-! ### The next pod -/

theorem podsOf_concat (a : Autoscaler) (handled : List (Pod × Autoscaler)) (g : Pod × Autoscaler) :
    podsOf a (handled ++ [g])
      = if placeOf g.2 = placeOf a then podsOf a handled ++ [g.1] else podsOf a handled := by
  unfold podsOf
  rw [List.filter_append, List.map_append]
  split
  next h => simp [h]
  next h => simp [h]

section

variable {s' : Memory} {pod : Pod} {a latest stored : Autoscaler}

/-- Handling one more pod, of which the pass has not been yet, adds to the effect.
The autoscaler that is written is `a` with the writes that the pass has made so far. -/
theorem Midway.effect_next (h : Midway clock handled written m s)
    (hsame : ∀ g ∈ handled, placeOf g.2 = placeOf a → g.2 = a)
    (hnew : ∀ g ∈ handled, placeOf g.1 ≠ placeOf pod) (hlatest : placeOf latest = placeOf a)
    (hat : Shelf.at? (placeOf latest) s.autoscalers = some latest)
    (hrecording : ∀ pod' t, latest.recording 1 pod' t
      = a.recording ((podsOf a handled).length + 1) pod' t)
    (hs : Handled clock pod latest stored s s') : Effect clock (handled ++ [(pod, a)]) m s' where
  nodes := hs.nodes.trans h.nodes
  budgets := hs.budgets.trans h.budgets
  podPlaces := hs.podPlaces.trans h.podPlaces
  autoscalerPlaces := by
    rw [hs.autoscalers, Shelf.places_put (y := latest), h.autoscalerPlaces]
    rw [hs.placeOf_stored, hat]
  marked := by
    obtain ⟨t, ht, hpods⟩ := hs.pods
    refine List.forall_mem_append.mpr ⟨fun g hg => ?_, List.forall_mem_singleton.mpr ?_⟩
    · obtain ⟨t', since, ht', hg', hfirst⟩ := h.marked g hg
      refine ⟨t', since, ht'.later hs.calls, ?_, hfirst⟩
      rw [hpods, if_neg (Ne.symm (hnew g hg)), hg']
    · obtain ⟨since, hfirst⟩ := pod.find?_marked t
      refine ⟨t, since, ht.widen h.now h.calls (List.prefix_refl _), ?_, hfirst⟩
      rw [hpods, if_pos rfl]
  spared := by
    intro place hother
    obtain ⟨_, _, hpods⟩ := hs.pods
    obtain ⟨hold, hpod⟩ := List.forall_mem_append.mp hother
    rw [hpods, if_neg (hpod _ (List.mem_singleton_self _)), h.spared place hold]
  recorded := by
    -- The entry for the autoscaler that has just been written.
    have hlast : ∃ pod' t, (podsOf a (handled ++ [(pod, a)])).getLast? = some pod' ∧
        ShownBetween clock m s' t ∧ Shelf.at? (placeOf a) s'.autoscalers
          = some (a.recording (podsOf a (handled ++ [(pod, a)])).length pod' t) := by
      obtain ⟨t, ht, hstored⟩ := hs.recorded
      refine ⟨pod, t, ?_, ht.widen h.now h.calls (List.prefix_refl _), ?_⟩
      · rw [podsOf_concat, if_pos rfl, List.getLast?_concat]
      · rw [podsOf_concat, if_pos rfl, List.length_append, List.length_singleton,
          hs.at?_autoscalers, if_pos hlatest, hstored, hrecording]
    refine List.forall_mem_append.mpr ⟨fun g hg => ?_, List.forall_mem_singleton.mpr hlast⟩
    by_cases hga : placeOf g.2 = placeOf a
    · rw [hsame g hg hga]
      exact hlast
    · obtain ⟨pod', t, hget, ht, hg'⟩ := h.recorded g hg
      rw [podsOf_concat, if_neg (Ne.symm hga)]
      refine ⟨pod', t, hget, ht.later hs.calls, ?_⟩
      rw [hs.at?_autoscalers, hlatest, if_neg (Ne.symm hga), hg']
  unrecorded := by
    intro place hother
    obtain ⟨hold, ha⟩ := List.forall_mem_append.mp hother
    rw [hs.at?_autoscalers, hlatest, if_neg (ha _ (List.mem_singleton_self _)),
      h.unrecorded place hold]
  writes := by
    intro t
    rw [hs.writes t, h.writes t, List.flatMap_append, List.flatMap_singleton, hlatest,
      List.append_assoc]

/-- Handling one more pod leads one step further. -/
theorem Midway.next (h : Midway clock handled written m s) (hm : OnePerPlace m)
    (hsync : InSync m) {ns name : String} (hplace : placeOf a = ⟨some ns, name⟩)
    (hcached : a ∈ m.cached) (hnew : ∀ g ∈ handled, placeOf g.1 ≠ placeOf pod)
    (hlatest : placeOf latest = placeOf a)
    (hat : Shelf.at? (placeOf latest) s.autoscalers = some latest)
    (hrecording : ∀ pod' t, latest.recording 1 pod' t
      = a.recording ((podsOf a handled).length + 1) pod' t)
    (hs : Handled clock pod latest stored s s') :
    Midway clock (handled ++ [(pod, a)]) (written.insert ⟨ns, name⟩ stored) m s' where
  toEffect := by
    refine h.effect_next (fun g hg hga => ?_) hnew hlatest hat hrecording hs
    exact eq_of_placeOf_eq hm hsync (h.chosen g hg) hcached hga
  faults := hs.faults.trans h.faults
  now := hs.now.trans h.now
  calls := h.calls.trans hs.calls
  chosen := List.forall_mem_append.mpr ⟨h.chosen, List.forall_mem_singleton.mpr hcached⟩
  cachedPlaces := by
    -- The copy that is replaced is one that was there to begin with.
    have hthere : placeOf stored ∈ Shelf.places s.cached := by
      rw [h.cachedPlaces, hs.placeOf_stored, hlatest]
      exact List.mem_map_of_mem hcached
    rw [places_putAutoscaler hs.cached hthere, h.cachedPlaces]
  cachedElsewhere := by
    intro place hother
    obtain ⟨hold, ha⟩ := List.forall_mem_append.mp hother
    have hstored : ¬placeOf stored = place := by
      rw [hs.placeOf_stored, hlatest]
      exact ha _ (List.mem_singleton_self _)
    rw [at?_putAutoscaler hs.cached hstored, h.cachedElsewhere place hold]
  remembered := by
    intro ns' name' ⟨g, hg, hg'⟩
    rw [Table.find?_insert, hs.at?_autoscalers, hlatest, hplace]
    by_cases hkey : (⟨ns, name⟩ : ObjectKey) = ⟨ns', name'⟩
    · obtain ⟨rfl, rfl⟩ := ObjectKey.mk.inj hkey
      rw [if_pos rfl, if_pos rfl]
    · have hne : ¬(⟨some ns, name⟩ : Place) = ⟨some ns', name'⟩ := by
        intro he
        obtain ⟨hns, rfl⟩ := Place.mk.inj he
        exact hkey (by rw [Option.some.inj hns])
      rw [if_neg hkey, if_neg hne]
      rcases List.mem_append.mp hg with hg | hg
      · exact h.remembered ns' name' ⟨g, hg, hg'⟩
      · rw [List.mem_singleton.mp hg] at hg'
        exact absurd (hplace.symm.trans hg') hne
  unremembered := by
    intro ns' name' hother
    obtain ⟨hold, ha⟩ := List.forall_mem_append.mp hother
    have hkey : ¬(⟨ns, name⟩ : ObjectKey) = ⟨ns', name'⟩ := by
      intro he
      obtain ⟨rfl, rfl⟩ := ObjectKey.mk.inj he
      exact ha _ (List.mem_singleton_self _) hplace
    rw [Table.find?_insert, if_neg hkey, h.unremembered ns' name' hold]

end

/-! ### The whole pass -/

/-- Handling pods one after the other, all of them on the server and none
handled before, handles the governed ones, and writes what that takes. -/
theorem run_handlePods_wrote (hm : OnePerPlace m) (hsync : InSync m) (hfaults : m.faults = [])
    (order : PolicyOrder) (node : String) (pods : List Pod) :
    ∀ {handled : List (Pod × Autoscaler)} {written : Pass.Written} {s : Memory} (changed : Bool),
      Midway clock handled written m s →
      (∀ pod ∈ pods, Shelf.at? (placeOf pod) m.pods = some pod) →
      (handled.map (placeOf ·.1) ++ pods.map placeOf).Nodup →
      ∃ s' written',
        (Pass.handlePods order node pods written changed).run (handlerUnder clock lags) s
          = (.ok (changed || !(m.governed order pods).isEmpty), s') ∧
        Midway clock (handled ++ m.governed order pods) written' m s' ∧
        s'.wrote = s.wrote ++ writesAfter handled (m.governed order pods) := by
  induction pods with
  | nil =>
    intro handled written s changed h _ _
    refine ⟨s, written, ?_, ?_, (List.append_nil _).symm⟩
    · rw [Pass.handlePods, Program.run_done, show m.governed order [] = [] from rfl,
        List.isEmpty_nil, Bool.not_true, Bool.or_false]
    · rw [show m.governed order [] = [] from rfl, List.append_nil]
      exact h
  | cons pod rest ih =>
    intro handled written s changed h hpods hnodup
    have hrest : ∀ p ∈ rest, Shelf.at? (placeOf p) m.pods = some p :=
      fun p hp => hpods p (List.mem_cons_of_mem _ hp)
    have hpod := hpods pod (List.mem_cons_self ..)
    have hnew : ∀ g ∈ handled, placeOf g.1 ≠ placeOf pod := by
      intro g hg
      exact (List.nodup_append.mp hnodup).2.2 _ (List.mem_map_of_mem hg) _
        (List.mem_cons_self ..)
    obtain ⟨hfound, huntouched⟩ := run_findPolicy clock lags order pod h.faults
    have hsearched := h.untouched huntouched
    rw [Pass.handlePods, Program.run_bind, hfound, h.selected hm hsync]
    cases hselected : m.selected order pod with
    | none =>
      rw [governed_cons_of_none ((governor_eq_selected hfaults order pod).trans hselected),
        ← huntouched.wrote]
      refine ih changed hsearched hrest (hnodup.sublist ?_)
      exact List.Sublist.append_left (List.sublist_cons_self ..) _
    | some a =>
      have hgoverned : m.governed order (pod :: rest) = (pod, a) :: m.governed order rest :=
        governed_cons_of_some ((governor_eq_selected hfaults order pod).trans hselected)
      obtain ⟨hcached, hplace⟩ := mem_cached_of_selected hselected
      obtain ⟨latest, hlatest, hlatestPlace, hat, hnoting⟩ := h.latest hm hsync hselected
      have hserver := (hsearched.spared _ hnew).trans hpod
      have hhandling := @wrote_handlePod clock lags _ node pod (copyIn s a) written
        hsearched.faults hserver
      obtain ⟨s₂, stored, hrun, hhandled⟩ := run_handlePod clock lags node (copyIn s a) written
        hsearched.faults hserver hlatest (huntouched.autoscalers ▸ hat)
      have hname : (copyIn s a).name = a.name := congrArg Place.name (placeOf_copyIn s a)
      rw [hrun, hlatest, hnoting, huntouched.wrote] at hhandling
      have hwrote : s₂.wrote
          = s.wrote ++ (marking pod ++ [recording (podsOf a handled).length pod a]) := hhandling
      rw [hname] at hrun
      have hnext := hsearched.next hm hsync hplace hcached hnew hlatestPlace
        (huntouched.autoscalers ▸ hat) (recording_of_noting hnoting) hhandled
      obtain ⟨s₃, written', hrun', hdone, hwrote'⟩ := ih true hnext hrest (by
        simpa only [List.map_append, List.map_cons, List.map_nil, List.append_assoc,
          List.singleton_append] using hnodup)
      refine ⟨s₃, written', ?_, ?_, ?_⟩
      · rw [Option.map_some]
        dsimp only
        rw [Program.run_bind, hrun]
        dsimp only
        rw [hrun', hgoverned, Bool.true_or, List.isEmpty_cons, Bool.not_false, Bool.or_true]
      · rw [hgoverned, List.append_cons]
        exact hdone
      · rw [hwrote', hgoverned, writesAfter, hwrote]
        simp only [List.append_assoc, List.singleton_append]

theorem run_handlePods (hm : OnePerPlace m) (hsync : InSync m) (hfaults : m.faults = [])
    (order : PolicyOrder) (node : String) (pods : List Pod) {handled : List (Pod × Autoscaler)}
    {written : Pass.Written} {s : Memory} (changed : Bool)
    (h : Midway clock handled written m s)
    (hpods : ∀ pod ∈ pods, Shelf.at? (placeOf pod) m.pods = some pod)
    (hnodup : (handled.map (placeOf ·.1) ++ pods.map placeOf).Nodup) :
    ∃ s' written',
      (Pass.handlePods order node pods written changed).run (handlerUnder clock lags) s
        = (.ok (changed || !(m.governed order pods).isEmpty), s') ∧
      Midway clock (handled ++ m.governed order pods) written' m s' := by
  obtain ⟨s', written', hrun, hdone, -⟩ :=
    run_handlePods_wrote hm hsync hfaults order node pods changed h hpods hnodup
  exact ⟨s', written', hrun, hdone⟩

/-- What is to happen after a pass that has handled those pods. -/
def outcomeOf (config : Pass.Config) (handled : List (Pod × Autoscaler)) : Pass.Outcome :=
  if handled.isEmpty || config.cooldown.isZero then .done else .requeueAfter config.cooldown

theorem nodup_places_of_keys {pods : List Pod} (h : (pods.map Pod.key).Nodup) :
    (Shelf.places pods).Nodup := by
  have hkeys : ((Shelf.places pods).map Place.key).Nodup := by
    rw [Shelf.places, List.map_map]
    exact h
  exact List.Pairwise.of_map Place.key (fun a b hne he => hne (congrArg Place.key he)) hkeys

/-- A pass that meets with no fault succeeds. It handles the pods that are due and
changes nothing else, and the node is to be looked at again if there were any
and there is a cooldown. -/
theorem run_overNode_effect (clock : Memory → Instant) (lags : Memory → Bool)
    (config : Pass.Config) (name : String) (hm : OnePerPlace m) (hsync : InSync m)
    (hfaults : m.faults = []) :
    ∃ m', (Pass.overNode config name).run (handlerUnder clock lags) m
        = (.ok (outcomeOf config (m.due config.order name)), m') ∧
      Effect clock (m.due config.order name) m m' := by
  have hstart := Midway.start clock hfaults
  have hread : Untouched m (m.asked lags (.getNode name)) := Untouched.of_read hfaults rfl
  rw [Pass.overNode, Program.run_ask, answer_of_no_faults hfaults]
  simp only [perform]
  rw [hread.nodes, due]
  cases m.nodes.find? (·.name = name) with
  | none =>
    exact ⟨_, rfl, (hstart.untouched (hread.trans (Untouched.of_record _ _))).toEffect⟩
  | some node =>
    dsimp only
    cases node.isCordoned with
    | false => exact ⟨_, rfl, (hstart.untouched hread).toEffect⟩
    | true =>
      rw [if_neg (by decide), if_pos rfl]
      dsimp only [Program.log]
      rw [Program.run_note, Program.run_note, Program.run_ask]
      -- Up to here the pass has only read and left notes.
      generalize hm₁ : (handlerUnder clock lags).record _
        ((handlerUnder clock lags).record _ (m.asked lags (.getNode name))) = m₁
      have h₁ : Untouched m m₁ :=
        hm₁ ▸ hread.trans ((Untouched.of_record _ _).trans (Untouched.of_record _ _))
      have hpods : ∀ pod ∈ m.index.podsOn name, Shelf.at? (placeOf pod) m.pods = some pod := by
        intro pod hpod
        exact Shelf.at?_of_mem (nodup_places_of_keys hm.pods) ((hsync.indexed name pod).mp hpod).1
      have hdistinct : (Shelf.places (m.index.podsOn name)).Nodup := by
        refine nodup_places_of_keys (List.pairwise_map.mpr ((hsync.ordered name).imp ?_))
        exact fun hlt => KeyOrder.ne_of_lt hlt
      have hreadPods : Untouched m₁ (m₁.asked lags (.podsOnNode name)) :=
        Untouched.of_read (h₁.faults.trans hfaults) rfl
      obtain ⟨m₂, written, hrun, hmidway⟩ := run_handlePods hm hsync hfaults config.order name
        (m.index.podsOn name) false (hstart.untouched (h₁.trans hreadPods)) hpods hdistinct
      rw [answer_of_no_faults (h₁.faults.trans hfaults)]
      simp only [perform]
      rw [hreadPods.index, h₁.index, Program.run_bind, hrun]
      refine ⟨m₂, ?_, hmidway.toEffect⟩
      rw [outcomeOf, Bool.false_or]
      cases (m.governed config.order (m.index.podsOn name)).isEmpty with
      | true => rfl
      | false =>
        cases config.cooldown.isZero with
        | true => rfl
        | false => rfl

/-- A cordoned node with two pods that share an autoscaler. -/
def shared : Memory :=
  let labels : Table String String := Table.empty.insert "app" "web"
  let pod (name : String) : Pod :=
    { metadata := { name := some name, ns := some "prod", labels := some labels }
      nodeName := some "n1" }
  let bucket : Table ObjectKey Pod :=
    (Table.empty.insert ⟨"prod", "web-0"⟩ (pod "web-0")).insert ⟨"prod", "web-1"⟩ (pod "web-1")
  let autoscaler : Autoscaler :=
    { metadata := { name := some "web", ns := some "prod", resourceVersion := some "1" }
      spec := {} }
  { nodes := [{ metadata := { name := some "n1" }, unschedulable := some true }]
    budgets := [{ metadata := { name := some "web", ns := some "prod" }
                  selector := some { matchLabels := labels } }]
    pods := [pod "web-0", pod "web-1"]
    autoscalers := [autoscaler]
    index := { live := { byNode := Table.empty.insert "n1" bucket } }
    cached := [autoscaler]
    now := ⟨0, 0⟩ }

/-- The index has both pods on the one node, and none on any other. -/
theorem podsOn_shared (node : String) :
    shared.index.podsOn node = if "n1" = node then shared.pods else [] := by
  unfold Watch.PodIndex.podsOn Watch.Placement.podsOn
  rw [show shared.index.live.byNode = Table.empty.insert "n1" _ from rfl, Table.find?_insert]
  by_cases hnode : "n1" = node
  · rw [if_pos hnode, if_pos hnode]
    rfl
  · rw [if_neg hnode, if_neg hnode]
    rfl

theorem inSync_shared : InSync shared where
  indexed := by
    intro node pod
    have hon : ∀ p ∈ shared.pods, p.node? = some "n1" := by decide +kernel
    rw [podsOn_shared]
    split
    next hnode => exact ⟨fun h => ⟨h, hnode ▸ hon pod h⟩, And.left⟩
    next hnode =>
      refine ⟨fun h => absurd h List.not_mem_nil, fun ⟨h, hp⟩ => ?_⟩
      exact absurd (Option.some.inj ((hon pod h).symm.trans hp)) hnode
  ordered := by
    intro node
    rw [podsOn_shared]
    split
    · exact List.pairwise_map.mp (show (shared.pods.map Pod.key).Pairwise (· < ·) by decide)
    · exact List.Pairwise.nil
  cached := List.Perm.refl _

/-- That node where a second autoscaler could govern the pods as well, of a lesser name
than the first and listed after it. -/
def rivals : Memory :=
  let rename (metadata : ObjectMeta) : ObjectMeta := { metadata with name := some "app" }
  let autoscalers := shared.autoscalers
    ++ shared.autoscalers.map fun a => { a with metadata := rename a.metadata }
  { shared with
    budgets := shared.budgets
      ++ shared.budgets.map fun b => { b with metadata := rename b.metadata }
    autoscalers
    cached := autoscalers }

theorem onePerPlace_rivals : OnePerPlace rivals := ⟨by decide, by decide⟩

/-- In whatever order the cache lists the rivals, it shows the server. -/
theorem inSync_rivals {cached : Shelf Autoscaler} (h : cached.Perm rivals.autoscalers) :
    InSync { rivals with cached } :=
  ⟨inSync_shared.indexed, inSync_shared.ordered, h⟩

/-- A pass over that node writes the autoscaler twice, and succeeds. -/
theorem run_overNode_effect_shared : (shared.due .listing "n1").length = 2 ∧
    OnePerPlace shared ∧ InSync shared ∧ shared.faults = [] ∧
    ∃ m', shared.pass {} "n1" = (.ok (.requeueAfter (Span.ofSeconds 60)), m') ∧
      Effect now (shared.due .listing "n1") shared m' := by
  have hone : OnePerPlace shared := ⟨by decide, by decide⟩
  exact ⟨by decide +kernel, hone, inSync_shared, rfl,
    run_overNode_effect now lag {} "n1" hone inSync_shared rfl⟩

end CordonWatch.Store.Memory
