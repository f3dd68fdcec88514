import CordonWatch.Proofs.Object.Untimed
import CordonWatch.Proofs.Pass.Stopping

/-!
# Passes that are retried

A pass that fails leaves pods that are marked and not recorded, and pods that it
has not come to. Where the caches are brought up to the server and the pass is
run again, that does no harm: whether a pod is governed, and by which
autoscaler, does not depend on what a pass changes, to mark a pod twice is to
mark it once, and an autoscaler keeps nothing of its last eviction when the next
one is recorded. So after any number of failures a pass that meets with no fault
leaves what it would have left at first (`run_overNode_retried`).

`Healing` is what a failing pass keeps of the state in which the first one began.
-/

namespace CordonWatch.Store

/-! ### Places and what stands there -/

/-- Where autoscalers are tried by name, it does not matter how they are listed. -/
theorem pick_perm {order : PolicyOrder} (budgets : Shelf Budget) {places places' : List Place}
    (hperm : places'.Perm places) (horder : order = .listing → places' = places) (pod : Pod) :
    pick order budgets places' pod = pick order budgets places pod := by
  cases order with
  | listing => rw [horder rfl]
  | name =>
    unfold pick
    dsimp only
    have hns : ∀ a ∈ places.filter (·.ns = some pod.nsOrDefault), a.ns = some pod.nsOrDefault :=
      fun a ha => of_decide_eq_true (List.mem_filter.mp ha).2
    rw [mergeSort_eq_of_perm Place.name (hperm.filter _) fun a ha b hb hname =>
      Place.ext ((hns a ha).trans (hns b hb).symm) hname]

theorem Shelf.map_eq_of_at? {α β : Type} [HasMetadata α] (f : α → β) {shelf shelf' : Shelf α}
    (hd : (places shelf).Nodup) (hp : places shelf' = places shelf)
    (h : ∀ place, (at? place shelf').map f = (at? place shelf).map f) :
    shelf'.map f = shelf.map f := by
  rw [eq_map_of_places hd hp, List.map_map]
  refine List.map_congr_left fun x hx => ?_
  have hat := h (placeOf x)
  rw [at?_of_mem hd hx] at hat
  obtain ⟨y, hy, hfy⟩ := Option.map_eq_some_iff.mp hat
  show f ((at? (placeOf x) shelf').getD x) = f x
  rw [hy]
  exact hfy

namespace Memory

variable {clock : Memory → Instant} {lags : Memory → Bool} {m s s' : Memory}
  {order : PolicyOrder} {name : String}

/-- The places of a pod and its autoscaler. -/
def placesOf (g : Pod × Autoscaler) : Place × Place := (placeOf g.1, placeOf g.2)

/-- Which of some pods are governed, and by which autoscalers, is a matter of what
a pass never changes of the pods. -/
theorem map_placesOf_governed (m : Memory) (order : PolicyOrder) (pods : List Pod) :
    (m.faultless.governed order pods).map placesOf
      = (pods.map Pod.core).filterMap fun pod =>
          (pick order m.budgets (Shelf.places m.cached) pod).map
            fun place => (placeOf pod, place) := by
  unfold governed
  rw [List.map_filterMap, List.filterMap_map]
  refine congrArg (pods.filterMap ·) (funext fun pod => ?_)
  rw [governor_eq_selected rfl, Option.map_map]
  have hplace := placeOf_selected m order pod
  show Option.map (placesOf ∘ fun a => (pod, a)) (m.selected order pod)
    = (pick order m.budgets (Shelf.places m.cached) pod).map fun place => (placeOf pod, place)
  rw [← hplace, Option.map_map]
  rfl

theorem map_placesOf_podsOf (a : Autoscaler) (handled : List (Pod × Autoscaler)) :
    (podsOf a handled).map placeOf
      = ((handled.map placesOf).filter fun p => p.2 = placeOf a).map (·.1) := by
  unfold podsOf
  rw [List.filter_map, List.map_map, List.map_map]
  rfl

theorem mem_due (order : PolicyOrder) {g : Pod × Autoscaler} :
    g ∈ m.faultless.due order name ↔
      m.Cordoned name ∧ g.1 ∈ m.index.podsOn name ∧ m.selected order g.1 = some g.2 := by
  by_cases hcordoned : m.Cordoned name
  · rw [due_of_cordoned (m := m.faultless) hcordoned, mem_governed]
    exact ⟨fun h => ⟨hcordoned, h⟩, And.right⟩
  · rw [due_of_not_cordoned (m := m.faultless) hcordoned]
    exact ⟨fun h => absurd h List.not_mem_nil, fun h => absurd h.1 hcordoned⟩

/-! ### The pods that the index has for a node -/

theorem InSync.at?_of_mem_podsOn (hm : OnePerPlace m) (hsync : InSync m) {pod : Pod}
    (h : pod ∈ m.index.podsOn name) : Shelf.at? (placeOf pod) m.pods = some pod :=
  Shelf.at?_of_mem (nodup_places_of_keys hm.pods) ((hsync.indexed name pod).mp h).1

theorem InSync.nodup_podsOn (hsync : InSync m) (name : String) :
    (Shelf.places (m.index.podsOn name)).Nodup := by
  refine nodup_places_of_keys (List.pairwise_map.mpr ((hsync.ordered name).imp ?_))
  exact fun hlt => KeyOrder.ne_of_lt hlt

/-- What is due in a state without faults is as the server has it. -/
theorem at?_of_mem_due (hm : OnePerPlace m) (hsync : InSync m) (hfaults : m.faults = [])
    {g : Pod × Autoscaler} (h : g ∈ m.due order name) :
    Shelf.at? (placeOf g.1) m.pods = some g.1 ∧
      Shelf.at? (placeOf g.2) m.autoscalers = some g.2 := by
  have hdue : g ∈ m.faultless.due order name := (faultless_eq hfaults).symm ▸ h
  obtain ⟨_, hpod, ha⟩ := (mem_due order).mp hdue
  exact ⟨hsync.at?_of_mem_podsOn hm hpod,
    at?_of_mem_cached hm hsync (mem_cached_of_selected ha).1⟩

/-- A pass that meets with no fault handles what is due, and writes what that takes. -/
theorem run_overNode_wrote (clock : Memory → Instant) (lags : Memory → Bool)
    (config : Pass.Config) (name : String) (hm : OnePerPlace m) (hsync : InSync m)
    (hfaults : m.faults = []) :
    ∃ m' written, (Pass.overNode config name).run (handlerUnder clock lags) m
        = (.ok (outcomeOf config (m.due config.order name)), m') ∧
      Midway clock (m.due config.order name) written m m' ∧
      m'.wrote = m.wrote ++ writesAfter [] (m.due config.order name) := by
  have hstart := Midway.start clock hfaults
  rcases run_overNode_cases clock lags config name m with
    ⟨_, hfaulty⟩ | ⟨hcordoned, hdone, hread, hend⟩ |
    ⟨hcordoned, s, result, s', hread, hend, hpods, hrun⟩
  · exact absurd hfaults hfaulty
  · rw [faultless_eq hfaults, faultless_eq (hend hfaults)] at hread
    rw [due_of_not_cordoned hcordoned]
    exact ⟨_, _, Prod.ext hdone rfl, hstart.untouched hread,
      hread.wrote.trans (List.append_nil _).symm⟩
  · rw [faultless_eq hfaults, faultless_eq (hend hfaults)] at hread
    obtain ⟨m', written, hhandled, hmidway, hwrote⟩ := run_handlePods_wrote hm hsync hfaults
      config.order name (m.index.podsOn name) false (hstart.untouched hread)
      (fun _ hpod => hsync.at?_of_mem_podsOn hm hpod) (hsync.nodup_podsOn name)
    rw [hpods] at hhandled
    obtain ⟨rfl, rfl⟩ := Prod.mk.inj hhandled
    rw [due_of_cordoned hcordoned]
    refine ⟨_, written, ?_, hmidway, hread.wrote ▸ hwrote⟩
    rw [hrun, outcomeOf, Bool.false_or]
    cases (m.governed config.order (m.index.podsOn name)).isEmpty with
    | true => rfl
    | false =>
      cases hzero : config.cooldown.isZero with
      | true => simp [conclude, Except.map, hzero]
      | false => simp [conclude, Except.map, hzero]

theorem run_overNode_midway (clock : Memory → Instant) (lags : Memory → Bool)
    (config : Pass.Config) (name : String) (hm : OnePerPlace m) (hsync : InSync m)
    (hfaults : m.faults = []) :
    ∃ m' written, (Pass.overNode config name).run (handlerUnder clock lags) m
        = (.ok (outcomeOf config (m.due config.order name)), m') ∧
      Midway clock (m.due config.order name) written m m' := by
  obtain ⟨m', written, hrun, hmidway, -⟩ :=
    run_overNode_wrote clock lags config name hm hsync hfaults
  exact ⟨m', written, hrun, hmidway⟩

/-! ### What failing passes keep -/

/-- What any number of failing passes have left of the server that they began
with, where those pods were due: some of them have been marked, some of the
autoscalers have noted evictions, and that is all. -/
structure Healing (due : List (Pod × Autoscaler)) (m s : Memory) : Prop where
  nodes : s.nodes = m.nodes
  budgets : s.budgets = m.budgets
  podPlaces : Shelf.places s.pods = Shelf.places m.pods
  autoscalerPlaces : Shelf.places s.autoscalers = Shelf.places m.autoscalers
  pods : ∀ place,
    (Shelf.at? place s.pods).map Pod.untimed = (Shelf.at? place m.pods).map Pod.untimed ∨
      (∃ g ∈ due, placeOf g.1 = place) ∧ (Shelf.at? place s.pods).map Pod.untimed
        = ((Shelf.at? place m.pods).map Pod.untimed).map Pod.announced
  autoscalers : ∀ place, (Shelf.at? place s.autoscalers).map Autoscaler.core
    = (Shelf.at? place m.autoscalers).map Autoscaler.core
  unrecorded : ∀ place, (∀ g ∈ due, placeOf g.2 ≠ place) →
    Shelf.at? place s.autoscalers = Shelf.at? place m.autoscalers

variable {due : List (Pod × Autoscaler)}

theorem Healing.start (due : List (Pod × Autoscaler)) (m : Memory) : Healing due m m :=
  ⟨rfl, rfl, rfl, rfl, fun _ => Or.inl rfl, fun _ => rfl, fun _ _ => rfl⟩

/-- Two states have the same server. -/
structure SameServer (s s' : Memory) : Prop where
  nodes : s'.nodes = s.nodes
  budgets : s'.budgets = s.budgets
  pods : s'.pods = s.pods
  autoscalers : s'.autoscalers = s.autoscalers

theorem Healing.sameServer (h : Healing due m s) (hs : SameServer s s') : Healing due m s' where
  nodes := hs.nodes.trans h.nodes
  budgets := hs.budgets.trans h.budgets
  podPlaces := hs.pods ▸ h.podPlaces
  autoscalerPlaces := hs.autoscalers ▸ h.autoscalerPlaces
  pods := hs.pods ▸ h.pods
  autoscalers := hs.autoscalers ▸ h.autoscalers
  unrecorded := hs.autoscalers ▸ h.unrecorded

theorem Healing.onePerPlace (h : Healing due m s) (hm : OnePerPlace m) : OnePerPlace s where
  pods := by
    have hkeys : ∀ pods : Shelf Pod, pods.map Pod.key = (Shelf.places pods).map Place.key := by
      intro pods
      rw [Shelf.places, List.map_map]
      rfl
    rw [hkeys, h.podPlaces, ← hkeys]
    exact hm.pods
  autoscalers := h.autoscalerPlaces ▸ hm.autoscalers

theorem Healing.pods_core (h : Healing due m s) (hm : OnePerPlace m) :
    s.pods.map Pod.core = m.pods.map Pod.core := by
  refine Shelf.map_eq_of_at? Pod.core (nodup_places_of_keys hm.pods) h.podPlaces fun place => ?_
  have hcore : ∀ stored : Option Pod,
      stored.map Pod.core = (stored.map Pod.untimed).map Pod.core := by
    intro stored
    rw [Option.map_map]
    rfl
  rw [hcore, hcore (Shelf.at? place m.pods)]
  obtain hsame | ⟨_, hannounced⟩ := h.pods place
  · rw [hsame]
  · rw [hannounced, Option.map_map]
    rfl

/-- The pods of a node in an index that shows the server, each with its key, are
those of the server that are on the node. -/
theorem mem_podsOn_core (hsync : InSync m) (node : String) (e : ObjectKey × Pod) :
    e ∈ (m.index.podsOn node).map (fun pod => (pod.key, pod.core))
      ↔ ∃ core ∈ m.pods.map Pod.core, core.node? = some node ∧ (core.key, core) = e := by
  rw [List.mem_map]
  constructor
  · rintro ⟨pod, hpod, rfl⟩
    obtain ⟨hserver, hnode⟩ := (hsync.indexed node pod).mp hpod
    exact ⟨pod.core, List.mem_map_of_mem hserver, hnode, rfl⟩
  · rintro ⟨core, hcore, hnode, rfl⟩
    obtain ⟨pod, hpod, rfl⟩ := List.mem_map.mp hcore
    exact ⟨pod, (hsync.indexed node pod).mpr ⟨hpod, hnode⟩, rfl⟩

/-- The index goes on to have the same pods on a node, but for what passes change. -/
theorem Healing.podsOn_core (h : Healing due m s) (hm : OnePerPlace m) (hsync : InSync m)
    (hsync' : InSync s) (node : String) :
    (s.index.podsOn node).map Pod.core = (m.index.podsOn node).map Pod.core := by
  have hkeyed : (s.index.podsOn node).map (fun pod => (pod.key, pod.core))
      = (m.index.podsOn node).map (fun pod => (pod.key, pod.core)) := by
    refine Table.eq_of_mem_iff (List.pairwise_map.mpr (hsync'.ordered node))
      (List.pairwise_map.mpr (hsync.ordered node)) fun e => ?_
    rw [mem_podsOn_core hsync', mem_podsOn_core hsync, h.pods_core hm]
  have hcores := congrArg (List.map Prod.snd) hkeyed
  rw [List.map_map, List.map_map] at hcores
  exact hcores

theorem exists_of_map_placesOf {due' : List (Pod × Autoscaler)}
    (h : due'.map placesOf = due.map placesOf) {g : Pod × Autoscaler} (hg : g ∈ due) :
    ∃ g' ∈ due', placeOf g'.1 = placeOf g.1 ∧ placeOf g'.2 = placeOf g.2 := by
  have hmem : placesOf g ∈ due'.map placesOf := h ▸ List.mem_map_of_mem hg
  obtain ⟨g', hg', hsame⟩ := List.mem_map.mp hmem
  exact ⟨g', hg', congrArg Prod.fst hsame, congrArg Prod.snd hsame⟩

/-- The same pods stay due, by the same autoscalers. -/
theorem Healing.due_places (h : Healing due m s) (hm : OnePerPlace m) (hsync : InSync m)
    (hsync' : InSync s)
    (hlisted : order = .listing → Shelf.places s.cached = Shelf.places m.cached) :
    (s.faultless.due order name).map placesOf = (m.faultless.due order name).map placesOf := by
  have hcached : (Shelf.places s.cached).Perm (Shelf.places m.cached) := by
    have hserver : (Shelf.places s.cached).Perm (Shelf.places m.autoscalers) :=
      h.autoscalerPlaces ▸ hsync'.cached.map placeOf
    exact hserver.trans (hsync.cached.map placeOf).symm
  have hgoverned : (s.faultless.governed order (s.index.podsOn name)).map placesOf
      = (m.faultless.governed order (m.index.podsOn name)).map placesOf := by
    rw [map_placesOf_governed, map_placesOf_governed, h.podsOn_core hm hsync hsync', h.budgets]
    simp only [pick_perm m.budgets hcached hlisted]
  by_cases hcordoned : m.Cordoned name
  · have hcordoned' : s.faultless.Cordoned name := by
      unfold Cordoned
      rw [show s.faultless.nodes = m.nodes from h.nodes]
      exact hcordoned
    rw [due_of_cordoned hcordoned', due_of_cordoned (m := m.faultless) hcordoned]
    exact hgoverned
  · have hcordoned' : ¬ s.faultless.Cordoned name := by
      unfold Cordoned
      rw [show s.faultless.nodes = m.nodes from h.nodes]
      exact hcordoned
    rw [due_of_not_cordoned hcordoned', due_of_not_cordoned (m := m.faultless) hcordoned]

/-- Marking a pod that is as the server has it leaves it as it was or announced. -/
theorem untimed_of_marks {pod : Pod} {t : Instant} {after : Option Pod}
    (h : pod.Marks t (some pod) after) :
    after.map Pod.untimed = some pod.untimed ∨
      after.map Pod.untimed = some pod.untimed.announced := by
  cases h with
  | spared => exact Or.inl rfl
  | written hchanged =>
    have hmarked : pod.overwritten t pod = pod.marked t := by
      rw [Pod.marked, if_pos hchanged]
      rfl
    rw [hmarked, ← pod.untimed_marked t]
    exact Or.inr rfl

/-- What a pass has done keeps what there was, if the pods that it has begun with
and those that it has handled are due and its copies are as the server has them. -/
theorem Healing.progress {begun : List Pod} {handled : List (Pod × Autoscaler)}
    (h : Healing due m s) (hs : Progress clock begun handled s s')
    (hbegun : ∀ p ∈ begun,
      Shelf.at? (placeOf p) s.pods = some p ∧ ∃ g ∈ due, placeOf g.1 = placeOf p)
    (hhandled : ∀ g ∈ handled, ∃ g' ∈ due, placeOf g'.2 = placeOf g.2)
    (hcached : ∀ a ∈ s.cached, Shelf.at? (placeOf a) s.autoscalers = some a) :
    Healing due m s' where
  nodes := hs.nodes.trans h.nodes
  budgets := hs.budgets.trans h.budgets
  podPlaces := hs.podPlaces.trans h.podPlaces
  autoscalerPlaces := hs.autoscalerPlaces.trans h.autoscalerPlaces
  pods := by
    intro place
    by_cases hplace : ∃ p ∈ begun, placeOf p = place
    · obtain ⟨p, hp, rfl⟩ := hplace
      obtain ⟨hserver, hdue⟩ := hbegun p hp
      obtain ⟨t, _, hmarks⟩ := hs.marked p hp
      have hold := h.pods (placeOf p)
      rw [hserver] at hmarks hold
      obtain hsame | hannounced := untimed_of_marks hmarks
      · rw [hsame]
        exact hold
      · refine Or.inr ⟨hdue, ?_⟩
        rw [hannounced]
        obtain hold | ⟨_, hold⟩ := hold
        · rw [← hold]
          rfl
        · -- The pod was announced already.
          obtain ⟨q, hq, hqp⟩ := Option.map_eq_some_iff.mp hold.symm
          rw [hq, ← hqp, Pod.announced_announced]
          rfl
    · rw [hs.spared place fun p hp he => hplace ⟨p, hp, he⟩]
      exact h.pods place
  autoscalers := by
    intro place
    by_cases hplace : ∃ g ∈ handled, placeOf g.2 = place
    · obtain ⟨g, hg, rfl⟩ := hplace
      obtain ⟨pod, t, copy, version, _, _, hcopy, hcopyPlace, hat⟩ := hs.recorded g hg
      rw [hat, ← h.autoscalers, ← hcopyPlace, hcached copy hcopy]
      exact congrArg some (Autoscaler.core_noting version pod t copy)
    · rw [hs.unrecorded place fun g hg he => hplace ⟨g, hg, he⟩]
      exact h.autoscalers place
  unrecorded := by
    intro place hother
    rw [hs.unrecorded place, h.unrecorded place hother]
    intro g hg he
    obtain ⟨g', hg', hsame⟩ := hhandled g hg
    exact hother g' hg' (hsame.trans he)

/-- What is governed in a pass was due to begin with. -/
theorem Healing.exists_due (h : Healing due m s) (hm : OnePerPlace m) (hsync : InSync m)
    (hsync' : InSync s)
    (hlisted : order = .listing → Shelf.places s.cached = Shelf.places m.cached)
    (hcordoned : s.Cordoned name) {pod : Pod} (hpod : pod ∈ s.index.podsOn name) {place : Place}
    (hplace : (s.selected order pod).map placeOf = some place) :
    ∃ g ∈ m.faultless.due order name, placeOf g.1 = placeOf pod ∧ placeOf g.2 = place := by
  obtain ⟨a, ha, rfl⟩ := Option.map_eq_some_iff.mp hplace
  have hdue : (pod, a) ∈ s.faultless.due order name :=
    (mem_due order).mpr ⟨hcordoned, hpod, ha⟩
  exact exists_of_map_placesOf (h.due_places hm hsync hsync' hlisted).symm hdue

/-- A pass that fails where the caches show the server keeps it. -/
theorem Healing.fail {config : Pass.Config} {e : Failure}
    (h : Healing (m.faultless.due config.order name) m s) (hm : OnePerPlace m) (hsync : InSync m)
    (hsync' : InSync s)
    (hlisted : config.order = .listing → Shelf.places s.cached = Shelf.places m.cached)
    (hclock : Unaware clock) (hlags : Unaware lags)
    (hrun : (Pass.overNode config name).run (handlerUnder clock lags) s = (.error e, s')) :
    Healing (m.faultless.due config.order name) m s' := by
  have hone := h.onePerPlace hm
  rcases run_overNode_cases clock lags config name s with
    ⟨⟨_, _, _, _, hstopped⟩, _⟩ | ⟨_, hdone, _⟩ | ⟨hcordoned, s₁, result, s₂, hread, _, hpods, hend⟩
  · rw [hrun] at hstopped
    exact h.sameServer ⟨hstopped.nodes, hstopped.budgets, hstopped.pods, hstopped.autoscalers⟩
  · rw [hrun] at hdone
    cases hdone
  · rw [hrun] at hend
    obtain ⟨hresult, rfl⟩ := Prod.mk.inj hend
    cases result with
    | ok changed => cases hresult
    | error e' =>
      obtain ⟨before, pod, rest, call, hsplit, _, hhalted⟩ :=
        run_handlePods_error hclock hlags config.order name _ false
          ((Advance.start clock s).untouched hread) (hsync'.nodup_podsOn name) hpods
      have hbefore : ∀ p ∈ before ++ [pod], p ∈ s.index.podsOn name := by
        intro p hp
        rw [hsplit, List.append_cons]
        exact List.mem_append_left _ hp
      refine h.progress hhalted.progress (fun p hp => ?_) (fun g hg => ?_) fun a ha => ?_
      · obtain ⟨hp', place, hplace⟩ := hhalted.begun p hp
        obtain ⟨g, hg, hsame, _⟩ :=
          h.exists_due hm hsync hsync' hlisted hcordoned (hbefore p hp') hplace
        exact ⟨hsync'.at?_of_mem_podsOn hone (hbefore p hp'), g, hg, hsame⟩
      · obtain ⟨hp, ha⟩ := mem_governed.mp hg
        obtain ⟨g', hg', _, hsame⟩ := h.exists_due hm hsync hsync' hlisted hcordoned
          (hbefore g.1 (List.mem_append_left _ hp)) (congrArg (Option.map placeOf) ha)
        exact ⟨g', hg', hsame⟩
      · exact at?_of_mem_cached hone hsync' ha

/-! ### The pass that succeeds in the end -/

/-- Two states have the same server, but for versions and times. -/
structure SameUntimed (m s : Memory) : Prop where
  nodes : s.nodes = m.nodes
  budgets : s.budgets = m.budgets
  pods : s.pods.map Pod.untimed = m.pods.map Pod.untimed
  autoscalers : s.autoscalers.map Autoscaler.untimed = m.autoscalers.map Autoscaler.untimed

section

variable {clock' : Memory → Instant} {due' : List (Pod × Autoscaler)} {m' : Memory}

/-- Marking the pods that are due leaves the same pods, whatever had been marked before. -/
theorem Healing.untimed_pods (h : Healing due m s) (hplaces : due'.map placesOf = due.map placesOf)
    (hserver : ∀ g ∈ due, Shelf.at? (placeOf g.1) m.pods = some g.1)
    (hserver' : ∀ g ∈ due', Shelf.at? (placeOf g.1) s.pods = some g.1)
    (hm : Effect clock due m m') (hs : Effect clock' due' s s') (place : Place) :
    (Shelf.at? place s'.pods).map Pod.untimed = (Shelf.at? place m'.pods).map Pod.untimed := by
  by_cases hdue : ∃ g ∈ due, placeOf g.1 = place
  · obtain ⟨g, hg, rfl⟩ := hdue
    obtain ⟨g', hg', hplace, _⟩ := exists_of_map_placesOf hplaces hg
    obtain ⟨t, _, _, hmarked, _⟩ := hm.marked g hg
    obtain ⟨t', _, _, hmarked', _⟩ := hs.marked g' hg'
    have hold := h.pods (placeOf g.1)
    rw [hserver g hg, ← hplace, hserver' g' hg'] at hold
    rw [hmarked, ← hplace, hmarked', Option.map_some, Option.map_some, Pod.untimed_marked,
      Pod.untimed_marked]
    obtain hsame | ⟨_, hannounced⟩ := hold
    · rw [Option.some.inj hsame]
    · rw [Option.some.inj hannounced, Pod.announced_announced]
  · have hother : ∀ g ∈ due, placeOf g.1 ≠ place := fun g hg he => hdue ⟨g, hg, he⟩
    have hother' : ∀ g ∈ due', placeOf g.1 ≠ place := by
      intro g hg he
      obtain ⟨g', hg', hplace, _⟩ := exists_of_map_placesOf hplaces.symm hg
      exact hother g' hg' (hplace.trans he)
    rw [hs.spared place hother', hm.spared place hother]
    exact (h.pods place).resolve_right fun hannounced => hdue hannounced.1

/-- Recording the evictions leaves the same autoscalers, whatever had been recorded before. -/
theorem Healing.untimed_autoscalers (h : Healing due m s)
    (hplaces : due'.map placesOf = due.map placesOf)
    (hserver : ∀ g ∈ due, Shelf.at? (placeOf g.2) m.autoscalers = some g.2)
    (hserver' : ∀ g ∈ due', Shelf.at? (placeOf g.2) s.autoscalers = some g.2)
    (hm : Effect clock due m m') (hs : Effect clock' due' s s') (place : Place) :
    (Shelf.at? place s'.autoscalers).map Autoscaler.untimed
      = (Shelf.at? place m'.autoscalers).map Autoscaler.untimed := by
  by_cases hdue : ∃ g ∈ due, placeOf g.2 = place
  · obtain ⟨g, hg, rfl⟩ := hdue
    obtain ⟨g', hg', _, hplace⟩ := exists_of_map_placesOf hplaces hg
    obtain ⟨pod, t, hlast, _, hrecorded⟩ := hm.recorded g hg
    obtain ⟨pod', t', hlast', _, hrecorded'⟩ := hs.recorded g' hg'
    -- The last pods stand at one place, so they have one name.
    have hname : pod'.name = pod.name := by
      have hpods : (podsOf g'.2 due').map placeOf = (podsOf g.2 due).map placeOf := by
        rw [map_placesOf_podsOf, map_placesOf_podsOf, hplaces, hplace]
      have hlasts := congrArg List.getLast? hpods
      rw [List.getLast?_map, List.getLast?_map, hlast, hlast'] at hlasts
      exact congrArg Place.name (Option.some.inj hlasts)
    have hcore := h.autoscalers (placeOf g.2)
    rw [hserver g hg, ← hplace, hserver' g' hg'] at hcore
    rw [hrecorded, ← hplace, hrecorded', Option.map_some, Option.map_some,
      Autoscaler.untimed_recording, Autoscaler.untimed_recording, Option.some.inj hcore, hname]
  · have hother : ∀ g ∈ due, placeOf g.2 ≠ place := fun g hg he => hdue ⟨g, hg, he⟩
    have hother' : ∀ g ∈ due', placeOf g.2 ≠ place := by
      intro g hg he
      obtain ⟨g', hg', _, hplace⟩ := exists_of_map_placesOf hplaces.symm hg
      exact hother g' hg' (hplace.trans he)
    rw [hs.unrecorded place hother', hm.unrecorded place hother, h.unrecorded place hother]

end

/-- The caches show the server. Where autoscalers are tried as they are listed, they
are listed as they were in the state `m`. -/
structure Ready (order : PolicyOrder) (m s : Memory) : Prop extends InSync s where
  listed : order = .listing → Shelf.places s.cached = Shelf.places m.cached

/-- The states in which a pass is run that is tried again and again over the server of `m`:
each time it has failed, with whatever faults, the caches are brought up to the
server, and nobody else writes. -/
inductive Retried (config : Pass.Config) (name : String) (m : Memory) : Memory → Prop where
  | first {s : Memory} (hserver : SameServer m s) (hready : Ready config.order m s) :
      Retried config name m s
  | again {s s₁ s₂ : Memory} {clock : Memory → Instant} {lags : Memory → Bool} {e : Failure}
      (h : Retried config name m s) (hclock : Unaware clock) (hlags : Unaware lags)
      (hrun : (Pass.overNode config name).run (handlerUnder clock lags) s = (.error e, s₁))
      (hserver : SameServer s₁ s₂) (hready : Ready config.order m s₂) :
      Retried config name m s₂

theorem Retried.healing {config : Pass.Config} (h : Retried config name m s) (hm : OnePerPlace m)
    (hsync : InSync m) :
    Ready config.order m s ∧ Healing (m.faultless.due config.order name) m s := by
  induction h with
  | first hserver hready => exact ⟨hready, (Healing.start _ m).sameServer hserver⟩
  | again _ hclock hlags hrun hserver hready ih =>
    obtain ⟨hready', hhealing⟩ := ih
    exact ⟨hready, (hhealing.fail hm hsync hready'.toInSync hready'.listed hclock hlags
      hrun).sameServer hserver⟩

/-- After any number of failed passes, a pass that meets with no fault succeeds with
the outcome that it would have had at first, and leaves the same server, but for
versions and times. -/
theorem run_overNode_retried {config : Pass.Config} (hm : OnePerPlace m) (hsync : InSync m)
    (hfaults : m.faults = []) (h : Retried config name m s) (hfaults' : s.faults = [])
    (clock clock' : Memory → Instant) (lags lags' : Memory → Bool) :
    ∃ outcome m' s',
      (Pass.overNode config name).run (handlerUnder clock lags) m = (.ok outcome, m') ∧
      (Pass.overNode config name).run (handlerUnder clock' lags') s = (.ok outcome, s') ∧
      SameUntimed m' s' := by
  obtain ⟨hready, hhealing⟩ := h.healing hm hsync
  have hsync' : InSync s := hready.toInSync
  have hone := hhealing.onePerPlace hm
  have hplaces : (s.faultless.due config.order name).map placesOf
      = (m.faultless.due config.order name).map placesOf :=
    hhealing.due_places hm hsync hsync' hready.listed
  rw [faultless_eq hfaults] at hhealing hplaces
  rw [faultless_eq hfaults'] at hplaces
  obtain ⟨m', _, hrun, hmidway⟩ := run_overNode_midway clock lags config name hm hsync hfaults
  obtain ⟨s', _, hrun', hmidway'⟩ :=
    run_overNode_midway clock' lags' config name hone hsync' hfaults'
  have hserver := fun g (hg : g ∈ m.due config.order name) => at?_of_mem_due hm hsync hfaults hg
  have hserver' := fun g (hg : g ∈ s.due config.order name) =>
    at?_of_mem_due hone hsync' hfaults' hg
  have houtcome : outcomeOf config (s.due config.order name)
      = outcomeOf config (m.due config.order name) := by
    have hempty := congrArg List.isEmpty hplaces
    rw [List.isEmpty_map, List.isEmpty_map] at hempty
    unfold outcomeOf
    rw [hempty]
  rw [houtcome] at hrun'
  refine ⟨_, m', s', hrun, hrun', ?_, ?_, ?_, ?_⟩
  · rw [hmidway'.nodes, hmidway.nodes, hhealing.nodes]
  · rw [hmidway'.budgets, hmidway.budgets, hhealing.budgets]
  · refine Shelf.map_eq_of_at? Pod.untimed ?_ ?_ fun place =>
      hhealing.untimed_pods hplaces (fun g hg => (hserver g hg).1) (fun g hg => (hserver' g hg).1)
        hmidway.toEffect hmidway'.toEffect place
    · exact hmidway.podPlaces ▸ nodup_places_of_keys hm.pods
    · rw [hmidway'.podPlaces, hmidway.podPlaces, hhealing.podPlaces]
  · refine Shelf.map_eq_of_at? Autoscaler.untimed ?_ ?_ fun place =>
      hhealing.untimed_autoscalers hplaces (fun g hg => (hserver g hg).2)
        (fun g hg => (hserver' g hg).2) hmidway.toEffect hmidway'.toEffect place
    · exact hmidway.autoscalerPlaces ▸ hm.autoscalers
    · rw [hmidway'.autoscalerPlaces, hmidway.autoscalerPlaces, hhealing.autoscalerPlaces]

/-! ### Bringing the caches up to the server -/

theorem foldl_tellIndex (events : List (Watch.Event Pod)) (m : Memory) :
    ∃ logs, events.foldl tellIndex m = { m with index := m.index.applyAll events, logs } := by
  induction events generalizing m with
  | nil => exact ⟨m.logs, rfl⟩
  | cons event rest ih =>
    obtain ⟨logs, hrest⟩ := ih (m.tellIndex event)
    exact ⟨logs, hrest⟩

/-- Bringing the caches up to the server and taking faults away leaves the server alone. -/
theorem sameServer_sync (m : Memory) : SameServer m m.sync.faultless := by
  obtain ⟨logs, hindex⟩ := foldl_tellIndex (Watch.Event.listing m.pods) m
  unfold sync
  rw [hindex]
  exact ⟨rfl, rfl, rfl, rfl⟩

/-- Where the caches have been brought up to the server, they show it. -/
theorem inSync_sync (hm : OnePerPlace m) : InSync m.sync.faultless := by
  obtain ⟨logs, hindex⟩ := foldl_tellIndex (Watch.Event.listing m.pods) m
  unfold sync
  rw [hindex]
  exact ⟨fun node => (Watch.PodIndex.podsOn_listing m.index hm.pods node).2,
    fun node => (Watch.PodIndex.podsOn_listing m.index hm.pods node).1, List.Perm.refl _⟩

/-- The node with two pods that share an autoscaler, where the second write of the
autoscaler is refused. -/
def flaky : Memory :=
  { shared with
    faults := [{ on := .updateAutoscaler, skip := 1, failure := .conflict "autoscaler modified" }] }

/-- What the failed pass leaves, with the caches brought up to it. -/
def resumed : Memory := (flaky.pass {} "n1").2.sync.faultless

theorem onePerPlace_shared : OnePerPlace shared := ⟨by decide, by decide⟩

theorem retried_resumed : Retried {} "n1" shared resumed := by
  have hflaky : InSync flaky := ⟨inSync_shared.indexed, inSync_shared.ordered, inSync_shared.cached⟩
  have hfirst : Retried {} "n1" shared flaky :=
    .first ⟨rfl, rfl, rfl, rfl⟩ ⟨hflaky, fun _ => rfl⟩
  have hnow : Unaware now := fun _ _ => rfl
  have hlag : Unaware lag := fun _ _ => rfl
  have hrun : flaky.pass {} "n1"
      = (.error (.conflict "autoscaler modified"), (flaky.pass {} "n1").2) := Prod.ext rfl rfl
  have hone : OnePerPlace (flaky.pass {} "n1").2 := ⟨by decide +kernel, by decide +kernel⟩
  have hplaces : Shelf.places resumed.cached = Shelf.places shared.cached := by decide +kernel
  exact .again hfirst hnow hlag hrun (sameServer_sync _) ⟨inSync_sync hone, fun _ => hplaces⟩

/-- The second pass over that node ends as the first one would have. -/
theorem run_overNode_retried_resumed :
    OnePerPlace shared ∧ InSync shared ∧ shared.faults = [] ∧ Retried {} "n1" shared resumed ∧
      resumed.faults = [] ∧ ∃ outcome m' s', shared.pass {} "n1" = (.ok outcome, m') ∧
        resumed.pass {} "n1" = (.ok outcome, s') ∧ SameUntimed m' s' :=
  ⟨onePerPlace_shared, inSync_shared, rfl, retried_resumed, rfl,
    run_overNode_retried onePerPlace_shared inSync_shared rfl retried_resumed rfl now now lag lag⟩

/-- The autoscalers that record an eviction, and of which pod. -/
def recordings (m : Memory) : List (String × String) :=
  m.autoscalers.map fun a => (a.name, a.spec.lastEviction.podName)

theorem SameUntimed.recordings (h : SameUntimed m s) : s.recordings = m.recordings := by
  have hnames := congrArg (List.map fun a => (a.name, a.spec.lastEviction.podName)) h.autoscalers
  rwa [List.map_map, List.map_map] at hnames

/-- The node with the rivals, which the cache lists in another order than the server. -/
def shuffled : Memory := { rivals with cached := rivals.autoscalers.reverse }

/-- There the first look for a budget fails, before anything is written. -/
def shuffledFailing : Memory :=
  { shuffled with faults := [{ on := .getBudget, failure := .api "budget lookup failed" }] }

/-- What that pass leaves, with the caches brought up to the server. -/
def relisted : Memory := (shuffledFailing.pass {} "n1").2.sync.faultless

/-- Where autoscalers are tried as they are listed, a cache that has relisted them in
another order lets the pass record on another one than it would have at first. The caches
show the server before each pass. -/
theorem retried_relisted :
    (OnePerPlace shuffled ∧ InSync shuffled ∧ shuffled.faults = []) ∧
    (SameServer shuffled shuffledFailing ∧ InSync shuffledFailing) ∧
    (∃ s, shuffledFailing.pass {} "n1" = (.error (.api "budget lookup failed"), s) ∧
      SameServer s relisted) ∧
    (InSync relisted ∧ relisted.faults = []) ∧
    ∃ outcome m' s', shuffled.pass {} "n1" = (.ok outcome, m') ∧
      relisted.pass {} "n1" = (.ok outcome, s') ∧
      m'.recordings = [("web", ""), ("app", "web-1")] ∧
      s'.recordings = [("web", "web-1"), ("app", "")] ∧ ¬ SameUntimed m' s' := by
  have hsync : InSync shuffled := inSync_rivals (List.reverse_perm _)
  have hfailing : InSync shuffledFailing := ⟨hsync.indexed, hsync.ordered, hsync.cached⟩
  have hone : OnePerPlace (shuffledFailing.pass {} "n1").2 :=
    ⟨by decide +kernel, by decide +kernel⟩
  have hfirst : (shuffled.pass {} "n1").2.recordings = [("web", ""), ("app", "web-1")] := by
    decide +kernel
  have hthen : (relisted.pass {} "n1").2.recordings = [("web", "web-1"), ("app", "")] := by
    decide +kernel
  have hone' : OnePerPlace shuffled := ⟨onePerPlace_rivals.pods, onePerPlace_rivals.autoscalers⟩
  refine ⟨⟨hone', hsync, rfl⟩, ⟨⟨rfl, rfl, rfl, rfl⟩, hfailing⟩,
    ⟨_, Prod.ext rfl rfl, sameServer_sync _⟩, ⟨inSync_sync hone, rfl⟩,
    .requeueAfter (Span.ofSeconds 60), _, _, Prod.ext rfl rfl, Prod.ext rfl rfl, hfirst, hthen,
    fun hsame => ?_⟩
  have hsame' := hthen.symm.trans (hsame.recordings.trans hfirst)
  exact absurd hsame' (by decide)

end Memory

end CordonWatch.Store
