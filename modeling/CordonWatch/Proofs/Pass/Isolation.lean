import CordonWatch.Proofs.Pass.Retrying
import Mathlib.Data.List.Basic

/-!
# Namespaces that do not see each other

Pods of all namespaces stand in one index and are handled in one loop, which
remembers the autoscalers of all of them in one table. Here two servers are
compared that have the same node, and the same pods, autoscalers and budgets in
one namespace, and whatever else in the others (`AgreeOn`). A pass that meets with
no fault does the same to that namespace on both (`run_overNode_isolated`).

What a pass does is said by the list of what is due. Its part that concerns a
namespace is a matter of that namespace alone (`AgreeOn.due_eq`), and the writes
to a namespace are those for that part (`filter_writesAfter`), since an autoscaler
is chosen for pods of its own namespace only.
-/

namespace CordonWatch.Store

/-- The call writes an object of that namespace, where a pod without one belongs to
the default one. -/
def Call.writesIn (ns : String) : Call → Bool
  | .updatePodStatus pod => pod.nsOrDefault = ns
  | .updateAutoscaler a => a.metadata.ns = some ns
  | .getNode _ | .podsOnNode _ | .listAutoscalers _ | .getBudget _ _ => false

namespace Memory

/-- Two states agree on a node and on what a namespace has; of other namespaces
nothing is said. Where autoscalers are tried as they are listed, that includes how
those of the namespace are listed. -/
structure AgreeOn (ns : String) (order : PolicyOrder) (name : String) (m s : Memory) : Prop where
  node : s.nodes.find? (·.name = name) = m.nodes.find? (·.name = name)
  pods : (s.pods.filter (·.nsOrDefault = ns)).Perm (m.pods.filter (·.nsOrDefault = ns))
  autoscalers : (s.autoscalers.filter (·.metadata.ns = some ns)).Perm
    (m.autoscalers.filter (·.metadata.ns = some ns))
  budgets : ∀ budget, Shelf.at? ⟨some ns, budget⟩ s.budgets = Shelf.at? ⟨some ns, budget⟩ m.budgets
  listed : order = .listing →
    Shelf.places (s.cached.filter (·.metadata.ns = some ns))
      = Shelf.places (m.cached.filter (·.metadata.ns = some ns))

/-- Two states have the same pods and autoscalers in a namespace, but for times. -/
structure SameIn (ns : String) (m s : Memory) : Prop where
  pods : ((s.pods.filter (·.nsOrDefault = ns)).map Pod.clockless).Perm
    ((m.pods.filter (·.nsOrDefault = ns)).map Pod.clockless)
  autoscalers : ((s.autoscalers.filter (·.metadata.ns = some ns)).map Autoscaler.clockless).Perm
    ((m.autoscalers.filter (·.metadata.ns = some ns)).map Autoscaler.clockless)

/-- The governed pods of a namespace. -/
def inNamespace (ns : String) (handled : List (Pod × Autoscaler)) : List (Pod × Autoscaler) :=
  handled.filter fun g => g.1.nsOrDefault = ns

theorem mem_inNamespace {ns : String} {handled : List (Pod × Autoscaler)} {g : Pod × Autoscaler} :
    g ∈ inNamespace ns handled ↔ g ∈ handled ∧ g.1.nsOrDefault = ns := by
  unfold inNamespace
  rw [List.mem_filter, decide_eq_true_eq]

/-- Every pod is governed by an autoscaler of its own namespace. -/
def Local (handled : List (Pod × Autoscaler)) : Prop :=
  ∀ g ∈ handled, g.2.metadata.ns = some g.1.nsOrDefault

variable {clock clock' : Memory → Instant} {lags lags' : Memory → Bool} {m m' s s' : Memory}
  {order : PolicyOrder} {name ns : String} {handled before : List (Pod × Autoscaler)}

/-! ### What is due in a namespace -/

/-- Sorted by key, pods are told by which there are. -/
theorem eq_of_mem_iff_of_keys {pods pods' : List Pod}
    (hsorted : pods.Pairwise fun p q => p.key < q.key)
    (hsorted' : pods'.Pairwise fun p q => p.key < q.key) (h : ∀ pod, pod ∈ pods' ↔ pod ∈ pods) :
    pods' = pods := by
  have hkeyed : pods'.map (fun pod => (pod.key, pod)) = pods.map fun pod => (pod.key, pod) := by
    refine Table.eq_of_mem_iff (List.pairwise_map.mpr hsorted') (List.pairwise_map.mpr hsorted)
      fun e => ?_
    simp only [List.mem_map, h]
  have hpods := congrArg (List.map Prod.snd) hkeyed
  rwa [List.map_map, List.map_map, show Prod.snd ∘ (fun pod : Pod => (pod.key, pod)) = id from rfl,
    List.map_id, List.map_id] at hpods

/-- The index has the same pods of the namespace on the node. -/
theorem AgreeOn.podsOn_eq (h : AgreeOn ns order name m s) (hsync : InSync m) (hsync' : InSync s) :
    (s.index.podsOn name).filter (·.nsOrDefault = ns)
      = (m.index.podsOn name).filter (·.nsOrDefault = ns) := by
  refine eq_of_mem_iff_of_keys ((hsync.ordered name).filter _) ((hsync'.ordered name).filter _)
    fun pod => ?_
  have hserver := h.pods.mem_iff (a := pod)
  rw [List.mem_filter, List.mem_filter] at hserver ⊢
  rw [hsync.indexed, hsync'.indexed, and_right_comm, hserver, and_right_comm]

/-- The same autoscalers are tried for a pod of the namespace, in the same order. -/
theorem AgreeOn.candidates_eq (h : AgreeOn ns order name m s) (hm : OnePerPlace m)
    (hsync : InSync m) (hsync' : InSync s) {pod : Pod} (hpod : pod.nsOrDefault = ns) :
    s.candidates order pod = m.candidates order pod := by
  have hperm : (s.cached.filter (·.metadata.ns = some ns)).Perm
      (m.cached.filter (·.metadata.ns = some ns)) :=
    (hsync'.cached.filter _).trans (h.autoscalers.trans (hsync.cached.filter _).symm)
  have hnodup : (Shelf.places (m.cached.filter (·.metadata.ns = some ns))).Nodup :=
    (nodup_cached hm hsync).sublist (List.filter_sublist.map placeOf)
  unfold candidates
  rw [hpod]
  cases order with
  | listing =>
    -- The lists have the same places in the same order, and each place has one object.
    have hlisted := Shelf.eq_map_of_places hnodup (h.listed rfl)
    rw [PolicyOrder.arrange, PolicyOrder.arrange, hlisted]
    refine (List.map_congr_left fun a ha => ?_).trans (List.map_id _)
    rw [Shelf.at?_of_mem ((h.listed rfl).symm ▸ hnodup) (hperm.mem_iff.mpr ha), Option.getD_some]
    rfl
  | name =>
    refine mergeSort_eq_of_perm Autoscaler.name hperm fun a ha b hb hname => ?_
    have hns : ∀ c ∈ m.cached.filter (·.metadata.ns = some ns), c.metadata.ns = some ns :=
      fun c hc => of_decide_eq_true (List.mem_filter.mp hc).2
    have hplace : placeOf a = placeOf b := Place.ext ((hns a ha).trans (hns b hb).symm) hname
    exact eq_of_placeOf_eq hm hsync (List.mem_filter.mp ha).1 (List.mem_filter.mp hb).1 hplace

/-- So the same one is selected. -/
theorem AgreeOn.selected_eq (h : AgreeOn ns order name m s) (hm : OnePerPlace m)
    (hsync : InSync m) (hsync' : InSync s) {pod : Pod} (hpod : pod.nsOrDefault = ns) :
    s.selected order pod = m.selected order pod := by
  have hqualifies : qualifies s.budgets ns pod.metadata.labelTable
      = qualifies m.budgets ns pod.metadata.labelTable := by
    funext a
    unfold qualifies
    rw [h.budgets]
  unfold selected
  rw [h.candidates_eq hm hsync hsync' hpod, hpod, hqualifies]

theorem inNamespace_governed (m : Memory) (order : PolicyOrder) (ns : String) (pods : List Pod) :
    inNamespace ns (m.governed order pods)
      = m.governed order (pods.filter (·.nsOrDefault = ns)) := by
  induction pods with
  | nil => rfl
  | cons pod rest ih =>
    by_cases hpod : pod.nsOrDefault = ns
    · rw [List.filter_cons_of_pos (by simpa using hpod)]
      cases hgovernor : m.governor order pod with
      | none => rw [governed_cons_of_none hgovernor, governed_cons_of_none hgovernor, ih]
      | some a =>
        rw [governed_cons_of_some hgovernor, governed_cons_of_some hgovernor, ← ih]
        exact List.filter_cons_of_pos (by simpa using hpod)
    · rw [List.filter_cons_of_neg (by simpa using hpod)]
      cases hgovernor : m.governor order pod with
      | none => rw [governed_cons_of_none hgovernor, ih]
      | some a =>
        rw [governed_cons_of_some hgovernor, ← ih]
        exact List.filter_cons_of_neg (by simpa using hpod)

/-- The part of what is due that concerns the namespace is the same. -/
theorem AgreeOn.due_eq (h : AgreeOn ns order name m s) (hm : OnePerPlace m) (hsync : InSync m)
    (hsync' : InSync s) (hfaults : m.faults = []) (hfaults' : s.faults = []) :
    inNamespace ns (s.due order name) = inNamespace ns (m.due order name) := by
  have hgoverned : inNamespace ns (s.governed order (s.index.podsOn name))
      = inNamespace ns (m.governed order (m.index.podsOn name)) := by
    rw [inNamespace_governed, inNamespace_governed, h.podsOn_eq hsync hsync']
    refine List.filterMap_congr fun pod hpod => ?_
    have hns : pod.nsOrDefault = ns := of_decide_eq_true (List.mem_filter.mp hpod).2
    rw [governor_eq_selected hfaults', governor_eq_selected hfaults,
      h.selected_eq hm hsync hsync' hns]
  unfold due
  rw [h.node]
  split
  · rfl
  · split
    · exact hgoverned
    · rfl

/-! ### What is written to a namespace -/

theorem local_due (hfaults : m.faults = []) (order : PolicyOrder) (name : String) :
    Local (m.due order name) := by
  intro g hg
  rw [← faultless_eq hfaults] at hg
  obtain ⟨-, -, hselected⟩ := (mem_due order).mp hg
  exact congrArg Place.ns (mem_cached_of_selected hselected).2

/-- The pods of an autoscaler are of its namespace. -/
theorem podsOf_inNamespace (hlocal : Local handled) {a : Autoscaler}
    (ha : a.metadata.ns = some ns) : podsOf a (inNamespace ns handled) = podsOf a handled := by
  unfold podsOf inNamespace
  rw [List.filter_filter]
  refine congrArg (List.map Prod.fst) (List.filter_congr fun g hg => ?_)
  by_cases hplace : placeOf g.2 = placeOf a
  · have hns : g.1.nsOrDefault = ns := by
      have hsame : g.2.metadata.ns = a.metadata.ns := congrArg Place.ns hplace
      rw [hlocal g hg, ha] at hsame
      exact Option.some.inj hsame
    simp [hplace, hns]
  · simp [hplace]

/-- The writes to a namespace are those for the governed pods in it. -/
theorem filter_writesAfter (handled : List (Pod × Autoscaler)) :
    ∀ {before : List (Pod × Autoscaler)}, Local before → Local handled →
      (writesAfter before handled).filter (·.writesIn ns)
        = writesAfter (inNamespace ns before) (inNamespace ns handled) := by
  induction handled with
  | nil => exact fun _ _ => rfl
  | cons g rest ih =>
    intro before hbefore hhandled
    obtain ⟨hg, hrest⟩ := List.forall_mem_cons.mp hhandled
    have hbefore' : Local (before ++ [g]) :=
      List.forall_mem_append.mpr ⟨hbefore, List.forall_mem_singleton.mpr hg⟩
    have hnext := ih hbefore' hrest
    have hmark : (Call.updatePodStatus g.1.clockless.announced).writesIn ns
        = decide (g.1.nsOrDefault = ns) := rfl
    have hrecord : ∀ writes, (recording writes g.1 g.2).writesIn ns
        = decide (g.1.nsOrDefault = ns) := by
      intro writes
      show decide (g.2.metadata.ns = some ns) = _
      rw [hg]
      exact decide_eq_decide.mpr Option.some_inj
    rw [writesAfter, List.filter_append]
    -- How often `g.2` was written before is a matter of its own namespace.
    by_cases hns : g.1.nsOrDefault = ns
    · have hmarking : (marking g.1).filter (·.writesIn ns) = marking g.1 := by
        unfold marking
        split <;> simp [hmark, hns]
      have hconcat : inNamespace ns (before ++ [g]) = inNamespace ns before ++ [g] := by
        simp [inNamespace, hns]
      rw [hmarking, List.filter_cons_of_pos (by simp [hrecord, hns]), hnext, hconcat,
        show inNamespace ns (g :: rest) = g :: inNamespace ns rest by simp [inNamespace, hns],
        writesAfter, podsOf_inNamespace hbefore (hg.trans (congrArg some hns))]
    · have hmarking : (marking g.1).filter (·.writesIn ns) = [] := by
        unfold marking
        split <;> simp [hmark, hns]
      have hconcat : inNamespace ns (before ++ [g]) = inNamespace ns before := by
        simp [inNamespace, hns]
      rw [hmarking, List.filter_cons_of_neg (by simp [hrecord, hns]), hnext, hconcat,
        show inNamespace ns (g :: rest) = inNamespace ns rest by simp [inNamespace, hns],
        List.nil_append]

/-- An autoscaler that is written records one of its pods. -/
theorem exists_of_mem_writesAfter {a : Autoscaler}
    (h : .updateAutoscaler a ∈ writesAfter before handled) :
    ∃ g ∈ handled, placeOf a = placeOf g.2 ∧ a.spec.lastEviction.podName = g.1.name := by
  induction handled generalizing before with
  | nil => exact absurd h List.not_mem_nil
  | cons g rest ih =>
    rw [writesAfter, List.mem_append, List.mem_cons] at h
    rcases h with hmarking | hrecording | hrest
    · unfold marking at hmarking
      split at hmarking
      · exact absurd (List.mem_singleton.mp hmarking) (by simp)
      · exact absurd hmarking List.not_mem_nil
    · obtain rfl := Call.updateAutoscaler.inj hrecording
      exact ⟨g, List.mem_cons_self .., rfl, rfl⟩
    · obtain ⟨g', hg', ha⟩ := ih hrest
      exact ⟨g', List.mem_cons_of_mem _ hg', ha⟩

/-! ### What is left in a namespace -/

/-- Whether a place of a pod is in the namespace. -/
def holdsPodsOf (ns : String) (place : Place) : Bool := place.ns.getD "default" = ns

/-- Whether a place of an autoscaler is in the namespace. -/
def holdsAutoscalersOf (ns : String) (place : Place) : Bool := place.ns = some ns

section

variable {due due' : List (Pod × Autoscaler)}

theorem mem_iff_of_inNamespace_eq (hdue : inNamespace ns due' = inNamespace ns due)
    {g : Pod × Autoscaler} (hg : g.1.nsOrDefault = ns) : g ∈ due' ↔ g ∈ due := by
  have hmem : g ∈ inNamespace ns due' ↔ g ∈ inNamespace ns due := by rw [hdue]
  simpa [mem_inNamespace, hg] using hmem

/-- Where the same is due in the namespace, its pods are left the same. -/
theorem AgreeOn.at?_pods (h : AgreeOn ns order name m s) (hm : OnePerPlace m)
    (hs : OnePerPlace s) (hdue : inNamespace ns due' = inNamespace ns due)
    (heffect : Effect clock due m m') (heffect' : Effect clock' due' s s') {place : Place}
    (hplace : holdsPodsOf ns place = true) :
    (Shelf.at? place s'.pods).map Pod.clockless = (Shelf.at? place m'.pods).map Pod.clockless := by
  have hns : ∀ g : Pod × Autoscaler, placeOf g.1 = place → g.1.nsOrDefault = ns := by
    rintro g rfl
    exact of_decide_eq_true hplace
  have hsame : ∀ g : Pod × Autoscaler, placeOf g.1 = place → (g ∈ due' ↔ g ∈ due) :=
    fun g hg => mem_iff_of_inNamespace_eq hdue (hns g hg)
  by_cases hhandled : ∃ g ∈ due, placeOf g.1 = place
  · obtain ⟨g, hg, hplace⟩ := hhandled
    obtain ⟨t, _, _, hat, _⟩ := heffect.marked g hg
    obtain ⟨t', _, _, hat', _⟩ := heffect'.marked g ((hsame g hplace).mpr hg)
    rw [← hplace, hat, hat', Option.map_some, Option.map_some, Pod.clockless_marked t t']
  · have hother : ∀ g ∈ due, placeOf g.1 ≠ place := fun g hg he => hhandled ⟨g, hg, he⟩
    have hother' : ∀ g ∈ due', placeOf g.1 ≠ place :=
      fun g hg he => hother g ((hsame g he).mp hg) he
    rw [heffect.spared place hother, heffect'.spared place hother',
      Shelf.at?_eq_of_perm (nodup_places_of_keys hm.pods) (nodup_places_of_keys hs.pods)
        (holdsPodsOf ns) h.pods hplace]

/-- Where the same is due in the namespace, its autoscalers are left the same. -/
theorem AgreeOn.at?_autoscalers (h : AgreeOn ns order name m s) (hm : OnePerPlace m)
    (hs : OnePerPlace s) (hlocal : Local due) (hlocal' : Local due')
    (hdue : inNamespace ns due' = inNamespace ns due)
    (heffect : Effect clock due m m') (heffect' : Effect clock' due' s s') {place : Place}
    (hplace : holdsAutoscalersOf ns place = true) :
    (Shelf.at? place s'.autoscalers).map Autoscaler.clockless
      = (Shelf.at? place m'.autoscalers).map Autoscaler.clockless := by
  have hns : ∀ g : Pod × Autoscaler, placeOf g.2 = place → g.2.metadata.ns = some ns := by
    rintro g rfl
    exact of_decide_eq_true hplace
  have hsame : ∀ g : Pod × Autoscaler, g.2.metadata.ns = some g.1.nsOrDefault →
      placeOf g.2 = place → (g ∈ due' ↔ g ∈ due) := by
    intro g hg he
    exact mem_iff_of_inNamespace_eq hdue (Option.some.inj (hg.symm.trans (hns g he)))
  by_cases hhandled : ∃ g ∈ due, placeOf g.2 = place
  · obtain ⟨g, hg, hplace⟩ := hhandled
    obtain ⟨pod, t, hlast, _, hat⟩ := heffect.recorded g hg
    obtain ⟨pod', t', hlast', _, hat'⟩ :=
      heffect'.recorded g ((hsame g (hlocal g hg) hplace).mpr hg)
    have hpods : podsOf g.2 due' = podsOf g.2 due := by
      rw [← podsOf_inNamespace hlocal' (hns g hplace), hdue,
        podsOf_inNamespace hlocal (hns g hplace)]
    rw [hpods] at hlast' hat'
    obtain rfl : pod' = pod := Option.some.inj (hlast'.symm.trans hlast)
    rw [← hplace, hat, hat']
    rfl
  · have hother : ∀ g ∈ due, placeOf g.2 ≠ place := fun g hg he => hhandled ⟨g, hg, he⟩
    have hother' : ∀ g ∈ due', placeOf g.2 ≠ place :=
      fun g hg he => hother g ((hsame g (hlocal' g hg) he).mp hg) he
    rw [heffect.unrecorded place hother, heffect'.unrecorded place hother',
      Shelf.at?_eq_of_perm hm.autoscalers hs.autoscalers (holdsAutoscalersOf ns) h.autoscalers
        hplace]

end

/-- Passes that meet with no fault leave the same pods and autoscalers in a namespace
on which their servers agree, and make the same writes to it in the same order, at
whatever times. Every pod is governed by an autoscaler of its own namespace, through
a budget of that namespace, and no autoscaler records a pod of another one. -/
theorem run_overNode_isolated (config : Pass.Config) (name ns : String) (hm : OnePerPlace m)
    (hs : OnePerPlace s) (hsync : InSync m) (hsync' : InSync s) (hfaults : m.faults = [])
    (hfaults' : s.faults = []) (h : AgreeOn ns config.order name m s)
    (clock clock' : Memory → Instant) (lags lags' : Memory → Bool) :
    ∃ outcome outcome' m' s' wrote wrote',
      (Pass.overNode config name).run (handlerUnder clock lags) m = (.ok outcome, m') ∧
      (Pass.overNode config name).run (handlerUnder clock' lags') s = (.ok outcome', s') ∧
      SameIn ns m' s' ∧ m'.wrote = m.wrote ++ wrote ∧ s'.wrote = s.wrote ++ wrote' ∧
      wrote'.filter (·.writesIn ns) = wrote.filter (·.writesIn ns) ∧
      (∀ g ∈ m.due config.order name, g.2.metadata.ns = some g.1.nsOrDefault ∧
        qualifies m.budgets g.1.nsOrDefault g.1.metadata.labelTable g.2 = true) ∧
      ∀ a, .updateAutoscaler a ∈ wrote → ∃ pod ∈ m.pods,
        a.metadata.ns = some pod.nsOrDefault ∧ a.spec.lastEviction.podName = pod.name := by
  obtain ⟨m', _, hrun, hmidway, hwrote⟩ :=
    run_overNode_wrote clock lags config name hm hsync hfaults
  obtain ⟨s', _, hrun', hmidway', hwrote'⟩ :=
    run_overNode_wrote clock' lags' config name hs hsync' hfaults'
  have hdue := h.due_eq hm hsync hsync' hfaults hfaults'
  have hlocal : Local (m.due config.order name) := local_due hfaults config.order name
  have hlocal' : Local (s.due config.order name) := local_due hfaults' config.order name
  have hnone : Local [] := fun g hg => absurd hg List.not_mem_nil
  have hpods : (Shelf.places m'.pods).Nodup := hmidway.podPlaces ▸ nodup_places_of_keys hm.pods
  have hpods' : (Shelf.places s'.pods).Nodup := hmidway'.podPlaces ▸ nodup_places_of_keys hs.pods
  have hautoscalers : (Shelf.places m'.autoscalers).Nodup :=
    hmidway.autoscalerPlaces ▸ hm.autoscalers
  have hautoscalers' : (Shelf.places s'.autoscalers).Nodup :=
    hmidway'.autoscalerPlaces ▸ hs.autoscalers
  refine ⟨_, _, m', s', _, _, hrun, hrun', ⟨?_, ?_⟩, hwrote, hwrote', ?_, ?_, ?_⟩
  · exact Shelf.perm_map_of_at? hpods hpods' (holdsPodsOf ns) (fun _ => rfl) fun place hplace =>
      h.at?_pods hm hs hdue hmidway.toEffect hmidway'.toEffect hplace
  · exact Shelf.perm_map_of_at? hautoscalers hautoscalers' (holdsAutoscalersOf ns) (fun _ => rfl)
      fun place hplace => h.at?_autoscalers hm hs hlocal hlocal' hdue hmidway.toEffect
        hmidway'.toEffect hplace
  · rw [filter_writesAfter _ hnone hlocal', filter_writesAfter _ hnone hlocal, hdue]
  · intro g hg
    rw [← faultless_eq hfaults] at hg
    obtain ⟨-, -, hselected⟩ := (mem_due config.order).mp hg
    exact ⟨congrArg Place.ns (mem_cached_of_selected hselected).2, List.find?_some hselected⟩
  · intro a ha
    obtain ⟨g, hg, hplace, hname⟩ := exists_of_mem_writesAfter ha
    have hns : a.metadata.ns = g.2.metadata.ns := congrArg Place.ns hplace
    have hat := (at?_of_mem_due hm hsync hfaults hg).1
    exact ⟨g.1, Shelf.mem_of_at? hat, hns.trans (hlocal g hg), hname⟩

/-- That server with another namespace beside it, in which pods, autoscalers and
budgets have the same names and labels. -/
def crowded : Memory :=
  let move (metadata : ObjectMeta) : ObjectMeta := { metadata with ns := some "test" }
  let elsewhere : Memory :=
    { shared with
      pods := shared.pods.map (fun pod => { pod with metadata := move pod.metadata }) ++ shared.pods
      autoscalers := shared.autoscalers.map (fun a => { a with metadata := move a.metadata })
        ++ shared.autoscalers
      budgets := shared.budgets.map (fun b => { b with metadata := move b.metadata })
        ++ shared.budgets }
  elsewhere.sync.faultless

theorem agreeOn_crowded : AgreeOn "prod" .listing "n1" shared crowded where
  node := rfl
  pods := List.Perm.refl _
  autoscalers := List.Perm.refl _
  budgets := fun _ => rfl
  listed := fun _ => rfl

theorem onePerPlace_crowded : OnePerPlace crowded := ⟨by decide +kernel, by decide +kernel⟩

theorem inSync_crowded : InSync crowded := inSync_sync ⟨by decide +kernel, by decide +kernel⟩

/-- A pass over the node does to the first namespace what it does without the other one,
of which it handles two pods more. -/
theorem run_overNode_isolated_crowded : (crowded.due .listing "n1").length = 4 ∧
    OnePerPlace shared ∧ OnePerPlace crowded ∧ InSync shared ∧ InSync crowded ∧
    shared.faults = [] ∧ crowded.faults = [] ∧ AgreeOn "prod" .listing "n1" shared crowded ∧
    ∃ outcome outcome' m' s' wrote wrote',
      shared.pass {} "n1" = (.ok outcome, m') ∧ crowded.pass {} "n1" = (.ok outcome', s') ∧
      SameIn "prod" m' s' ∧ m'.wrote = shared.wrote ++ wrote ∧
      s'.wrote = crowded.wrote ++ wrote' ∧
      wrote'.filter (·.writesIn "prod") = wrote.filter (·.writesIn "prod") ∧
      (∀ g ∈ shared.due .listing "n1", g.2.metadata.ns = some g.1.nsOrDefault ∧
        qualifies shared.budgets g.1.nsOrDefault g.1.metadata.labelTable g.2 = true) ∧
      ∀ a, .updateAutoscaler a ∈ wrote → ∃ pod ∈ shared.pods,
        a.metadata.ns = some pod.nsOrDefault ∧ a.spec.lastEviction.podName = pod.name :=
  ⟨by decide +kernel, onePerPlace_shared, onePerPlace_crowded, inSync_shared, inSync_crowded,
    rfl, rfl, agreeOn_crowded,
    run_overNode_isolated {} "n1" "prod" onePerPlace_shared onePerPlace_crowded inSync_shared
      inSync_crowded rfl rfl agreeOn_crowded now now lag lag⟩

/-- The autoscalers of a namespace that record an eviction, and of which pod. -/
def recordingsIn (ns : String) (m : Memory) : List (String × String) :=
  (m.autoscalers.filter (·.metadata.ns = some ns)).map fun a =>
    (a.name, a.spec.lastEviction.podName)

theorem SameIn.perm_recordings {recorded recorded' : List (String × String)}
    (h : SameIn ns m s) (hm : recordingsIn ns m = recorded) (hs : recordingsIn ns s = recorded') :
    recorded'.Perm recorded := by
  have hnames := h.autoscalers.map fun a => (a.name, a.spec.lastEviction.podName)
  rw [List.map_map, List.map_map] at hnames
  rw [← hm, ← hs]
  exact hnames

/-- The node with the rivals, and an autoscaler of another namespace beside them, with
which the cache lists the rivals the other way round. -/
def jumbled : Memory :=
  let elsewhere : Autoscaler :=
    { metadata := { name := some "web", ns := some "test", resourceVersion := some "1" }
      spec := {} }
  { rivals with
    autoscalers := rivals.autoscalers ++ [elsewhere]
    cached := (rivals.autoscalers ++ [elsewhere]).reverse }

/-- Where autoscalers are tried as they are listed, the servers may agree on all that the
namespace has, and the pass records on another of its autoscalers, if the caches list
these in different orders. (`AgreeOn` with autoscalers tried by name is agreement without
the order of the lists.) -/
theorem isolated_listing :
    (OnePerPlace rivals ∧ InSync rivals ∧ rivals.faults = []) ∧
    (OnePerPlace jumbled ∧ InSync jumbled ∧ jumbled.faults = []) ∧
    AgreeOn "prod" .name "n1" rivals jumbled ∧
    ∃ outcome m' s', rivals.pass {} "n1" = (.ok outcome, m') ∧
      jumbled.pass {} "n1" = (.ok outcome, s') ∧
      recordingsIn "prod" m' = [("web", "web-1"), ("app", "")] ∧
      recordingsIn "prod" s' = [("web", ""), ("app", "web-1")] ∧ ¬ SameIn "prod" m' s' := by
  have hagree : AgreeOn "prod" .name "n1" rivals jumbled :=
    { node := rfl
      pods := List.Perm.refl _
      autoscalers := List.Perm.refl _
      budgets := fun _ => rfl
      listed := fun horder => PolicyOrder.noConfusion horder }
  have hjumbled : InSync jumbled :=
    ⟨inSync_shared.indexed, inSync_shared.ordered, List.reverse_perm _⟩
  have hone : OnePerPlace jumbled := ⟨onePerPlace_rivals.pods, by decide +kernel⟩
  have halone : recordingsIn "prod" (rivals.pass {} "n1").2 = [("web", "web-1"), ("app", "")] := by
    decide +kernel
  have hbeside : recordingsIn "prod" (jumbled.pass {} "n1").2
      = [("web", ""), ("app", "web-1")] := by
    decide +kernel
  refine ⟨⟨onePerPlace_rivals, inSync_rivals (List.Perm.refl _), rfl⟩, ⟨hone, hjumbled, rfl⟩,
    hagree, .requeueAfter (Span.ofSeconds 60), _, _, Prod.ext rfl rfl, Prod.ext rfl rfl, halone,
    hbeside, fun hsame => ?_⟩
  exact absurd (hsame.perm_recordings halone hbeside) (by decide)

end Memory

end CordonWatch.Store
