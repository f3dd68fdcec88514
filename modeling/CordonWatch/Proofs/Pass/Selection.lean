import CordonWatch.Proofs.Store.Dialogue

/-!
# The autoscaler that a pass selects

Where no call meets with a fault, looking for the autoscaler of a pod gives
the first cached autoscaler of the pod's namespace, in the order of the pass,
that qualifies (`Memory.selected`), and writes nothing (`run_findPolicy`). Faults
may end the search, but do not change what it finds (`searched_findPolicy`).

What is selected depends on the names of the cached autoscalers alone: if each
is replaced by another copy at the same place, the copy of the one selected is
selected (`selected_of_copies`). So what a pass writes itself, whether the
caches hear of it or not, never changes which autoscaler it selects.
-/

namespace CordonWatch

/-- Putting autoscalers into an order looks at their names only. -/
theorem PolicyOrder.arrange_map (order : PolicyOrder) {f : Autoscaler → Autoscaler}
    (hf : ∀ a, (f a).name = a.name) (l : List Autoscaler) :
    order.arrange (l.map f) = (order.arrange l).map f := by
  cases order with
  | listing => rfl
  | name =>
    refine (List.map_mergeSort fun a _ b _ => ?_).symm
    rw [hf a, hf b]

/-- Sorting by a key leaves no lesser key behind a greater one. -/
theorem pairwise_mergeSort_of_key {α : Type} (key : α → String) (l : List α) :
    (l.mergeSort fun a b => decide (¬ key b < key a)).Pairwise fun a b => ¬ key b < key a := by
  have hsorted : (l.mergeSort fun a b => decide (¬ key b < key a)).Pairwise
      fun a b => decide (¬ key b < key a) = true := by
    refine List.pairwise_mergeSort (fun a b c hab hbc => ?_) (fun a b => ?_) l
    · simp only [decide_eq_true_eq] at hab hbc ⊢
      exact String.le_trans hab hbc
    · simp only [Bool.or_eq_true, decide_eq_true_eq]
      exact String.le_total (key a) (key b)
  exact hsorted.imp of_decide_eq_true

/-- Where the keys are distinct, sorting by them forgets the order there was. -/
theorem mergeSort_eq_of_perm {α : Type} (key : α → String) {l l' : List α} (hperm : l'.Perm l)
    (hinj : ∀ a ∈ l, ∀ b ∈ l, key a = key b → a = b) :
    (l'.mergeSort fun a b => decide (¬ key b < key a))
      = l.mergeSort fun a b => decide (¬ key b < key a) := by
  refine List.Perm.eq_of_pairwise (fun a b ha hb hab hba => ?_) (pairwise_mergeSort_of_key key l')
    (pairwise_mergeSort_of_key key l)
    ((List.mergeSort_perm _ _).trans (hperm.trans (List.mergeSort_perm _ _).symm))
  exact hinj a (hperm.mem_iff.mp (List.mem_mergeSort.mp ha)) b (List.mem_mergeSort.mp hb)
    (String.le_antisymm hab hba)

theorem PolicyOrder.mem_arrange {order : PolicyOrder} {l : List Autoscaler} {a : Autoscaler} :
    a ∈ order.arrange l ↔ a ∈ l := by
  cases order with
  | listing => exact Iff.rfl
  | name => exact List.mem_mergeSort

namespace Store

/-- Whether an autoscaler qualifies for a pod with those labels: its budget
exists, has a selector that follows the rules, and the selector matches. -/
def qualifies (budgets : Shelf Budget) (ns : String) (labels : Table String String)
    (a : Autoscaler) : Bool :=
  match Shelf.at? ⟨some ns, a.name⟩ budgets with
  | none => false
  | some budget =>
    match Selector.parse budget.selector with
    | .error _ => false
    | .ok selector => selector.matchesLabels labels

/-- Qualifying is a matter of the name. -/
theorem qualifies_congr {budgets : Shelf Budget} {ns : String} {labels : Table String String}
    {a a' : Autoscaler} (h : a'.name = a.name) :
    qualifies budgets ns labels a' = qualifies budgets ns labels a := by
  unfold qualifies
  rw [h]

namespace Memory

/-- The cached autoscalers of a pod's namespace, in the order in which they are tried. -/
def candidates (m : Memory) (order : PolicyOrder) (pod : Pod) : List Autoscaler :=
  order.arrange (m.cached.filter fun a => a.metadata.ns = some pod.nsOrDefault)

theorem mem_candidates {m : Memory} {order : PolicyOrder} {pod : Pod} {a : Autoscaler} :
    a ∈ m.candidates order pod ↔ a ∈ m.cached ∧ a.metadata.ns = some pod.nsOrDefault := by
  rw [candidates, PolicyOrder.mem_arrange, List.mem_filter, decide_eq_true_eq]

/-- Where autoscalers are tried is a matter of the places of the cached ones. -/
theorem map_placeOf_candidates (m : Memory) (order : PolicyOrder) (pod : Pod) :
    (m.candidates order pod).map placeOf =
      match order with
      | .listing => (Shelf.places m.cached).filter (·.ns = some pod.nsOrDefault)
      | .name => ((Shelf.places m.cached).filter (·.ns = some pod.nsOrDefault)).mergeSort
          fun a b => decide (¬ b.name < a.name) := by
  have hfilter : (Shelf.places m.cached).filter (·.ns = some pod.nsOrDefault)
      = (m.cached.filter (·.metadata.ns = some pod.nsOrDefault)).map placeOf := by
    rw [Shelf.places, List.filter_map]
    rfl
  rw [hfilter]
  unfold candidates PolicyOrder.arrange
  cases order with
  | listing => rfl
  | name =>
    refine List.map_mergeSort fun a _ b _ => ?_
    rfl

/-- The autoscaler that a fault-free search finds for a pod. -/
def selected (m : Memory) (order : PolicyOrder) (pod : Pod) : Option Autoscaler :=
  (m.candidates order pod).find? (qualifies m.budgets pod.nsOrDefault pod.metadata.labelTable)

variable (clock : Memory → Instant) (lags : Memory → Bool) {m : Memory}

/-- Where the budget of the first autoscaler is read, that autoscaler is found if it
qualifies, and else the others are tried, with a line of the log more or not. -/
theorem run_firstGoverning_cons (ns : String) (labels : Table String String) {a : Autoscaler}
    (rest : List Autoscaler) {m m₁ : Memory}
    (hanswer : (handlerUnder clock lags).answer (.getBudget ns a.name) m
      = (.ok (Shelf.at? ⟨some ns, a.name⟩ m₁.budgets), m₁)) :
    (qualifies m₁.budgets ns labels a = true ∧
      (Pass.firstGoverning ns labels (a :: rest)).run (handlerUnder clock lags) m
        = (.ok (some a), m₁)) ∨
    (qualifies m₁.budgets ns labels a = false ∧ ∃ m₂, Untouched m₁ m₂ ∧
      (Pass.firstGoverning ns labels (a :: rest)).run (handlerUnder clock lags) m
        = (Pass.firstGoverning ns labels rest).run (handlerUnder clock lags) m₂) := by
  rw [Pass.firstGoverning, Program.run_ask, hanswer]
  cases hbudget : Shelf.at? ⟨some ns, a.name⟩ m₁.budgets with
  | none =>
    have hq : qualifies m₁.budgets ns labels a = false := by simp [qualifies, hbudget]
    exact Or.inr ⟨hq, _, Untouched.of_record _ m₁, rfl⟩
  | some budget =>
    dsimp only
    cases hparse : Selector.parse budget.selector with
    | error defect =>
      have hq : qualifies m₁.budgets ns labels a = false := by
        simp [qualifies, hbudget, hparse]
      exact Or.inr ⟨hq, _, Untouched.of_record _ m₁, rfl⟩
    | ok selector =>
      have hq : qualifies m₁.budgets ns labels a = selector.matchesLabels labels := by
        simp [qualifies, hbudget, hparse]
      rw [hq]
      dsimp only
      cases selector.matchesLabels labels with
      | true => exact Or.inl ⟨rfl, rfl⟩
      | false => exact Or.inr ⟨rfl, m₁, Untouched.refl m₁, rfl⟩

/-- What a search has come to that began in the state `m`: it only read, and found
`found` unless one of its calls met with a fault. -/
structure Searched (found : Option Autoscaler) (m : Memory)
    (ended : Except Failure (Option Autoscaler) × Memory) : Prop where
  result : (∃ e, ended.1 = .error e) ∧ m.faults ≠ [] ∨ ended.1 = .ok found
  untouched : Untouched m.faultless ended.2.faultless
  faults : m.faults = [] → ended.2.faults = []

/-- What was read before belongs to the search. -/
theorem Searched.before {found : Option Autoscaler} {m m₁ : Memory}
    {ended : Except Failure (Option Autoscaler) × Memory} (h : Searched found m₁ ended)
    (hread : Untouched m.faultless m₁.faultless) (hfaults : m.faults = [] → m₁.faults = []) :
    Searched found m ended where
  result := h.result.imp_left (And.imp_right fun hfaulty hnone => hfaulty (hfaults hnone))
  untouched := hread.trans h.untouched
  faults := fun hnone => h.faults (hfaults hnone)

/-- Trying autoscalers one by one finds the first that qualifies. -/
theorem searched_firstGoverning (ns : String) (labels : Table String String)
    (l : List Autoscaler) :
    ∀ {m : Memory}, Searched (l.find? (qualifies m.budgets ns labels)) m
      ((Pass.firstGoverning ns labels l).run (handlerUnder clock lags) m) := by
  induction l with
  | nil => exact ⟨Or.inr rfl, Untouched.refl _, id⟩
  | cons a rest ih =>
    intro m
    obtain ⟨hanswer, huntouched, hfaults⟩ :=
      @answer_read clock lags (.getBudget ns a.name) rfl m
    generalize hasked : (handlerUnder clock lags).answer (.getBudget ns a.name) m = asked
      at hanswer huntouched hfaults
    obtain ⟨answer, m₁⟩ := asked
    have hbudgets : m₁.budgets = m.budgets := huntouched.budgets
    rcases hanswer with ⟨⟨e, rfl⟩, hfaulty⟩ | rfl
    · rw [Pass.firstGoverning, Program.run_ask, hasked]
      exact ⟨Or.inl ⟨⟨e, rfl⟩, hfaulty⟩, huntouched, hfaults⟩
    · simp only [perform] at hasked
      rw [← hbudgets] at hasked ⊢
      rw [List.find?_cons]
      rcases run_firstGoverning_cons clock lags ns labels rest hasked with
        ⟨hq, hrun⟩ | ⟨hq, m₂, hm₂, hrun⟩
      · rw [hrun, hq]
        exact ⟨Or.inr rfl, huntouched, hfaults⟩
      · rw [hrun, hq, ← hm₂.budgets]
        exact ih.before (huntouched.trans hm₂.faultless) fun h => hm₂.faults.trans (hfaults h)

/-- A search finds the autoscaler selected. -/
theorem searched_findPolicy (order : PolicyOrder) (pod : Pod) (m : Memory) :
    Searched (m.selected order pod) m
      ((Pass.findPolicy order pod).run (handlerUnder clock lags) m) := by
  obtain ⟨hanswer, huntouched, hfaults⟩ :=
    @answer_read clock lags (.listAutoscalers pod.nsOrDefault) rfl m
  rw [Pass.findPolicy, Program.run_ask]
  generalize (handlerUnder clock lags).answer (.listAutoscalers pod.nsOrDefault) m = asked
    at hanswer huntouched hfaults ⊢
  obtain ⟨answer, m₁⟩ := asked
  have hbudgets : m₁.budgets = m.budgets := huntouched.budgets
  rcases hanswer with ⟨⟨e, rfl⟩, hfaulty⟩ | rfl
  · exact ⟨Or.inl ⟨⟨e, rfl⟩, hfaulty⟩, huntouched, hfaults⟩
  · have hsearched := (@searched_firstGoverning clock lags pod.nsOrDefault
      pod.metadata.labelTable (m.candidates order pod) m₁).before huntouched hfaults
    rw [hbudgets] at hsearched
    simp only [perform]
    rw [Program.run_bind,
      show order.arrange (m.cached.filter fun a => a.metadata.ns = some pod.nsOrDefault)
        = m.candidates order pod from rfl]
    generalize (Pass.firstGoverning pod.nsOrDefault pod.metadata.labelTable
      (m.candidates order pod)).run (handlerUnder clock lags) m₁ = ended at hsearched ⊢
    obtain ⟨result, m₂⟩ := ended
    rcases result with e | (_ | a)
    · exact hsearched
    · -- That none was found is noted.
      exact ⟨hsearched.result, hsearched.untouched.trans (untouched_record clock lags _ m₂),
        hsearched.faults⟩
    · exact hsearched

/-- A search that succeeds in spite of the faults finds the autoscaler selected. -/
theorem run_findPolicy_ok {order : PolicyOrder} {pod : Pod} {found : Option Autoscaler}
    {m m' : Memory}
    (h : (Pass.findPolicy order pod).run (handlerUnder clock lags) m = (.ok found, m')) :
    found = m.selected order pod ∧ Untouched m.faultless m'.faultless := by
  obtain ⟨hresult, huntouched, -⟩ := searched_findPolicy clock lags order pod m
  rw [h] at hresult huntouched
  rcases hresult with ⟨⟨e, herror⟩, -⟩ | hfound
  · cases herror
  · exact ⟨Except.ok.inj hfound, huntouched⟩

/-- A search that meets with no fault finds the autoscaler selected, and writes nothing. -/
theorem run_findPolicy (order : PolicyOrder) (pod : Pod) (h : m.faults = []) :
    ((Pass.findPolicy order pod).run (handlerUnder clock lags) m).1 = .ok (m.selected order pod) ∧
      Untouched m ((Pass.findPolicy order pod).run (handlerUnder clock lags) m).2 := by
  obtain ⟨hresult, huntouched, hfaults⟩ := searched_findPolicy clock lags order pod m
  rw [faultless_eq h, faultless_eq (hfaults h)] at huntouched
  exact ⟨hresult.resolve_left fun hfailed => hfailed.2 h, huntouched⟩

/-- What is selected is cached, and in the namespace of the pod. -/
theorem mem_cached_of_selected {order : PolicyOrder} {pod : Pod} {a : Autoscaler}
    (h : m.selected order pod = some a) :
    a ∈ m.cached ∧ placeOf a = ⟨some pod.nsOrDefault, a.name⟩ := by
  obtain ⟨hcached, hns⟩ := mem_candidates.mp (List.mem_of_find?_eq_some h)
  exact ⟨hcached, Place.ext hns rfl⟩

/-- Other copies of the cached autoscalers lead to the copy of the same one. -/
theorem selected_of_copies {m' : Memory} {f : Autoscaler → Autoscaler} (order : PolicyOrder)
    (pod : Pod) (hf : ∀ a, placeOf (f a) = placeOf a) (hcached : m'.cached = m.cached.map f)
    (hbudgets : m'.budgets = m.budgets) :
    m'.selected order pod = (m.selected order pod).map f := by
  have hname : ∀ a, (f a).name = a.name := fun a => congrArg Place.name (hf a)
  have hns : ∀ a, (f a).metadata.ns = a.metadata.ns := fun a => congrArg Place.ns (hf a)
  have hfilter : (m.cached.map f).filter (fun a => a.metadata.ns = some pod.nsOrDefault)
      = (m.cached.filter fun a => a.metadata.ns = some pod.nsOrDefault).map f := by
    rw [List.filter_map]
    simp only [Function.comp_def, hns]
  unfold selected candidates
  rw [hcached, hbudgets, hfilter, order.arrange_map hname, List.find?_map]
  simp only [Function.comp_def, qualifies_congr (hname _)]

end Memory

end Store

end CordonWatch
