import CordonWatch.Proofs.Pass.Transcript
import CordonWatch.Proofs.Store.Schedule
import CordonWatch.Proofs.Text.Bytes

/-!
# How the autoscaler of a pod is looked up

A lookup lists the autoscalers of the pod's namespace and then reads budgets one by one,
in the order in which the autoscalers are tried (`PolicyOrder.Arranged`). It goes on as
long as budgets are read that leave their autoscaler out, and ends right after the first
read that fails, or that shows an autoscaler to qualify (`Lookup`). No budget is read
that does not decide the result.

That is so whatever the calls are answered (`lookup_of_says`). For a store in memory the
answers are known from the start, and so is what a lookup comes to
(`findPolicy_firstMatch`).
-/

namespace CordonWatch

/-- The autoscalers that were listed stand in the order in which they are tried: as they
were listed, or by the bytes of their names, those of one name as they were listed. -/
def PolicyOrder.Arranged (order : PolicyOrder) (listed tried : List Autoscaler) : Prop :=
  match order with
  | .listing => tried = listed
  | .name =>
    tried.Perm listed ∧ (tried.Pairwise fun a b => ¬ Text.bytes b.name < Text.bytes a.name) ∧
      ∀ name, tried.filter (·.name = name) = listed.filter (·.name = name)

/-- Sorting by a key keeps the order of those that have the same key. -/
theorem filter_mergeSort_of_key {α : Type} (key : α → String) (l : List α) (k : String) :
    (l.mergeSort fun a b => decide (¬ key b < key a)).filter (key · = k)
      = l.filter (key · = k) := by
  -- Those of the key in listed order are sorted already, so they are a sublist of all sorted.
  have hsorted : (l.filter (key · = k)).Pairwise fun a b => decide (¬ key b < key a) = true := by
    refine List.pairwise_of_forall_mem_list fun a ha b hb => ?_
    have hkey : key a = key b := by
      rw [of_decide_eq_true (List.mem_filter.mp ha).2, of_decide_eq_true (List.mem_filter.mp hb).2]
    rw [hkey]
    exact decide_eq_true (String.lt_irrefl _)
  have hsub : (l.filter (key · = k)).Sublist
      (l.mergeSort fun a b => decide (¬ key b < key a)) := by
    refine List.sublist_mergeSort (fun a b c hab hbc => ?_) (fun a b => ?_) hsorted
      List.filter_sublist
    · simp only [decide_eq_true_eq] at hab hbc ⊢
      exact String.le_trans hab hbc
    · simp only [Bool.or_eq_true, decide_eq_true_eq]
      exact String.le_total (key a) (key b)
  have hsub' := hsub.filter (key · = k)
  rw [List.filter_filter] at hsub'
  simp only [Bool.and_self] at hsub'
  exact (hsub'.eq_of_length ((List.mergeSort_perm l _).filter _).length_eq.symm).symm

theorem PolicyOrder.arranged_arrange (order : PolicyOrder) (listed : List Autoscaler) :
    order.Arranged listed (order.arrange listed) := by
  cases order with
  | listing => exact rfl
  | name =>
    refine ⟨List.mergeSort_perm _ _, ?_, filter_mergeSort_of_key (·.name) listed⟩
    refine List.Pairwise.imp ?_ (pairwise_mergeSort_of_key (·.name) listed)
    exact fun h hlt => h ((Text.bytes_lt_iff _ _).mp hlt)

namespace Pass

open Store (Call Exchange)

/-- What was found of the budget of an autoscaler makes it qualify for a pod with those
labels: there is a budget, its selector is present and parses, and matches the labels. -/
def Qualifies (labels : Table String String) (found : Option Budget) : Prop :=
  ∃ budget written selector, found = some budget ∧ budget.selector = some written ∧
    Selector.parse (some written) = .ok selector ∧ selector.matchesLabels labels = true

/-- The read of a budget has left its autoscaler out: it did not fail, and what it found
does not make the autoscaler qualify. -/
def PassedOver (labels : Table String String) (read : Except Failure (Option Budget)) : Prop :=
  ∃ found, read = .ok found ∧ ¬ Qualifies labels found

/-- What a lookup comes to that has read `count` budgets, where the read of the budget of
the autoscaler `a` that is number `n` gives `read n a`. -/
inductive Lookup (labels : Table String String)
    (read : Nat → Autoscaler → Except Failure (Option Budget)) (tried : List Autoscaler) :
    Nat → Except Failure (Option Autoscaler) → Prop where
  /-- All autoscalers are passed over. -/
  | exhausted (passed : ∀ n a, tried[n]? = some a → PassedOver labels (read n a)) :
    Lookup labels read tried tried.length (.ok none)
  /-- Some are passed over, then a read fails. -/
  | unread {n : Nat} {a : Autoscaler} {e : Failure}
    (passed : ∀ j b, j < n → tried[j]? = some b → PassedOver labels (read j b))
    (here : tried[n]? = some a) (failed : read n a = .error e) :
    Lookup labels read tried (n + 1) (.error e)
  /-- Some are passed over, then one qualifies. -/
  | found {n : Nat} {a : Autoscaler} {budget : Option Budget}
    (passed : ∀ j b, j < n → tried[j]? = some b → PassedOver labels (read j b))
    (here : tried[n]? = some a) (shown : read n a = .ok budget)
    (qualifies : Qualifies labels budget) :
    Lookup labels read tried (n + 1) (.ok (some a))

section

variable {labels : Table String String} {read : Nat → Autoscaler → Except Failure (Option Budget)}
  {tried : List Autoscaler} {count : Nat} {result : Except Failure (Option Autoscaler)}

/-- A lookup goes on with the rest after an autoscaler that is passed over. -/
theorem Lookup.cons {a : Autoscaler} (hpassed : PassedOver labels (read 0 a))
    (h : Lookup labels (fun n => read (n + 1)) tried count result) :
    Lookup labels read (a :: tried) (count + 1) result := by
  cases h with
  | exhausted passed =>
    refine .exhausted fun n b hb => ?_
    cases n with
    | zero => exact Option.some.inj hb ▸ hpassed
    | succ n => exact passed n b hb
  | @unread n b e passed here failed =>
    refine .unread (fun j c hj hc => ?_) (show (a :: tried)[n + 1]? = some b from here) failed
    cases j with
    | zero => exact Option.some.inj hc ▸ hpassed
    | succ j => exact passed j c (Nat.lt_of_succ_lt_succ hj) hc
  | @found n b budget passed here shown qualifies =>
    refine .found (fun j c hj hc => ?_) (show (a :: tried)[n + 1]? = some b from here) shown
      qualifies
    cases j with
    | zero => exact Option.some.inj hc ▸ hpassed
    | succ j => exact passed j c (Nat.lt_of_succ_lt_succ hj) hc

/-- What a lookup comes to depends on the reads that it makes alone. -/
theorem Lookup.congr {read' : Nat → Autoscaler → Except Failure (Option Budget)}
    (h : Lookup labels read tried count result)
    (hread : ∀ n a, n < count → tried[n]? = some a → read' n a = read n a) :
    Lookup labels read' tried count result := by
  cases h with
  | exhausted passed =>
    refine .exhausted fun n a ha => ?_
    rw [hread n a (List.getElem?_eq_some_iff.mp ha).1 ha]
    exact passed n a ha
  | unread passed here failed =>
    refine .unread (fun j b hj hb => ?_) here ?_
    · rw [hread j b (Nat.lt_succ_of_lt hj) hb]
      exact passed j b hj hb
    · rw [hread _ _ (Nat.lt_succ_self _) here]
      exact failed
  | found passed here shown qualifies =>
    refine .found (fun j b hj hb => ?_) here ?_ qualifies
    · rw [hread j b (Nat.lt_succ_of_lt hj) hb]
      exact passed j b hj hb
    · rw [hread _ _ (Nat.lt_succ_self _) here]
      exact shown

/-- A lookup comes to nothing exactly if every autoscaler is passed over. -/
theorem Lookup.eq_none_iff (h : Lookup labels read tried count result) :
    result = .ok none ↔ ∀ n a, tried[n]? = some a → PassedOver labels (read n a) := by
  cases h with
  | exhausted passed => exact ⟨fun _ => passed, fun _ => rfl⟩
  | unread passed here failed =>
    refine ⟨(fun h => nomatch h), fun hall => ?_⟩
    obtain ⟨budget, hshown, -⟩ := hall _ _ here
    rw [failed] at hshown
    cases hshown
  | found passed here shown qualifies =>
    refine ⟨(fun h => nomatch h), fun hall => ?_⟩
    obtain ⟨budget, hshown, hleft⟩ := hall _ _ here
    rw [shown] at hshown
    cases hshown
    exact absurd qualifies hleft

end

/-- The reads of the first budgets that are tried, each with its answer. -/
def budgetReads (ns : String) (read : Nat → Autoscaler → Except Failure (Option Budget))
    (tried : List Autoscaler) (count : Nat) : List Exchange :=
  (tried.take count).mapIdx fun n a => ⟨.getBudget ns a.name, read n a⟩

/-- One read more, before all others. -/
def readFirst (first : Except Failure (Option Budget))
    (read : Nat → Autoscaler → Except Failure (Option Budget)) :
    Nat → Autoscaler → Except Failure (Option Budget)
  | 0, _ => first
  | n + 1, a => read n a

theorem budgetReads_cons (ns : String)
    (read : Nat → Autoscaler → Except Failure (Option Budget)) (a : Autoscaler)
    (tried : List Autoscaler) (count : Nat) :
    budgetReads ns read (a :: tried) (count + 1)
      = ⟨.getBudget ns a.name, read 0 a⟩ :: budgetReads ns (fun n => read (n + 1)) tried count := by
  rw [budgetReads, List.take_succ_cons, List.mapIdx_cons, budgetReads]

theorem map_budgetReads (ns : String) (read : Nat → Autoscaler → Except Failure (Option Budget))
    (tried : List Autoscaler) (count : Nat) :
    (budgetReads ns read tried count).map (·.1)
      = (tried.take count).map fun a => Call.getBudget ns a.name := by
  induction tried generalizing read count with
  | nil => rw [budgetReads, List.take_nil, List.mapIdx_nil, List.map_nil, List.map_nil]
  | cons a rest ih =>
    cases count with
    | zero => rfl
    | succ count => rw [budgetReads_cons, List.map_cons, ih, List.take_succ_cons, List.map_cons]

theorem getElem?_budgetReads (ns : String)
    (read : Nat → Autoscaler → Except Failure (Option Budget)) {tried : List Autoscaler}
    {count n : Nat} {a : Autoscaler} (hn : n < count) (ha : tried[n]? = some a) :
    (budgetReads ns read tried count)[n]? = some ⟨.getBudget ns a.name, read n a⟩ := by
  rw [budgetReads, List.getElem?_mapIdx, List.getElem?_take_of_lt hn, ha]
  rfl

theorem countP_take_budgetReads (ns : String)
    (read : Nat → Autoscaler → Except Failure (Option Budget)) {tried : List Autoscaler}
    {count n : Nat} {a : Autoscaler} (hn : n < count) (ha : tried[n]? = some a) :
    ((budgetReads ns read tried count).take n).countP (·.1.kind = Call.Kind.getBudget) = n := by
  have hlength : n < tried.length := (List.getElem?_eq_some_iff.mp ha).1
  have hall : ∀ x ∈ (budgetReads ns read tried count).take n,
      decide (x.1.kind = Call.Kind.getBudget) = true := by
    intro x hx
    obtain ⟨i, hi, rfl⟩ := List.mem_mapIdx.mp (List.mem_of_mem_take hx)
    rfl
  rw [List.countP_eq_length.mpr hall, List.length_take, budgetReads, List.length_mapIdx,
    List.length_take]
  omega

/-- Trying autoscalers one by one is a lookup, with what the reads are answered. -/
theorem lookup_of_says_firstGoverning {ns : String} {labels : Table String String}
    {l : List Autoscaler} {said : List Exchange} {result : Except Failure (Option Autoscaler)}
    (h : (firstGoverning ns labels l).Says said result) :
    ∃ read count, Lookup labels read l count result ∧ said = budgetReads ns read l count := by
  induction l generalizing said with
  | nil =>
    cases h
    exact ⟨fun _ _ => .ok none, 0, .exhausted (by simp), rfl⟩
  | cons candidate rest ih =>
    cases h with
    | @ask _ _ answer later _ h =>
      -- After an answer that passes the candidate over the rest is tried.
      have hgoesOn : PassedOver labels answer →
          (firstGoverning ns labels rest).Says later result → ∃ read count,
            Lookup labels read (candidate :: rest) count result ∧
            ⟨.getBudget ns candidate.name, answer⟩ :: later
              = budgetReads ns read (candidate :: rest) count := by
        intro hpassed hlater
        obtain ⟨read, count, hlookup, rfl⟩ := ih hlater
        have hlookup' : Lookup labels (readFirst answer read) (candidate :: rest) (count + 1)
            result := Lookup.cons hpassed hlookup
        exact ⟨readFirst answer read, count + 1, hlookup',
          (budgetReads_cons ns (readFirst answer read) candidate rest count).symm⟩
      rcases answer with e | _ | budget
      · cases h
        exact ⟨fun _ _ => .error e, 1, .unread (n := 0) (by simp) rfl rfl, rfl⟩
      · cases h with
        | note h => exact hgoesOn ⟨none, rfl, fun ⟨_, _, _, hnone, _⟩ => nomatch hnone⟩ h
      · dsimp only at h
        split at h
        next defect hparse =>
          cases h with
          | note h =>
            refine hgoesOn ⟨some budget, rfl, ?_⟩ h
            rintro ⟨_, written, selector, ⟨⟩, hwritten, hok, -⟩
            rw [hwritten, hok] at hparse
            cases hparse
        next selector hparse =>
          split at h
          next hmatches =>
            cases h
            refine ⟨fun _ _ => .ok (some budget), 1,
              .found (n := 0) (by simp) rfl (Eq.refl (Except.ok (some budget))) ?_, rfl⟩
            cases hwritten : budget.selector with
            | none =>
              -- A selector that is missing matches nothing.
              rw [hwritten] at hparse
              cases hparse
              cases hmatches
            | some written =>
              exact ⟨budget, written, selector, rfl, hwritten, hwritten ▸ hparse, hmatches⟩
          next hmatches =>
            refine hgoesOn ⟨some budget, rfl, ?_⟩ h
            rintro ⟨_, written, selector', ⟨⟩, hwritten, hok, hyes⟩
            rw [hwritten, hok] at hparse
            cases hparse
            exact hmatches hyes

/-- What is said while the autoscaler of a pod is looked for: the autoscalers are listed,
and unless that fails they are looked through in their order. -/
theorem lookup_of_says {order : PolicyOrder} {pod : Pod} {said : List Exchange}
    {result : Except Failure (Option Autoscaler)} (h : (findPolicy order pod).Says said result) :
    (∃ e, result = .error e ∧ said = [⟨.listAutoscalers pod.nsOrDefault, .error e⟩]) ∨
      ∃ listed read count, Lookup pod.metadata.labelTable read (order.arrange listed) count result ∧
        said = ⟨.listAutoscalers pod.nsOrDefault, .ok listed⟩ ::
          budgetReads pod.nsOrDefault read (order.arrange listed) count := by
  cases h with
  | @ask _ _ answer _ _ h =>
    cases answer with
    | error e =>
      cases h
      exact Or.inl ⟨e, rfl, rfl⟩
    | ok listed =>
      obtain ⟨reads, found, ending, rfl, hreads, hends⟩ := Program.Says.bind h
      obtain ⟨read, count, hlookup, rfl⟩ := lookup_of_says_firstGoverning hreads
      have hend : ending = [] ∧ result = found := by
        rcases found with e | _ | a
        · cases hends
          exact ⟨rfl, rfl⟩
        · cases hends with
          | note hends =>
            cases hends
            exact ⟨rfl, rfl⟩
        · cases hends
          exact ⟨rfl, rfl⟩
      obtain ⟨rfl, rfl⟩ := hend
      exact Or.inr ⟨listed, read, count, hlookup, by rw [List.append_nil]⟩

end Pass

namespace Store.Memory

open Pass (Lookup PassedOver)

variable (clock : Memory → Instant) (lags : Memory → Bool)

/-- The cached autoscalers of a namespace. -/
def listed (m : Memory) (ns : String) : List Autoscaler :=
  m.cached.filter (·.metadata.ns = some ns)

/-- What the read of the budget of an autoscaler gives, if it is read number `n`. -/
def budgetRead (m : Memory) (ns : String) (n : Nat) (a : Autoscaler) :
    Except Failure (Option Budget) :=
  match Fault.failureAt Call.Kind.getBudget m.faults n with
  | some e => .error e
  | none => .ok (Shelf.at? ⟨some ns, a.name⟩ m.budgets)

/-- Looking for the autoscaler of a pod lists the autoscalers of its namespace once. If
that fails, so does the search; otherwise it is a lookup through them in their order, with
what the reads of their budgets give, and makes the calls of that lookup. It comes to
nothing exactly if nothing fails and no autoscaler qualifies. -/
theorem findPolicy_firstMatch (order : PolicyOrder) (pod : Pod) (m : Memory) :
    let ended := (Pass.findPolicy order pod).run (handlerUnder clock lags) m
    let labels := pod.metadata.labelTable
    let ns := pod.nsOrDefault
    let listing := Call.listAutoscalers ns
    let unlisted := Fault.failureAt Call.Kind.listAutoscalers m.faults 0
    (∀ e, unlisted = some e → ended.1 = .error e ∧ ended.2.calls = m.calls ++ [listing]) ∧
      ∃ tried, order.Arranged (m.listed ns) tried ∧
        (unlisted = none → ∃ count, Lookup labels (m.budgetRead ns) tried count ended.1 ∧
          ended.2.calls = m.calls ++
            listing :: (tried.take count).map fun a => Call.getBudget ns a.name) ∧
        (ended.1 = .ok none ↔ unlisted = none ∧
          ∀ n a, tried[n]? = some a → PassedOver labels (m.budgetRead ns n a)) := by
  intro ended labels ns listing unlisted
  have hsays := Program.says_dialogue (handlerUnder clock lags) (Pass.findPolicy order pod) m
  have hcalls : ended.2.calls = m.calls ++ _ := (run_eq (Pass.findPolicy order pod) m).2.2.2
  have hanswers := @answer_of_reads clock lags _ (Pass.findPolicy order pod) m
    fun x hx => ((Pass.failsFast_findPolicy order pod).speaks hsays x hx).target?
  generalize (Pass.findPolicy order pod).dialogue (handlerUnder clock lags) m = said
    at hsays hcalls hanswers
  have hresult : ((Pass.findPolicy order pod).run (handlerUnder clock lags) m).1 = ended.1 := rfl
  rw [hresult] at hsays
  have hlisting : m.answerAt listing 0 =
      match unlisted with
      | some e => .error e
      | none => .ok (m.listed ns) := rfl
  rcases Pass.lookup_of_says hsays with ⟨e, herror, rfl⟩ | ⟨listed, read, count, hlookup, rfl⟩
  · have hanswer : Except.error e = m.answerAt listing 0 := @hanswers 0 _ rfl
    rw [hlisting] at hanswer
    cases hunlisted : unlisted with
    | none =>
      rw [hunlisted] at hanswer
      cases hanswer
    | some e' =>
      rw [hunlisted] at hanswer
      cases hanswer
      refine ⟨?_, order.arrange (m.listed ns), order.arranged_arrange _, (fun h => nomatch h), ?_⟩
      · rintro _ ⟨⟩
        exact ⟨herror, hcalls⟩
      · refine ⟨fun hnone => ?_, fun h => nomatch h.1⟩
        rw [herror] at hnone
        cases hnone
  · have hanswer : Except.ok listed = m.answerAt listing 0 := @hanswers 0 _ rfl
    rw [hlisting] at hanswer
    cases hunlisted : unlisted with
    | some e' =>
      rw [hunlisted] at hanswer
      cases hanswer
    | none =>
      rw [hunlisted] at hanswer
      cases hanswer
      have hread : ∀ n a, n < count → (order.arrange (m.listed ns))[n]? = some a →
          m.budgetRead ns n a = read n a := by
        intro n a hn ha
        have hanswer : read n a = m.answerAt (.getBudget ns a.name) _ :=
          @hanswers (n + 1) _ (Pass.getElem?_budgetReads ns read hn ha)
        rw [List.take_succ_cons, List.countP_cons_of_neg Bool.false_ne_true] at hanswer
        rw [hanswer]
        exact congrArg (m.answerAt (.getBudget ns a.name))
          (Pass.countP_take_budgetReads ns read hn ha).symm
      have hlookup' := hlookup.congr hread
      refine ⟨(fun _ h => nomatch h), order.arrange (m.listed ns), order.arranged_arrange _,
        fun _ => ⟨count, hlookup', ?_⟩, ?_⟩
      · rw [hcalls, List.map_cons, Pass.map_budgetReads]
      · rw [hlookup'.eq_none_iff]
        exact ⟨fun h => ⟨rfl, h⟩, And.right⟩

end Store.Memory

end CordonWatch
