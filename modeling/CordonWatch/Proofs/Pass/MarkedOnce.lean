import CordonWatch.Proofs.Pass.Retrying
import CordonWatch.Proofs.Pass.Transcript
import CordonWatch.Proofs.Split

/-!
# A pod is marked once

Passes run one after the other over a store in memory, over any nodes, and meet with
whatever faults are scheduled; between them anything may change but the pods, and the
index shows the pods as they are when a pass begins (`Series`). Then the status of a pod
is written once at most in the whole series, and never if the pod announces its eviction
to begin with. From the write on the pod stays as it was written, so the time of its last
transition does not change any more (`Series.marked_once`).

A single pass marks a place once at most, since the index has each pod once, and only
while the pod there does not announce its eviction (`PodsShown.marks`). What it has
written does announce it. So a place counts no write, or one, after which it is marked
(`Series.counted`).
-/

namespace CordonWatch.Store

open Pass (marksAt InPlace Transcript)

/-! ### The pods that exchanges leave -/

/-- What an exchange leaves of the pods of the server. -/
def storing (pods : Shelf Pod) (x : Exchange) : Shelf Pod := (Contents.after ⟨pods, []⟩ x).pods

theorem Contents.pods_after (c : Contents) (x : Exchange) :
    (c.after x).pods = storing c.pods x := by
  obtain ⟨call, answer⟩ := x
  cases answer with
  | error e =>
    unfold storing
    rw [Contents.after_error, Contents.after_error]
  | ok result =>
    cases call with
    | updatePodStatus pod =>
      simp only [storing, Contents.after]
      cases Shelf.at? (placeOf pod) c.pods with
      | none => rfl
      | some stored => rfl
    | updateAutoscaler | getNode | podsOnNode | listAutoscalers | getBudget => rfl

theorem Contents.pods_foldl_after (c : Contents) (said : List Exchange) :
    (said.foldl after c).pods = said.foldl storing c.pods := by
  induction said generalizing c with
  | nil => rfl
  | cons x rest ih => rw [List.foldl_cons, List.foldl_cons, ih, c.pods_after]

variable {place : Place}

/-- Only an exchange that marks the pod at a place changes what stands there. -/
theorem at?_storing (pods : Shelf Pod) {x : Exchange} (h : marksAt place x = false) :
    Shelf.at? place (storing pods x) = Shelf.at? place pods := by
  obtain ⟨call, answer⟩ := x
  cases answer with
  | error e =>
    unfold storing
    rw [Contents.after_error]
  | ok result =>
    cases call with
    | updatePodStatus pod =>
      have hplace : placeOf pod ≠ place := of_decide_eq_false h
      simp only [storing, Contents.after]
      cases hat : Shelf.at? (placeOf pod) pods with
      | none => rfl
      | some stored =>
        have hstored : placeOf stored ≠ place := Shelf.placeOf_of_at? hat ▸ hplace
        exact (Shelf.at?_put _ place pods).trans (if_neg hstored)
    | updateAutoscaler | getNode | podsOnNode | listAutoscalers | getBudget => rfl

theorem at?_foldl_storing (pods : Shelf Pod) {said : List Exchange}
    (h : said.countP (marksAt place) = 0) :
    Shelf.at? place (said.foldl storing pods) = Shelf.at? place pods := by
  induction said generalizing pods with
  | nil => rfl
  | cons x rest ih =>
    rw [List.countP_eq_zero] at h
    have hx : marksAt place x = false := Bool.eq_false_iff.mpr (h x (List.mem_cons_self ..))
    have hrest : rest.countP (marksAt place) = 0 :=
      List.countP_eq_zero.mpr fun y hy => h y (List.mem_cons_of_mem _ hy)
    rw [List.foldl_cons, ih _ hrest, at?_storing pods hx]

/-- A pod that is marked announces its eviction, if what was written does. -/
theorem at?_storing_of_marks {pods : Shelf Pod} {stored : Pod} {x : Exchange}
    (hx : marksAt place x = true) (hat : Shelf.at? place pods = some stored)
    (hshows : ∀ pod answer, x = ⟨.updatePodStatus pod, answer⟩ → pod.Announces) :
    ∃ pod, Shelf.at? place (storing pods x) = some pod ∧ pod.Announces := by
  obtain ⟨call, answer⟩ := x
  cases call with
  | updateAutoscaler | getNode | podsOnNode | listAutoscalers | getBudget => cases hx
  | updatePodStatus pod =>
    cases answer with
    | error e => cases hx
    | ok result =>
      have hplace : placeOf pod = place := of_decide_eq_true hx
      have hstored : placeOf stored = place := Shelf.placeOf_of_at? hat
      have hstoring : storing pods ⟨.updatePodStatus pod, .ok result⟩ =
          Shelf.put (withVersion (some (nextVersion (versionOf stored)))
            { stored with status := pod.status }) pods := by
        simp only [storing, Contents.after, hplace, hat]
      rw [hstoring, Shelf.at?_put]
      refine ⟨_, if_pos hstored, ?_⟩
      exact hshows pod _ rfl

namespace Memory

variable {clock : Memory → Instant} {lags : Memory → Bool} {m s : Memory}

/-! ### What a store in memory answers -/

theorem inPlace_answer (call : Call) (m : Memory) :
    InPlace ⟨call, ((handlerUnder clock lags).answer call m).1⟩ := by
  cases hanswer : ((handlerUnder clock lags).answer call m).1 with
  | error e => cases call <;> trivial
  | ok result =>
    cases call with
    | getNode | podsOnNode | getBudget | updatePodStatus => trivial
    | listAutoscalers ns =>
      obtain ⟨⟨⟨e, he⟩, -⟩ | hread, -⟩ :=
        @answer_read clock lags (.listAutoscalers ns) rfl m
      · rw [he] at hanswer
        cases hanswer
      · rw [hread] at hanswer
        have hlisted : m.cached.filter (·.metadata.ns = some ns) = result :=
          Except.ok.inj hanswer
        intro a ha
        rw [← hlisted] at ha
        exact of_decide_eq_true (List.mem_filter.mp ha).2
    | updateAutoscaler a =>
      obtain ⟨old, -, -, -, -, hstored, -⟩ := answer_updateAutoscaler_ok hanswer
      show placeOf result = placeOf a
      rw [hstored]
      rfl

theorem inPlace_dialogue {α : Type} (p : Attempt α) (m : Memory) :
    ∀ x ∈ p.dialogue (handlerUnder clock lags) m, InPlace x := by
  induction p generalizing m with
  | done a => exact fun x hx => absurd hx List.not_mem_nil
  | ask call next ih => exact List.forall_mem_cons.mpr ⟨inPlace_answer call m, ih _ _⟩
  | readClock next ih => exact ih _ m
  | note entry next ih => exact ih _

/-- Until something is written the pods of a node are those that the index had. -/
theorem podsOnNode_dialogue {α : Type} (p : Attempt α) {m : Memory} {node : String}
    {before after : List Exchange} {pods : List Pod}
    (h : p.dialogue (handlerUnder clock lags) m = before ++ ⟨.podsOnNode node, .ok pods⟩ :: after)
    (hreads : ∀ x ∈ before, x.1.target? = none) : pods = m.index.podsOn node := by
  induction p generalizing m before with
  | done a => cases before <;> cases h
  | ask call next ih =>
    rw [Program.dialogue] at h
    cases before with
    | nil =>
      obtain ⟨hx, -⟩ := List.cons.inj h
      obtain rfl : call = .podsOnNode node := congrArg Sigma.fst hx
      have hanswer := eq_of_heq (Sigma.mk.inj hx).2
      obtain ⟨⟨⟨e, he⟩, -⟩ | hread, -⟩ :=
        @answer_read clock lags (.podsOnNode node) rfl m
      · rw [he] at hanswer
        cases hanswer
      · rw [hread] at hanswer
        exact (Except.ok.inj hanswer).symm
    | cons x before =>
      obtain ⟨rfl, hrest⟩ := List.cons.inj h
      obtain ⟨hx, hbefore⟩ := List.forall_mem_cons.mp hreads
      obtain ⟨-, huntouched, -⟩ := @answer_read clock lags call hx m
      have hindex : ((handlerUnder clock lags).answer call m).2.index = m.index :=
        huntouched.index
      exact hindex ▸ ih _ hrest hbefore
  | readClock next ih => exact ih _ h hreads
  | note entry next ih =>
    have hindex : ((handlerUnder clock lags).record entry m).index = m.index :=
      (Untouched.of_record entry m).index
    exact hindex ▸ ih h hreads

/-- What a pass says to a store in memory. -/
theorem transcript_pass (clock : Memory → Instant) (lags : Memory → Bool) (config : Pass.Config)
    (name : String) (m : Memory) :
    Transcript config.order name
      ((Pass.overNode config name).dialogue (handlerUnder clock lags) m) :=
  Pass.says_overNode (Program.says_dialogue _ _ _) (inPlace_dialogue _ m)

/-! ### One pass -/

/-- The pods that the index has for a node are as the server has them, each once. -/
structure PodsShown (m : Memory) : Prop where
  current : ∀ node, ∀ pod ∈ m.index.podsOn node, Shelf.at? (placeOf pod) m.pods = some pod
  once : ∀ node, (Shelf.places (m.index.podsOn node)).Nodup

theorem InSync.podsShown (hm : OnePerPlace m) (hsync : InSync m) : PodsShown m where
  current := fun _ _ h => hsync.at?_of_mem_podsOn hm h
  once := hsync.nodup_podsOn

/-- A pass writes the status of the pod at a place once at most, and only if the pod does
not announce its eviction; then it does. -/
theorem PodsShown.marks (hs : PodsShown s) (clock : Memory → Instant) (lags : Memory → Bool)
    (config : Pass.Config) (name : String) (place : Place) {said : List Exchange}
    (hsaid : (Pass.overNode config name).dialogue (handlerUnder clock lags) s = said) :
    said.countP (marksAt place) = 0 ∨ said.countP (marksAt place) = 1 ∧
      (∃ pod, Shelf.at? place s.pods = some pod ∧ ¬ pod.Announces) ∧
      ∃ pod, Shelf.at? place (said.foldl storing s.pods) = some pod ∧ pod.Announces := by
  have hsays := Program.says_dialogue (handlerUnder clock lags) (Pass.overNode config name) s
  rw [hsaid] at hsays
  -- Of the pods that are handled the server has what the index has.
  have honce : said.countP (marksAt place) = 0 ∨ said.countP (marksAt place) = 1 ∧
      ∃ pod, Shelf.at? place s.pods = some pod ∧ ¬ pod.Announces := by
    have htranscript := transcript_pass clock lags config name s
    rw [hsaid] at htranscript
    cases htranscript with
    | unseen => exact Or.inl rfl
    | unlisted => exact Or.inl rfl
    | @handled node hcordoned pods rest h =>
      have hpods : pods = s.index.podsOn name :=
        @podsOnNode_dialogue clock lags _ _ _ name [⟨.getNode name, .ok (some node)⟩] _ _ hsaid
          (List.forall_mem_singleton.mpr rfl)
      rw [List.countP_cons_of_neg Bool.false_ne_true, List.countP_cons_of_neg Bool.false_ne_true]
      refine (h.marks (hpods ▸ hs.once name) place).imp_right ?_
      rintro ⟨hone, pod, hpod, rfl, hnew⟩
      exact ⟨hone, pod, hs.current name pod (hpods ▸ hpod), hnew⟩
  refine honce.imp_right ?_
  rintro ⟨hone, pod, hat, hnew⟩
  refine ⟨hone, ⟨pod, hat, hnew⟩, ?_⟩
  obtain ⟨before, x, after, rfl, hx, hbefore, hafter⟩ := exists_split_of_countP_eq_one hone
  rw [List.foldl_append, List.foldl_cons, at?_foldl_storing _ hafter]
  refine at?_storing_of_marks hx ((at?_foldl_storing _ hbefore).trans hat) ?_
  rintro written answer rfl
  exact Pass.announces_of_says hsays (List.mem_append_right _ (List.mem_cons_self ..))

/-! ### A series of passes -/

/-- A pass of a series: how it was run, over which node, and what it said. -/
structure PassSaid where
  config : Pass.Config
  node : String
  said : List Exchange

/-- All that passes have said, in order. -/
def saidBy (passes : List PassSaid) : List Exchange := passes.flatMap (·.said)

theorem saidBy_concat (passes : List PassSaid) (last : PassSaid) :
    saidBy (passes ++ [last]) = saidBy passes ++ last.said := by
  simp [saidBy]

/-- From a store passes run one after the other and lead to another store. Each finds the
pods in the index as they are; between them nobody writes pods. -/
inductive Series (m : Memory) : List PassSaid → Memory → Prop where
  | start : Series m [] m
  | between {passes : List PassSaid} {s s' : Memory} (h : Series m passes s)
    (hpods : s'.pods = s.pods) : Series m passes s'
  | pass {passes : List PassSaid} {s : Memory} (h : Series m passes s) (hshown : PodsShown s)
    (clock : Memory → Instant) (lags : Memory → Bool) (config : Pass.Config) (name : String) :
    Series m
      (passes ++ [⟨config, name, (Pass.overNode config name).dialogue (handlerUnder clock lags) s⟩])
      ((Pass.overNode config name).run (handlerUnder clock lags) s).2

variable {passes : List PassSaid}

/-- The server has the pods that are left by what was said. -/
theorem Series.pods_eq (h : Series m passes s) :
    s.pods = (saidBy passes).foldl storing m.pods := by
  induction h with
  | start => rfl
  | between _ hpods ih => exact hpods.trans ih
  | @pass passes s _ _ clock lags config name ih =>
    have hrun := @run_eq _ clock lags (Pass.overNode config name) s
    rw [saidBy_concat, List.foldl_append, ← ih]
    exact (congrArg Contents.pods hrun.1).trans (Contents.pods_foldl_after _ _)

/-- At a place the status was not written, or it was once: then the pod did not announce
its eviction to begin with, and does now. -/
theorem Series.counted (h : Series m passes s) (place : Place) :
    (saidBy passes).countP (marksAt place) = 0 ∨
      (saidBy passes).countP (marksAt place) = 1 ∧
      (∃ pod, Shelf.at? place m.pods = some pod ∧ ¬ pod.Announces) ∧
      ∃ pod, Shelf.at? place s.pods = some pod ∧ pod.Announces := by
  induction h with
  | start => exact Or.inl rfl
  | between _ hpods ih => rwa [hpods]
  | @pass passes s h hshown clock lags config name ih =>
    have hpods := (h.pass hshown clock lags config name).pods_eq
    rw [saidBy_concat, List.foldl_append, ← h.pods_eq] at hpods
    rw [saidBy_concat, List.countP_append, hpods]
    dsimp only
    rcases hshown.marks clock lags config name place rfl with hnone | ⟨hone, ⟨pod, hat, hnew⟩, hnow⟩
    · rw [hnone, at?_foldl_storing _ hnone]
      exact ih
    · -- The pod does not announce its eviction before the pass, so it was not written before.
      rcases ih with hbefore | ⟨-, -, pod', hat', hshows⟩
      · refine Or.inr ⟨by omega, ⟨pod, ?_, hnew⟩, hnow⟩
        rw [← hat, h.pods_eq, at?_foldl_storing _ hbefore]
      · rw [hat] at hat'
        cases hat'
        exact absurd hshows hnew

/-- In a series of passes, whatever faults they meet with, the status of the pod at a
place is written once at most, and not at all if its first condition that announces a
disruption is the announcement of the eviction to begin with. Once it is written the pod
that the server has there announces its eviction and never changes again. All the while
every pass goes on to record the eviction of each pod whose status step it passes. -/
theorem Series.marked_once (h : Series m passes s) :
    s.pods = (saidBy passes).foldl storing m.pods ∧
    (∀ place, (saidBy passes).countP (marksAt place) ≤ 1) ∧
    (∀ place pod c, Shelf.at? place m.pods = some pod →
      (pod.conditions.getD []).find? (·.type = "DisruptionTarget") = some c →
      c.status = "True" → c.reason = some "EvictionAttempt" →
      c.message = some "eviction attempt anticipated by node cordon" → c.lastProbeTime = none →
      (saidBy passes).countP (marksAt place) = 0) ∧
    (∀ place before x after, saidBy passes = before ++ x :: after → marksAt place x = true →
      ∃ pod, pod.Announces ∧ ∀ later, later <+: after →
        Shelf.at? place ((before ++ x :: later).foldl storing m.pods) = some pod) ∧
    ∀ pass ∈ passes, Transcript pass.config.order pass.node pass.said := by
  refine ⟨h.pods_eq, ?_, ?_, ?_, ?_⟩
  · intro place
    rcases h.counted place with hnone | ⟨hone, -⟩
    · omega
    · omega
  · intro place pod c hat hfound hstatus hreason hmessage hprobe
    have hshows : pod.Announces :=
      pod.announces_iff.mpr ⟨c, hfound, hstatus, hreason, hmessage, hprobe⟩
    rcases h.counted place with hnone | ⟨-, ⟨pod', hat', hnew⟩, -⟩
    · exact hnone
    · rw [hat] at hat'
      cases hat'
      exact absurd hshows hnew
  · intro place before x after hsplit hx
    have hcount : (saidBy passes).countP (marksAt place)
        = before.countP (marksAt place) + (after.countP (marksAt place) + 1) := by
      rw [hsplit, List.countP_append, List.countP_cons_of_pos hx]
    rcases h.counted place with hnone | ⟨hone, -, pod, hat, hshows⟩
    · omega
    · have hafter : after.countP (marksAt place) = 0 := by omega
      -- Nothing after the write changes the pod, so it is what the server has in the end.
      have hkept : ∀ later, later <+: after →
          Shelf.at? place ((before ++ x :: later).foldl storing m.pods) =
            Shelf.at? place ((before ++ [x]).foldl storing m.pods) := by
        intro later hlater
        have hle := hlater.sublist.countP_le (p := marksAt place)
        rw [List.foldl_append, List.foldl_cons, at?_foldl_storing _ (by omega), List.foldl_append]
        rfl
      refine ⟨pod, hshows, fun later hlater => ?_⟩
      rw [hkept later hlater, ← hkept after (List.prefix_refl _), ← hsplit, ← h.pods_eq]
      exact hat
  · induction h with
    | start => simp
    | between _ _ ih => exact ih
    | @pass passes s _ _ clock lags config name ih =>
      refine List.forall_mem_append.mpr ⟨ih, List.forall_mem_singleton.mpr ?_⟩
      exact transcript_pass clock lags config name s

/-- Two passes over a node with two pods: the first fails when it has marked both, the
second writes no status any more and records both evictions. -/
def healed : List PassSaid :=
  [⟨{}, "n1", (Pass.overNode {} "n1").dialogue handler flaky⟩,
    ⟨{}, "n1", (Pass.overNode {} "n1").dialogue handler resumed⟩]

theorem Series.marked_once_healed : Series shared healed (resumed.pass {} "n1").2 ∧
    (∀ place, (saidBy healed).countP (marksAt place) ≤ 1) ∧
    (saidBy healed).countP (marksAt ⟨some "prod", "web-0"⟩) = 1 := by
  have hflaky : InSync flaky := ⟨inSync_shared.indexed, inSync_shared.ordered, inSync_shared.cached⟩
  have hstart : Series shared [] flaky := Series.start.between rfl
  have hfirst := hstart.pass
    (hflaky.podsShown ⟨by decide, by decide⟩) now lag {} "n1"
  have hone : OnePerPlace (flaky.pass {} "n1").2 := ⟨by decide +kernel, by decide +kernel⟩
  have hserver := sameServer_sync (flaky.pass {} "n1").2
  have hresumed : OnePerPlace resumed := ⟨by decide +kernel, by decide +kernel⟩
  have hsecond := (hfirst.between hserver.pods).pass
    ((inSync_sync hone).podsShown hresumed) now lag {} "n1"
  exact ⟨hsecond, (Series.marked_once hsecond).2.1, by decide +kernel⟩

end Memory

end CordonWatch.Store
