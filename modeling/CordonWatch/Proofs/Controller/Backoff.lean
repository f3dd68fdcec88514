import CordonWatch.Controller.Timeline
import CordonWatch.Number.Power
import CordonWatch.Proofs.Program
import Mathlib.Data.List.Basic

/-!
# When a node is tried again

The controller counts the failures of each node in a table that three things
touch: a pass that failed adds to it, a pass that succeeded and the deletion of the
node clear it. Here the count is read off the history instead: it is the number of
failures, conflicts apart, since the node was last cleared (`failuresSince`).

A controller that has lived through a history (`Lived`) has counted that many
failures of every node, until the count is as large as it gets
(`Lived.count_eq`). So the delay after the next failure is a function of the
history of that node alone: one second after a conflict, otherwise five seconds
doubled once for every failure counted, and never more than five minutes
(`Lived.conclude_error`).

What the controller does as time passes is such a history as well
(`Lived.advanceTo`): nothing but the three touches the table.
-/

namespace CordonWatch

namespace Retry

/-- What bears on the retry history of nodes. -/
inductive Occurrence where
  /-- A pass over the node of that name ended. -/
  | ended (node : String) (result : Except Failure Pass.Outcome)
  /-- The watch of nodes told of something. -/
  | told (event : Watch.Event Node)

/-- The failures of the node before this do not count any more. -/
def Occurrence.clears (node : String) : Occurrence → Bool
  | .ended other (.ok _) => other = node
  | .ended _ (.error _) => false
  | .told (.delete gone) => gone.name = node
  | .told _ => false

/-- A failure of the node other than a conflict. -/
def Occurrence.counts (node : String) : Occurrence → Bool
  | .ended other (.error failure) => other = node && !failure.isConflict
  | .ended _ (.ok _) => false
  | .told _ => false

/-- How many failures of the node count, which are those since the last success or
deletion. -/
def failuresSince (node : String) (history : List Occurrence) : Nat :=
  (history.reverse.takeWhile (!·.clears node)).countP (·.counts node)

theorem failuresSince_concat (node : String) (history : List Occurrence) (last : Occurrence) :
    failuresSince node (history ++ [last]) =
      if last.clears node then 0
      else failuresSince node history + if last.counts node then 1 else 0 := by
  unfold failuresSince
  rw [List.reverse_append, List.reverse_singleton, List.singleton_append, List.takeWhile_cons]
  by_cases hclears : last.clears node = true
  · simp [hclears]
  · simp [hclears, List.countP_cons]

/-! ### One touch of the table -/

theorem count_reset (r : Retry) (node other : String) :
    (r.reset node).count other = if other = node then 0 else r.count other := by
  unfold count reset
  rw [Table.find?_erase]
  split
  · rfl
  · rfl

theorem count_forgetDeleted (r : Retry) (event : Watch.Event Node) (node : String) :
    (r.forgetDeleted event).count node =
      if (Occurrence.told event).clears node then 0 else r.count node := by
  cases event with
  | delete gone => simp [forgetDeleted, count_reset, Occurrence.clears, eq_comm]
  | init | initApply | initDone | apply => rfl

theorem count_next (r : Retry) (node other : String) (failure : Failure) :
    (r.next node failure).1.count other =
      if (Occurrence.ended node (.error failure)).counts other
      then min (r.count other + 1) countLimit else r.count other := by
  unfold next
  by_cases hconflict : failure.isConflict = true
  · simp [Occurrence.counts, hconflict]
  · by_cases hnode : node = other
    · subst hnode
      simp [Occurrence.counts, hconflict, count]
    · simp [Occurrence.counts, hconflict, count, hnode]

/-! ### The delay -/

/-- Neither the bound of the count nor the bound of the power shows in the delay. -/
theorem delayAfter_min (k : Nat) :
    delayAfter (min k countLimit) = Span.ofSeconds (min 300 (5 * 2 ^ k)) := by
  unfold delayAfter baseSeconds maxSeconds boundedPower countLimit
  by_cases hk : k < 32
  · have hmin : min k (2 ^ 32 - 1) = k := by omega
    rw [hmin, if_pos hk, Nat.min_comm]
  · -- The delay has reached its limit long before either bound.
    have hpow : 2 ^ 32 ≤ 2 ^ k := Nat.pow_le_pow_right (by decide) (by omega)
    have hmin : ¬ min k (2 ^ 32 - 1) < 32 := by omega
    have hdelay : min 300 (5 * 2 ^ k) = 300 := by omega
    rw [if_neg hmin, hdelay]
    rfl

/-- The power of two stays a number of 32 bits. -/
theorem boundedPower_le (n : Nat) : boundedPower n ≤ countLimit := by
  unfold boundedPower countLimit
  by_cases hn : n < 32
  · have hpow : 2 ^ n < 2 ^ 32 := Nat.pow_lt_pow_right (by decide) hn
    rw [if_pos hn]
    omega
  · exact Nat.le_of_eq (if_neg hn)

theorem next_snd (r : Retry) (node : String) (failure : Failure) :
    (r.next node failure).2 =
      if failure.isConflict then conflictDelay else delayAfter (r.count node) := by
  unfold next
  split
  · rfl
  · rfl

end Retry

namespace Controller

open Retry

/-- The controller has lived through a history: it began without failures, and
besides what the history tells nothing touched its table of failures. -/
inductive Lived : List Occurrence → Controller → Prop where
  | fresh {c : Controller} (h : c.retry = {}) : Lived [] c
  | ended {history : List Occurrence} {c : Controller} (place : Place) (node : String)
      (result : Except Failure Pass.Outcome) (h : Lived history c) :
      Lived (history ++ [.ended node result]) (c.conclude place node result)
  | told {history : List Occurrence} {c : Controller} (event : Watch.Event Node)
      (h : Lived history c) : Lived (history ++ [.told event]) (c.hear (.node event))
  | other {history : List Occurrence} {c c' : Controller} (h : Lived history c)
      (hretry : c'.retry = c.retry) : Lived history c'

/-! ### What each operation does to the table of failures -/

theorem retry_conclude_ok (c : Controller) (place : Place) (node : String)
    (outcome : Pass.Outcome) :
    (c.conclude place node (.ok outcome)).retry = c.retry.reset node := by
  cases outcome with
  | done => rfl
  | requeueAfter delay => rfl

theorem retry_conclude_error (c : Controller) (place : Place) (node : String)
    (failure : Failure) :
    (c.conclude place node (.error failure)).retry = (c.retry.next node failure).1 := rfl

theorem retry_hear_node (c : Controller) (event : Watch.Event Node) :
    (c.hear (.node event)).retry = c.retry.forgetDeleted event := by
  dsimp only [hear]
  split
  · rfl
  · rfl

/-- The count of a node is what the history says, as far as it can be counted. -/
theorem Lived.count_eq {history : List Occurrence} {c : Controller} (h : Lived history c)
    (node : String) : c.retry.count node = min (failuresSince node history) countLimit := by
  induction h with
  | fresh hfresh =>
    rw [hfresh]
    rfl
  | ended place other result _ ih =>
    rw [failuresSince_concat]
    cases result with
    | ok outcome =>
      rw [retry_conclude_ok, count_reset]
      by_cases hnode : node = other
      · simp [Occurrence.clears, hnode]
      · simp [Occurrence.clears, Occurrence.counts, hnode, Ne.symm hnode, ih]
    | error failure =>
      have hclears : ¬ (Occurrence.ended other (.error failure)).clears node = true :=
        Bool.false_ne_true
      rw [retry_conclude_error, count_next, if_neg hclears, ih]
      by_cases hcounts : (Occurrence.ended other (.error failure)).counts node = true
      · -- Counting on from the greatest count gives the greatest count again.
        rw [if_pos hcounts, if_pos hcounts]
        omega
      · rw [if_neg hcounts, if_neg hcounts, Nat.add_zero]
  | told event _ ih =>
    rw [retry_hear_node, count_forgetDeleted, failuresSince_concat, ih]
    by_cases hclears : (Occurrence.told event).clears node = true
    · rw [if_pos hclears, if_pos hclears]
      rfl
    · simp [hclears, Occurrence.counts]
  | other _ hretry ih => rw [hretry, ih]

/-! ### What the controller does by itself -/

/-- The controller has lived through a history, and perhaps through more since. -/
def LivedOn (history : List Occurrence) (c : Controller) : Prop :=
  ∃ later, Lived (history ++ later) c

variable {history : List Occurrence} {c c' : Controller}

theorem Lived.livedOn (h : Lived history c) : LivedOn history c :=
  ⟨[], (List.append_nil history).symm ▸ h⟩

theorem LivedOn.other (h : LivedOn history c) (hretry : c'.retry = c.retry) :
    LivedOn history c' := by
  obtain ⟨later, hlater⟩ := h
  exact ⟨later, hlater.other hretry⟩

theorem LivedOn.conclude (h : LivedOn history c) (place : Place) (node : String)
    (result : Except Failure Pass.Outcome) : LivedOn history (c.conclude place node result) := by
  obtain ⟨later, hlater⟩ := h
  have hended := hlater.ended place node result
  rw [List.append_assoc] at hended
  exact ⟨later ++ [.ended node result], hended⟩

theorem LivedOn.hear (h : LivedOn history c) (news : Cluster.News) :
    LivedOn history (c.hear news) := by
  cases news with
  | node event =>
    obtain ⟨later, hlater⟩ := h
    have htold := hlater.told event
    rw [List.append_assoc] at htold
    exact ⟨later ++ [.told event], htold⟩
  | pod event => exact h.other rfl
  | budget event => exact h.other rfl
  | autoscaler event => exact h.other rfl

theorem LivedOn.list (h : LivedOn history c) (kind : Kind) : LivedOn history (c.list kind) := by
  unfold Controller.list
  generalize Cluster.News.listing c.server c.scope kind = all
  induction all generalizing c with
  | nil => exact h
  | cons news rest ih => exact ih (h.hear news)

theorem LivedOn.pause (h : LivedOn history c) (kind : Kind) (feed : Watch.Feed Cluster.News) :
    LivedOn history (pause kind feed c).2 := by
  cases kind with
  | node => exact h.other rfl
  | pod | budget | autoscaler => exact h

theorem LivedOn.follow (h : LivedOn history c) (kind : Kind) (feed : Watch.Feed Cluster.News) :
    LivedOn history (follow kind feed c).2 := by
  fun_induction Controller.follow kind feed c with
  | case1 feed c hs refusal faults hmeet =>
    have hmet : LivedOn history { c with faults } := h.other rfl
    exact hmet.pause kind _
  | case2 feed c hs faults hmeet ih =>
    have hmet : LivedOn history { c with faults } := h.other rfl
    exact ih (hmet.list kind)
  | case3 feed c hs refusal faults hmeet =>
    have hmet : LivedOn history { c with faults } := h.other rfl
    exact hmet.pause kind _
  | case4 feed c hs faults hmeet ih => exact ih (h.other rfl)
  | case5 feed c hs hu => exact h
  | case6 feed c news rest hs hu ih => exact ih (h.hear news)
  | case7 feed c rest hs hu ih => exact ih h
  | case8 feed c code rest hs hu => exact h.pause kind _

theorem LivedOn.goOn (h : LivedOn history c) (kind : Kind) : LivedOn history (c.goOn kind) :=
  (h.follow kind _).other rfl

theorem LivedOn.tellOf (h : LivedOn history c) (object : Object) (news : Object → Cluster.News) :
    LivedOn history (c.tellOf object news) := by
  unfold Controller.tellOf tell
  split
  · dsimp only
    split
    · exact h.other rfl
    · refine LivedOn.goOn ?_ _
      exact h.other rfl
  · exact h

theorem LivedOn.send (h : LivedOn history c) (node : String) (w : Api.Write) :
    LivedOn history (c.send node w).2 := by
  unfold Controller.send
  split
  · exact h
  · dsimp only
    split
    · exact h.other rfl
    · split
      · exact h.other rfl
      · refine LivedOn.tellOf ?_ _ _
        exact h.other rfl

theorem LivedOn.passOver (h : LivedOn history c) (place : Place) :
    LivedOn history (c.passOver place) := by
  unfold Controller.passOver
  dsimp only
  split
  · exact h.other rfl
  next found _ =>
    refine LivedOn.conclude ?_ _ _ _
    -- On its way a pass only makes calls, and a write may make the watches tell of something.
    refine Program.run_invariant (LivedOn history) ?_ ?_ _ (h.other rfl)
    · intro call c h
      cases call with
      | updatePodStatus pod => exact h.send found.name _
      | updateAutoscaler a => exact h.send found.name _
      | getNode | podsOnNode | listAutoscalers | getBudget => exact h
    · intro entry c h
      exact h.other rfl

theorem LivedOn.perform (h : LivedOn history c) (moment : Moment) :
    LivedOn history (c.perform moment) := by
  cases moment with
  | goOn kind => exact h.goOn kind
  | pass place => exact h.passOver place

theorem LivedOn.goThrough (h : LivedOn history c) (target fuel : Nat) :
    LivedOn history (goThrough target fuel c) := by
  induction fuel generalizing c with
  | zero => exact h
  | succ fuel ih =>
    unfold Controller.goThrough
    split
    next time moment _ =>
      split
      · refine ih (LivedOn.perform ?_ moment)
        exact h.other rfl
      · exact h
    next => exact h

/-- As time passes the controller goes on living its history. -/
theorem Lived.advanceTo (h : Lived history c) (target : Nat) :
    ∃ later, Lived (history ++ later) (c.advanceTo target) :=
  (h.livedOn.goThrough target _).other rfl

/-! ### The delay after a failure -/

/-- The delay that a failure asks for is said by the history of the node alone: a
second after a conflict, and otherwise five seconds, doubled for every failure that
counts, up to five minutes. It is recorded with the failure, and the node is due
when it has passed. Conflicts leave the table as it is, other nodes keep their
counts, and no number on the way grows out of 64 bits. -/
theorem Lived.conclude_error {history : List Occurrence} {c : Controller}
    (h : Lived history c) (place : Place) (node : String) (failure : Failure) :
    ∃ retry delay,
      c.conclude place node (.error failure) =
        ({ c with
            retry
            report := { c.report with
              failed := c.report.failed ++ [{ time := c.time, node, failure, delay }] } } :
          Controller).schedule place (c.elapsed + nanosOf delay) ∧
      delay = (if failure.isConflict then Span.ofSeconds 1
        else Span.ofSeconds (min 300 (5 * 2 ^ failuresSince node history))) ∧
      (failure.isConflict = true → retry = c.retry) ∧
      (failure.isConflict = false → 5000 ≤ delay.millis ∧ delay.millis ≤ 300000) ∧
      (∀ other, retry.count other =
        min (failuresSince other (history ++ [.ended node (.error failure)])) countLimit) ∧
      (∀ other, other ≠ node → retry.count other = c.retry.count other) ∧
      baseSeconds * boundedPower (c.retry.count node) < 2 ^ 64 := by
  have hdelay : (c.retry.next node failure).2 = if failure.isConflict then Span.ofSeconds 1
      else Span.ofSeconds (min 300 (5 * 2 ^ failuresSince node history)) := by
    rw [next_snd, h.count_eq node, delayAfter_min]
    rfl
  refine ⟨(c.retry.next node failure).1, (c.retry.next node failure).2, rfl, hdelay, ?_, ?_,
    fun other => (h.ended place node (.error failure)).count_eq other, ?_, ?_⟩
  · intro hconflict
    unfold next
    rw [if_pos hconflict]
  · intro hconflict
    have hpow : 0 < 2 ^ failuresSince node history := Nat.two_pow_pos _
    rw [hdelay, hconflict]
    simp only [Bool.false_eq_true, if_false, Span.ofSeconds]
    omega
  · intro other hother
    rw [count_next, if_neg]
    simp [Occurrence.counts, Ne.symm hother]
  · have hpower : boundedPower (c.retry.count node) ≤ 2 ^ 32 - 1 := boundedPower_le _
    have hbase : baseSeconds = 5 := rfl
    rw [hbase]
    omega

/-- The node of which the following history tells. -/
def flakyNode : Node := { metadata := { name := some "n1" } }

/-- The node failed, was deleted, failed again and then met with a conflict. -/
def troubles : List Occurrence :=
  [.ended "n1" (.error (.api "timeout")), .told (.delete flakyNode),
    .ended "n1" (.error (.api "timeout")), .ended "n1" (.error (.conflict "stale"))]

/-- A controller that has lived through that. -/
def troubled : Controller :=
  let fresh : Controller := { started := ⟨0, 0⟩ }
  let place := placeOf flakyNode
  (((fresh.conclude place "n1" (.error (.api "timeout"))).hear
    (.node (.delete flakyNode))).conclude place "n1" (.error (.api "timeout"))).conclude place "n1"
      (.error (.conflict "stale"))

theorem lived_troubled : Lived troubles troubled :=
  have hfresh : Lived [] ({ started := ⟨0, 0⟩ } : Controller) := Lived.fresh rfl
  have hdeleted := (hfresh.ended (placeOf flakyNode) "n1" _).told (.delete flakyNode)
  (hdeleted.ended (placeOf flakyNode) "n1" _).ended (placeOf flakyNode) "n1" _

/-- The second failure since the deletion asks for ten seconds. -/
theorem Lived.conclude_error_troubled : Lived troubles troubled ∧ ∃ retry,
    troubled.conclude (placeOf flakyNode) "n1" (.error (.api "timeout")) =
      ({ troubled with
          retry
          report := { troubled.report with
            failed := troubled.report.failed ++
              [{ time := troubled.time, node := "n1", failure := .api "timeout",
                 delay := Span.ofSeconds 10 }] } } :
        Controller).schedule (placeOf flakyNode)
          (troubled.elapsed + nanosOf (Span.ofSeconds 10)) ∧
      retry.count "n1" = 2 := by
  obtain ⟨retry, delay, hconclude, hdelay, -, -, hcount, -, -⟩ :=
    Lived.conclude_error lived_troubled (placeOf flakyNode) "n1" (.api "timeout")
  have hten : delay = Span.ofSeconds 10 := hdelay.trans (by decide)
  exact ⟨lived_troubled, retry, hten ▸ hconclude, (hcount "n1").trans (by decide)⟩

end Controller

end CordonWatch
