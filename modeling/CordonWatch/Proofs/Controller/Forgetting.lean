import CordonWatch.Proofs.Controller.Backoff
import CordonWatch.Proofs.Watch.Flags

/-!
# What is kept of nodes that are gone

The watch of nodes is heard twice. The cordon filter forgets a node that is deleted,
and a node that a complete list does not contain: it went while the watch was
interrupted. The table of failures only drops the node of a deletion.

`Attentive` says that a controller has lived through a history and that its filter
has heard the events of it. `Attentive.forgotten` says what is left in the table when
the filter forgets a node: nothing, if the node is deleted or no failure of it counts.
Otherwise it is the whole count, and the next failure of a node of that name is delayed
as one more of the node that is gone. Nothing that is heard later takes the count away,
short of a deletion (`failuresSince_le_append`).
-/

namespace CordonWatch

namespace Retry

/-! ### The entries of the table -/

/-- No entry of the table counts no failure. -/
def NoneIdle (r : Retry) : Prop := ∀ node, r.failures.find? node ≠ some 0

theorem NoneIdle.reset {r : Retry} (h : r.NoneIdle) (node : String) : (r.reset node).NoneIdle := by
  intro other
  rw [Retry.reset, Table.find?_erase]
  split
  · simp
  · exact h other

theorem NoneIdle.forgetDeleted {r : Retry} (h : r.NoneIdle) (event : Watch.Event Node) :
    (r.forgetDeleted event).NoneIdle := by
  cases event with
  | delete gone => exact h.reset gone.name
  | init | initApply | initDone | apply => exact h

theorem NoneIdle.next {r : Retry} (h : r.NoneIdle) (node : String) (failure : Failure) :
    (r.next node failure).1.NoneIdle := by
  intro other
  unfold Retry.next
  by_cases hconflict : failure.isConflict = true
  · rw [if_pos hconflict]
    exact h other
  · rw [if_neg hconflict]
    dsimp only
    rw [Table.find?_insert]
    split
    · have hpos : min (r.count node + 1) countLimit ≠ 0 := by
        unfold countLimit
        omega
      simpa using hpos
    · exact h other

/-- Such a table has no entry of a node exactly if it counts no failure of it. -/
theorem NoneIdle.find?_eq_none_iff {r : Retry} (h : r.NoneIdle) (node : String) :
    r.failures.find? node = none ↔ r.count node = 0 := by
  unfold count
  cases hfind : r.failures.find? node with
  | none => simp
  | some k =>
    have hk : k ≠ 0 := fun hk => h node (hfind.trans (congrArg some hk))
    simpa using hk

/-! ### The history of a node that is not cleared -/

/-- What happens without clearing a node adds to the failures that count of it. -/
theorem failuresSince_le_append (node : String) (history later : List Occurrence)
    (h : ∀ o ∈ later, o.clears node = false) :
    failuresSince node history ≤ failuresSince node (history ++ later) := by
  induction later using List.reverseRecOn with
  | nil => simp
  | append_singleton earlier last ih =>
    have hlast : last.clears node = false := h last (by simp)
    have hearlier := ih fun o ho => h o (List.mem_append_left _ ho)
    rw [← List.append_assoc, failuresSince_concat, hlast, if_neg Bool.false_ne_true]
    omega

/-- Only a first failure is delayed by five seconds. -/
theorem ofSeconds_doubled_eq_iff (k : Nat) :
    Span.ofSeconds (min 300 (5 * 2 ^ k)) = Span.ofSeconds 5 ↔ k = 0 := by
  constructor
  · intro h
    have hmillis : 1000 * min 300 (5 * 2 ^ k) = 1000 * 5 := congrArg Span.millis h
    by_contra hk
    have hpow : 2 ^ 1 ≤ 2 ^ k := Nat.pow_le_pow_right (by decide) (by omega)
    omega
  · rintro rfl
    rfl

/-- The events that the watch told of. -/
def tellings (history : List Occurrence) : List (Watch.Event Node) :=
  history.filterMap fun
    | .told event => some event
    | .ended _ _ => none

theorem tellings_concat_told (history : List Occurrence) (event : Watch.Event Node) :
    tellings (history ++ [.told event]) = tellings history ++ [event] := by
  simp [tellings]

theorem tellings_concat_ended (history : List Occurrence) (node : String)
    (result : Except Failure Pass.Outcome) :
    tellings (history ++ [.ended node result]) = tellings history := by
  simp [tellings]

end Retry

namespace Controller

open Retry Watch

/-- Neither end of a pass touches the filter. -/
theorem filter_conclude (c : Controller) (place : Place) (node : String)
    (result : Except Failure Pass.Outcome) :
    (c.conclude place node result).filter = c.filter := by
  cases result with
  | error failure => rfl
  | ok outcome =>
    cases outcome with
    | done => rfl
    | requeueAfter delay => rfl

theorem filter_hear_node (c : Controller) (event : Event Node) :
    (c.hear (.node event)).filter = (c.filter.handle event).1 := by
  dsimp only [hear]
  split
  · rfl
  · rfl

/-- No entry is idle in the table of a controller that began without entries. -/
theorem Lived.noneIdle {history : List Occurrence} {c : Controller} (h : Lived history c) :
    c.retry.NoneIdle := by
  induction h with
  | fresh hfresh =>
    intro node
    rw [hfresh]
    simp
  | ended place node result _ ih =>
    cases result with
    | ok outcome =>
      rw [retry_conclude_ok]
      exact ih.reset node
    | error failure => exact ih.next node failure
  | told event _ ih =>
    rw [retry_hear_node]
    exact ih.forgetDeleted event
  | other _ hretry ih => exact hretry ▸ ih

/-- There is an entry of a node exactly if some failure of it counts. -/
theorem Lived.find?_eq_none_iff {history : List Occurrence} {c : Controller}
    (h : Lived history c) (node : String) :
    c.retry.failures.find? node = none ↔ failuresSince node history = 0 := by
  rw [h.noneIdle.find?_eq_none_iff, h.count_eq]
  unfold countLimit
  omega

/-- The controller has lived through a history, and its filter, which began empty, has
heard just the events of it. -/
structure Attentive (history : List Occurrence) (c : Controller) : Prop where
  lived : Lived history c
  heard : c.filter = (CordonFilter.handleAll {} (tellings history)).1

namespace Attentive

variable {history : List Occurrence} {c c' : Controller}

theorem fresh (hretry : c.retry = {}) (hfilter : c.filter = {}) : Attentive [] c :=
  ⟨.fresh hretry, hfilter⟩

theorem ended (h : Attentive history c) (place : Place) (node : String)
    (result : Except Failure Pass.Outcome) :
    Attentive (history ++ [.ended node result]) (c.conclude place node result) where
  lived := h.lived.ended place node result
  heard := by rw [filter_conclude, tellings_concat_ended, h.heard]

theorem told (h : Attentive history c) (event : Event Node) :
    Attentive (history ++ [.told event]) (c.hear (.node event)) where
  lived := h.lived.told event
  heard := by rw [filter_hear_node, tellings_concat_told, CordonFilter.handleAll_concat, h.heard]

theorem other (h : Attentive history c) (hretry : c'.retry = c.retry)
    (hfilter : c'.filter = c.filter) : Attentive history c' :=
  ⟨h.lived.other hretry, hfilter.trans h.heard⟩

/-- When a node is gone, by a deletion or by a complete list without it, the filter has
no flag of it any more. The table has no entry of it either exactly if it was deleted or
no failure of it counted, and only then the next failure of a node of that name is
delayed by five seconds. After a list without it every failure that counted goes on
counting, as does the entry, until the node is deleted or a pass over one of its name
succeeds. -/
theorem forgotten (h : Attentive history c) {node : String} {event : Event Node}
    (hgone : Forgets (tellings history) node event) :
    (c.hear (.node event)).filter.lastSeen.find? node = none ∧
    ((c.hear (.node event)).retry.failures.find? node = none ↔
      (∃ gone, event = .delete gone) ∨ failuresSince node history = 0) ∧
    (∀ failure : Failure, failure.isConflict = false →
      (((c.hear (.node event)).retry.next node failure).2 = Span.ofSeconds 5 ↔
        (∃ gone, event = .delete gone) ∨ failuresSince node history = 0) ∧
      (event = .initDone → ((c.hear (.node event)).retry.next node failure).2 =
        Span.ofSeconds (min 300 (5 * 2 ^ failuresSince node history)))) ∧
    (event = .initDone → ∀ later d, Lived (history ++ [.told event] ++ later) d →
      (∀ o ∈ later, o.clears node = false) →
      min (failuresSince node history) countLimit ≤ d.retry.count node ∧
      (failuresSince node history ≠ 0 → d.retry.failures.find? node ≠ none)) := by
  have htold := h.told event
  have hnone : (c.hear (.node event)).filter.lastSeen.find? node = none := by
    rw [Option.eq_none_iff_forall_ne_some]
    intro flag hflag
    rw [htold.heard, CordonFilter.lastSeen_handleAll_iff, tellings_concat_told,
      remembers_concat] at hflag
    rcases hflag with ⟨shown, hshown, -⟩ | ⟨-, hkept, -⟩
    · cases event with
      | delete | initDone => cases hshown
      | init | initApply | apply => exact hgone
    · exact hkept hgone
  have hdelay : ∀ failure : Failure, failure.isConflict = false →
      ((c.hear (.node event)).retry.next node failure).2 =
        Span.ofSeconds (min 300 (5 * 2 ^ failuresSince node (history ++ [.told event]))) := by
    intro failure hconflict
    rw [next_snd, hconflict, if_neg Bool.false_ne_true, htold.lived.count_eq, delayAfter_min]
  refine ⟨hnone, ?_⟩
  rw [htold.lived.find?_eq_none_iff]
  -- A deletion clears the node, and the end of a list does not.
  cases event with
  | delete gone =>
    have hname : gone.name = node := hgone
    have hsince : failuresSince node (history ++ [.told (.delete gone)]) = 0 := by
      rw [failuresSince_concat, if_pos]
      simpa [Occurrence.clears] using hname
    refine ⟨by simp [hsince], fun failure hconflict => ⟨?_, by simp⟩, by simp⟩
    rw [hdelay failure hconflict, hsince]
    simp [Span.ofSeconds]
  | initDone =>
    have hsince :
        failuresSince node (history ++ [.told .initDone]) = failuresSince node history := by
      rw [failuresSince_concat]
      simp [Occurrence.clears, Occurrence.counts]
    refine ⟨by simp [hsince], fun failure hconflict => ?_, fun _ later d hd hlater => ?_⟩
    · rw [hdelay failure hconflict, hsince]
      refine ⟨?_, fun _ => rfl⟩
      simp only [reduceCtorEq, exists_false, false_or]
      exact ofSeconds_doubled_eq_iff (failuresSince node history)
    · have hle := failuresSince_le_append node (history ++ [.told .initDone]) later hlater
      rw [hsince] at hle
      rw [hd.count_eq, Ne, Ne, hd.find?_eq_none_iff]
      constructor
      · omega
      · omega
  | init | initApply | apply => exact False.elim hgone

end Attentive

/-! ### A node that went while the watch was interrupted -/

/-- The node is listed, a pass over it fails, and the next list does not contain it. -/
def interruption : List Occurrence :=
  [.told .init, .told (.initApply flakyNode), .told .initDone,
    .ended "n1" (.error (.api "timeout")), .told .init]

/-- A controller that has lived through that, up to the end of the second list. -/
def interrupted : Controller :=
  let fresh : Controller := { started := ⟨0, 0⟩ }
  let listed := ((fresh.hear (.node .init)).hear (.node (.initApply flakyNode))).hear
    (.node .initDone)
  (listed.conclude (placeOf flakyNode) "n1" (.error (.api "timeout"))).hear (.node .init)

theorem attentive_interrupted : Attentive interruption interrupted :=
  have hfresh : Attentive [] ({ started := ⟨0, 0⟩ } : Controller) := Attentive.fresh rfl rfl
  have hlisted := ((hfresh.told .init).told (.initApply flakyNode)).told .initDone
  (hlisted.ended (placeOf flakyNode) "n1" _).told .init

theorem forgets_interruption : Forgets (tellings interruption) "n1" .initDone :=
  ⟨[.init, .initApply flakyNode, .initDone], [], rfl, by simp, by simp, by simp⟩

/-- The entry of the node is there when the filter has forgotten it, and the next failure
of a node of that name is delayed by ten seconds. -/
theorem vanished_node_keeps_its_entry :
    Attentive interruption interrupted ∧
    Remembers (tellings interruption) "n1" false ∧
    Forgets (tellings interruption) "n1" .initDone ∧
    (interrupted.hear (.node .initDone)).filter.lastSeen.find? "n1" = none ∧
    (interrupted.hear (.node .initDone)).retry.failures.find? "n1" = some 1 ∧
    ((interrupted.hear (.node .initDone)).retry.next "n1" (.api "timeout")).2 =
      Span.ofSeconds 10 := by
  refine ⟨attentive_interrupted, ?_, forgets_interruption, by decide, by decide, by decide⟩
  rw [← CordonFilter.lastSeen_handleAll_iff]
  decide

/-- The same node, had it been deleted instead, would have left nothing. -/
theorem Attentive.forgotten_interrupted :
    Attentive interruption interrupted ∧
    Forgets (tellings interruption) "n1" (.delete flakyNode) ∧
    Forgets (tellings interruption) "n1" .initDone ∧
    (interrupted.hear (.node (.delete flakyNode))).retry.failures.find? "n1" = none ∧
    (interrupted.hear (.node .initDone)).retry.failures.find? "n1" ≠ none := by
  have hdeleted : Forgets (tellings interruption) "n1" (.delete flakyNode) := rfl
  have hfirst := (Attentive.forgotten attentive_interrupted hdeleted).2.1
  have hsecond := (Attentive.forgotten attentive_interrupted forgets_interruption).2.1
  refine ⟨attentive_interrupted, hdeleted, forgets_interruption,
    hfirst.mpr (Or.inl ⟨flakyNode, rfl⟩), fun hnone => ?_⟩
  rcases hsecond.mp hnone with ⟨gone, hevent⟩ | hcount
  · cases hevent
  · exact absurd hcount (by decide)

end Controller

end CordonWatch
