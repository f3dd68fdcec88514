import CordonWatch.Object.Kind

/-!
# The edits of a pass

A pass writes back objects that it has read, with one edit each: it sets a
condition of a pod, and it notes an eviction on an autoscaler
(`Autoscaler.noting`).

What `PodCondition.set` does to a list of conditions is said once, by
`set_cases`: either no condition of the type is there and the new one is added
at the end, or the first one of the type is replaced where it stands. What a
reader of the list sees follows from it: the first condition of the type is
the one that was set (`find?_set`), and the list is reported changed exactly if
it is another one (`set_changed_iff`).

The announcement of an eviction carries the time at which it is made. Whether
it changes anything does not depend on that time (`changed_evictionAnticipated`).
-/

namespace CordonWatch

namespace PodCondition

theorem replacing_type (new c : PodCondition) : (new.replacing c).type = new.type := by
  unfold replacing
  split
  · rfl
  · rfl

/-- The comparison leaves out the type, so between conditions of one type it misses nothing. -/
theorem agrees_iff {stored existing : PodCondition} (h : stored.type = existing.type) :
    stored.agrees existing = true ↔ stored = existing := by
  obtain ⟨type, status, reason, message, probe, transition⟩ := stored
  obtain ⟨type', status', reason', message', probe', transition'⟩ := existing
  obtain rfl : type = type' := h
  simp only [agrees, Bool.and_eq_true, decide_eq_true_eq, mk.injEq, true_and]
  constructor
  · rintro ⟨⟨⟨⟨rfl, rfl⟩, rfl⟩, rfl⟩, rfl⟩
    exact ⟨rfl, rfl, rfl, rfl, rfl⟩
  · rintro ⟨rfl, rfl, rfl, rfl, rfl⟩
    exact ⟨⟨⟨⟨rfl, rfl⟩, rfl⟩, rfl⟩, rfl⟩

/-- A change is reported if the condition that is stored is another one than was there. -/
theorem not_agrees_replacing {new c : PodCondition} (h : c.type = new.type) :
    (!(new.replacing c).agrees c) = decide (new.replacing c ≠ c) := by
  have hagrees := agrees_iff ((replacing_type new c).trans h.symm)
  by_cases hsame : new.replacing c = c
  · rw [hagrees.mpr hsame, decide_eq_false (Decidable.not_not.mpr hsame)]
    rfl
  · rw [Bool.eq_false_iff.mpr (mt hagrees.mp hsame), decide_eq_true hsame]
    rfl

/-- Setting a condition replaces the first one of its type, or adds it at the end. -/
theorem set_cases (new : PodCondition) (l : List PodCondition) :
    ((∀ c ∈ l, c.type ≠ new.type) ∧ new.set l = (l ++ [new], true)) ∨
      ∃ before c after, l = before ++ c :: after ∧ c.type = new.type ∧
        (∀ e ∈ before, e.type ≠ new.type) ∧
        new.set l = (before ++ new.replacing c :: after, decide (new.replacing c ≠ c)) := by
  induction l with
  | nil => exact Or.inl ⟨fun c hc => absurd hc (List.not_mem_nil), rfl⟩
  | cons d rest ih =>
    by_cases hd : d.type = new.type
    · refine Or.inr ⟨[], d, rest, rfl, hd, fun e he => absurd he (List.not_mem_nil), ?_⟩
      rw [set, if_pos hd, ← not_agrees_replacing hd]
      rfl
    · rcases ih with ⟨hnone, hset⟩ | ⟨before, c, after, hl, hc, hbefore, hset⟩
      · refine Or.inl ⟨?_, ?_⟩
        · intro c hc
          rcases List.mem_cons.mp hc with rfl | hc
          · exact hd
          · exact hnone c hc
        · rw [set, if_neg hd, hset]
          rfl
      · refine Or.inr ⟨d :: before, c, after, by rw [hl]; rfl, hc, ?_, ?_⟩
        · intro e he
          rcases List.mem_cons.mp he with rfl | he
          · exact hd
          · exact hbefore e he
        · rw [set, if_neg hd, hset]
          rfl

theorem find?_append_of_ne {type : String} {before l : List PodCondition}
    (h : ∀ e ∈ before, e.type ≠ type) :
    (before ++ l).find? (·.type = type) = l.find? (·.type = type) := by
  have hnone : before.find? (·.type = type) = none := by
    rw [List.find?_eq_none]
    intro e he
    simpa using h e he
  rw [List.find?_append, hnone, Option.none_or]

/-- The first condition of the type is then the new one, or what the new one
leaves of the one that it replaced. -/
theorem find?_set (new : PodCondition) (l : List PodCondition) :
    (new.set l).1.find? (·.type = new.type) =
      some (((l.find? (·.type = new.type)).map new.replacing).getD new) := by
  rcases set_cases new l with ⟨hnone, hset⟩ | ⟨before, c, after, rfl, hc, hbefore, hset⟩
  · have hl : l.find? (·.type = new.type) = none := by
      simpa using find?_append_of_ne (l := []) hnone
    rw [hset, find?_append_of_ne hnone, hl]
    simp
  · rw [hset, find?_append_of_ne hbefore, find?_append_of_ne hbefore,
      List.find?_cons_of_pos (by simpa using replacing_type new c),
      List.find?_cons_of_pos (by simpa using hc)]
    rfl

/-- A change is reported if the list is another one afterwards. -/
theorem set_changed_iff (new : PodCondition) (l : List PodCondition) :
    (new.set l).2 = true ↔ (new.set l).1 ≠ l := by
  rcases set_cases new l with ⟨-, hset⟩ | ⟨before, c, after, rfl, -, -, hset⟩
  · rw [hset]
    refine iff_of_true rfl fun heq => ?_
    have hlength := congrArg List.length heq
    simp at hlength
  · rw [hset]
    simp

theorem set_eq_self {new : PodCondition} {l : List PodCondition} (h : (new.set l).2 = false) :
    (new.set l).1 = l := by
  refine Decidable.byContradiction fun hne => ?_
  rw [(set_changed_iff new l).mpr hne] at h
  cases h

/-- Over any condition an announcement is the same but for the time: the status
value is the announced one, and so are reason and message. -/
theorem replacing_evictionAnticipated (now : Instant) (c : PodCondition) :
    ∃ since, (evictionAnticipated now).replacing c =
      { evictionAnticipated now with lastTransitionTime := since } := by
  unfold replacing
  split
  · exact ⟨_, rfl⟩
  · exact ⟨_, rfl⟩

/-- Whether announcing an eviction changes a condition does not depend on the time. -/
theorem replacing_evictionAnticipated_ne (now now' : Instant) (c : PodCondition) :
    (evictionAnticipated now).replacing c ≠ c ↔ (evictionAnticipated now').replacing c ≠ c := by
  by_cases hstatus : c.status = "True"
  · -- The time that was there stays, so the two are the same condition.
    have hkept : ∀ t, (evictionAnticipated t).replacing c =
        { evictionAnticipated now with lastTransitionTime := c.lastTransitionTime } :=
      fun t => if_pos hstatus
    rw [hkept now, hkept now']
  · have hne : ∀ t, (evictionAnticipated t).replacing c ≠ c := by
      intro t he
      rw [show (evictionAnticipated t).replacing c = evictionAnticipated t from if_neg hstatus]
        at he
      exact hstatus (congrArg status he).symm
    exact ⟨fun _ => hne now', fun _ => hne now⟩

theorem changed_evictionAnticipated (now now' : Instant) (l : List PodCondition) :
    ((evictionAnticipated now).set l).2 = ((evictionAnticipated now').set l).2 := by
  induction l with
  | nil => rfl
  | cons c rest ih =>
    by_cases hc : c.type = disruptionTarget
    · have hiff := replacing_evictionAnticipated_ne now now' c
      rw [set, if_pos (show c.type = (evictionAnticipated now).type from hc), set,
        if_pos (show c.type = (evictionAnticipated now').type from hc)]
      dsimp only
      rw [not_agrees_replacing hc, not_agrees_replacing hc]
      simp only [hiff]
    · rw [set, if_neg (show ¬c.type = (evictionAnticipated now).type from hc), set,
        if_neg (show ¬c.type = (evictionAnticipated now').type from hc)]
      exact ih

end PodCondition

/-- Setting a condition changes the conditions of a pod only. -/
theorem Pod.setCondition_fst (p : Pod) (c : PodCondition) :
    (p.setCondition c).1 = { p with status :=
      { p.status with conditions := some (c.set (p.conditions.getD [])).1 } } :=
  rfl

theorem Pod.changed_evictionAnticipated (now now' : Instant) (pod : Pod) :
    (pod.setCondition (.evictionAnticipated now)).2
      = (pod.setCondition (.evictionAnticipated now')).2 :=
  PodCondition.changed_evictionAnticipated now now' _

/-- An autoscaler that has the eviction of a pod at `now` as its last one. -/
def Autoscaler.noting (pod : Pod) (now : Instant) (a : Autoscaler) : Autoscaler :=
  { a with spec :=
    { a.spec with lastEviction := { podName := pod.name, evictionTime := some now } } }

end CordonWatch
