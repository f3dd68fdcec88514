import Mathlib.Data.List.Basic
import Mathlib.Data.List.Induction

/-!
# Lists taken apart

Histories of events, of exchanges and of conditions are spoken about by taking them apart
at one of their members: what is before it, and what is after it.
-/

namespace CordonWatch

variable {α : Type}

/-- Where a list with one more member splits: at that member, or before it. -/
theorem concat_eq_append_cons {l before after : List α} {a b : α} :
    l ++ [a] = before ++ b :: after ↔
      (after = [] ∧ before = l ∧ b = a) ∨
        ∃ rest, after = rest ++ [a] ∧ l = before ++ b :: rest := by
  constructor
  · intro h
    rcases List.eq_nil_or_concat after with rfl | ⟨rest, last, rfl⟩
    · obtain ⟨hl, ha⟩ := List.append_inj' h rfl
      exact Or.inl ⟨rfl, hl.symm, (List.singleton_inj.mp ha).symm⟩
    · have h' : l ++ [a] = (before ++ b :: rest) ++ [last] := by simpa using h
      obtain ⟨hl, ha⟩ := List.append_inj' h' rfl
      exact Or.inr ⟨rest, by rw [List.concat_eq_append, List.singleton_inj.mp ha], hl⟩
  · rintro (⟨rfl, rfl, rfl⟩ | ⟨rest, rfl, rfl⟩)
    · rfl
    · simp

/-- What stands in two lists in a row stands in the one or in the other. -/
theorem append_eq_append_cons {l l' before after : List α} {x : α}
    (h : l ++ l' = before ++ x :: after) :
    (∃ rest, l = before ++ x :: rest) ∨
      ∃ front, before = l ++ front ∧ l' = front ++ x :: after := by
  rcases List.append_eq_append_iff.mp h with ⟨front, hbefore, hl'⟩ | ⟨rest, hl, hafter⟩
  · exact Or.inr ⟨front, hbefore, hl'⟩
  · cases rest with
    | nil => exact Or.inr ⟨[], by rw [hl, List.append_nil, List.append_nil], hafter.symm⟩
    | cons y rest =>
      obtain ⟨rfl, -⟩ := List.cons.inj hafter
      exact Or.inl ⟨rest, hl⟩

theorem singleton_eq_append_cons {before after : List α} {x y : α}
    (h : [y] = before ++ x :: after) : before = [] ∧ x = y := by
  rcases List.singleton_eq_append_iff.mp h with ⟨hbefore, hx⟩ | ⟨-, hnil⟩
  · exact ⟨hbefore, (List.cons.inj hx).1⟩
  · cases hnil

/-- One among some items that count once, and none before or after it. -/
theorem exists_split_of_countP_eq_one {p : α → Bool} {l : List α} (h : l.countP p = 1) :
    ∃ before x after, l = before ++ x :: after ∧ p x = true ∧ before.countP p = 0 ∧
      after.countP p = 0 := by
  obtain ⟨x, hx, hp⟩ := List.countP_pos_iff.mp (show 0 < l.countP p by omega)
  obtain ⟨before, after, rfl⟩ := List.append_of_mem hx
  rw [List.countP_append, List.countP_cons_of_pos hp] at h
  exact ⟨before, x, after, rfl, hp, by omega, by omega⟩

end CordonWatch
