import CordonWatch.Text.Digits
import Mathlib.Data.List.Induction

/-!
# Digits that are read back

The digits of a number write the number (`ofDigits_toDigits`), also with zeros in front
(`ofDigits_zeroPadded`), and none but zero has a zero in front (`head?_toDigits`). A
reader that takes digits takes just these if no digit comes behind them
(`takeWhile_isDigit`).
-/

namespace CordonWatch.Text

/-- The digits of a number write the number. -/
theorem ofDigits_toDigits (n : Nat) : ofDigits (Nat.toDigits 10 n) = n :=
  Nat.ofDigitChars_toDigits (by decide) (by decide)

theorem isDigit_of_mem_toDigits {n : Nat} {c : Char} (h : c ∈ Nat.toDigits 10 n) :
    c.isDigit = true :=
  Nat.isDigit_of_mem_toDigits (by decide) (by decide) h

theorem toNat_of_isDigit {c : Char} (h : c.isDigit = true) : 48 ≤ c.toNat ∧ c.toNat ≤ 57 := by
  simp only [Char.isDigit, Bool.and_eq_true, decide_eq_true_eq, ge_iff_le,
    UInt32.le_iff_toNat_le] at h
  exact h

theorem digitValue_le {c : Char} (h : c.isDigit = true) : digitValue c ≤ 9 := by
  have hrange := toNat_of_isDigit h
  show c.toNat - 48 ≤ 9
  omega

/-- A number is bounded by how many digits it has. -/
theorem ofDigits_lt {ds : List Char} (h : ∀ c ∈ ds, c.isDigit = true) :
    ofDigits ds < 10 ^ ds.length := by
  induction ds using List.reverseRecOn with
  | nil => decide
  | append_singleton ds c ih =>
    have hfront := ih fun d hd => h d (List.mem_append_left [c] hd)
    have hlast : digitValue c ≤ 9 :=
      digitValue_le (h c (List.mem_append_right ds List.mem_cons_self))
    rw [ofDigits_concat, List.length_append, List.length_singleton, Nat.pow_succ]
    omega

theorem ofDigits_append (ds es : List Char) :
    ofDigits (ds ++ es) = ofDigits ds * 10 ^ es.length + ofDigits es := by
  induction es using List.reverseRecOn with
  | nil => rw [List.append_nil, List.length_nil, Nat.pow_zero, Nat.mul_one]; rfl
  | append_singleton es c ih =>
    rw [← List.append_assoc, ofDigits_concat, ofDigits_concat, ih, List.length_append,
      List.length_singleton, Nat.pow_succ, ← Nat.mul_assoc]
    omega

/-- The digits of a number that is not zero begin with another digit than zero. -/
theorem head?_toDigits {n : Nat} (h : n ≠ 0) : (Nat.toDigits 10 n).head? ≠ some '0' := by
  induction n using Nat.strongRecOn with
  | _ n ih =>
    by_cases hn : n < 10
    · rw [Nat.toDigits_of_lt_base hn]
      have hdigits : ∀ n < 10, n ≠ 0 → [n.digitChar].head? ≠ some '0' := by decide
      exact hdigits n hn h
    · have hfront := ih (n / 10) (by omega) (by omega)
      obtain ⟨c, cs, hcs⟩ := List.exists_cons_of_ne_nil (Nat.toDigits_ne_nil (n := n / 10))
      rw [Nat.toDigits_of_base_le (by decide) (by omega)]
      rw [hcs] at hfront ⊢
      exact hfront

/-! ### Zeros in front -/

theorem toList_zeroPadded (width : Nat) (s : String) :
    (zeroPadded width s).toList = List.replicate (width - s.length) '0' ++ s.toList := by
  unfold zeroPadded
  rw [String.toList_append, String.toList_ofList]

theorem ofDigits_zeroPadded (width n : Nat) :
    ofDigits (zeroPadded width (toString n)).toList = n := by
  rw [toList_zeroPadded, ofDigits_zeros]
  show ofDigits n.repr.toList = n
  rw [Nat.toList_repr, ofDigits_toDigits]

theorem isDigit_of_mem_zeroPadded {width n : Nat} {c : Char}
    (h : c ∈ (zeroPadded width (toString n)).toList) : c.isDigit = true := by
  rw [toList_zeroPadded, List.mem_append] at h
  obtain h | h := h
  · rw [(List.mem_replicate.mp h).2]
    rfl
  · exact isDigit_of_mem_toDigits (Nat.toList_repr ▸ h)

theorem zeroPadded_ne_nil (width n : Nat) : (zeroPadded width (toString n)).toList ≠ [] := by
  rw [toList_zeroPadded]
  intro h
  exact Nat.toDigits_ne_nil (Nat.toList_repr ▸ (List.append_eq_nil_iff.mp h).2)

/-- A number that has no more digits than the width is brought to the width. -/
theorem length_zeroPadded {width n : Nat} (hwidth : 0 < width) (h : n < 10 ^ width) :
    (zeroPadded width (toString n)).toList.length = width := by
  have hlength : (toString n).length ≤ width := (Nat.length_repr_le_iff hwidth).mpr h
  rw [toList_zeroPadded, List.length_append, List.length_replicate, String.length_toList]
  omega

/-! ### Runs of digits -/

/-- No digit comes next. -/
def NoDigitAhead (rest : List Char) : Prop := ∀ c, rest.head? = some c → c.isDigit = false

theorem noDigitAhead_cons {c : Char} {rest : List Char} (h : c.isDigit = false) :
    NoDigitAhead (c :: rest) :=
  fun _ hc => Option.some.inj hc ▸ h

/-- No other character stands in front of digits. -/
theorem append_ne_cons {ds : List Char} (hds : ∀ c ∈ ds, c.isDigit = true) (hne : ds ≠ [])
    {c : Char} (hc : c.isDigit = false) (rest cs : List Char) : ds ++ rest ≠ c :: cs := by
  obtain ⟨d, ds, rfl⟩ := List.exists_cons_of_ne_nil hne
  intro h
  have hd := hds d List.mem_cons_self
  rw [(List.cons.inj h).1, hc] at hd
  exact Bool.false_ne_true hd

theorem takeWhile_isDigit {ds rest : List Char} (hds : ∀ c ∈ ds, c.isDigit = true)
    (hrest : NoDigitAhead rest) : (ds ++ rest).takeWhile Char.isDigit = ds := by
  rw [List.takeWhile_append_of_pos hds]
  cases rest with
  | nil => exact List.append_nil ds
  | cons c rest =>
    rw [List.takeWhile_cons_of_neg (by simp [hrest c rfl]), List.append_nil]

theorem dropWhile_isDigit {ds rest : List Char} (hds : ∀ c ∈ ds, c.isDigit = true)
    (hrest : NoDigitAhead rest) : (ds ++ rest).dropWhile Char.isDigit = rest := by
  rw [List.dropWhile_append_of_pos hds]
  cases rest with
  | nil => rfl
  | cons c rest => exact List.dropWhile_cons_of_neg (by simp [hrest c rfl])

end CordonWatch.Text
