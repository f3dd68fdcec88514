import CordonWatch.Proofs.Selector.Meaning
import CordonWatch.Proofs.Text.Bytes

/-!
# When two selectors are equal

The pairs of a selector are a short form: with its pairs turned into expressions that ask
for their one value and put in front, in the byte order of their keys, a selector parses to
the same, or fails with the same defect (`LabelSelector.spelledOut`).

A requirement keeps of an expression the key, the operator and the set of its values. So
two expressions that both parse give equal requirements exactly if they are `Alike` in
these, and two selectors are equal exactly if their clauses are alike one by one. Alike
clauses also parse alike, though of several bad values another one may be named.
-/

namespace CordonWatch

/-- Two expressions that differ in the order of their values and in how often they list
them, at most. -/
structure LabelExpression.Alike (e f : LabelExpression) : Prop where
  key : e.key = f.key
  operator : e.operator = f.operator
  values : ∀ value, value ∈ e.values ↔ value ∈ f.values

theorem LabelExpression.Alike.symm {e f : LabelExpression} (h : e.Alike f) : f.Alike e :=
  ⟨h.key.symm, h.operator.symm, fun value => (h.values value).symm⟩

theorem LabelExpression.Alike.wellFormed {e f : LabelExpression} (h : e.Alike f)
    (he : e.WellFormed) : f.WellFormed where
  key := h.key ▸ he.key
  values := fun value hvalue => he.values value ((h.values value).mpr hvalue)
  counted := by
    -- Only whether values are listed counts, and not how many.
    have hnil : e.values = [] ↔ f.values = [] := by
      simp only [List.eq_nil_iff_forall_not_mem, h.values]
    rw [← h.operator, ne_eq, ← hnil]
    exact he.counted

/-- A selector with its pairs written as expressions, in front of the others. -/
def LabelSelector.spelledOut (s : LabelSelector) : LabelSelector where
  matchExpressions := s.clauses

namespace Selector

theorem Operator.text_injective {o o' : Operator} (h : o.text = o'.text) : o = o' := by
  have hsome := (Operator.ofText?_eq_some_iff o.text o).mpr rfl
  rw [h, (Operator.ofText?_eq_some_iff o'.text o').mpr rfl] at hsome
  exact (Option.some.inj hsome).symm

/-- Requirements are equal exactly if the expressions that they read are alike. -/
theorem Requirement.Reads.eq_iff_alike {e f : LabelExpression} {r r' : Requirement}
    (h : Reads e r) (h' : Reads f r') : r = r' ↔ e.Alike f := by
  constructor
  · rintro rfl
    exact ⟨h.key.trans h'.key.symm, h.operator.trans h'.operator.symm,
      fun value => (h.values value).trans (h'.values value).symm⟩
  · intro halike
    have hkey : r.key = r'.key := h.key.symm.trans (halike.key.trans h'.key)
    have hoperator : r.operator = r'.operator := Operator.text_injective
      (h.operator.symm.trans (halike.operator.trans h'.operator))
    have hvalues : r.values = r'.values := Table.ext_contains fun value =>
      (h.values value).symm.trans ((halike.values value).trans (h'.values value))
    cases r
    cases r'
    congr

/-- A selector parses if each of its clauses does. -/
theorem exists_parse_eq_ok_iff (s : LabelSelector) :
    (∃ parsed, parse (some s) = .ok parsed) ↔
      ∀ e ∈ s.clauses, ∃ r, Requirement.ofExpression e = .ok r := by
  rw [← exists_mapM_eq_ok_iff]
  constructor
  · rintro ⟨parsed, hparsed⟩
    obtain ⟨rs, -, hrs⟩ := (parse_eq_ok_iff s parsed).mp hparsed
    exact ⟨rs, hrs⟩
  · rintro ⟨rs, hrs⟩
    exact ⟨_, (parse_eq_ok_iff s _).mpr ⟨rs, rfl, hrs⟩⟩

/-- Pairs may be written as expressions, in the order of the bytes of their keys, without
any change to what the selector parses to or fails with. Selectors that parse are equal
exactly if their clauses, so written, are as many and alike one by one. If they are alike,
both parse or neither does. -/
theorem equal_iff_clauses_alike (s t : LabelSelector) :
    s.matchLabels.entries.Pairwise (fun a b => Text.bytes a.1 < Text.bytes b.1) ∧
    parse (some s.spelledOut) = parse (some s) ∧
    (∀ p q, parse (some s) = .ok p → parse (some t) = .ok q →
      (p = q ↔ List.Forall₂ LabelExpression.Alike s.clauses t.clauses)) ∧
    (List.Forall₂ LabelExpression.Alike s.clauses t.clauses →
      ((∃ p, parse (some s) = .ok p) ↔ ∃ q, parse (some t) = .ok q)) := by
  refine ⟨?_, ?_, ?_, ?_⟩
  · exact s.matchLabels.ascending.imp fun hlt => (Text.bytes_lt_iff _ _).mpr hlt
  · rw [parse_eq_map, parse_eq_map]
    rfl
  · intro p q hp hq
    obtain ⟨rs, rfl, hreads⟩ := reads_of_parse hp
    obtain ⟨rs', rfl, hreads'⟩ := reads_of_parse hq
    rw [Selector.all.injEq]
    exact eq_iff_forall₂ (fun _ _ _ _ h h' => h.eq_iff_alike h') hreads hreads'
  · intro halike
    rw [exists_parse_eq_ok_iff, exists_parse_eq_ok_iff]
    refine forall_mem_iff_of_forall₂ halike fun e f h => ?_
    rw [Requirement.exists_ofExpression_eq_ok_iff, Requirement.exists_ofExpression_eq_ok_iff]
    exact ⟨h.wellFormed, h.symm.wellFormed⟩

/-- The same selection as `tiered`, without pairs and with its values in another order. -/
def reworded : LabelSelector where
  matchExpressions := [
    { key := "app", operator := "In", values := ["web", "web"] },
    { key := "env", operator := "In", values := ["staging", "prod"] },
    { key := "env", operator := "NotIn", values := ["staging"] },
    { key := "team", operator := "NotIn", values := ["legacy"] },
    { key := "canary", operator := "DoesNotExist", values := [] }]

theorem equal_iff_clauses_alike_reworded :
    List.Forall₂ LabelExpression.Alike tiered.clauses reworded.clauses ∧
    ∃ p q, parse (some tiered) = .ok p ∧ parse (some reworded) = .ok q ∧ p = q := by
  have halike : List.Forall₂ LabelExpression.Alike tiered.clauses reworded.clauses := by
    refine .cons ⟨rfl, rfl, ?_⟩ (.cons ⟨rfl, rfl, ?_⟩ (List.forall₂_same.mpr ?_))
    · simp
    · simp [or_comm]
    · exact fun e _ => ⟨rfl, rfl, fun value => Iff.rfl⟩
  have hequality := equal_iff_clauses_alike tiered reworded
  obtain ⟨p, hp⟩ : ∃ p, parse (some tiered) = .ok p := exists_eq_ok_of_toBool (by decide +kernel)
  obtain ⟨q, hq⟩ := (hequality.2.2.2 halike).mp ⟨p, hp⟩
  exact ⟨halike, p, q, hp, hq, (hequality.2.2.1 p q hp hq).mpr halike⟩

end Selector

end CordonWatch
