import CordonWatch.Proofs.Selector.Language
import CordonWatch.Proofs.Steps

/-!
# The grammar of selectors

A selector is well formed if each of its clauses is: the operator is one of four texts,
values are listed exactly where the operator takes some, each value is empty or a name,
and the key is a key of a label (`LabelExpression.WellFormed`). The pairs of a selector
are clauses that ask for their one value (`LabelSelector.clauses`).

The parser accepts exactly the well formed selectors (`parses_iff_wellFormed`). It checks
the pairs and the expressions in two loops with an early end, and each clause in four
steps; whether all of that succeeds is said here step by step, and what a step gives plays
no part in whether the next one succeeds.
-/

namespace CordonWatch

/-- An expression that follows the grammar. -/
structure LabelExpression.WellFormed (e : LabelExpression) : Prop where
  key : Selector.IsLabelKey e.key
  values : ∀ value ∈ e.values, value = "" ∨ Selector.IsLabelName value
  counted : (e.operator = "In" ∨ e.operator = "NotIn") ∧ e.values ≠ [] ∨
    (e.operator = "Exists" ∨ e.operator = "DoesNotExist") ∧ e.values = []

/-- The clauses of a selector as written: each pair asks for its value. -/
def LabelSelector.clauses (s : LabelSelector) : List LabelExpression :=
  s.matchLabels.entries.map (fun e => { key := e.1, operator := "In", values := [e.2] })
    ++ s.matchExpressions

namespace Selector

/-! ### One clause -/

/-- Values are listed where the operator takes some, and only there. -/
theorem checkCount_eq_ok_iff (key : String) (operator : Operator) (values : List String) :
    checkCount key operator values = .ok () ↔ (operator.takesValues = true ↔ values ≠ []) := by
  unfold checkCount
  cases values with
  | nil => cases operator.takesValues <;> simp
  | cons value rest => cases operator.takesValues <;> simp

theorem isValue_iff (value : String) : isValue value = true ↔ value = "" ∨ IsLabelName value := by
  unfold isValue
  rw [Bool.or_eq_true, String.isEmpty_iff, isName_iff]

theorem checkValues_eq_ok_iff (key : String) (values : List String) :
    checkValues key values = .ok () ↔ ∀ value ∈ values, value = "" ∨ IsLabelName value := by
  induction values with
  | nil => simp [checkValues]
  | cons value rest ih =>
    rw [List.forall_mem_cons, checkValues, ← isValue_iff, ← ih]
    cases isValue value with
    | false => simp
    | true => simp

/-- A clause with a known operator is accepted if its key, the number of its values and
its values are. -/
theorem Requirement.exists_parse_eq_ok_iff (key : String) (operator : Operator)
    (values : List String) :
    (∃ r, parse key operator values = .ok r) ↔
      IsLabelKey key ∧ (operator.takesValues = true ↔ values ≠ []) ∧
        ∀ value ∈ values, value = "" ∨ IsLabelName value := by
  rw [← checkKey_eq_ok_iff, ← checkCount_eq_ok_iff key, ← checkValues_eq_ok_iff key]
  unfold parse
  rw [exists_bind_eq_ok_iff]
  constructor
  · rintro ⟨⟨⟩, hkey, hcount⟩
    obtain ⟨⟨⟩, hcount, hvalues⟩ := exists_bind_eq_ok_iff.mp hcount
    obtain ⟨⟨⟩, hvalues, -⟩ := exists_bind_eq_ok_iff.mp hvalues
    exact ⟨hkey, hcount, hvalues⟩
  · rintro ⟨hkey, hcount, hvalues⟩
    refine ⟨(), hkey, exists_bind_eq_ok_iff.mpr ⟨(), hcount, ?_⟩⟩
    exact exists_bind_eq_ok_iff.mpr ⟨(), hvalues, _, rfl⟩

/-- The operators are four texts, of which two take values. -/
theorem Operator.exists_ofText?_eq_some_iff (text : String) (listed : Prop) :
    (∃ operator, ofText? text = some operator ∧ (operator.takesValues = true ↔ listed)) ↔
      (text = "In" ∨ text = "NotIn") ∧ listed ∨
        (text = "Exists" ∨ text = "DoesNotExist") ∧ ¬ listed := by
  unfold ofText?
  split
  next => simp [takesValues]
  next => simp [takesValues]
  next => simp [takesValues]
  next => simp [takesValues]
  next hin hnotIn hexists habsent =>
    constructor
    · rintro ⟨operator, hnone, -⟩
      cases hnone
    · rintro (⟨h | h, -⟩ | ⟨h | h, -⟩)
      · exact absurd h hin
      · exact absurd h hnotIn
      · exact absurd h hexists
      · exact absurd h habsent

/-- An expression is accepted if it is well formed. -/
theorem Requirement.exists_ofExpression_eq_ok_iff (e : LabelExpression) :
    (∃ r, ofExpression e = .ok r) ↔ e.WellFormed := by
  have hcounted := Operator.exists_ofText?_eq_some_iff e.operator (e.values ≠ [])
  rw [Decidable.not_not] at hcounted
  unfold ofExpression
  cases htext : Operator.ofText? e.operator with
  | none =>
    constructor
    · rintro ⟨r, hr⟩
      cases hr
    · intro h
      obtain ⟨operator, hsome, -⟩ := hcounted.mpr h.counted
      rw [htext] at hsome
      cases hsome
  | some operator =>
    dsimp only
    rw [exists_parse_eq_ok_iff]
    constructor
    · rintro ⟨hkey, hcount, hvalues⟩
      exact ⟨hkey, hvalues, hcounted.mp ⟨operator, htext, hcount⟩⟩
    · rintro ⟨hkey, hvalues, hcount⟩
      obtain ⟨operator', hsome, hcount⟩ := hcounted.mpr hcount
      obtain rfl := Option.some.inj (htext.symm.trans hsome)
      exact ⟨hkey, hcount, hvalues⟩

/-! ### The whole selector -/

/-- The parser accepts a selector if and only if each of its clauses is well formed: the
pairs, each taken for a clause that asks for its value, and the expressions. -/
theorem parses_iff_wellFormed (s : LabelSelector) :
    (∃ parsed, parse (some s) = .ok parsed) ↔ ∀ clause ∈ s.clauses, clause.WellFormed := by
  have hparsed : (∃ parsed, parse (some s) = .ok parsed) ↔ ∃ rs, parseClauses s = .ok rs := by
    show (∃ parsed, (parseClauses s).map Selector.all = .ok parsed) ↔ _
    cases parseClauses s with
    | error defect => simp [Except.map]
    | ok rs => simp [Except.map]
  unfold LabelSelector.clauses
  rw [hparsed, List.forall_mem_append, List.forall_mem_map]
  simp only [← Requirement.exists_ofExpression_eq_ok_iff]
  rw [← exists_mapM_eq_ok_iff Requirement.ofExpression]
  unfold parseClauses
  rw [exists_bind_eq_ok_iff]
  constructor
  · rintro ⟨pairs, hpairs, hmore⟩
    obtain ⟨expressions, hexpressions, -⟩ := exists_bind_eq_ok_iff.mp hmore
    exact ⟨(exists_mapM_eq_ok_iff _ _).mp ⟨pairs, hpairs⟩, expressions, hexpressions⟩
  · rintro ⟨hpairs, expressions, hexpressions⟩
    obtain ⟨pairs, hpairs⟩ := (exists_mapM_eq_ok_iff _ _).mpr hpairs
    exact ⟨pairs, hpairs, exists_bind_eq_ok_iff.mpr ⟨expressions, hexpressions, _, rfl⟩⟩

end Selector

end CordonWatch
