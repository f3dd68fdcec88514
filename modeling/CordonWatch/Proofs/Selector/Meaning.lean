import CordonWatch.Proofs.Selector.Grammar
import CordonWatch.Proofs.Table

/-!
# What a selector asks for

What an expression as written asks of labels is read off its key, the text of its operator
and its list of values (`LabelExpression.Admits`), and a pair asks for its value. Parsing
turns both into requirements, with an operator in place of the text and a set in place of
the list. A requirement that `Reads` an expression keeps all of this, so it holds of the
labels that the expression admits (`Requirement.Reads.holds_iff`).

The requirements of a parsed selector read its clauses one by one, the pairs first
(`reads_of_parse`). So the parsed selector matches the labels that every pair and every
expression as written admits, and where no selector was written it matches none
(`matchesLabels_iff_admits`).
-/

namespace CordonWatch

/-- What an expression as written asks of labels. -/
def LabelExpression.Admits (e : LabelExpression) (labels : Table String String) : Prop :=
  match e.operator with
  | "In" => ∃ value ∈ e.values, labels.find? e.key = some value
  | "NotIn" => ∀ value ∈ e.values, labels.find? e.key ≠ some value
  | "Exists" => ∃ value, labels.find? e.key = some value
  | "DoesNotExist" => labels.find? e.key = none
  | _ => False

namespace Selector

/-! ### Requirements and the expressions they come from -/

/-- The text that writes an operator. -/
def Operator.text : Operator → String
  | .isIn => "In"
  | .isNotIn => "NotIn"
  | .isPresent => "Exists"
  | .isAbsent => "DoesNotExist"

theorem Operator.ofText?_eq_some_iff (text : String) (operator : Operator) :
    ofText? text = some operator ↔ text = operator.text := by
  constructor
  · intro h
    unfold ofText? at h
    split at h
    all_goals
      cases h
      try rfl
  · rintro rfl
    cases operator <;> rfl

namespace Requirement

/-- A requirement says what an expression says, with its values as a set. -/
structure Reads (e : LabelExpression) (r : Requirement) : Prop where
  key : e.key = r.key
  operator : e.operator = r.operator.text
  values : ∀ value, value ∈ e.values ↔ r.values.contains value = true

variable {e : LabelExpression} {r : Requirement}

theorem reads_of_ofExpression (h : ofExpression e = .ok r) : Reads e r := by
  unfold ofExpression at h
  cases htext : Operator.ofText? e.operator with
  | none =>
    rw [htext] at h
    cases h
  | some operator =>
    rw [htext] at h
    dsimp only at h
    unfold parse at h
    obtain ⟨-, -, h⟩ := bind_eq_ok_iff.mp h
    obtain ⟨-, -, h⟩ := bind_eq_ok_iff.mp h
    obtain ⟨-, -, h⟩ := bind_eq_ok_iff.mp h
    cases h
    exact ⟨rfl, (Operator.ofText?_eq_some_iff _ _).mp htext,
      fun value => (Table.contains_ofList_units e.values value).symm⟩

/-- A requirement holds of the labels that the expression admits. -/
theorem Reads.holds_iff (h : Reads e r) (labels : Table String String) :
    r.holds labels = true ↔ e.Admits labels := by
  unfold holds LabelExpression.Admits
  rw [h.key, h.operator]
  simp only [h.values]
  cases r.operator with
  | isIn => cases labels.find? r.key <;> simp [Operator.text]
  | isNotIn =>
    cases labels.find? r.key with
    | none => simp [Operator.text]
    | some value =>
      show (!r.values.contains value) = true ↔ ∀ v, r.values.contains v = true → some value ≠ some v
      constructor
      · rintro hunlisted v hv ⟨⟩
        simp [hv] at hunlisted
      · intro hunlisted
        cases hlisted : r.values.contains value with
        | false => rfl
        | true => exact absurd rfl (hunlisted value hlisted)
  | isPresent => cases labels.find? r.key <;> simp [Operator.text]
  | isAbsent => cases labels.find? r.key <;> simp [Operator.text]

end Requirement

/-! ### Whole selectors -/

/-- The pairs and the expressions of a selector are parsed as one list of clauses. -/
theorem parseClauses_eq_mapM (s : LabelSelector) :
    parseClauses s = s.clauses.mapM Requirement.ofExpression := by
  unfold parseClauses LabelSelector.clauses
  rw [List.mapM_append, List.mapM_map]
  rfl

theorem parse_eq_map (s : LabelSelector) :
    parse (some s) = (s.clauses.mapM Requirement.ofExpression).map Selector.all := by
  rw [← parseClauses_eq_mapM]
  rfl

theorem parse_eq_ok_iff (s : LabelSelector) (parsed : Selector) :
    parse (some s) = .ok parsed ↔
      ∃ rs, parsed = .all rs ∧ s.clauses.mapM Requirement.ofExpression = .ok rs := by
  rw [parse_eq_map]
  cases s.clauses.mapM Requirement.ofExpression with
  | error d => simp [Except.map]
  | ok rs => simp [Except.map, eq_comm]

/-- The requirements of a parsed selector read its clauses, one by one. -/
theorem reads_of_parse {s : LabelSelector} {parsed : Selector} (h : parse (some s) = .ok parsed) :
    ∃ rs, parsed = .all rs ∧ List.Forall₂ Requirement.Reads s.clauses rs := by
  obtain ⟨rs, hparsed, hrs⟩ := (parse_eq_ok_iff s parsed).mp h
  exact ⟨rs, hparsed, (forall₂_of_mapM_eq_ok hrs).imp fun _ _ => Requirement.reads_of_ofExpression⟩

/-- A pair asks for its value. -/
theorem admits_pair_iff (key value : String) (labels : Table String String) :
    ({ key, operator := "In", values := [value] } : LabelExpression).Admits labels ↔
      labels.find? key = some value := by
  show (∃ v ∈ [value], _) ↔ _
  simp

/-- A selector that parses matches no labels if none was written. Otherwise it matches the
labels that have the value of every pair and that every expression as written admits. So
one without pairs and expressions, which always parses, matches all labels. -/
theorem matchesLabels_iff_admits (written : Option LabelSelector) (parsed : Selector)
    (h : parse written = .ok parsed) (labels : Table String String) :
    (written = none → parsed.matchesLabels labels = false) ∧
    (∀ s, written = some s →
      (parsed.matchesLabels labels = true ↔
        (∀ key value, s.matchLabels.find? key = some value → labels.find? key = some value) ∧
          ∀ e ∈ s.matchExpressions, e.Admits labels)) ∧
    ∃ everything, parse (some {}) = .ok everything ∧ everything.matchesLabels labels = true := by
  refine ⟨?_, ?_, .all [], rfl, rfl⟩
  · rintro rfl
    cases h
    rfl
  · rintro s rfl
    obtain ⟨rs, rfl, hreads⟩ := reads_of_parse h
    have hall : (Selector.all rs).matchesLabels labels = true ↔ ∀ e ∈ s.clauses, e.Admits labels :=
      List.all_eq_true.trans
        (forall_mem_iff_of_forall₂ hreads fun e r hr => (hr.holds_iff labels).symm).symm
    rw [hall, LabelSelector.clauses, List.forall_mem_append, List.forall_mem_map]
    refine and_congr_left fun _ => ?_
    constructor
    · intro hpairs key value hpair
      have hmem := (Table.mem_entries_iff s.matchLabels key value).mpr hpair
      exact (admits_pair_iff key value labels).mp (hpairs _ hmem)
    · rintro hpairs ⟨key, value⟩ hmem
      exact (admits_pair_iff key value labels).mpr
        (hpairs key value ((Table.mem_entries_iff s.matchLabels key value).mp hmem))

/-- Selects what runs in production but for the canaries. Two expressions are about `env`. -/
def tiered : LabelSelector where
  matchLabels := Table.ofList [("app", "web")]
  matchExpressions := [
    { key := "env", operator := "In", values := ["prod", "staging", "prod"] },
    { key := "env", operator := "NotIn", values := ["staging"] },
    { key := "team", operator := "NotIn", values := ["legacy"] },
    { key := "canary", operator := "DoesNotExist", values := [] }]

/-- Labels of a pod that belongs to no team. -/
def teamless : Table String String := Table.ofList [("app", "web"), ("env", "prod")]

/-- A label that is not there satisfies an expression that excludes values of it, and of
two expressions with one key both have to hold. -/
theorem matchesLabels_iff_admits_tiered :
    ∃ parsed, parse (some tiered) = .ok parsed ∧
      (∀ key value, tiered.matchLabels.find? key = some value → teamless.find? key = some value) ∧
      (∀ e ∈ tiered.matchExpressions, e.Admits teamless) ∧ parsed.matchesLabels teamless = true ∧
      parsed.matchesLabels (teamless.insert "env" "staging") = false := by
  obtain ⟨parsed, hparsed⟩ : ∃ parsed, parse (some tiered) = .ok parsed :=
    exists_eq_ok_of_toBool (by decide +kernel)
  have hpairs : ∀ key value,
      tiered.matchLabels.find? key = some value → teamless.find? key = some value := by
    intro key value hpair
    have hmem := (Table.mem_entries_iff tiered.matchLabels key value).mpr hpair
    obtain ⟨rfl, rfl⟩ := Prod.mk.inj (List.mem_singleton.mp hmem)
    decide +kernel
  have hexpressions : ∀ e ∈ tiered.matchExpressions, e.Admits teamless := by
    have henv : teamless.find? "env" = some "prod" := by decide +kernel
    have hteam : teamless.find? "team" = none := by decide +kernel
    have hcanary : teamless.find? "canary" = none := by decide +kernel
    simp [tiered, LabelExpression.Admits, henv, hteam, hcanary]
  have hmeaning := fun labels =>
    (matchesLabels_iff_admits (some tiered) parsed hparsed labels).2.1 tiered rfl
  refine ⟨parsed, hparsed, hpairs, hexpressions, (hmeaning teamless).mpr ⟨hpairs, hexpressions⟩, ?_⟩
  refine Bool.eq_false_iff.mpr fun hstaging => ?_
  have hexcluded := ((hmeaning _).mp hstaging).2
    { key := "env", operator := "NotIn", values := ["staging"] } (by simp [tiered])
  exact hexcluded "staging" (List.mem_singleton_self _) (by decide +kernel)

end Selector

end CordonWatch
