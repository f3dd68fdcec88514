import CordonWatch.Json.Record
import CordonWatch.Selector.Name
import CordonWatch.Text.Quoted

/-!
# Label selectors

A budget says with a label selector which pods it covers. As written, a
selector has pairs that must be among the labels, and expressions over one
key each. Parsing checks every clause against the rules for keys, values and
operators and gives a `Selector`; the first defect found is the error. The
pairs come first, in key order, then the expressions in order; within a clause
the operator, the prefix of the key, its name, the number of values and then
each value are looked at in that order.

A missing selector matches nothing. A selector without clauses matches
everything.
-/

namespace CordonWatch

/-- One expression of a selector as written. -/
structure LabelExpression where
  key : String
  operator : String
  values : List String
  deriving DecidableEq, Repr, Inhabited

/-- A selector as written. -/
structure LabelSelector where
  matchLabels : Table String String := Table.empty
  matchExpressions : List LabelExpression := []
  deriving Inhabited

namespace Selector

/-- What a clause says about the label of its key. -/
inductive Operator where
  /-- Present, with one of the values. -/
  | isIn
  /-- Absent, or with none of the values. -/
  | isNotIn
  /-- Present. -/
  | isPresent
  /-- Absent. -/
  | isAbsent
  deriving DecidableEq, Repr

/-- The operator that a text writes. -/
def Operator.ofText? : String → Option Operator
  | "In" => some .isIn
  | "NotIn" => some .isNotIn
  | "Exists" => some .isPresent
  | "DoesNotExist" => some .isAbsent
  | _ => none

/-- Whether clauses with this operator list values. -/
def Operator.takesValues : Operator → Bool
  | .isIn | .isNotIn => true
  | .isPresent | .isAbsent => false

/-- What is wrong with a selector. -/
inductive Defect where
  | unknownOperator (operator : String)
  | badPrefix (key : String)
  | badName (key : String)
  | missingValues (key : String)
  | unexpectedValues (key : String)
  | badValue (value key : String)
  deriving DecidableEq, Repr

/-- The text of a defect. -/
def Defect.message : Defect → String
  | .unknownOperator operator => Text.quoted operator ++ " is not a valid label selector operator"
  | .badPrefix key => "invalid label key " ++ Text.quoted key ++ ": prefix must be a DNS subdomain"
  | .badName key =>
    "invalid label key " ++ Text.quoted key
      ++ ": name must be 1-63 alphanumeric characters, '-', '_' or '.'"
  | .missingValues key =>
    "values for key " ++ Text.quoted key ++ " must be non-empty for In and NotIn"
  | .unexpectedValues key =>
    "values for key " ++ Text.quoted key ++ " must be empty for Exists and DoesNotExist"
  | .badValue value key => "invalid label value " ++ Text.quoted value ++ " for key " ++ Text.quoted key

/-- A clause that has been checked. Its values are a set. -/
structure Requirement where
  key : String
  operator : Operator
  values : Table String Unit
  deriving DecidableEq

/-- Checks a key: its prefix, if it has one, then its name. -/
def checkKey (key : String) : Except Defect Unit :=
  match splitKey key with
  | (some pre, name) =>
    if !isKeyPrefix pre then .error (.badPrefix key)
    else if !isName name then .error (.badName key)
    else .ok ()
  | (none, name) => if !isName name then .error (.badName key) else .ok ()

/-- Checks that values are listed exactly where the operator takes some. -/
def checkCount (key : String) (operator : Operator) (values : List String) : Except Defect Unit :=
  if operator.takesValues then
    if values.isEmpty then .error (.missingValues key) else .ok ()
  else
    if values.isEmpty then .ok () else .error (.unexpectedValues key)

/-- Checks the values in listed order. -/
def checkValues (key : String) : List String → Except Defect Unit
  | [] => .ok ()
  | value :: rest => if isValue value then checkValues key rest else .error (.badValue value key)

namespace Requirement

/-- The clause of a key, an operator and a list of values. -/
def parse (key : String) (operator : Operator) (values : List String) : Except Defect Requirement := do
  checkKey key
  checkCount key operator values
  checkValues key values
  return { key, operator, values := Table.ofList (values.map fun value => (value, ())) }

/-- The clause of an expression. -/
def ofExpression (e : LabelExpression) : Except Defect Requirement :=
  match Operator.ofText? e.operator with
  | some operator => parse e.key operator e.values
  | none => .error (.unknownOperator e.operator)

/-- Whether labels satisfy a clause. -/
def holds (r : Requirement) (labels : Table String String) : Bool :=
  match r.operator, labels.find? r.key with
  | .isIn, some value => r.values.contains value
  | .isIn, none => false
  | .isNotIn, some value => !r.values.contains value
  | .isNotIn, none => true
  | .isPresent, value => value.isSome
  | .isAbsent, value => value.isNone

end Requirement

end Selector

/-- A selector that has been checked. -/
inductive Selector where
  /-- Matches no labels. -/
  | nothing
  /-- Matches labels that satisfy every clause. -/
  | all (requirements : List Selector.Requirement)
  deriving DecidableEq

namespace Selector

/-- Parses the clauses of a selector: pairs first, in key order, then expressions. -/
def parseClauses (s : LabelSelector) : Except Defect (List Requirement) := do
  let pairs ← s.matchLabels.entries.mapM fun e => Requirement.parse e.1 .isIn [e.2]
  let expressions ← s.matchExpressions.mapM Requirement.ofExpression
  return pairs ++ expressions

/-- Parses a selector that may be missing. -/
def parse : Option LabelSelector → Except Defect Selector
  | none => .ok .nothing
  | some s => (parseClauses s).map .all

/-- Whether a selector matches labels. -/
def matchesLabels (s : Selector) (labels : Table String String) : Bool :=
  match s with
  | .nothing => false
  | .all requirements => requirements.all (·.holds labels)

end Selector

/-- Reads an expression as an open record. -/
def LabelExpression.ofJson? (v : Json) : Option LabelExpression := do
  let fields ← v.open?
  return {
    key := (← Json.entry? "key" Json.asText fields).getD ""
    operator := (← Json.entry? "operator" Json.asText fields).getD ""
    values := (← Json.entry? "values" (Json.listOf Json.asText) fields).getD [] }

/-- Reads a selector as an open record. -/
def LabelSelector.ofJson? (v : Json) : Option LabelSelector := do
  let fields ← v.open?
  return {
    matchLabels := (← Json.entry? "matchLabels" Json.textTable fields).getD Table.empty
    matchExpressions :=
      (← Json.entry? "matchExpressions" (Json.listOf LabelExpression.ofJson?) fields).getD [] }

end CordonWatch
