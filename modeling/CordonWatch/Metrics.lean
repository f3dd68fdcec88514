import CordonWatch.Program
import CordonWatch.Table

/-!
# Metrics

Two counters: how many passes saw a cordoned node, and per namespace how many
evictions were anticipated. A namespace has a series from when its counter is
first raised or read.

The exposition gives each family that has a series: a line of help, a line
that names its type, and one sample line for each series. Families are sorted
by name, series by the value of their label.
-/

namespace CordonWatch

/-- The counters. -/
structure Metrics where
  cordons : Nat := 0
  evictions : Table String Nat := Table.empty
  deriving DecidableEq, Inhabited

/-- What is exposed of one metric. -/
structure MetricFamily where
  name : String
  help : String
  /-- The label of each series, if the metric has one, and its value. -/
  series : List (Option (String × String) × Nat)
  deriving DecidableEq, Repr, Inhabited

namespace MetricFamily

/-- How one character of the value of a label is written. -/
def escape : Char → String
  | '\\' => "\\\\"
  | '"' => "\\\""
  | '\n' => "\\n"
  | c => c.toString

/-- A label between braces. -/
def renderLabel : Option (String × String) → String
  | none => ""
  | some (name, value) =>
    "\x7b" ++ name ++ "=\"" ++ String.join (value.toList.map escape) ++ "\"\x7d"

/-- The sample lines of a family. -/
def samples (f : MetricFamily) : List String :=
  f.series.map fun (label, value) => f.name ++ renderLabel label ++ " " ++ toString value

/-- All lines of a family. -/
def lines (f : MetricFamily) : List String :=
  ["# HELP " ++ f.name ++ " " ++ f.help, "# TYPE " ++ f.name ++ " counter"] ++ f.samples

end MetricFamily

namespace Metrics

/-- The evictions counted in a namespace. -/
def evictionsIn (m : Metrics) (ns : String) : Nat := (m.evictions.find? ns).getD 0

/-- Counts a pass over a cordoned node. -/
def countCordon (m : Metrics) : Metrics := { m with cordons := m.cordons + 1 }

/-- Counts evictions in a namespace. -/
def countEvictions (m : Metrics) (ns : String) (count : Nat) : Metrics :=
  { m with evictions := m.evictions.insert ns (m.evictionsIn ns + count) }

/-- Creates the series of a namespace, unless it has one. -/
def touch (m : Metrics) (ns : String) : Metrics := m.countEvictions ns 0

/-- Counts what a pass notes. -/
def record (m : Metrics) : Note → Metrics
  | .log _ => m
  | .cordonSeen => m.countCordon
  | .evictionSeen ns => m.countEvictions ns 1

/-- The families that have a series, by name. -/
def families (m : Metrics) : List MetricFamily :=
  let evictions : MetricFamily :=
    { name := "eviction_autoscaler_evictions_total"
      help := "Number of anticipated pod evictions recorded against an EvictionAutoScaler"
      series := m.evictions.entries.map fun (ns, count) => (some ("namespace", ns), count) }
  let cordons : MetricFamily :=
    { name := "eviction_autoscaler_node_cordoning_total"
      help := "Number of reconciles that observed a cordoned node"
      series := [(none, m.cordons)] }
  if m.evictions.isEmpty then [cordons] else [evictions, cordons]

/-- The sample lines of the exposition. -/
def samples (m : Metrics) : List String := m.families.flatMap MetricFamily.samples

/-- The exposition text. -/
def expose (m : Metrics) : String :=
  String.join ((m.families.flatMap MetricFamily.lines).map (· ++ "\n"))

/-- Counting in one namespace leaves the others as they are. -/
theorem evictionsIn_countEvictions (m : Metrics) (ns ns' : String) (count : Nat) :
    (m.countEvictions ns count).evictionsIn ns'
      = if ns = ns' then m.evictionsIn ns + count else m.evictionsIn ns' := by
  by_cases h : ns = ns' <;> simp [countEvictions, evictionsIn, Table.find?_insert, h]

end Metrics

end CordonWatch
