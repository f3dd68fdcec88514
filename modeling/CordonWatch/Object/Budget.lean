import CordonWatch.Object.Meta
import CordonWatch.Selector.Basic

/-!
# Disruption budgets

Of a budget the controller looks at the selector that says which pods it
covers.
-/

namespace CordonWatch

/-- A disruption budget. -/
structure Budget where
  metadata : ObjectMeta
  selector : Option LabelSelector := none
  deriving Inhabited

namespace Budget

/-- The name of a budget. -/
def name (b : Budget) : String := b.metadata.nameAny

/-- Reads a budget as an open record. -/
def ofJson? (v : Json) : Option Budget := do
  let fields ← v.open?
  let spec ← Json.entry? "spec" Json.open? fields
  return {
    metadata := (← Json.entry? "metadata" ObjectMeta.ofJson? fields).getD {}
    selector := ← Json.entry? "selector" LabelSelector.ofJson? (spec.getD []) }

end Budget

end CordonWatch
