import CordonWatch.Cluster.Caches
import CordonWatch.Watch.Feed

/-!
# The feeds of all kinds

One feed for each kind of object. Setting one of them leaves the others as
they are (`get_set_self`, `get_set_of_ne`).
-/

namespace CordonWatch.Cluster

/-- A feed for each kind. -/
structure Feeds where
  nodes : Watch.Feed News := {}
  pods : Watch.Feed News := {}
  budgets : Watch.Feed News := {}
  autoscalers : Watch.Feed News := {}
  deriving Inhabited

namespace Feeds

/-- The feed of a kind. -/
def get (f : Feeds) : Kind → Watch.Feed News
  | .node => f.nodes
  | .pod => f.pods
  | .budget => f.budgets
  | .autoscaler => f.autoscalers

/-- Sets the feed of a kind. -/
def set (f : Feeds) (kind : Kind) (feed : Watch.Feed News) : Feeds :=
  match kind with
  | .node => { f with nodes := feed }
  | .pod => { f with pods := feed }
  | .budget => { f with budgets := feed }
  | .autoscaler => { f with autoscalers := feed }

@[simp] theorem get_set_self (f : Feeds) (kind : Kind) (feed : Watch.Feed News) :
    (f.set kind feed).get kind = feed := by
  cases kind <;> rfl

@[simp] theorem get_set_of_ne {kind kind' : Kind} (h : kind' ≠ kind) (f : Feeds)
    (feed : Watch.Feed News) : (f.set kind feed).get kind' = f.get kind' := by
  cases kind <;> cases kind' <;> first | rfl | exact absurd rfl h

/-- When the feeds of some kinds go on that pause, with the kind. -/
def resumptions (f : Feeds) (kinds : List Kind) : List (Nat × Kind) :=
  kinds.filterMap fun kind => (f.get kind).resumes.map (·, kind)

end Feeds

end CordonWatch.Cluster
