import CordonWatch.Controller.Basic

/-!
# Following the watches

For each kind the controller lists the objects, opens the watch and hears what
it tells, as far as that goes without a pause. Lists and watches are requests,
so they meet with the faults that are scheduled.
-/

namespace CordonWatch.Controller

/-- Hears of all objects of a kind, of which the caches then hold no others. -/
def list (c : Controller) (kind : Kind) : Controller :=
  (Cluster.News.listing c.server c.scope kind).foldl hear c

/-- Pauses after a failure. Hearing of nodes also rests for as long as the
controller itself pauses. -/
def pause (kind : Kind) (feed : Watch.Feed Cluster.News) (c : Controller) :
    Watch.Feed Cluster.News × Controller :=
  match kind with
  | .node =>
    (feed.pause c.elapsed (c.patience.pauseAt c.elapsed),
      { c with patience := c.patience.fail c.elapsed })
  | .pod | .budget | .autoscaler => (feed.pause c.elapsed 0, c)

/-- Follows a watch until the next pause, or until there is nothing more to hear. -/
def follow (kind : Kind) (feed : Watch.Feed Cluster.News) (c : Controller) :
    Watch.Feed Cluster.News × Controller :=
  match hs : feed.stage, hu : feed.unheard with
  | .unlisted, _ =>
    match Fault.meet (.get, kind) c.faults with
    | (some _, faults) => pause kind feed.beginList { c with faults }
    | (none, faults) => follow kind feed.beginList.endList (list { c with faults } kind)
  | .listed, _ =>
    match Fault.meet (.watch, kind) c.faults with
    | (some _, faults) => pause kind feed { c with faults }
    | (none, faults) => follow kind feed.opened { c with faults }
  | .following, [] => (feed, c)
  | .following, .news n :: rest => follow kind (feed.take (.news n) rest) (c.hear n)
  | .following, .closed :: rest => follow kind (feed.take .closed rest) c
  | .following, .failure code :: rest => pause kind (feed.take (.failure code) rest) c
termination_by feed.size
decreasing_by
  all_goals
    simp +arith [Watch.Feed.size, Watch.Feed.beginList, Watch.Feed.endList, Watch.Feed.opened,
      Watch.Feed.take, Watch.Stage.ahead, hs, hu]

/-- Follows the watch of a kind. -/
def goOn (c : Controller) (kind : Kind) : Controller :=
  let (feed, c) := follow kind { c.feeds.get kind with resumes := none } c
  { c with feeds := c.feeds.set kind feed }

/-- Tells the follower of a kind something, and has it heard unless the follower pauses. -/
def tell (c : Controller) (kind : Kind) (t : Watch.Tiding Cluster.News) : Controller :=
  let c := { c with feeds := c.feeds.set kind ((c.feeds.get kind).tell t) }
  if (c.feeds.get kind).resumes.isSome then c else c.goOn kind

/-- Tells of an object, if its watch follows it. -/
def tellOf (c : Controller) (object : Object) (news : Object → Cluster.News) : Controller :=
  if c.isInScope object then c.tell (kindOf object) (.news (news object)) else c

end CordonWatch.Controller
