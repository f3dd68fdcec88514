import CordonWatch.Watch.Patience

/-!
# Feeds

A feed is one end of a watch: where its follower stands, and what the watch
has told that the follower has not heard yet. The follower first lists the
objects, then opens the watch, then hears what it tells. After a failure of
any of these it pauses. What a watch tells meanwhile is heard after the pause,
in order, so nothing is lost; only the failure that the watch cannot go on
from where it was, sends the follower back to list again, and then the list
stands for what was not heard.

`Feed.size` bounds what a follower can do without a pause.
-/

namespace CordonWatch.Watch

/-- Where the follower of a watch stands. -/
inductive Stage where
  /-- The objects are to be listed. -/
  | unlisted
  /-- The objects are listed, and the watch is to be opened. -/
  | listed
  /-- The watch is open. -/
  | following
  deriving DecidableEq, Repr, Inhabited

/-- How many stages are still to come. -/
def Stage.ahead : Stage → Nat
  | .unlisted => 2
  | .listed => 1
  | .following => 0

/-- What comes over an open watch, where `ν` is news of the objects. -/
inductive Tiding (ν : Type) where
  | news (n : ν)
  /-- The watch reports a failure with a code. -/
  | failure (code : Nat)
  /-- The watch is closed. -/
  | closed
  deriving Inhabited

/-- The code of the failure that a watch cannot go on from where it was. -/
def goneCode : Nat := 410

/-- One end of a watch. -/
structure Feed (ν : Type) where
  stage : Stage := .unlisted
  /-- What is not heard yet, the first tiding first. -/
  unheard : List (Tiding ν) := []
  patience : Patience := .fresh
  /-- When the follower goes on, if it pauses. -/
  resumes : Option Nat := none
  deriving Inhabited

namespace Feed

variable {ν : Type}

/-- A bound for what the follower can do without a pause. -/
def size (f : Feed ν) : Nat := 3 * f.unheard.length + f.stage.ahead

/-- Tells the follower. News between a list and an open watch are told when the
watch is open; whatever comes before the list is not told, and neither is
anything else that can only come over an open watch. -/
def tell (f : Feed ν) (t : Tiding ν) : Feed ν :=
  match f.stage, t with
  | .following, t | .listed, t@(.news _) => { f with unheard := f.unheard ++ [t] }
  | .unlisted, _ | .listed, _ => f

/-- Pauses after a failure at a time, at least for a while. -/
def pause (f : Feed ν) (now atLeast : Nat) : Feed ν :=
  { f with
    patience := f.patience.fail now
    resumes := some (now + max (f.patience.pauseAt now) atLeast) }

/-- Begins a list. That it begins is already something heard. -/
def beginList (f : Feed ν) : Feed ν := { f with patience := f.patience.restore }

/-- Goes on after a list, which stands for what was not heard. -/
def endList (f : Feed ν) : Feed ν := { f with stage := .listed, unheard := [] }

/-- Goes on when the watch is open. -/
def opened (f : Feed ν) : Feed ν := { f with stage := .following }

/-- The feed after a tiding was taken from it, where `rest` is what comes then. -/
def take (f : Feed ν) (t : Tiding ν) (rest : List (Tiding ν)) : Feed ν :=
  match t with
  | .news _ => { f with unheard := rest, patience := f.patience.restore }
  | .failure code =>
    if code = goneCode then { f with stage := .unlisted, unheard := [] }
    else { f with unheard := rest }
  | .closed => { f with stage := .listed, unheard := rest }

end Feed

end CordonWatch.Watch
