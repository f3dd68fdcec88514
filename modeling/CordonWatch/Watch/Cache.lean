import CordonWatch.Object.Kind
import CordonWatch.Watch.Event

/-!
# Caches

A cache keeps the objects of one kind as a watch tells of them. While a list
runs, its objects are collected apart; they take the place of those in the
cache when the list is complete.

An object is kept by its place. Whoever looks for one in a namespace also
finds one of that name that stands in none.
-/

namespace CordonWatch.Watch

/-- The objects of one kind: those that readers see, and those of a running list. -/
structure Cache (α : Type) where
  live : Table Place α := Table.empty
  listed : Table Place α := Table.empty
  deriving Inhabited

namespace Cache

variable {α : Type} [HasMetadata α]

/-- Takes in one event. -/
def apply (c : Cache α) : Event α → Cache α
  | .init => { c with listed := Table.empty }
  | .initApply x => { c with listed := c.listed.insert (placeOf x) x }
  | .initDone => { live := c.listed, listed := Table.empty }
  | .apply x => { c with live := c.live.insert (placeOf x) x }
  | .delete x => { c with live := c.live.erase (placeOf x) }

/-- The object at a place, else the one of that name in no namespace. -/
def find? {α : Type} (c : Cache α) (place : Place) : Option α :=
  (c.live.find? place).orElse fun _ => c.live.find? ⟨none, place.name⟩

end Cache

end CordonWatch.Watch
