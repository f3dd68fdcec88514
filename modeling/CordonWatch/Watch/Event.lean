/-!
# Watch events

A watch tells of the objects of one kind. It starts with a list: `init`, then
`initApply` for every object there is, then `initDone`. After that it tells of
each object that is created or changed and of each that is deleted. When the
connection is lost for too long it lists again.
-/

namespace CordonWatch.Watch

/-- What a watch tells of objects of type `α`. -/
inductive Event (α : Type) where
  /-- A list begins. -/
  | init
  /-- An object of the list. -/
  | initApply (object : α)
  /-- The list is complete. -/
  | initDone
  /-- An object was created or changed. -/
  | apply (object : α)
  /-- An object was deleted. -/
  | delete (object : α)

/-- The object that an event is about. -/
def Event.object? {α : Type} : Event α → Option α
  | .initApply x | .apply x | .delete x => some x
  | .init | .initDone => none

/-- The events of a whole list. -/
def Event.listing {α : Type} (objects : List α) : List (Event α) :=
  [.init] ++ objects.map .initApply ++ [.initDone]

end CordonWatch.Watch
