import CordonWatch.Object.Kind

/-!
# Objects in the order in which they came

A shelf holds the objects of one kind in a list. An object that is put where
another stands takes its place in the list; any other is added at the end.
-/

namespace CordonWatch.Store

variable {α : Type} [HasMetadata α]

/-- The objects of one kind. -/
abbrev Shelf (α : Type) : Type := List α

namespace Shelf

/-- The object that stands at a place. -/
def at? (place : Place) (shelf : Shelf α) : Option α := shelf.find? (placeOf · = place)

/-- Puts an object at its place. -/
def put (x : α) : Shelf α → Shelf α
  | [] => [x]
  | y :: rest => if placeOf y = placeOf x then x :: rest else y :: put x rest

/-- Takes away the object at a place. -/
def remove (place : Place) (shelf : Shelf α) : Shelf α := shelf.filter (placeOf · ≠ place)

/-- Afterwards the object that was put stands at its place, and every other
place is as before. -/
theorem at?_put (x : α) (place : Place) (shelf : Shelf α) :
    at? place (put x shelf) = if placeOf x = place then some x else at? place shelf := by
  induction shelf with
  | nil => by_cases h : placeOf x = place <;> simp [at?, put, h]
  | cons y rest ih =>
    simp only [at?] at ih
    by_cases hy : placeOf y = placeOf x
    · by_cases h : placeOf x = place <;> simp [at?, put, hy, h]
    · by_cases h : placeOf y = place
      · subst h
        simp [at?, put, hy, Ne.symm hy]
      · simp [at?, put, hy, h, ih]

/-- Afterwards nothing stands at the place, and every other place is as before. -/
theorem at?_remove (place place' : Place) (shelf : Shelf α) :
    at? place' (remove place shelf) = if place = place' then none else at? place' shelf := by
  induction shelf with
  | nil => simp [at?, remove]
  | cons y rest ih =>
    simp only [at?, remove] at ih ⊢
    by_cases hy : placeOf y = place
    · by_cases h : place = place' <;> simp_all
    · by_cases h : place = place'
      · subst h; simp_all
      · by_cases h' : placeOf y = place' <;> simp_all

end Shelf

end CordonWatch.Store
