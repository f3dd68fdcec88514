import CordonWatch.Proofs.Store.Shelf

/-!
# All the versions that a server has ever held

Caches and remembered answers hold objects that a server once held. Whether
one of them is what the server holds now can be told from its version, since
no version of an object is given twice: `Held.Sound` says so of all objects of
one kind, and `Held.Sound.eq_of_version` is what it is good for. Storing an
object under a new version and taking one away keep that up.
-/

namespace CordonWatch.Store

variable {α : Type} [HasMetadata α]

/-- The objects of one kind that a server holds, and all that it has ever held. -/
structure Held (α : Type) where
  shelf : Shelf α
  ever : List α

namespace Held

/-- What is held was held at some time, and no two objects that were ever held
share place and version. -/
structure Sound (held : Held α) : Prop where
  kept : ∀ x ∈ held.shelf, x ∈ held.ever
  distinct : ∀ x ∈ held.ever, ∀ y ∈ held.ever,
    placeOf x = placeOf y → versionOf x = versionOf y → x = y

/-- An object that stands at a place of which its version was never held. -/
def IsNew (held : Held α) (x : α) : Prop :=
  ∀ y ∈ held.ever, placeOf y = placeOf x → versionOf y ≠ versionOf x

instance (held : Held α) (x : α) : Decidable (held.IsNew x) :=
  inferInstanceAs
    (Decidable (∀ y ∈ held.ever, placeOf y = placeOf x → versionOf y ≠ versionOf x))

/-- Stores an object. -/
def store (held : Held α) (x : α) : Held α := ⟨Shelf.put x held.shelf, x :: held.ever⟩

/-- Takes away the object at a place. -/
def discard (held : Held α) (place : Place) : Held α :=
  ⟨Shelf.remove place held.shelf, held.ever⟩

/-- At the beginning all that was ever held is what is held, one object at a place. -/
theorem Sound.initial {shelf : Shelf α} (hd : (Shelf.places shelf).Nodup) :
    Sound ⟨shelf, shelf⟩ where
  kept := fun _ hx => hx
  distinct := fun _ hx _ hy hplace _ =>
    Option.some.inj ((Shelf.at?_of_mem hd hx).symm.trans (hplace ▸ Shelf.at?_of_mem hd hy))

/-- What is stored under a new version keeps versions apart. -/
theorem Sound.store {held : Held α} (h : held.Sound) {x : α} (hx : held.IsNew x) :
    (held.store x).Sound where
  kept := by
    intro y hy
    rcases Shelf.mem_of_mem_put hy with rfl | hy
    · exact List.mem_cons_self ..
    · exact List.mem_cons_of_mem _ (h.kept y hy)
  distinct := by
    intro y hy z hz hplace hversion
    rcases List.mem_cons.mp hy with hyx | hy'
    · rcases List.mem_cons.mp hz with hzx | hz'
      · rw [hyx, hzx]
      · rw [hyx] at hplace hversion
        exact absurd hversion.symm (hx z hz' hplace.symm)
    · rcases List.mem_cons.mp hz with hzx | hz'
      · rw [hzx] at hplace hversion
        exact absurd hversion (hx y hy' hplace)
      · exact h.distinct y hy' z hz' hplace hversion

theorem Sound.discard {held : Held α} (h : held.Sound) (place : Place) :
    (held.discard place).Sound where
  kept := fun x hx => h.kept x (List.mem_filter.mp hx).1
  distinct := h.distinct

/-- A copy of an object that was held at some time is what is held now, if the
versions agree. -/
theorem Sound.eq_of_version {held : Held α} (h : held.Sound) {copy stored : α}
    (hcopy : copy ∈ held.ever) (hstored : Shelf.at? (placeOf copy) held.shelf = some stored)
    (hversion : versionOf stored = versionOf copy) : stored = copy :=
  h.distinct stored (h.kept stored (Shelf.mem_of_at? hstored)) copy hcopy
    (Shelf.placeOf_of_at? hstored) hversion

end Held

end CordonWatch.Store
