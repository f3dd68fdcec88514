import CordonWatch.Store.Shelf

/-!
# Shelves with one object at each place

`Shelf.at?` answers what stands at a place. On a shelf where no two objects
stand at one place that view says everything but the order of the places:
`at?_of_mem` finds every object at its own place, `places_put` says that
putting an object where one stands moves nothing, `eq_map_of_places` rebuilds a
shelf from another one with the same places, and `perm_map_of_at?` compares the
objects of two shelves by what stands at each place.
-/

namespace CordonWatch.Store.Shelf

variable {α : Type} [HasMetadata α]

/-- The places that are taken on a shelf, in order. -/
def places (shelf : Shelf α) : List Place := shelf.map placeOf

theorem placeOf_of_at? {place : Place} {shelf : Shelf α} {x : α}
    (h : at? place shelf = some x) : placeOf x = place := by
  have hx := List.find?_some h
  exact of_decide_eq_true hx

theorem mem_of_at? {place : Place} {shelf : Shelf α} {x : α} (h : at? place shelf = some x) :
    x ∈ shelf :=
  List.mem_of_find?_eq_some h

/-- Where no two objects share a place, each is found at its own. -/
theorem at?_of_mem {shelf : Shelf α} {x : α} (hd : (places shelf).Nodup) (hx : x ∈ shelf) :
    at? (placeOf x) shelf = some x := by
  induction shelf with
  | nil => cases hx
  | cons y rest ih =>
    obtain ⟨hy, hrest⟩ := List.nodup_cons.mp (show (placeOf y :: places rest).Nodup from hd)
    rcases List.mem_cons.mp hx with rfl | hx
    · simp [at?]
    · have hne : placeOf y ≠ placeOf x := fun he => hy (he ▸ List.mem_map_of_mem hx)
      have hrec := ih hrest hx
      simp only [at?] at hrec ⊢
      rw [List.find?_cons_of_neg (by simpa using hne), hrec]

theorem at?_eq_some_iff {shelf : Shelf α} (hd : (places shelf).Nodup) {place : Place} {x : α} :
    at? place shelf = some x ↔ x ∈ shelf ∧ placeOf x = place := by
  constructor
  · intro h
    exact ⟨mem_of_at? h, placeOf_of_at? h⟩
  · rintro ⟨hx, rfl⟩
    exact at?_of_mem hd hx

theorem exists_at?_of_mem_places {shelf : Shelf α} {place : Place} (h : place ∈ places shelf) :
    ∃ x, at? place shelf = some x := by
  obtain ⟨x, hx, rfl⟩ := List.mem_map.mp h
  exact Option.isSome_iff_exists.mp (List.find?_isSome.mpr ⟨x, hx, by simp⟩)

/-- What is on a shelf after an object was put there is that object, or was there before. -/
theorem mem_of_mem_put {x y : α} {shelf : Shelf α} (h : y ∈ put x shelf) : y = x ∨ y ∈ shelf := by
  induction shelf with
  | nil => exact Or.inl (List.mem_singleton.mp h)
  | cons z rest ih =>
    rw [put] at h
    split at h
    · exact (List.mem_cons.mp h).imp_right (List.mem_cons_of_mem _)
    · rcases List.mem_cons.mp h with rfl | h
      · exact Or.inr (List.mem_cons_self ..)
      · exact (ih h).imp_right (List.mem_cons_of_mem _)

/-- Putting an object where one stands already leaves the places as they are. -/
theorem places_put {x y : α} {shelf : Shelf α} (h : at? (placeOf x) shelf = some y) :
    places (put x shelf) = places shelf := by
  induction shelf with
  | nil => simp [at?] at h
  | cons z rest ih =>
    by_cases hz : placeOf z = placeOf x
    · simp [put, places, hz]
    · have hrest : at? (placeOf x) rest = some y := by
        simpa [at?, hz] using h
      have hrec : List.map placeOf (put x rest) = List.map placeOf rest := ih hrest
      simp [put, places, hz, hrec]

/-- A shelf is what stands on it at the places of another one, if the places
of the two are the same. -/
theorem eq_map_of_places {shelf shelf' : Shelf α} (hd : (places shelf).Nodup)
    (hp : places shelf' = places shelf) :
    shelf' = shelf.map fun x => (at? (placeOf x) shelf').getD x := by
  have hlen : shelf'.length = shelf.length := by
    have := congrArg List.length hp
    simpa [places] using this
  apply List.ext_getElem (by simpa using hlen)
  intro i hi hi'
  have hi'' : i < shelf.length := by omega
  have hplace : placeOf shelf[i] = placeOf shelf'[i] := by
    have h₁ : (places shelf')[i]? = (places shelf)[i]? := by rw [hp]
    simpa [places, hi, hi'', eq_comm] using h₁
  rw [List.getElem_map, hplace, at?_of_mem (hp ▸ hd) (List.getElem_mem hi), Option.getD_some]

/-- The objects at some of the places, with a part taken away, are what is left of
what stands there. -/
theorem mem_map_filter_iff {shelf : Shelf α} (hd : (places shelf).Nodup) (p : Place → Bool)
    {f : α → α} (hf : ∀ x, placeOf (f x) = placeOf x) {x : α} :
    x ∈ (shelf.filter fun y => p (placeOf y)).map f ↔
      p (placeOf x) = true ∧ (at? (placeOf x) shelf).map f = some x := by
  rw [List.mem_map]
  constructor
  · rintro ⟨y, hy, rfl⟩
    obtain ⟨hmem, hp⟩ := List.mem_filter.mp hy
    rw [hf]
    exact ⟨hp, by rw [at?_of_mem hd hmem, Option.map_some]⟩
  · rintro ⟨hp, hat⟩
    obtain ⟨y, hy, rfl⟩ := Option.map_eq_some_iff.mp hat
    rw [hf] at hp hy
    exact ⟨y, List.mem_filter.mpr ⟨mem_of_at? hy, hp⟩, rfl⟩

/-- Shelves on which the same stands at some of the places, but for a part, have
the same objects there, but for that part and the order. -/
theorem perm_map_of_at? {shelf shelf' : Shelf α} (hd : (places shelf).Nodup)
    (hd' : (places shelf').Nodup) (p : Place → Bool) {f : α → α}
    (hf : ∀ x, placeOf (f x) = placeOf x)
    (h : ∀ place, p place = true → (at? place shelf').map f = (at? place shelf).map f) :
    ((shelf'.filter fun x => p (placeOf x)).map f).Perm
      ((shelf.filter fun x => p (placeOf x)).map f) := by
  have hnodup : ∀ l : Shelf α, (places l).Nodup →
      ((l.filter fun x => p (placeOf x)).map f).Nodup := by
    intro l hl
    have hplaces : (((l.filter fun x => p (placeOf x)).map f).map placeOf).Nodup := by
      rw [List.map_map, show placeOf ∘ f = placeOf from funext hf]
      exact hl.sublist (List.filter_sublist.map placeOf)
    exact List.Pairwise.of_map placeOf (fun _ _ hne he => hne (congrArg placeOf he)) hplaces
  refine (List.perm_ext_iff_of_nodup (hnodup _ hd') (hnodup _ hd)).mpr fun x => ?_
  rw [mem_map_filter_iff hd' p hf, mem_map_filter_iff hd p hf]
  refine and_congr_right fun hp => ?_
  rw [h _ hp]

/-- Taking a part away from all objects moves none of them. -/
theorem at?_map {f : α → α} (hf : ∀ x, placeOf (f x) = placeOf x) (place : Place)
    (shelf : Shelf α) : at? place (shelf.map f) = (at? place shelf).map f := by
  unfold at?
  rw [List.find?_map]
  simp only [Function.comp_def, hf]

theorem map_put {f : α → α} (hf : ∀ x, placeOf (f x) = placeOf x) (x : α) (shelf : Shelf α) :
    (put x shelf).map f = put (f x) (shelf.map f) := by
  induction shelf with
  | nil => rfl
  | cons y rest ih =>
    rw [put, List.map_cons, put, hf, hf]
    split
    · rfl
    · rw [List.map_cons, ih]

/-- Shelves with the same objects at some of the places answer there alike. -/
theorem at?_eq_of_perm {shelf shelf' : Shelf α} (hd : (places shelf).Nodup)
    (hd' : (places shelf').Nodup) (p : Place → Bool)
    (hperm : (shelf'.filter fun x => p (placeOf x)).Perm (shelf.filter fun x => p (placeOf x)))
    {place : Place} (hp : p place = true) : at? place shelf' = at? place shelf := by
  refine Option.ext fun x => ?_
  rw [at?_eq_some_iff hd', at?_eq_some_iff hd]
  have hmem := hperm.mem_iff (a := x)
  rw [List.mem_filter, List.mem_filter] at hmem
  constructor
  · rintro ⟨hx, rfl⟩
    exact ⟨(hmem.mp ⟨hx, hp⟩).1, rfl⟩
  · rintro ⟨hx, rfl⟩
    exact ⟨(hmem.mpr ⟨hx, hp⟩).1, rfl⟩

end CordonWatch.Store.Shelf
