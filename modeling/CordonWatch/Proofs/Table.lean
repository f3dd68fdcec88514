import CordonWatch.Table
import Mathlib.Algebra.GroupWithZero.Nat
import Mathlib.Data.List.Nodup

/-!
# Parts of tables

What filtering does to a table that changes by one key (`filter_insert`,
`filter_erase`), and what is read off a table in order: its values are those of
a plain filter (`values_filter`), and their number is a matter of the keys
alone (`size_eq_of_find?_isSome`). Where each key of a table is in just the part
that its value names, the parts have as many keys together (`size_eq_sum_size`).
A table without values is the set of its keys (`ext_contains`).
-/

namespace CordonWatch.Table

variable {κ β γ : Type} [KeyOrder κ]

theorem erase_of_find?_eq_none {t : Table κ β} {k : κ} (h : t.find? k = none) : t.erase k = t := by
  refine ext_find fun k' => ?_
  rw [find?_erase]
  split
  next hk => rw [hk, h]
  next => rfl

theorem filter_erase (t : Table κ β) (p : κ → β → Bool) (k : κ) :
    (t.erase k).filter p = (t.filter p).erase k := by
  refine ext_find fun k' => ?_
  rw [find?_filter, find?_erase, find?_erase, find?_filter]
  split
  · rfl
  · rfl

/-- An entry that is put into a table is put into the part of the table that
it belongs to, and taken out of any other part. -/
theorem filter_insert (t : Table κ β) (p : κ → β → Bool) (k : κ) (v : β) :
    (t.insert k v).filter p = if p k v then (t.filter p).insert k v else (t.filter p).erase k := by
  refine ext_find fun k' => ?_
  rw [find?_filter, find?_insert]
  by_cases hk : k = k'
  · subst hk
    by_cases hp : p k v = true
    · rw [if_pos rfl, if_pos hp, find?_insert, if_pos rfl]
      simp [Option.filter, hp]
    · rw [if_pos rfl, if_neg hp, find?_erase, if_pos rfl]
      simp [Option.filter, hp]
  · rw [if_neg hk]
    split
    · rw [find?_insert, if_neg hk, find?_filter]
    · rw [find?_erase, if_neg (Ne.symm hk), find?_filter]

/-- What was stored for a key before does not matter. -/
theorem insert_erase (t : Table κ β) (k : κ) (v : β) : (t.erase k).insert k v = t.insert k v := by
  refine ext_find fun k' => ?_
  rw [find?_insert, find?_insert, find?_erase]
  split
  · rfl
  next hk => rw [if_neg (Ne.symm hk)]

theorem eq_empty_of_isEmpty {t : Table κ β} (h : t.isEmpty = true) : t = empty :=
  Table.ext (List.isEmpty_iff.mp h)

/-- The values of a part of a table are that part of its values. -/
theorem values_filter (t : Table κ β) (q : β → Bool) :
    (t.filter fun _ v => q v).values = t.values.filter q := by
  unfold values filter
  rw [List.filter_map]
  rfl

theorem mem_values_iff {t : Table κ β} {v : β} : v ∈ t.values ↔ ∃ k, t.find? k = some v := by
  unfold values
  rw [List.mem_map]
  constructor
  · rintro ⟨⟨k, v'⟩, hmem, rfl⟩
    exact ⟨k, (mem_entries_iff t k v').mp hmem⟩
  · rintro ⟨k, hk⟩
    exact ⟨(k, v), (mem_entries_iff t k v).mpr hk, rfl⟩

theorem find?_isSome_iff {t : Table κ β} {k : κ} :
    (t.find? k).isSome = true ↔ ∃ e ∈ t.entries, e.1 = k := by
  constructor
  · intro h
    obtain ⟨v, hv⟩ := Option.isSome_iff_exists.mp h
    exact ⟨(k, v), (mem_entries_iff t k v).mpr hv, rfl⟩
  · rintro ⟨⟨k', v⟩, hmem, rfl⟩
    rw [(mem_entries_iff t k' v).mp hmem]
    rfl

/-- Tables with the same keys have the same size. -/
theorem size_eq_of_find?_isSome {t : Table κ β} {t' : Table κ γ}
    (h : ∀ k, (t.find? k).isSome = (t'.find? k).isSome) : t.size = t'.size := by
  -- Both have, in order, the entries of one table without values.
  have hkeys : t.entries.map (fun e => (e.1, ())) = t'.entries.map fun e => (e.1, ()) := by
    refine eq_of_mem_iff (List.pairwise_map.mpr t.ascending) (List.pairwise_map.mpr t'.ascending)
      fun e => ?_
    have hiff : (∃ a ∈ t.entries, a.1 = e.1) ↔ ∃ a ∈ t'.entries, a.1 = e.1 := by
      rw [← find?_isSome_iff, ← find?_isSome_iff, h]
    simpa [List.mem_map, Prod.ext_iff] using hiff
  have hlength := congrArg List.length hkeys
  rwa [List.length_map, List.length_map] at hlength

theorem isEmpty_eq_false_iff {t : Table κ β} : t.isEmpty = false ↔ ∃ k, t.contains k = true := by
  unfold isEmpty contains
  rw [List.isEmpty_eq_false_iff_exists_mem]
  constructor
  · rintro ⟨e, he⟩
    exact ⟨e.1, find?_isSome_iff.mpr ⟨e, he, rfl⟩⟩
  · rintro ⟨k, hk⟩
    obtain ⟨e, he, -⟩ := find?_isSome_iff.mp hk
    exact ⟨e, he⟩

/-- A table made of a list has nothing but what is in the list. -/
theorem mem_of_mem_ofList {l : List (κ × β)} {e : κ × β} (h : e ∈ (ofList l).entries) : e ∈ l := by
  have hfold : ∀ (l : List (κ × β)) (s : Table κ β),
      e ∈ (l.foldl (fun t e => t.insert e.1 e.2) s).entries → e ∈ s.entries ∨ e ∈ l := by
    intro l
    induction l with
    | nil => exact fun _ hs => Or.inl hs
    | cons first rest ih =>
      intro s hs
      rcases ih _ hs with hs | hs
      · rcases mem_insertIn hs with rfl | hs
        · exact Or.inr (List.mem_cons_self ..)
        · exact Or.inl hs
      · exact Or.inr (List.mem_cons_of_mem _ hs)
  exact (hfold l empty h).resolve_left List.not_mem_nil

/-- A table is that of its entries. -/
theorem ofList_entries (t : Table κ β) : ofList t.entries = t := by
  -- The induction is over any table to begin with, since each entry changes it.
  have hfold : ∀ {l : List (κ × β)}, l.Pairwise (fun a b => a.1 < b.1) → ∀ (s : Table κ β) k,
      (l.foldl (fun t e => t.insert e.1 e.2) s).find? k = (findIn k l).or (s.find? k) := by
    intro l hl
    induction l with
    | nil => exact fun _ _ => rfl
    | cons e rest ih =>
      intro s k
      obtain ⟨hhead, htail⟩ := List.pairwise_cons.mp hl
      rw [List.foldl_cons, ih htail, find?_insert, findIn]
      split
      next hk =>
        rw [findIn_eq_none fun a ha => hk ▸ (KeyOrder.ne_of_lt (hhead a ha)).symm]
        rfl
      · rfl
  refine ext_find fun k => ?_
  unfold ofList
  rw [hfold t.ascending, find?_empty, Option.or_none]
  rfl

/-! ### Keys -/

theorem mem_keys_iff {t : Table κ β} {k : κ} : k ∈ t.keys ↔ t.contains k = true := by
  unfold keys contains
  rw [List.mem_map, find?_isSome_iff]

/-- No key occurs twice. -/
theorem nodup_keys (t : Table κ β) : t.keys.Nodup :=
  List.pairwise_map.mpr (t.ascending.imp KeyOrder.ne_of_lt)

theorem length_keys (t : Table κ β) : t.keys.length = t.size := List.length_map ..

/-- A table that says of each key in which of some parts it is has as many keys
as the parts together. -/
theorem size_eq_sum_size [KeyOrder γ] {t : Table κ γ} {parts : Table γ (Table κ β)}
    (h : ∀ k name, t.find? k = some name ↔
      ∃ part, parts.find? name = some part ∧ part.contains k = true) :
    t.size = (parts.values.map size).sum := by
  have hpart : ∀ {e k}, e ∈ parts.entries → k ∈ e.2.keys → t.find? k = some e.1 := by
    intro e k he hk
    exact (h k e.1).mpr ⟨e.2, (mem_entries_iff parts e.1 e.2).mp he, mem_keys_iff.mp hk⟩
  -- Two parts have no key in common, since the table has one name for it.
  have hnodup : (parts.entries.flatMap fun e => e.2.keys).Nodup := by
    refine List.nodup_flatMap.mpr ⟨fun e _ => e.2.nodup_keys, ?_⟩
    refine parts.ascending.imp_of_mem fun he he' hlt k hk hk' => ?_
    have hname := (hpart he hk).symm.trans (hpart he' hk')
    exact KeyOrder.ne_of_lt hlt (Option.some.inj hname)
  have hmem : ∀ k, k ∈ t.keys ↔ k ∈ parts.entries.flatMap fun e => e.2.keys := by
    intro k
    rw [List.mem_flatMap, mem_keys_iff, contains, Option.isSome_iff_exists]
    constructor
    · rintro ⟨name, hname⟩
      obtain ⟨part, hfind, hk⟩ := (h k name).mp hname
      exact ⟨(name, part), (mem_entries_iff parts name part).mpr hfind, mem_keys_iff.mpr hk⟩
    · rintro ⟨e, he, hk⟩
      exact ⟨e.1, hpart he hk⟩
  have hlength := ((List.perm_ext_iff_of_nodup t.nodup_keys hnodup).mpr hmem).length_eq
  rw [length_keys, List.length_flatMap] at hlength
  rw [hlength, values, List.map_map]
  simp only [length_keys, Function.comp_def]

/-- The keys that a list of keys puts into a table are those of the list. -/
theorem contains_ofList_units (l : List κ) (k : κ) :
    (ofList (l.map fun k => (k, ()))).contains k = true ↔ k ∈ l := by
  -- The induction is over any table to begin with, since each key changes it.
  have hfold : ∀ t : Table κ Unit,
      (l.foldl (fun t k => t.insert k ()) t).contains k = true ↔ k ∈ l ∨ t.contains k = true := by
    induction l with
    | nil => simp
    | cons a rest ih =>
      intro t
      rw [List.foldl_cons, ih, List.mem_cons]
      unfold contains
      rw [find?_insert]
      by_cases ha : a = k
      · simp [ha]
      · simp [ha, Ne.symm ha]
  unfold ofList
  rw [List.foldl_map, hfold]
  exact or_iff_left Bool.false_ne_true

/-- A table without values is the set of its keys. -/
theorem ext_contains {t t' : Table κ Unit}
    (h : ∀ k, t.contains k = true ↔ t'.contains k = true) : t = t' := by
  refine ext_find fun k => ?_
  have hk := h k
  unfold contains at hk
  cases hleft : t.find? k with
  | none => cases hright : t'.find? k with
    | none => rfl
    | some u => simp [hleft, hright] at hk
  | some u => cases hright : t'.find? k with
    | none => simp [hleft, hright] at hk
    | some u' => rfl

end CordonWatch.Table
