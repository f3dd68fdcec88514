/-!
# Finite maps in key order

Labels, the pods of a node, the remembered cordon flags and the retry
history are all finite maps that are read in ascending key order. A `Table`
is the list of its entries, strictly ascending in the key; the order is part
of the type, so a table has one representation only: two tables that answer
every lookup alike are equal (`Table.ext_find`).

Keys need a decidable strict linear order (`KeyOrder`). Text is ordered by
code point, which is also the order of its UTF-8 bytes.
-/

namespace CordonWatch

/-- A decidable strict linear order on keys. -/
class KeyOrder (κ : Type) extends LT κ where
  decLt : ∀ a b : κ, Decidable (a < b)
  irrefl : ∀ a : κ, ¬ a < a
  trans : ∀ {a b c : κ}, a < b → b < c → a < c
  trichotomy : ∀ a b : κ, a < b ∨ a = b ∨ b < a

namespace KeyOrder

variable {κ : Type} [KeyOrder κ]

instance (a b : κ) : Decidable (a < b) := decLt a b

/-- Keys that are apart in neither direction are equal. -/
theorem eq_of_not_lt {a b : κ} (h : ¬ a < b) (h' : ¬ b < a) : a = b := by
  rcases trichotomy a b with hab | hab | hab
  · exact absurd hab h
  · exact hab
  · exact absurd hab h'

theorem asymm {a b : κ} (h : a < b) : ¬ b < a := fun h' => irrefl a (trans h h')

theorem ne_of_lt {a b : κ} (h : a < b) : a ≠ b := fun e => irrefl b (e ▸ h)

instance (priority := low) : DecidableEq κ := fun a b =>
  if h : a < b then .isFalse (ne_of_lt h)
  else if h' : b < a then .isFalse (ne_of_lt h').symm
  else .isTrue (eq_of_not_lt h h')

end KeyOrder

/-- Text is ordered by code point. -/
instance : KeyOrder String where
  decLt := inferInstance
  irrefl := String.lt_irrefl
  trans := String.lt_trans
  trichotomy := Std.lt_trichotomy

/-- A finite map, kept as its entries in strictly ascending key order. -/
@[ext]
structure Table (κ : Type) (β : Type) [KeyOrder κ] where
  entries : List (κ × β)
  ascending : entries.Pairwise (fun a b => a.1 < b.1)

namespace Table

variable {κ β : Type} [KeyOrder κ]

instance [DecidableEq β] : DecidableEq (Table κ β) := fun a b =>
  if h : a.entries = b.entries then .isTrue (Table.ext h)
  else .isFalse (fun e => h (e ▸ rfl))

/-- The table without entries. -/
def empty : Table κ β := ⟨[], .nil⟩

instance : Inhabited (Table κ β) := ⟨empty⟩

/-- The entry of `k` in a list of entries. -/
def findIn (k : κ) : List (κ × β) → Option β
  | [] => none
  | e :: rest => if e.1 = k then some e.2 else findIn k rest

/-- The value stored for `k`. -/
def find? (t : Table κ β) (k : κ) : Option β := findIn k t.entries

/-- Whether `k` has a value. -/
def contains (t : Table κ β) (k : κ) : Bool := (t.find? k).isSome

/-- Number of keys. -/
def size (t : Table κ β) : Nat := t.entries.length

def keys (t : Table κ β) : List κ := t.entries.map (·.1)

def values (t : Table κ β) : List β := t.entries.map (·.2)

/-- Puts an entry at its place in key order, replacing one with the same key. -/
def insertIn (k : κ) (v : β) : List (κ × β) → List (κ × β)
  | [] => [(k, v)]
  | e :: rest =>
    if k < e.1 then (k, v) :: e :: rest
    else if e.1 < k then e :: insertIn k v rest
    else (k, v) :: rest

/-- An entry after an insertion is the new one or was there before. -/
theorem mem_insertIn {k : κ} {v : β} {a : κ × β} {l : List (κ × β)} :
    a ∈ insertIn k v l → a = (k, v) ∨ a ∈ l := by
  induction l with
  | nil => simp [insertIn]
  | cons e rest ih =>
    rw [insertIn]
    split
    · intro h
      exact List.mem_cons.mp h
    · split
      · intro h
        rcases List.mem_cons.mp h with h | h
        · exact Or.inr (h ▸ List.mem_cons_self ..)
        · exact (ih h).imp_right (List.mem_cons_of_mem _)
      · intro h
        exact (List.mem_cons.mp h).imp_right (List.mem_cons_of_mem _)

/-- Insertion keeps the order of the keys. -/
theorem insertIn_ascending (k : κ) (v : β) {l : List (κ × β)}
    (h : l.Pairwise (fun a b => a.1 < b.1)) :
    (insertIn k v l).Pairwise (fun a b => a.1 < b.1) := by
  induction l with
  | nil => simp [insertIn]
  | cons e rest ih =>
    obtain ⟨hhead, htail⟩ := List.pairwise_cons.mp h
    rw [insertIn]
    split
    next hlt =>
      refine List.pairwise_cons.mpr ⟨fun a ha => ?_, h⟩
      rcases List.mem_cons.mp ha with rfl | ha
      · exact hlt
      · exact KeyOrder.trans hlt (hhead a ha)
    next hnlt =>
      split
      next hgt =>
        refine List.pairwise_cons.mpr ⟨fun a ha => ?_, ih htail⟩
        rcases mem_insertIn ha with rfl | ha
        · exact hgt
        · exact hhead a ha
      next hngt =>
        have hk : k = e.1 := KeyOrder.eq_of_not_lt hnlt hngt
        exact List.pairwise_cons.mpr ⟨fun a ha => hk ▸ hhead a ha, htail⟩

/-- The table with `v` stored for `k`. -/
def insert (t : Table κ β) (k : κ) (v : β) : Table κ β :=
  ⟨insertIn k v t.entries, insertIn_ascending k v t.ascending⟩

/-- The entries that satisfy `p`. -/
def filter (t : Table κ β) (p : κ → β → Bool) : Table κ β :=
  ⟨t.entries.filter (fun e => p e.1 e.2), t.ascending.filter _⟩

/-- The table without a value for `k`. -/
def erase (t : Table κ β) (k : κ) : Table κ β := t.filter (fun key _ => key ≠ k)

/-- The table of a list of entries; of two entries with one key the later counts. -/
def ofList (l : List (κ × β)) : Table κ β := l.foldl (fun t e => t.insert e.1 e.2) empty

def isEmpty (t : Table κ β) : Bool := t.entries.isEmpty

/-! ### What a lookup sees -/

@[simp] theorem find?_empty (k : κ) : (empty : Table κ β).find? k = none := rfl

/-- An entry of key below all others is found by none of their keys. -/
theorem findIn_eq_none {k : κ} {l : List (κ × β)} (h : ∀ e ∈ l, e.1 ≠ k) : findIn k l = none := by
  induction l with
  | nil => rfl
  | cons e rest ih =>
    rw [findIn, if_neg (h e (List.mem_cons_self ..))]
    exact ih fun a ha => h a (List.mem_cons_of_mem _ ha)

theorem findIn_insertIn (k k' : κ) (v : β) {l : List (κ × β)}
    (h : l.Pairwise (fun a b => a.1 < b.1)) :
    findIn k' (insertIn k v l) = if k = k' then some v else findIn k' l := by
  induction l with
  | nil => simp [insertIn, findIn]
  | cons e rest ih =>
    obtain ⟨hhead, htail⟩ := List.pairwise_cons.mp h
    rw [insertIn]
    split
    next => simp [findIn]
    next hnlt =>
      split
      next hgt =>
        by_cases he : e.1 = k'
        · have hk : k ≠ k' := fun hk => KeyOrder.ne_of_lt hgt (he.trans hk.symm)
          simp [findIn, he, hk]
        · simp [findIn, he, ih htail]
      next hngt =>
        have hk : e.1 = k := KeyOrder.eq_of_not_lt hngt hnlt
        by_cases hkk : k = k'
        · simp [findIn, hkk]
        · simp [findIn, hk, hkk]

@[simp] theorem find?_insert (t : Table κ β) (k k' : κ) (v : β) :
    (t.insert k v).find? k' = if k = k' then some v else t.find? k' :=
  findIn_insertIn k k' v t.ascending

/-- A lookup in a filtered table sees the value if the value passes. -/
theorem find?_filter (t : Table κ β) (p : κ → β → Bool) (k : κ) :
    (t.filter p).find? k = (t.find? k).filter (p k) := by
  obtain ⟨l, h⟩ := t
  show findIn k (l.filter fun e => p e.1 e.2) = (findIn k l).filter (p k)
  induction l with
  | nil => rfl
  | cons e rest ih =>
    obtain ⟨hhead, htail⟩ := List.pairwise_cons.mp h
    by_cases he : e.1 = k
    · subst he
      have hnone : findIn e.1 rest = none :=
        findIn_eq_none fun a ha => (KeyOrder.ne_of_lt (hhead a ha)).symm
      by_cases hp : p e.1 e.2 = true
      · simp [findIn, hp, Option.filter]
      · simp [findIn, hp, ih htail, hnone, Option.filter]
    · by_cases hp : p e.1 e.2 = true <;> simp [findIn, he, hp, ih htail]

@[simp] theorem find?_erase (t : Table κ β) (k k' : κ) :
    (t.erase k).find? k' = if k' = k then none else t.find? k' := by
  rw [erase, find?_filter]
  by_cases h : k' = k <;> cases t.find? k' <;> simp [h]

/-- An entry of a table is what a lookup of its key finds. -/
theorem mem_entries_iff (t : Table κ β) (k : κ) (v : β) :
    (k, v) ∈ t.entries ↔ t.find? k = some v := by
  obtain ⟨l, h⟩ := t
  show (k, v) ∈ l ↔ findIn k l = some v
  induction l with
  | nil => simp [findIn]
  | cons e rest ih =>
    obtain ⟨hhead, htail⟩ := List.pairwise_cons.mp h
    rw [findIn, List.mem_cons]
    by_cases he : e.1 = k
    · rw [if_pos he]
      constructor
      · rintro (heq | hmem)
        · rw [← heq]
        · exact absurd he (KeyOrder.ne_of_lt (hhead _ hmem))
      · intro hv
        exact Or.inl (Prod.ext he.symm (Option.some.inj hv).symm)
    · rw [if_neg he, ← ih htail]
      constructor
      · rintro (heq | hmem)
        · exact absurd (congrArg Prod.fst heq).symm he
        · exact hmem
      · exact Or.inr

/-- Two ascending lists with the same members are equal. -/
theorem eq_of_mem_iff : ∀ {l l' : List (κ × β)},
    l.Pairwise (fun a b => a.1 < b.1) → l'.Pairwise (fun a b => a.1 < b.1) →
    (∀ e, e ∈ l ↔ e ∈ l') → l = l'
  | [], [], _, _, _ => rfl
  | [], e :: _, _, _, h => absurd ((h e).mpr (List.mem_cons_self ..)) (by simp)
  | e :: _, [], _, _, h => absurd ((h e).mp (List.mem_cons_self ..)) (by simp)
  | e :: rest, e' :: rest', hl, hl', h => by
    obtain ⟨hhead, htail⟩ := List.pairwise_cons.mp hl
    obtain ⟨hhead', htail'⟩ := List.pairwise_cons.mp hl'
    have heq : e = e' := by
      rcases List.mem_cons.mp ((h e).mp (List.mem_cons_self ..)) with he | he
      · exact he
      · rcases List.mem_cons.mp ((h e').mpr (List.mem_cons_self ..)) with he' | he'
        · exact he'.symm
        · exact absurd (hhead e' he') (KeyOrder.asymm (hhead' e he))
    subst heq
    refine congrArg (e :: ·) (eq_of_mem_iff htail htail' fun a => ?_)
    constructor
    · intro ha
      rcases List.mem_cons.mp ((h a).mp (List.mem_cons_of_mem _ ha)) with hae | ha'
      · exact absurd (hae ▸ hhead a ha) (KeyOrder.irrefl _)
      · exact ha'
    · intro ha
      rcases List.mem_cons.mp ((h a).mpr (List.mem_cons_of_mem _ ha)) with hae | ha'
      · exact absurd (hae ▸ hhead' a ha) (KeyOrder.irrefl _)
      · exact ha'

/-- Tables that answer every lookup alike are equal. -/
theorem ext_find {t t' : Table κ β} (h : ∀ k, t.find? k = t'.find? k) : t = t' :=
  Table.ext <| eq_of_mem_iff t.ascending t'.ascending fun e => by
    rw [mem_entries_iff t e.1 e.2, mem_entries_iff t' e.1 e.2, h]

end Table

end CordonWatch
