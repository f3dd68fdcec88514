import CordonWatch.Proofs.Json.ReadBack
import CordonWatch.Proofs.Table

/-!
# What is kept is written as it is

A reader that keeps a value as it was written keeps it but for its numbers, and but for the
fields of an object that others of the same name come after. What it keeps of a value that
was read can be written (`isWritable_of_kept?`), and is kept as it is once it is read again
if its numbers are (`kept?_of_kept?`). A number need not be: the double that is taken for it
is not always the nearest one, and from what is written of that another one may be taken.
`Decimal.IsSettled` says of a number that it is kept as it is.

That nothing else stands in the way comes from the reader of JSON, which gives only
numbers as they are written (`numbers_of_read`). Its three functions are taken together,
by induction on the steps that are left.
-/

namespace CordonWatch

/-! ### Numbers -/

namespace Decimal

/-- A number that is kept as it is. -/
def IsSettled (n : Decimal) : Prop := n.kept? = some n

instance (n : Decimal) : Decidable n.IsSettled := inferInstanceAs (Decidable (n.kept? = some n))

/-- What is kept of a number is written as it is. -/
theorem isFormed_of_kept? {n m : Decimal} (hn : n.IsFormed) (h : n.kept? = some m) :
    m.IsFormed := by
  unfold kept? at h
  split at h
  · cases h
    exact hn
  · obtain ⟨x, -, rfl⟩ := Option.map_eq_some_iff.mp h
    unfold ofShortest
    intro hintegral
    dsimp only at hintegral
    split at hintegral
    · cases hintegral
    · split at hintegral <;> cases hintegral

end Decimal

namespace Json

/-- All numbers in a value are such numbers. -/
inductive Numbers (p : Decimal → Prop) : Json → Prop
  | null : Numbers p .null
  | bool (b : Bool) : Numbers p (.bool b)
  | number {n : Decimal} (h : p n) : Numbers p (.number n)
  | text (s : String) : Numbers p (.text s)
  | list {items : List Json} (h : ∀ v ∈ items, Numbers p v) : Numbers p (.list items)
  | object {fields : List (String × Json)} (h : ∀ f ∈ fields, Numbers p f.2) :
      Numbers p (.object fields)
  | unpaired : Numbers p .unpaired

mutual

/-- The numbers in a value. -/
def numbers : Json → List Decimal
  | .number n => [n]
  | .list items => numbersOfItems items
  | .object fields => numbersOfFields fields
  | .null | .bool _ | .text _ | .unpaired => []

def numbersOfItems : List Json → List Decimal
  | [] => []
  | v :: rest => numbers v ++ numbersOfItems rest

def numbersOfFields : List (String × Json) → List Decimal
  | [] => []
  | (_, v) :: rest => numbers v ++ numbersOfFields rest

end

theorem mem_numbersOfItems {items : List Json} {v : Json} (hv : v ∈ items) {n : Decimal}
    (hn : n ∈ v.numbers) : n ∈ numbersOfItems items := by
  induction hv with
  | head => exact List.mem_append_left _ hn
  | tail _ _ ih => exact List.mem_append_right _ ih

theorem mem_numbersOfFields {fields : List (String × Json)} {f : String × Json} (hf : f ∈ fields)
    {n : Decimal} (hn : n ∈ f.2.numbers) : n ∈ numbersOfFields fields := by
  induction hf with
  | head => exact List.mem_append_left _ hn
  | tail _ _ ih => exact List.mem_append_right _ ih

theorem Numbers.of_forall {p : Decimal → Prop} : ∀ v : Json, (∀ n ∈ v.numbers, p n) → v.Numbers p
  | .null, _ => .null
  | .bool b, _ => .bool b
  | .number n, h => .number (h n (List.mem_singleton_self n))
  | .text s, _ => .text s
  | .list items, h =>
    .list fun v hv => Numbers.of_forall v fun n hn => h n (mem_numbersOfItems hv hn)
  | .object fields, h =>
    .object fun f hf => Numbers.of_forall f.2 fun n hn => h n (mem_numbersOfFields hf hn)
  | .unpaired, _ => .unpaired
termination_by v => sizeOf v
decreasing_by
  · have := List.sizeOf_lt_of_mem hv
    simp only [list.sizeOf_spec]
    omega
  · have := List.sizeOf_lt_of_mem hf
    obtain ⟨name, v⟩ := f
    simp only [object.sizeOf_spec, Prod.mk.sizeOf_spec] at this ⊢
    omega

/-! ### Reading -/

theorem isFormed_of_readUnsigned {negative : Bool} {cs rest : List Char} {n : Decimal}
    (h : readUnsigned negative cs = some (n, rest)) : n.IsFormed := by
  unfold readUnsigned at h
  simp only [Option.bind_eq_bind, Option.bind_eq_some_iff] at h
  obtain ⟨⟨whole, _⟩, -, ⟨fraction, _⟩, -, ⟨exponent, _⟩, -, h⟩ := h
  cases h
  intro hintegral
  obtain ⟨hfraction, hexponent⟩ := Bool.and_eq_true_iff.mp hintegral
  obtain rfl := Option.isNone_iff_eq_none.mp hfraction
  obtain rfl := Option.isNone_iff_eq_none.mp hexponent
  exact ⟨rfl, rfl⟩

theorem isFormed_of_readNumber {cs rest : List Char} {n : Decimal}
    (h : readNumber cs = some (n, rest)) : n.IsFormed := by
  obtain ⟨more, rfl⟩ | hsign := Classical.em (∃ more, cs = '-' :: more)
  · exact isFormed_of_readUnsigned (readNumber_minus more ▸ h)
  · rw [readNumber_unsigned fun more hcs => hsign ⟨more, hcs⟩] at h
    exact isFormed_of_readUnsigned h

theorem numbers_ofFields {p : Decimal → Prop} {fields : List (Option String × Json)}
    (h : ∀ f ∈ fields, f.2.Numbers p) : (ofFields fields).Numbers p := by
  unfold ofFields
  split
  next named hnamed =>
    refine .object fun f hf => ?_
    obtain ⟨g, hg, hfg⟩ := exists_mem_of_mapM_eq_some hnamed hf
    obtain ⟨name, -, rfl⟩ := Option.map_eq_some_iff.mp hfg
    exact h g hg
  · exact .unpaired

/-- The numbers of what is read are as they are written. -/
theorem numbers_of_readValue (fuel : Nat) :
    (∀ {cs v rest}, readValue fuel cs = some (v, rest) → v.Numbers Decimal.IsFormed) ∧
    (∀ {cs items rest}, readItems fuel cs = some (items, rest) →
      ∀ v ∈ items, v.Numbers Decimal.IsFormed) ∧
    (∀ {cs fields rest}, readFields fuel cs = some (fields, rest) →
      ∀ f ∈ fields, f.2.Numbers Decimal.IsFormed) := by
  -- Each reader calls the others with one step less.
  induction fuel with
  | zero => exact ⟨nofun, nofun, nofun⟩
  | succ fuel ih =>
    obtain ⟨hvalue, hitems, hfields⟩ := ih
    refine ⟨fun {cs v rest} h => ?_, fun {cs items rest} h => ?_, fun {cs fields rest} h => ?_⟩
    · unfold readValue at h
      split at h
      · cases h
        exact .null
      · cases h
        exact .bool true
      · cases h
        exact .bool false
      · obtain ⟨⟨s, _⟩, -, hv⟩ := Option.map_eq_some_iff.mp h
        cases hv
        cases s with
        | none => exact .unpaired
        | some s => exact .text s
      · split at h
        · cases h
          exact .list (by simp)
        · obtain ⟨⟨items, _⟩, hread, hv⟩ := Option.map_eq_some_iff.mp h
          cases hv
          exact .list (hitems hread)
      · split at h
        · cases h
          exact .object (by simp)
        · obtain ⟨⟨fields, _⟩, hread, hv⟩ := Option.map_eq_some_iff.mp h
          cases hv
          exact numbers_ofFields (hfields hread)
      · obtain ⟨⟨n, _⟩, hread, hv⟩ := Option.map_eq_some_iff.mp h
        cases hv
        exact .number (isFormed_of_readNumber hread)
    · unfold readItems at h
      obtain ⟨⟨item, _⟩, hitem, h⟩ := Option.bind_eq_some_iff.mp h
      dsimp only at h
      split at h
      · obtain ⟨⟨more, _⟩, hmore, h⟩ := Option.bind_eq_some_iff.mp h
        cases h
        exact List.forall_mem_cons.mpr ⟨hvalue hitem, hitems hmore⟩
      · cases h
        exact List.forall_mem_singleton.mpr (hvalue hitem)
      · cases h
    · unfold readFields at h
      split at h
      · obtain ⟨⟨name, _⟩, -, h⟩ := Option.bind_eq_some_iff.mp h
        dsimp only at h
        split at h
        · obtain ⟨⟨value, _⟩, hread, h⟩ := Option.bind_eq_some_iff.mp h
          dsimp only at h
          split at h
          · obtain ⟨⟨more, _⟩, hmore, h⟩ := Option.bind_eq_some_iff.mp h
            cases h
            exact List.forall_mem_cons.mpr ⟨hvalue hread, hfields hmore⟩
          · cases h
            exact List.forall_mem_singleton.mpr (hvalue hread)
          · cases h
        · cases h
      · cases h

theorem numbers_of_read {text : String} {v : Json} (h : read text = some v) :
    v.Numbers Decimal.IsFormed := by
  unfold read at h
  split at h
  next hread =>
    split at h
    · cases h
      exact (numbers_of_readValue _).1 hread
    · cases h
  · cases h

/-! ### Keeping -/

theorem keptItems?_eq_mapM (room : Nat) (items : List Json) :
    keptItems? room items = items.mapM (kept? room) := by
  induction items with
  | nil => rfl
  | cons v rest ih =>
    rw [keptItems?, ih, List.mapM_cons]

theorem keptFields?_eq_mapM (room : Nat) (fields : List (String × Json)) :
    keptFields? room fields = fields.mapM fun f => (kept? room f.2).map (f.1, ·) := by
  induction fields with
  | nil => rfl
  | cons f rest ih =>
    rw [keptFields?, ih, List.mapM_cons]
    cases kept? room f.2 <;> rfl

/-- What is kept of a value that was read can be written. -/
theorem isWritable_of_kept? {v w : Json} (hv : v.Numbers Decimal.IsFormed) {room : Nat}
    (h : v.kept? room = some w) : w.IsWritable := by
  induction hv generalizing room w with
  | null =>
    cases h
    exact .null
  | bool b =>
    cases h
    exact .bool b
  | number hn =>
    obtain ⟨m, hm, rfl⟩ := Option.map_eq_some_iff.mp h
    exact .number (Decimal.isFormed_of_kept? hn hm)
  | text s =>
    cases h
    exact .text s
  | list _ ih =>
    rw [kept?] at h
    split at h
    · cases h
    · obtain ⟨items, hitems, rfl⟩ := Option.map_eq_some_iff.mp h
      rw [keptItems?_eq_mapM] at hitems
      refine .list fun w hw => ?_
      obtain ⟨v, hv, hkept⟩ := exists_mem_of_mapM_eq_some hitems hw
      exact ih v hv hkept
  | object _ ih =>
    rw [kept?] at h
    split at h
    · cases h
    · obtain ⟨fields, hfields, rfl⟩ := Option.map_eq_some_iff.mp h
      rw [keptFields?_eq_mapM] at hfields
      refine .object fun g hg => ?_
      obtain ⟨f, hf, hkept⟩ := exists_mem_of_mapM_eq_some hfields (Table.mem_of_mem_ofList hg)
      obtain ⟨w, hw, rfl⟩ := Option.map_eq_some_iff.mp hkept
      exact ih f hf hw
  | unpaired => cases h

/-- What is kept of a value that was read is kept as it is if its numbers are. -/
theorem kept?_of_kept? {v w : Json} (hv : v.Numbers Decimal.IsFormed) {room : Nat}
    (h : v.kept? room = some w) (hw : w.Numbers Decimal.IsSettled) :
    w.kept? room = some w := by
  -- What is kept is nested as deep as the value, so the same room is enough for it.
  induction hv generalizing room w with
  | null | bool b | text s =>
    cases h
    rfl
  | number _ =>
    obtain ⟨m, -, rfl⟩ := Option.map_eq_some_iff.mp h
    cases hw with
    | number hm => exact congrArg (Option.map Json.number) hm
  | @list items _ ih =>
    rw [kept?] at h
    split at h
    · cases h
    next hroom =>
      obtain ⟨kept, hkept, rfl⟩ := Option.map_eq_some_iff.mp h
      rw [keptItems?_eq_mapM] at hkept
      cases hw with
      | list hw =>
        have hsame : kept.mapM (kept? (room - 1)) = some (kept.map id) := by
          refine mapM_eq_some_of_forall fun w hmem => ?_
          obtain ⟨v, hv, hvw⟩ := exists_mem_of_mapM_eq_some hkept hmem
          exact ih v hv hvw (hw w hmem)
        rw [kept?, if_neg hroom, keptItems?_eq_mapM, hsame, List.map_id]
        rfl
  | @object fields _ ih =>
    rw [kept?] at h
    split at h
    · cases h
    next hroom =>
      obtain ⟨kept, hkept, rfl⟩ := Option.map_eq_some_iff.mp h
      rw [keptFields?_eq_mapM] at hkept
      cases hw with
      | object hw =>
        have hsame : (Table.ofList kept).entries.mapM
              (fun f => (kept? (room - 1) f.2).map (f.1, ·))
            = some ((Table.ofList kept).entries.map id) := by
          refine mapM_eq_some_of_forall fun g hmem => ?_
          obtain ⟨f, hf, hfg⟩ := exists_mem_of_mapM_eq_some hkept (Table.mem_of_mem_ofList hmem)
          obtain ⟨w, hvw, rfl⟩ := Option.map_eq_some_iff.mp hfg
          exact congrArg (Option.map (f.1, ·)) (ih f hf hvw (hw _ hmem))
        rw [kept?, if_neg hroom, keptFields?_eq_mapM, hsame, List.map_id, Option.map_some,
          Table.ofList_entries]
  | unpaired => cases h

theorem isNull_of_kept? {v w : Json} {room : Nat} (h : v.kept? room = some w)
    (hv : v.isNull = false) : w.isNull = false := by
  cases v with
  | null => cases hv
  | bool b | text s =>
    cases h
    rfl
  | number n =>
    obtain ⟨m, -, rfl⟩ := Option.map_eq_some_iff.mp h
    rfl
  | list items | object fields =>
    rw [kept?] at h
    split at h
    · cases h
    · obtain ⟨kept, -, rfl⟩ := Option.map_eq_some_iff.mp h
      rfl
  | unpaired => cases h

end Json

end CordonWatch
