import CordonWatch.Proofs.Json.Scalars
import CordonWatch.Proofs.Steps

/-!
# Values that are read back

A value that was written is read back (`read_render`), unless a text or a name in it is
unpaired or a number in it claims to be an integer and is none (`IsWritable`).

It is read back before anything that may come behind it, and with at least as many steps
as it has characters (`Returns`). The items of a list and the fields of a record are read
one after the other, each with what comes behind it, so both go by induction on the list
(`readItems_map_render`, `readFields_map_renderField`), and the value by induction on how
it is built (`returns_of_isWritable`).
-/

namespace CordonWatch.Json

/-- A value that can be written: nothing in it is unpaired, and its numbers are as they
are written. -/
inductive IsWritable : Json → Prop
  | null : IsWritable .null
  | bool (b : Bool) : IsWritable (.bool b)
  | number {n : Decimal} (h : n.IsFormed) : IsWritable (.number n)
  | text (s : String) : IsWritable (.text s)
  | list {items : List Json} (h : ∀ v ∈ items, IsWritable v) : IsWritable (.list items)
  | object {fields : List (String × Json)} (h : ∀ f ∈ fields, IsWritable f.2) :
      IsWritable (.object fields)

theorem renderItems_eq_map (items : List Json) : renderItems items = items.map render := by
  induction items with
  | nil => rfl
  | cons v rest ih => rw [renderItems, ih]; rfl

/-- A field as it is written. -/
def renderField (f : String × Json) : String := renderText f.1 ++ ":" ++ render f.2

theorem renderFields_eq_map (fields : List (String × Json)) :
    renderFields fields = fields.map renderField := by
  induction fields with
  | nil => rfl
  | cons f rest ih => rw [renderFields, ih]; rfl

/-- The characters that a value may begin with. -/
def firstChars : List Char :=
  ['n', 't', 'f', '"', '[', '{', '-', '0', '1', '2', '3', '4', '5', '6', '7', '8', '9']

theorem mem_firstChars_of_isDigit {c : Char} (h : c.isDigit = true) : c ∈ firstChars := by
  have hdigits : ∀ n < 58, 48 ≤ n → Char.ofNat n ∈ firstChars := by decide
  have hrange := Text.toNat_of_isDigit h
  rw [← Char.ofNat_toNat c]
  exact hdigits c.toNat (by omega) hrange.1

/-- Neither a blank nor a closing bracket is skipped in front of a value. -/
theorem not_blank_of_mem_firstChars {c : Char} (h : c ∈ firstChars) :
    c ∉ [' ', '\t', '\n', '\r'] ∧ c ≠ ']' := by
  have hall : ∀ c ∈ firstChars, c ∉ [' ', '\t', '\n', '\r'] ∧ c ≠ ']' := by simp [firstChars]
  exact hall c h

theorem skipBlanks_cons {c : Char} (h : c ∉ [' ', '\t', '\n', '\r']) (cs : List Char) :
    skipBlanks (c :: cs) = c :: cs := by
  unfold skipBlanks
  split
  · simp_all
  · simp_all
  · simp_all
  · simp_all
  · rfl

theorem exists_renderNumber_eq_cons (n : Decimal) :
    ∃ c cs, (renderNumber n).toList = c :: cs ∧ (c = '-' ∨ c.isDigit = true) := by
  rw [← List.append_nil (renderNumber n).toList, toList_renderNumber]
  cases n.negative with
  | true => exact ⟨'-', _, rfl, Or.inl rfl⟩
  | false =>
    obtain ⟨d, ds, hds⟩ := List.exists_cons_of_ne_nil
      (Nat.toDigits_ne_nil (n := n.digits / 10 ^ n.places) (b := 10))
    rw [hds]
    exact ⟨d, _, rfl, Or.inr (Text.isDigit_of_mem_toDigits (hds ▸ List.mem_cons_self))⟩

theorem exists_render_eq_cons {v : Json} (hv : v.IsWritable) :
    ∃ c cs, (render v).toList = c :: cs ∧ c ∈ firstChars := by
  cases hv with
  | null => exact ⟨'n', _, rfl, by decide⟩
  | bool b =>
    cases b with
    | true => exact ⟨'t', _, rfl, by decide⟩
    | false => exact ⟨'f', _, rfl, by decide⟩
  | @number n hn =>
    obtain ⟨c, cs, hcs, hc⟩ := exists_renderNumber_eq_cons n
    refine ⟨c, cs, hcs, ?_⟩
    obtain rfl | hc := hc
    · decide
    · exact mem_firstChars_of_isDigit hc
  | text s =>
    rw [render, ← List.append_nil (renderText s).toList, toList_renderText]
    exact ⟨'"', _, rfl, by decide⟩
  | list h =>
    rw [render, String.toList_append, String.toList_append]
    exact ⟨'[', _, rfl, by decide⟩
  | object h =>
    rw [render, String.toList_append, String.toList_append]
    exact ⟨'{', _, rfl, by decide⟩

theorem readValue_number {c : Char} (h : c = '-' ∨ c.isDigit = true) (fuel : Nat)
    (cs : List Char) : readValue (fuel + 1) (c :: cs)
      = (readNumber (c :: cs)).map fun (n, rest) => (.number n, rest) := by
  have hfirst : c ∈ firstChars := by
    obtain rfl | h := h
    · decide
    · exact mem_firstChars_of_isDigit h
  have hother : c ∉ ['n', 't', 'f', '"', '[', '{'] := by
    obtain rfl | h := h
    · decide
    · intro hc
      have hnone : ∀ c ∈ ['n', 't', 'f', '"', '[', '{'], c.isDigit = false := by
        simp [Char.isDigit]
      rw [hnone c hc] at h
      exact Bool.false_ne_true h
  unfold readValue
  rw [skipBlanks_cons (not_blank_of_mem_firstChars hfirst).1]
  split
  · simp_all
  · simp_all
  · simp_all
  · simp_all
  · simp_all
  · simp_all
  · rfl

/-- What is read of a written value, before what may come behind it, is the value.
Each step into the value takes up a character, which bounds the recursion. -/
def Returns (v : Json) : Prop :=
  ∀ fuel rest, Closes rest → (render v).length ≤ fuel →
    readValue fuel ((render v).toList ++ rest) = some (v, rest)

theorem Returns.intro {v : Json} (hv : v.IsWritable)
    (h : ∀ fuel rest, Closes rest → (render v).length ≤ fuel + 1 →
      readValue (fuel + 1) ((render v).toList ++ rest) = some (v, rest)) : v.Returns := by
  intro fuel rest hrest hfuel
  obtain ⟨c, cs, hcs, -⟩ := exists_render_eq_cons hv
  have hlength := congrArg List.length hcs
  rw [String.length_toList, List.length_cons] at hlength
  obtain ⟨fuel, rfl⟩ : ∃ n, fuel = n + 1 := ⟨fuel - 1, by omega⟩
  exact h fuel rest hrest hfuel

theorem toList_intercalate_cons (s t : String) (l : List String) :
    (",".intercalate (s :: t :: l)).toList
      = s.toList ++ ',' :: (",".intercalate (t :: l)).toList := by
  rw [String.intercalate_cons_cons, String.toList_append, String.toList_append, List.append_assoc]
  rfl

theorem length_intercalate_cons (s t : String) (l : List String) :
    (",".intercalate (s :: t :: l)).length = s.length + (",".intercalate (t :: l)).length + 1 := by
  rw [← String.length_toList, toList_intercalate_cons, List.length_append, List.length_cons,
    String.length_toList, String.length_toList, Nat.add_assoc]

theorem exists_toList_intercalate (s : String) (l : List String) :
    ∃ more, (",".intercalate (s :: l)).toList = s.toList ++ more := by
  cases l with
  | nil => exact ⟨[], by rw [String.intercalate_singleton, List.append_nil]⟩
  | cons t l => exact ⟨_, toList_intercalate_cons s t l⟩

theorem readItems_map_render {v : Json} {items : List Json}
    (hitems : ∀ w ∈ v :: items, w.Returns) {fuel : Nat} {rest : List Char}
    (hfuel : (",".intercalate ((v :: items).map render)).length < fuel) :
    readItems fuel ((",".intercalate ((v :: items).map render)).toList ++ ']' :: rest)
      = some (v :: items, rest) := by
  -- On the items behind the first one: an empty list is read without this reader.
  induction items generalizing v fuel with
  | nil =>
    obtain ⟨fuel, rfl⟩ : ∃ n, fuel = n + 1 := ⟨fuel - 1, by omega⟩
    rw [List.map_singleton, String.intercalate_singleton] at hfuel ⊢
    have hv := hitems v List.mem_cons_self fuel (']' :: rest) (.bracket rest) (by omega)
    rw [readItems, hv]
    rfl
  | cons w items ih =>
    obtain ⟨fuel, rfl⟩ : ∃ n, fuel = n + 1 := ⟨fuel - 1, by omega⟩
    rw [List.map_cons, List.map_cons, length_intercalate_cons, ← List.map_cons] at hfuel
    rw [List.map_cons, List.map_cons, toList_intercalate_cons, ← List.map_cons,
      List.append_assoc, List.cons_append]
    have hv := hitems v List.mem_cons_self fuel
      (',' :: ((",".intercalate ((w :: items).map render)).toList ++ ']' :: rest))
      (.comma _) (by omega)
    have hrest : readItems fuel ((",".intercalate ((w :: items).map render)).toList ++ ']' :: rest)
        = some (w :: items, rest) :=
      ih (fun u hu => hitems u (List.mem_cons_of_mem v hu)) (by omega)
    rw [readItems, hv]
    show (readItems fuel _).bind _ = _
    rw [hrest]
    rfl

theorem toList_renderField (f : String × Json) (rest : List Char) :
    (renderField f).toList ++ rest
      = '"' :: (quotedChars f.1 ++ '"' :: ':' :: ((render f.2).toList ++ rest)) := by
  unfold renderField
  rw [String.toList_append, String.toList_append, List.append_assoc, List.append_assoc,
    toList_renderText]
  rfl

theorem length_render_lt_renderField (f : String × Json) :
    (render f.2).length < (renderField f).length := by
  rw [← String.length_toList (s := renderField f), ← List.append_nil (renderField f).toList,
    toList_renderField]
  simp only [List.length_cons, List.length_append, String.length_toList]
  omega

/-- Reads what comes behind a field. -/
def readMoreFields (fuel : Nat) (f : Option String × Json) (cs : List Char) :
    Option (List (Option String × Json) × List Char) :=
  match skipBlanks cs with
  | ',' :: rest => do
    let (fields, rest) ← readFields fuel rest
    return (f :: fields, rest)
  | '}' :: rest => return ([f], rest)
  | _ => none

theorem readFields_renderField {f : String × Json} (hf : f.2.Returns) {fuel : Nat}
    (hfuel : (renderField f).length ≤ fuel) {rest : List Char} (hrest : Closes rest) :
    readFields (fuel + 1) ((renderField f).toList ++ rest)
      = readMoreFields fuel (some f.1, f.2) rest := by
  have hshort := length_render_lt_renderField f
  rw [toList_renderField]
  show (readText _).bind _ = _
  rw [readText_quotedChars]
  show (readValue fuel ((render f.2).toList ++ rest)).bind _ = _
  rw [hf fuel rest hrest (by omega)]
  rfl

theorem readFields_map_renderField {f : String × Json} {fields : List (String × Json)}
    (hfields : ∀ g ∈ f :: fields, g.2.Returns) {fuel : Nat} {rest : List Char}
    (hfuel : (",".intercalate ((f :: fields).map renderField)).length < fuel) :
    readFields fuel ((",".intercalate ((f :: fields).map renderField)).toList ++ '}' :: rest)
      = some ((f :: fields).map fun g => (some g.1, g.2), rest) := by
  induction fields generalizing f fuel with
  | nil =>
    obtain ⟨fuel, rfl⟩ : ∃ n, fuel = n + 1 := ⟨fuel - 1, by omega⟩
    rw [List.map_singleton, String.intercalate_singleton] at hfuel ⊢
    rw [readFields_renderField (hfields f List.mem_cons_self) (by omega) (.brace rest)]
    rfl
  | cons g fields ih =>
    obtain ⟨fuel, rfl⟩ : ∃ n, fuel = n + 1 := ⟨fuel - 1, by omega⟩
    rw [List.map_cons, List.map_cons, length_intercalate_cons, ← List.map_cons] at hfuel
    have hrest : readFields fuel
        ((",".intercalate ((g :: fields).map renderField)).toList ++ '}' :: rest)
        = some ((g :: fields).map fun g => (some g.1, g.2), rest) :=
      ih (fun h hh => hfields h (List.mem_cons_of_mem f hh)) (by omega)
    rw [List.map_cons, List.map_cons, toList_intercalate_cons, ← List.map_cons,
      List.append_assoc, List.cons_append,
      readFields_renderField (hfields f List.mem_cons_self) (by omega) (.comma _)]
    show (readFields fuel _).bind _ = _
    rw [hrest]
    rfl

theorem ofFields_map (fields : List (String × Json)) :
    ofFields (fields.map fun f => (some f.1, f.2)) = .object fields := by
  have hnames : (fields.map fun f => (some f.1, f.2)).mapM (fun f => f.1.map (·, f.2))
      = some fields := by
    rw [List.mapM_map]
    refine (mapM_eq_some_of_forall fun f _ => ?_).trans (congrArg some (List.map_id fields))
    rfl
  unfold ofFields
  rw [hnames]

/-- Reads what comes behind the opening bracket of a list. -/
def readList (fuel : Nat) (cs : List Char) : Option (Json × List Char) :=
  match skipBlanks cs with
  | ']' :: rest => some (.list [], rest)
  | rest => (readItems fuel rest).map fun (items, rest) => (.list items, rest)

theorem readValue_list {c : Char} (h : c ∈ firstChars) (fuel : Nat) (cs : List Char) :
    readValue (fuel + 1) ('[' :: c :: cs)
      = (readItems fuel (c :: cs)).map fun (items, rest) => (.list items, rest) := by
  obtain ⟨hblank, hclose⟩ := not_blank_of_mem_firstChars h
  show readList fuel (c :: cs) = _
  unfold readList
  rw [skipBlanks_cons hblank]
  split
  next heq => exact absurd (List.cons.inj heq).1 hclose
  · rfl

theorem readValue_object (fuel : Nat) (cs : List Char) :
    readValue (fuel + 1) ('{' :: '"' :: cs)
      = (readFields fuel ('"' :: cs)).map fun (fields, rest) => (ofFields fields, rest) := rfl

theorem returns_of_isWritable {v : Json} (hv : v.IsWritable) : v.Returns := by
  induction hv with
  | null => exact Returns.intro .null fun _ _ _ _ => rfl
  | bool b =>
    refine Returns.intro (.bool b) fun _ _ _ _ => ?_
    cases b with
    | true => rfl
    | false => rfl
  | @number n hn =>
    refine Returns.intro (.number hn) fun fuel rest hrest _ => ?_
    obtain ⟨c, cs, hcs, hc⟩ := exists_renderNumber_eq_cons n
    have hread := readNumber_renderNumber hn hrest
    rw [hcs, List.cons_append] at hread
    rw [render, hcs, List.cons_append, readValue_number hc, hread]
    rfl
  | text s =>
    refine Returns.intro (.text s) fun fuel rest hrest _ => ?_
    rw [render, toList_renderText]
    show (readText _).map _ = _
    rw [readText_quotedChars]
    rfl
  | @list items h ih =>
    refine Returns.intro (.list h) fun fuel rest hrest hfuel => ?_
    cases items with
    | nil => rfl
    | cons v items =>
      rw [render, renderItems_eq_map, String.length_append, String.length_append,
        show "[".length = 1 from rfl, show "]".length = 1 from rfl] at hfuel
      have hread : readItems fuel
          ((",".intercalate ((v :: items).map render)).toList ++ ']' :: rest)
          = some (v :: items, rest) :=
        readItems_map_render ih (by omega)
      -- The first item must not look like the end of an empty list.
      obtain ⟨c, cs, hcs, hc⟩ := exists_render_eq_cons (h v List.mem_cons_self)
      obtain ⟨more, hmore⟩ := exists_toList_intercalate (render v) (items.map render)
      rw [List.map_cons, hmore, hcs] at hread
      rw [render, renderItems_eq_map, List.map_cons, String.toList_append, String.toList_append,
        hmore, hcs, List.append_assoc, List.append_assoc]
      show readValue (fuel + 1) ('[' :: c :: (cs ++ more ++ ']' :: rest)) = _
      rw [readValue_list hc]
      show (readItems fuel (c :: cs ++ more ++ ']' :: rest)).map _ = _
      rw [hread]
      rfl
  | @object fields h ih =>
    refine Returns.intro (.object h) fun fuel rest hrest hfuel => ?_
    cases fields with
    | nil => rfl
    | cons f fields =>
      rw [render, renderFields_eq_map, String.length_append, String.length_append,
        show "\x7b".length = 1 from rfl, show "\x7d".length = 1 from rfl] at hfuel
      have hread : readFields fuel
          ((",".intercalate ((f :: fields).map renderField)).toList ++ '}' :: rest)
          = some ((f :: fields).map fun g => (some g.1, g.2), rest) :=
        readFields_map_renderField ih (by omega)
      obtain ⟨more, hmore⟩ := exists_toList_intercalate (renderField f) (fields.map renderField)
      rw [List.map_cons, hmore, List.append_assoc, toList_renderField] at hread
      rw [render, renderFields_eq_map, List.map_cons, String.toList_append, String.toList_append,
        hmore, List.append_assoc, List.append_assoc, List.append_assoc]
      show readValue (fuel + 1) ('{' :: ((renderField f).toList ++ (more ++ '}' :: rest))) = _
      rw [toList_renderField, readValue_object, hread, Option.map_some]
      dsimp only
      rw [ofFields_map]

/-- A value that was written is read back. -/
theorem read_render {v : Json} (hv : v.IsWritable) : read (render v) = some v := by
  have hread := returns_of_isWritable hv (2 * (render v).length + 2) [] .nothing (by omega)
  rw [List.append_nil] at hread
  unfold read
  rw [hread]
  rfl

end CordonWatch.Json
