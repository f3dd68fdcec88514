import CordonWatch.Json.Record
import CordonWatch.Proofs.Json.Kept
import CordonWatch.Proofs.Table

/-!
# Readers and writers that agree

A record has a reader, which may refuse a value, and a writer. They agree on what the
reader gives if that can be written, is read back but for what the writer cuts off, and if
the same is written of what is left (`ReadsBack`). Then from the text that is written of
it the reader gives it back (`ReadsBack.decode_render`).

That readers and writers agree on a list, on an optional field or on the fields of a record
follows from that they agree on the parts. In an open record every reader looks for the
fields of its name (`entry?_of_filter`). A closed record is taken apart once, by names or
by places (`fieldAt?`, `getElem?_of_closed?`).

Of any value readers and writers need not agree, so the parts are asked only for what the
reader was given by a value that a text may write (`Given`).
-/

namespace CordonWatch.Json

variable {α : Type}

/-- What a whole text gives to a reader of values. -/
def decode (reader : Json → Option α) (text : String) : Option α := (read text).bind reader

/-- The reader was given it by a value that a text may write. -/
def Given (reader : Json → Option α) (x : α) : Prop :=
  ∃ v, v.Numbers Decimal.IsFormed ∧ reader v = some x

/-- What is written of `x` can be read, and gives `x` but for what is cut off; what is
written of that is the same again. -/
structure ReadsBack (reader : Json → Option α) (writer : α → Json) (cut : α → α) (x : α) :
    Prop where
  writable : (writer x).IsWritable
  notNull : (writer x).isNull = false
  back : reader (writer x) = some (cut x)
  again : writer (cut x) = writer x

section

variable {reader : Json → Option α} {writer : α → Json} {cut : α → α} {x : α}

theorem given_of_decode {text : String} (h : decode reader text = some x) : Given reader x := by
  obtain ⟨v, hv, hx⟩ := Option.bind_eq_some_iff.mp h
  exact ⟨v, numbers_of_read hv, hx⟩

theorem ReadsBack.decode_render (h : ReadsBack reader writer cut x) :
    decode reader (writer x).render = some (cut x) := by
  unfold decode
  rw [read_render h.writable]
  exact h.back

/-! ### Parts -/

theorem readsBack_text (s : String) : ReadsBack asText .text id s :=
  ⟨.text s, rfl, rfl, rfl⟩

theorem readsBack_bool (b : Bool) : ReadsBack asBool .bool id b :=
  ⟨.bool b, rfl, rfl, rfl⟩

theorem readsBack_int {low high i : Int} (h : Given (asIntIn low high) i) :
    ReadsBack (asIntIn low high) int id i := by
  obtain ⟨v, -, hi⟩ := h
  have hrange : (decide (low ≤ i) && decide (i ≤ high)) = true := by
    unfold asIntIn at hi
    split at hi
    · exact (Option.filter_eq_some_iff.mp hi).2
    · cases hi
  refine ⟨.number fun _ => ⟨rfl, rfl⟩, rfl, ?_, rfl⟩
  show (Decimal.ofInt i).toInt?.filter _ = _
  rw [Decimal.toInt?_ofInt, Option.filter_some, if_pos hrange]
  rfl

theorem given_of_listOf {l : List α} (h : Given (listOf reader) l) : ∀ x ∈ l, Given reader x := by
  obtain ⟨v, hv, hl⟩ := h
  cases hv with
  | list hitems =>
    intro x hx
    obtain ⟨w, hw, hread⟩ := exists_mem_of_mapM_eq_some hl hx
    exact ⟨w, hitems w hw, hread⟩
  | _ => cases hl

theorem readsBack_listOf {l : List α} (h : ∀ x ∈ l, ReadsBack reader writer cut x) :
    ReadsBack (listOf reader) (ofList writer) (List.map cut) l := by
  refine ⟨.list ?_, rfl, ?_, ?_⟩
  · exact List.forall_mem_map.mpr fun x hx => (h x hx).writable
  · show (l.map writer).mapM reader = _
    rw [List.mapM_map]
    exact mapM_eq_some_of_forall fun x hx => (h x hx).back
  · unfold ofList
    rw [List.map_map]
    exact congrArg Json.list (List.map_congr_left fun x hx => (h x hx).again)

theorem readsBack_textTable (t : Table String String) :
    ReadsBack textTable ofTextTable id t := by
  have hentries : (t.entries.map fun e => (e.1, Json.text e.2)).mapM
      (fun f => f.2.asText.map fun s => (f.1, s)) = some (t.entries.map id) := by
    rw [List.mapM_map]
    exact mapM_eq_some_of_forall fun _ _ => rfl
  refine ⟨.object ?_, rfl, ?_, rfl⟩
  · exact List.forall_mem_map.mpr fun e _ => .text e.2
  · rw [List.map_id] at hentries
    unfold ofTextTable textTable
    dsimp only
    rw [hentries]
    exact congrArg some t.ofList_entries

theorem readsBack_kept {v w : Json} {room : Nat} (hv : v.Numbers Decimal.IsFormed)
    (hnull : v.isNull = false) (h : v.kept? room = some w) (hw : w.Numbers Decimal.IsSettled) :
    ReadsBack (kept? room) id id w :=
  ⟨isWritable_of_kept? hv h, isNull_of_kept? h hnull, kept?_of_kept? hv h hw, rfl⟩

/-! ### Optional fields -/

theorem optional_of_notNull {v : Json} (h : v.isNull = false) :
    optional reader (some v) = (reader v).map some := by
  cases v with
  | null => cases h
  | _ => rfl

/-- An optional field that is read was there, and was not null. -/
theorem exists_of_optional {field : Option Json} (h : optional reader field = some (some x)) :
    ∃ v, field = some v ∧ v.isNull = false ∧ reader v = some x := by
  cases field with
  | none => cases h
  | some v =>
    cases hnull : v.isNull with
    | true =>
      cases v with
      | null => cases h
      | _ => cases hnull
    | false =>
      rw [optional_of_notNull hnull] at h
      obtain ⟨y, hy, hxy⟩ := Option.map_eq_some_iff.mp h
      cases hxy
      exact ⟨v, rfl, hnull, hy⟩

/-! ### Fields of open records -/

/-- A field that is read was there, and was not null. -/
theorem exists_of_entry? {name : String} {fields : List (String × Json)} {value : Option α}
    (h : entry? name reader fields = some value) :
    ∀ x ∈ value, ∃ f ∈ fields, f.2.isNull = false ∧ reader f.2 = some x := by
  rintro x rfl
  obtain ⟨values, hvalues, hlast⟩ := Option.bind_eq_some_iff.mp h
  have hmem : some x ∈ values :=
    List.mem_of_getLast? (Option.join_eq_some_iff.mp (Option.some.inj hlast))
  obtain ⟨f, hf, hread⟩ := exists_mem_of_mapM_eq_some hvalues hmem
  obtain ⟨v, hv, hnull, hx⟩ := exists_of_optional hread
  cases hv
  exact ⟨f, List.mem_of_mem_filter hf, hnull, hx⟩

/-- A field that is read has a value that was given to the reader. -/
theorem given_of_entry? {name : String} {fields : List (String × Json)} {value : Option α}
    (hfields : ∀ f ∈ fields, f.2.Numbers Decimal.IsFormed)
    (h : entry? name reader fields = some value) : ∀ x ∈ value, Given reader x := by
  intro x hx
  obtain ⟨f, hf, -, hread⟩ := exists_of_entry? h x hx
  exact ⟨f.2, hfields f hf, hread⟩

@[simp] theorem filter_present (name name' : String) (value : Option α) :
    (present name' writer value).filter (fun f => f.1 == name)
      = if name' = name then present name' writer value else [] := by
  cases value with
  | none => simp [present]
  | some x => simp [present, List.filter_cons]

/-- A field is read back that alone has its name. -/
theorem entry?_of_filter {name : String} {fields : List (String × Json)} {value : Option α}
    (h : ∀ x ∈ value, ReadsBack reader writer cut x)
    (hfilter : fields.filter (fun f => f.1 == name) = present name writer value) :
    entry? name reader fields = some (value.map cut) := by
  unfold entry?
  rw [hfilter]
  cases value with
  | none => rfl
  | some x =>
    have hx := h x rfl
    have hread : optional reader (some (writer x)) = some (some (cut x)) := by
      rw [optional_of_notNull hx.notNull, hx.back]
      rfl
    rw [present, List.mapM_cons, hread]
    rfl

/-- An open record is read field by field: this field is read back, and then the others. -/
theorem bind_entry? {β : Type} {name : String} {fields : List (String × Json)} {value : Option α}
    {next : Option α → Option β} {y : β} (h : ∀ x ∈ value, ReadsBack reader writer cut x)
    (hfilter : fields.filter (fun f => f.1 == name) = present name writer value)
    (hnext : next (value.map cut) = some y) : entry? name reader fields >>= next = some y := by
  rw [entry?_of_filter h hfilter, Option.bind_eq_bind, Option.bind_some, hnext]

/-- Fields that can be written. -/
def FieldsWritable (fields : List (String × Json)) : Prop := ∀ f ∈ fields, f.2.IsWritable

theorem FieldsWritable.append {fields fields' : List (String × Json)} (h : FieldsWritable fields)
    (h' : FieldsWritable fields') : FieldsWritable (fields ++ fields') :=
  List.forall_mem_append.mpr ⟨h, h'⟩

theorem fieldsWritable_present {name : String} {value : Option α}
    (h : ∀ x ∈ value, ReadsBack reader writer cut x) :
    FieldsWritable (present name writer value) := by
  cases value with
  | none => exact nofun
  | some x => exact List.forall_mem_singleton.mpr (h x rfl).writable

theorem present_map {name : String} {value : Option α}
    (h : ∀ x ∈ value, ReadsBack reader writer cut x) :
    present name writer (value.map cut) = present name writer value := by
  cases value with
  | none => rfl
  | some x => exact congrArg (fun v => [(name, v)]) (h x rfl).again

/-! ### Fields of closed records -/

/-- The numbers in the fields of a record are those in the record. -/
theorem numbers_of_closed? {p : Decimal → Prop} {names : List String} {v : Json}
    (hv : v.Numbers p) {fields : List (Option Json)} (h : v.closed? names = some fields) :
    ∀ field ∈ fields, ∀ w ∈ field, w.Numbers p := by
  cases hv with
  | @object named hnamed =>
    rw [closed?] at h
    split at h
    · cases h
      intro field hfield w hw
      obtain ⟨name, -, rfl⟩ := List.mem_map.mp hfield
      obtain ⟨before, after, rfl, -⟩ := List.lookup_eq_some_iff.mp hw
      exact hnamed (name, w) (List.mem_append_right before List.mem_cons_self)
    · cases h
  | @list items hitems =>
    rw [closed?] at h
    split at h
    · cases h
      intro field hfield w hw
      obtain hfield | hfield := List.mem_append.mp hfield
      · obtain ⟨item, hitem, rfl⟩ := List.mem_map.mp hfield
        cases hw
        exact hitems w hitem
      · rw [(List.mem_replicate.mp hfield).2] at hw
        cases hw
    · cases h
  | _ => cases h

/-- The field of a closed record that has this name, or this place where the record is
given as a list. -/
def fieldAt? (place : Nat) (name : String) : Json → Option Json
  | .object fields => fields.lookup name
  | .list items => items[place]?
  | _ => none

/-- The fields of a record are those of its names and their places. -/
theorem getElem?_of_closed? {names : List String} {v : Json} {fields : List (Option Json)}
    (h : v.closed? names = some fields) (place : Nat) :
    fields[place]? = names[place]?.map fun name => v.fieldAt? place name := by
  unfold closed? at h
  split at h
  · split at h
    · cases h
      rw [List.getElem?_map]
      rfl
    · cases h
  next items =>
    split at h
    next hcount =>
      cases h
      obtain hplace | hplace : place < items.length ∨ items.length ≤ place := by omega
      · rw [List.getElem?_append_left (by rwa [List.length_map]), List.getElem?_map,
          List.getElem?_eq_getElem (Nat.lt_of_lt_of_le hplace hcount)]
        show _ = some items[place]?
        rw [List.getElem?_eq_getElem hplace]
        rfl
      · rw [List.getElem?_append_right (by rwa [List.length_map]), List.length_map,
          List.getElem?_replicate]
        have hmissing : ∀ name, fieldAt? place name (.list items) = none :=
          fun _ => List.getElem?_eq_none hplace
        simp only [hmissing]
        by_cases hname : place < names.length
        · rw [if_pos (by omega), List.getElem?_eq_getElem hname]
          rfl
        · rw [if_neg (by omega), List.getElem?_eq_none (by omega)]
          rfl
    · cases h
  · cases h

theorem bind_of_required {field : Option Json} (h : required reader field = some x) :
    field.bind reader = some x := by
  cases field with
  | none => cases h
  | some v => exact h

theorem eq_of_defaulted {default : α} {field : Option Json}
    (h : defaulted default reader field = some x) : x = (field.bind reader).getD default := by
  cases field with
  | none =>
    cases h
    rfl
  | some v =>
    have hread : reader v = some x := h
    rw [Option.bind_some, hread]
    rfl

theorem eq_of_optional (hnull : reader .null = none) {field : Option Json} {value : Option α}
    (h : optional reader field = some value) : value = field.bind reader := by
  unfold optional at h
  split at h
  · cases h
    exact hnull.symm
  · cases h
    rfl
  · obtain ⟨x, hx, rfl⟩ := Option.map_eq_some_iff.mp h
    exact hx.symm

theorem given_of_required {field : Option Json} (hfield : ∀ w ∈ field, w.Numbers Decimal.IsFormed)
    (h : required reader field = some x) : Given reader x := by
  cases field with
  | none => cases h
  | some w => exact ⟨w, hfield w rfl, h⟩

/-- A field with a default that a value may give. -/
theorem given_of_defaulted {default : α} (hdefault : Given reader default) {field : Option Json}
    (hfield : ∀ w ∈ field, w.Numbers Decimal.IsFormed)
    (h : defaulted default reader field = some x) : Given reader x := by
  cases field with
  | none =>
    cases h
    exact hdefault
  | some w => exact ⟨w, hfield w rfl, h⟩

theorem given_of_optional {field : Option Json}
    (hfield : ∀ w ∈ field, w.Numbers Decimal.IsFormed) {value : Option α}
    (h : optional reader field = some value) : ∀ x ∈ value, Given reader x := by
  rintro x rfl
  obtain ⟨v, rfl, -, hx⟩ := exists_of_optional h
  exact ⟨v, hfield v rfl, hx⟩

/-- An optional field is read back. -/
theorem optional_map {value : Option α} (h : ∀ x ∈ value, ReadsBack reader writer cut x) :
    optional reader (value.map writer) = some (value.map cut) := by
  cases value with
  | none => rfl
  | some x =>
    have hx := h x rfl
    rw [Option.map_some, optional_of_notNull hx.notNull, hx.back]
    rfl

end

end CordonWatch.Json
