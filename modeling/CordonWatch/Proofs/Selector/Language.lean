import CordonWatch.Selector.Basic
import Mathlib.Computability.RegularExpressions

/-!
# The languages of names, prefixes and keys

The parser checks a name by its two ends and by each of its characters, and a prefix by
its parts between dots. Here both are said as regular languages, by the expressions one
would write down for them, with bounds on the number of bytes (`IsLabelName`,
`IsDomainPrefix`); a key is a name, or a prefix, a slash and a name (`IsLabelKey`). The
checks accept exactly these texts: `isName_iff`, `isKeyPrefix_iff`, `checkKey_eq_ok_iff`.

A text with characters of one class at both ends and of a wider class between is a
regular language for any two classes (`IsClass.mem_enclosed_iff`). Names are one case of
it, the labels of a prefix another.

No part of a key but the slash itself contains a slash. So of several ways to cut a key
at a slash none but the first can be the right one, and that is where the parser cuts.
-/

namespace CordonWatch.Selector

/-! ### Classes of characters -/

/-- Matches one character from `first` to `last`. -/
def oneFrom (first last : Char) : RegularExpression Char :=
  ((List.range' first.toNat (last.toNat + 1 - first.toNat)).map fun n => .char (Char.ofNat n)).sum

/-- The expression matches the texts of one character of a class, and no others. -/
def IsClass (r : RegularExpression Char) (p : Char → Bool) : Prop :=
  ∀ w, w ∈ r.matches' ↔ ∃ c, w = [c] ∧ p c = true

theorem mem_sum_iff {α : Type} (f : α → RegularExpression Char) (l : List α) (w : List Char) :
    w ∈ (l.map f).sum.matches' ↔ ∃ x ∈ l, w ∈ (f x).matches' := by
  induction l with
  | nil =>
    constructor
    · exact fun h => absurd h (Set.notMem_empty w)
    · rintro ⟨x, hx, -⟩
      exact absurd hx List.not_mem_nil
  | cons x rest ih =>
    rw [List.map_cons, List.sum_cons, RegularExpression.matches'_add, Language.mem_add, ih]
    simp

/-- A range of code points below the surrogates is a class. -/
theorem isClass_oneFrom (first last : Char) (h : last.toNat < 0xd800) :
    IsClass (oneFrom first last) fun c => first ≤ c && c ≤ last := by
  have hle : ∀ a b : Char, a ≤ b ↔ a.toNat ≤ b.toNat := fun a b =>
    Char.le_def.trans UInt32.le_iff_toNat_le
  intro w
  unfold oneFrom
  rw [mem_sum_iff]
  simp only [List.mem_range'_1, Bool.and_eq_true, decide_eq_true_eq, hle]
  constructor
  · rintro ⟨n, ⟨hfirst, hlast⟩, hw⟩
    have hvalid : (Char.ofNat n).toNat = n := by
      rw [Char.ofNat, dif_pos (Or.inl (by omega))]
      rfl
    refine ⟨Char.ofNat n, hw, ?_⟩
    rw [hvalid]
    omega
  · rintro ⟨c, rfl, hfirst, hlast⟩
    refine ⟨c.toNat, ⟨hfirst, by omega⟩, ?_⟩
    rw [Char.ofNat_toNat]
    rfl

theorem isClass_char (c : Char) : IsClass (.char c) fun d => d == c := by
  intro w
  constructor
  · intro hw
    exact ⟨c, hw, beq_self_eq_true c⟩
  · rintro ⟨d, rfl, hd⟩
    rw [eq_of_beq hd]
    rfl

section

variable {r s ends inner : RegularExpression Char} {p q : Char → Bool}

theorem IsClass.add (hr : IsClass r p) (hs : IsClass s q) :
    IsClass (r + s) fun c => p c || q c := by
  intro w
  rw [RegularExpression.matches'_add, Language.mem_add, hr w, hs w]
  simp only [Bool.or_eq_true]
  constructor
  · rintro (⟨c, hw, hc⟩ | ⟨c, hw, hc⟩)
    · exact ⟨c, hw, Or.inl hc⟩
    · exact ⟨c, hw, Or.inr hc⟩
  · rintro ⟨c, hw, hc | hc⟩
    · exact Or.inl ⟨c, hw, hc⟩
    · exact Or.inr ⟨c, hw, hc⟩

theorem IsClass.congr (hr : IsClass r p) (hpq : ∀ c, p c = q c) : IsClass r q :=
  (funext hpq : p = q) ▸ hr

/-- Repeated, a class matches the texts of its characters, of any length. -/
theorem IsClass.mem_star_iff (hr : IsClass r p) (w : List Char) :
    w ∈ r.star.matches' ↔ ∀ c ∈ w, p c = true := by
  rw [RegularExpression.matches'_star, Language.mem_kstar]
  constructor
  · rintro ⟨parts, rfl, hparts⟩ c hc
    obtain ⟨part, hpart, hc⟩ := List.mem_flatten.mp hc
    obtain ⟨d, rfl, hd⟩ := (hr part).mp (hparts part hpart)
    rwa [List.mem_singleton.mp hc]
  · intro hw
    refine ⟨w.map fun c => [c], ?_, List.forall_mem_map.mpr fun c hc => ?_⟩
    · rw [← List.flatMap_def, List.flatMap_singleton']
    · exact (hr [c]).mpr ⟨c, rfl, hw c hc⟩

/-- Matches a text with `ends` at both ends, which may be the same, and `inner` between. -/
def enclosed (ends inner : RegularExpression Char) : RegularExpression Char :=
  ends * (1 + inner.star * ends)

/-- A text has one class at both ends and a wider one between if it has the one class at
both ends and consists of the wider one. -/
theorem IsClass.mem_enclosed_iff (hends : IsClass ends p) (hinner : IsClass inner q)
    (hpq : ∀ c, p c = true → q c = true) (w : List Char) :
    w ∈ (enclosed ends inner).matches' ↔ bothEnds p w = true ∧ ∀ c ∈ w, q c = true := by
  unfold enclosed bothEnds
  rw [RegularExpression.matches'_mul, Language.mem_mul, Bool.and_eq_true]
  constructor
  · rintro ⟨front, hfront, rest, hrest, rfl⟩
    obtain ⟨c, rfl, hc⟩ := (hends front).mp hfront
    rcases hrest with hnone | hmore
    · obtain rfl : rest = [] := hnone
      simpa [hc] using hpq c hc
    · obtain ⟨middle, hmiddle, back, hback, rfl⟩ := Language.mem_mul.mp hmore
      obtain ⟨d, rfl, hd⟩ := (hends back).mp hback
      have hall := (hinner.mem_star_iff middle).mp hmiddle
      refine ⟨⟨hc, ?_⟩, ?_⟩
      · rw [List.singleton_append, ← List.cons_append, List.getLast?_concat]
        exact hd
      · intro e he
        simp only [List.singleton_append, List.mem_cons, List.mem_append, List.not_mem_nil,
          or_false] at he
        rcases he with rfl | he | rfl
        · exact hpq e hc
        · exact hall e he
        · exact hpq e hd
  · rintro ⟨⟨hhead, hlast⟩, hall⟩
    cases w with
    | nil => cases hhead
    | cons c rest =>
      refine ⟨[c], (hends [c]).mpr ⟨c, rfl, hhead⟩, rest, ?_, rfl⟩
      rcases List.eq_nil_or_concat rest with rfl | ⟨middle, d, rfl⟩
      · exact Or.inl rfl
      · rw [List.concat_eq_append] at hlast hall ⊢
        rw [← List.cons_append, List.getLast?_concat] at hlast
        refine Or.inr (Language.mem_mul.mpr ⟨middle, ?_, [d], (hends [d]).mpr ⟨d, rfl, hlast⟩, rfl⟩)
        refine (hinner.mem_star_iff middle).mpr fun e he => hall e ?_
        exact List.mem_cons_of_mem _ (List.mem_append_left _ he)

end

/-! ### Names -/

/-- The letters of both cases and the digits. -/
def alphanumeric : RegularExpression Char := oneFrom 'A' 'Z' + oneFrom 'a' 'z' + oneFrom '0' '9'

/-- The expression `[A-Za-z0-9]([-A-Za-z0-9_.]*[A-Za-z0-9])?`. -/
def nameExpr : RegularExpression Char :=
  enclosed alphanumeric (.char '-' + alphanumeric + .char '_' + .char '.')

/-- A name of a label: one to 63 bytes that match the expression for names. -/
def IsLabelName (s : String) : Prop :=
  1 ≤ s.utf8ByteSize ∧ s.utf8ByteSize ≤ 63 ∧ s.toList ∈ nameExpr.matches'

theorem isUpper_eq (c : Char) : c.isUpper = decide (c.val ≥ 'A'.val ∧ c.val ≤ 'Z'.val) := rfl

theorem isLower_eq (c : Char) :
    c.isLower = (decide (c.val ≥ 'a'.val) && decide (c.val ≤ 'z'.val)) := rfl

theorem isAlphanum_eq (c : Char) : c.isAlphanum = (c.isUpper || c.isLower || c.isDigit) := rfl

theorem isClass_alphanumeric : IsClass alphanumeric Char.isAlphanum := by
  refine (((isClass_oneFrom 'A' 'Z' (by decide)).add (isClass_oneFrom 'a' 'z' (by decide))).add
    (isClass_oneFrom '0' '9' (by decide))).congr fun c => ?_
  simp [isAlphanum_eq, isUpper_eq, isLower_eq, Char.isDigit, Char.le_def]

theorem isClass_nameChar :
    IsClass (.char '-' + alphanumeric + .char '_' + .char '.') isNameChar := by
  refine ((((isClass_char '-').add isClass_alphanumeric).add (isClass_char '_')).add
    (isClass_char '.')).congr fun c => ?_
  unfold isNameChar
  rw [Bool.or_comm (c == '-')]

theorem mem_nameExpr_iff (w : List Char) :
    w ∈ nameExpr.matches' ↔ bothEnds Char.isAlphanum w = true ∧ w.all isNameChar = true := by
  rw [List.all_eq_true]
  refine isClass_alphanumeric.mem_enclosed_iff isClass_nameChar (fun c hc => ?_) w
  simp [isNameChar, hc]

theorem one_le_utf8ByteSize {s : String} (h : s.toList ≠ []) : 1 ≤ s.utf8ByteSize := by
  have hne : s.utf8ByteSize ≠ 0 := fun hzero =>
    h (String.toList_eq_nil_iff.mpr (String.utf8ByteSize_eq_zero_iff.mp hzero))
  omega

/-- What passes for a name is a name. -/
theorem isName_iff (s : String) : isName s = true ↔ IsLabelName s := by
  unfold isName IsLabelName maxNameBytes
  rw [Bool.and_eq_true, Bool.and_eq_true, decide_eq_true_eq, and_assoc, mem_nameExpr_iff]
  refine ⟨fun h => ⟨one_le_utf8ByteSize fun hnil => ?_, h⟩, fun h => h.2⟩
  have hends := h.2.1
  rw [hnil] at hends
  cases hends

/-! ### Prefixes -/

/-- The small letters and the digits. -/
def lowerAlphanumeric : RegularExpression Char := oneFrom 'a' 'z' + oneFrom '0' '9'

/-- The expression `[a-z0-9]([-a-z0-9]*[a-z0-9])?` for one label of a prefix. -/
def domainLabelExpr : RegularExpression Char :=
  enclosed lowerAlphanumeric (.char '-' + lowerAlphanumeric)

/-- One label, and any number of others, each after a dot. -/
def domainExpr : RegularExpression Char :=
  domainLabelExpr * (.char '.' * domainLabelExpr).star

/-- A prefix of a key: at most 253 bytes that match the expression for domains. -/
def IsDomainPrefix (s : String) : Prop :=
  s.utf8ByteSize ≤ 253 ∧ s.toList ∈ domainExpr.matches'

theorem isClass_lowerAlphanumeric :
    IsClass lowerAlphanumeric fun c => c.isLower || c.isDigit := by
  refine ((isClass_oneFrom 'a' 'z' (by decide)).add (isClass_oneFrom '0' '9' (by decide))).congr
    fun c => ?_
  simp [isLower_eq, Char.isDigit, Char.le_def]

theorem isClass_domainChar : IsClass (.char '-' + lowerAlphanumeric) isDomainChar := by
  refine ((isClass_char '-').add isClass_lowerAlphanumeric).congr fun c => ?_
  unfold isDomainChar
  rw [Bool.or_comm (c == '-')]

/-- A character that may stand in a label and is no hyphen is a small letter or a digit. -/
theorem isAlphanum_iff_of_isDomainChar {c : Char} (h : isDomainChar c = true) :
    c.isAlphanum = true ↔ (c.isLower || c.isDigit) = true := by
  unfold isDomainChar at h
  simp only [isAlphanum_eq, Bool.or_eq_true] at h ⊢
  rcases h with (h | h) | h
  · simp [h]
  · simp [h]
  · rw [eq_of_beq h]
    decide

/-- Among characters of a label the two ends are told apart from a hyphen alone. -/
theorem bothEnds_congr {p q : Char → Bool} {w : List Char} (h : ∀ c ∈ w, p c = true ↔ q c = true) :
    bothEnds p w = true ↔ bothEnds q w = true := by
  unfold bothEnds
  cases w with
  | nil => rfl
  | cons c rest =>
    rw [List.head?_cons, List.getLast?_eq_some_getLast (List.cons_ne_nil c rest), Option.any_some,
      Option.any_some, Option.any_some, Option.any_some, Bool.and_eq_true, Bool.and_eq_true,
      h c (List.mem_cons_self ..), h _ (List.getLast_mem _)]

theorem mem_domainLabelExpr_iff (w : List Char) :
    w ∈ domainLabelExpr.matches' ↔ isDomainLabel w = true := by
  have henclosed := isClass_lowerAlphanumeric.mem_enclosed_iff isClass_domainChar
    (fun c hc => by unfold isDomainChar; rw [hc, Bool.true_or]) w
  unfold domainLabelExpr isDomainLabel
  rw [henclosed, Bool.and_eq_true, List.all_eq_true]
  refine and_congr_left fun hall => (bothEnds_congr fun c hc => ?_).symm
  exact isAlphanum_iff_of_isDomainChar (hall c hc)

/-- Parts with dots between them are a first part and others that follow a dot each. -/
theorem intercalate_cons (first : List Char) (rest : List (List Char)) :
    ['.'].intercalate (first :: rest) = first ++ (rest.map ('.' :: ·)).flatten := by
  induction rest generalizing first with
  | nil => simp
  | cons second rest ih => simp [List.intercalate_cons_cons, ih]

theorem mem_domainExpr_iff (w : List Char) :
    w ∈ domainExpr.matches' ↔ ∃ first rest, w = ['.'].intercalate (first :: rest) ∧
      ∀ part ∈ first :: rest, isDomainLabel part = true := by
  have hpart : ∀ part, part ∈ (RegularExpression.char '.' * domainLabelExpr).matches' ↔
      ∃ label, part = '.' :: label ∧ isDomainLabel label = true := by
    intro part
    rw [RegularExpression.matches'_mul, Language.mem_mul]
    constructor
    · rintro ⟨dot, rfl, label, hlabel, rfl⟩
      exact ⟨label, rfl, (mem_domainLabelExpr_iff label).mp hlabel⟩
    · rintro ⟨label, rfl, hlabel⟩
      exact ⟨['.'], rfl, label, (mem_domainLabelExpr_iff label).mpr hlabel, rfl⟩
  unfold domainExpr
  rw [RegularExpression.matches'_mul, Language.mem_mul]
  simp only [intercalate_cons, List.forall_mem_cons]
  constructor
  · rintro ⟨first, hfirst, more, hmore, rfl⟩
    rw [RegularExpression.matches'_star, Language.mem_kstar] at hmore
    obtain ⟨parts, rfl, hparts⟩ := hmore
    refine ⟨first, parts.map List.tail, ?_, (mem_domainLabelExpr_iff first).mp hfirst, ?_⟩
    · have hdots : (parts.map List.tail).map ('.' :: ·) = parts := by
        rw [List.map_map]
        refine (List.map_congr_left fun part hmem => ?_).trans (List.map_id parts)
        obtain ⟨label, rfl, -⟩ := (hpart part).mp (hparts part hmem)
        rfl
      rw [hdots]
    · refine List.forall_mem_map.mpr fun part hmem => ?_
      obtain ⟨label, rfl, hlabel⟩ := (hpart part).mp (hparts part hmem)
      exact hlabel
  · rintro ⟨first, rest, rfl, hfirst, hrest⟩
    refine ⟨first, (mem_domainLabelExpr_iff first).mpr hfirst, _, ?_, rfl⟩
    rw [RegularExpression.matches'_star, Language.mem_kstar]
    refine ⟨_, rfl, List.forall_mem_map.mpr fun label hlabel => ?_⟩
    exact (hpart _).mpr ⟨label, rfl, hrest label hlabel⟩

/-- No label has a dot in it, so a domain is cut at its dots into the labels that it
was put together from. -/
theorem isDomain_iff (w : List Char) : isDomain w = true ↔ w ∈ domainExpr.matches' := by
  unfold isDomain
  rw [mem_domainExpr_iff, List.all_eq_true]
  constructor
  · intro h
    have hne : w.splitOn '.' ≠ [] := List.splitOnP_ne_nil _ w
    obtain ⟨first, rest, hsplit⟩ := List.exists_cons_of_ne_nil hne
    refine ⟨first, rest, ?_, hsplit ▸ h⟩
    rw [← hsplit, List.intercalate_splitOn]
  · rintro ⟨first, rest, rfl, hparts⟩
    rw [List.splitOn_intercalate _ (fun part hpart hdot => ?_) (List.cons_ne_nil _ _)]
    · exact hparts
    · have hall := hparts part hpart
      rw [isDomainLabel, Bool.and_eq_true, List.all_eq_true] at hall
      exact absurd (hall.2 '.' hdot) (by decide)

/-- What passes for a prefix is a prefix. -/
theorem isKeyPrefix_iff (s : String) : isKeyPrefix s = true ↔ IsDomainPrefix s := by
  unfold isKeyPrefix IsDomainPrefix maxPrefixBytes
  rw [Bool.and_eq_true, decide_eq_true_eq, isDomain_iff]

/-! ### Keys -/

/-- A key of a label: a name, or a prefix, a slash and a name. -/
def IsLabelKey (key : String) : Prop :=
  IsLabelName key ∨ ∃ pre name, key = pre ++ "/" ++ name ∧ IsDomainPrefix pre ∧ IsLabelName name

theorem IsLabelName.no_slash {s : String} (h : IsLabelName s) : '/' ∉ s.toList := by
  intro hslash
  have hall := ((mem_nameExpr_iff _).mp h.2.2).2
  rw [List.all_eq_true] at hall
  exact absurd (hall '/' hslash) (by decide)

theorem IsDomainPrefix.no_slash {s : String} (h : IsDomainPrefix s) : '/' ∉ s.toList := by
  intro hslash
  obtain ⟨first, rest, hs, hparts⟩ := (mem_domainExpr_iff _).mp h.2
  have hnone : ∀ part ∈ first :: rest, '/' ∉ part := by
    intro part hpart hmem
    have hall := hparts part hpart
    rw [isDomainLabel, Bool.and_eq_true, List.all_eq_true] at hall
    exact absurd (hall.2 '/' hmem) (by decide)
  obtain ⟨hfirst, hrest⟩ := List.forall_mem_cons.mp hnone
  rw [hs, intercalate_cons, List.mem_append] at hslash
  rcases hslash with hmem | hmem
  · exact hfirst hmem
  · obtain ⟨dotted, hdotted, hmem⟩ := List.mem_flatten.mp hmem
    obtain ⟨part, hpart, rfl⟩ := List.mem_map.mp hdotted
    rcases List.mem_cons.mp hmem with hdot | hmem
    · exact absurd hdot (by decide)
    · exact hrest part hpart hmem

/-- A key without a slash is all name. -/
theorem splitKey_of_no_slash {key : String} (h : '/' ∉ key.toList) :
    splitKey key = (none, key) := by
  have hall : ∀ c ∈ key.toList, (c != '/') = true := by
    intro c hc
    exact bne_iff_ne.mpr fun he => h (he ▸ hc)
  have hrest : key.toList.dropWhile (· != '/') = [] := by
    simpa using @List.dropWhile_append_of_pos _ _ _ [] hall
  unfold splitKey
  dsimp only
  rw [hrest]

/-- A key is cut at the slash that has none before it. -/
theorem splitKey_append {pre name : String} (h : '/' ∉ pre.toList) :
    splitKey (pre ++ "/" ++ name) = (some pre, name) := by
  have hall : ∀ c ∈ pre.toList, (c != '/') = true := by
    intro c hc
    exact bne_iff_ne.mpr fun he => h (he ▸ hc)
  have hkey : (pre ++ "/" ++ name).toList = pre.toList ++ '/' :: name.toList := by
    rw [String.toList_append, String.toList_append, List.append_assoc]
    rfl
  have hrest : (pre.toList ++ '/' :: name.toList).dropWhile (· != '/') = '/' :: name.toList := by
    rw [List.dropWhile_append_of_pos hall]
    rfl
  have hfront : (pre.toList ++ '/' :: name.toList).takeWhile (· != '/') = pre.toList := by
    rw [List.takeWhile_append_of_pos hall]
    exact List.append_nil _
  unfold splitKey
  dsimp only
  rw [hkey, hrest, hfront]
  dsimp only
  rw [String.ofList_toList, String.ofList_toList]

/-- A key has a slash, and then a first one, or it has none. -/
theorem slash_cases (key : String) :
    '/' ∉ key.toList ∨ ∃ pre name, '/' ∉ pre.toList ∧ key = pre ++ "/" ++ name := by
  by_cases h : '/' ∈ key.toList
  · obtain ⟨pre, name, hkey, hpre⟩ := List.eq_append_cons_of_mem h
    refine Or.inr ⟨String.ofList pre, String.ofList name, by rwa [String.toList_ofList], ?_⟩
    apply String.toList_injective
    simp [hkey]
  · exact Or.inl h

/-- What is checked first has to pass, and then the rest. -/
theorem unless_eq_ok_iff {passes : Bool} {defect : Defect} {rest : Except Defect Unit} :
    (if !passes then .error defect else rest) = .ok () ↔ passes = true ∧ rest = .ok () := by
  cases passes with
  | false => simp
  | true => simp

/-- The keys that pass are the keys of labels. -/
theorem checkKey_eq_ok_iff (key : String) : checkKey key = .ok () ↔ IsLabelKey key := by
  rcases slash_cases key with hnone | ⟨pre, name, hpre, rfl⟩
  · have hname : IsLabelKey key ↔ IsLabelName key := by
      refine ⟨fun h => h.resolve_right ?_, Or.inl⟩
      rintro ⟨pre, name, rfl, -, -⟩
      exact hnone (by simp)
    rw [checkKey, splitKey_of_no_slash hnone, hname, ← isName_iff]
    dsimp only
    rw [unless_eq_ok_iff, and_iff_left rfl]
  · have hparts : IsLabelKey (pre ++ "/" ++ name) ↔ IsDomainPrefix pre ∧ IsLabelName name := by
      constructor
      · rintro (h | ⟨pre', name', hkey, hpre', hname'⟩)
        · exact absurd (show '/' ∈ (pre ++ "/" ++ name).toList by simp) h.no_slash
        · -- There is one way only to cut the key at its first slash.
          have hsplit := @splitKey_append pre name hpre
          rw [hkey, splitKey_append hpre'.no_slash] at hsplit
          obtain ⟨hpre, hname⟩ := Prod.mk.inj hsplit
          exact ⟨Option.some.inj hpre ▸ hpre', hname ▸ hname'⟩
      · rintro ⟨hpre, hname⟩
        exact Or.inr ⟨pre, name, rfl, hpre, hname⟩
    rw [checkKey, splitKey_append hpre, hparts, ← isKeyPrefix_iff, ← isName_iff]
    dsimp only
    rw [unless_eq_ok_iff, unless_eq_ok_iff, and_iff_left rfl]

end CordonWatch.Selector
