import CordonWatch.Proofs.Text.Digits
import CordonWatch.Proofs.Time.Calendar
import CordonWatch.Time.Rfc3339

/-!
# Instants that are read back

What is written of an instant in whole seconds is read back as that instant in whole
seconds (`read_renderSeconds`), if a text can name the instant at all: its year has to be
in range, and a leap second has to end a minute (`Nameable`). Every instant that is read
from a text, with whatever offset and blanks, is one (`nameable_of_read`), since an offset
has whole minutes.

A reader of digits takes up to a number of them, so what is written in a fixed width is
read back with anything behind it (`readIn_padded`). A year of more than four digits has a
sign, and is read up to the mark behind it (`readYear_renderYear`).
-/

namespace CordonWatch.Instant

/-! ### What a text can name -/

/-- An instant that a text can name: its year is one that a date may have, and it is not
in a leap second unless at the end of a minute. -/
structure Nameable (t : Instant) : Prop where
  year : yearInRange t.date.year = true
  leap : t.nanos < 10 ^ 9 ∨ (t.nanos < 2 * 10 ^ 9 ∧ t.seconds % 60 = 59)

theorem readNanos_lt {cs rest : List Char} {n : Nat} (h : readNanos cs = some (n, rest)) :
    n < 10 ^ 9 := by
  unfold readNanos at h
  split at h
  next more =>
    split at h
    · cases h
    · cases h
      obtain ⟨ds, hds⟩ : ∃ ds, ds = (more.take 9).takeWhile Char.isDigit := ⟨_, rfl⟩
      have hdigits : ∀ c ∈ ds, c.isDigit = true :=
        List.all_eq_true.mp (hds ▸ List.all_takeWhile)
      have hlength : ds.length ≤ 9 :=
        hds ▸ Nat.le_trans (List.takeWhile_prefix _).length_le (List.length_take_le 9 more)
      have hvalue := Text.ofDigits_lt hdigits
      rw [← hds]
      calc Text.ofDigits ds * 10 ^ (9 - ds.length)
          < 10 ^ ds.length * 10 ^ (9 - ds.length) :=
            Nat.mul_lt_mul_of_pos_right hvalue (Nat.pow_pos (by decide))
        _ = 10 ^ 9 := by rw [← Nat.pow_add, Nat.add_sub_cancel' hlength]
  · cases h
    decide

theorem readHoursMinutes_mod {cs rest : List Char} {n : Int}
    (h : readHoursMinutes cs = some (n, rest)) : n % 60 = 0 := by
  unfold readHoursMinutes at h
  split at h
  next a b more =>
    obtain ⟨hours, -, h⟩ := Option.bind_eq_some_iff.mp h
    split at h
    next c d more' =>
      obtain ⟨minutes, -, h⟩ := Option.bind_eq_some_iff.mp h
      split at h
      · cases h
        omega
      · cases h
    · cases h
  · cases h

theorem readOffset_mod {cs rest : List Char} {n : Int} (h : readOffset cs = some (n, rest)) :
    n % 60 = 0 := by
  have hminutes : ∀ {cs n rest}, (readHoursMinutes cs).filter (·.1 < 86400) = some (n, rest) →
      n % 60 = 0 := fun h => readHoursMinutes_mod (Option.filter_eq_some_iff.mp h).1
  have hminus : ∀ {cs n rest}, ((readHoursMinutes cs).filter (·.1 < 86400)).map
      (fun p => (-p.1, p.2)) = some (n, rest) → n % 60 = 0 := by
    intro cs n rest h
    obtain ⟨⟨m, rest'⟩, hm, hn⟩ := Option.map_eq_some_iff.mp h
    cases hn
    have hmod := hminutes hm
    omega
  unfold readOffset at h
  split at h
  · cases h
    rfl
  · cases h
    rfl
  · exact hminutes h
  · exact hminus h
  · exact hminus h
  · split at h
    · cases h
      rfl
    · cases h
  · cases h

theorem readTime_leap {cs rest : List Char} {second nanos : Nat}
    (h : readTime cs = some (second, nanos, rest)) :
    nanos < 10 ^ 9 ∨ (nanos < 2 * 10 ^ 9 ∧ second % 60 = 59) := by
  unfold readTime at h
  simp only [Option.bind_eq_bind, Option.bind_eq_some_iff] at h
  obtain ⟨⟨hour, _⟩, -, _, -, ⟨minute, _⟩, -, _, -, ⟨s, _⟩, -, ⟨n, _⟩, hn, h⟩ := h
  have hlt := readNanos_lt hn
  dsimp only at h
  split at h
  · cases h
    right
    omega
  · cases h
    left
    exact hlt

/-- Drops the mark between date and time. -/
def dropDivider : List Char → Option (List Char)
  | 't' :: rest | 'T' :: rest | ' ' :: rest => some rest
  | _ => none

/-- Reads what comes behind the date and the mark. -/
def readBehind (date : Date) (cs : List Char) : Option Instant := do
  let (second, nanos, cs) ← readTime cs
  let (offset, cs) ← readOffset (skipBlanks cs)
  let t : Instant := ⟨date.toDays * 86400 + second - offset, nanos⟩
  if (skipBlanks cs).isEmpty && yearInRange t.date.year then return t else none

theorem read_eq (s : String) : read s
    = (readDate s.toList).bind fun (date, cs) => (dropDivider cs).bind (readBehind date) := by
  unfold read
  rw [Option.bind_eq_bind]
  congr
  funext ⟨date, cs⟩
  dsimp only
  split
  · rfl
  · rfl
  · rfl
  next hlower hupper hblank =>
    rw [dropDivider.eq_4 cs hlower hupper hblank]
    rfl

theorem nameable_of_read {s : String} {t : Instant} (h : read s = some t) : t.Nameable := by
  rw [read_eq] at h
  obtain ⟨⟨date, cs⟩, -, h⟩ := Option.bind_eq_some_iff.mp h
  obtain ⟨cs', -, h⟩ := Option.bind_eq_some_iff.mp h
  unfold readBehind at h
  obtain ⟨⟨second, nanos, _⟩, htime, h⟩ := Option.bind_eq_some_iff.mp h
  obtain ⟨⟨offset, _⟩, hoffset, h⟩ := Option.bind_eq_some_iff.mp h
  dsimp only at h
  split at h
  next hcond =>
    cases h
    -- An offset of whole minutes leaves the last second of a minute the last one.
    have hleap := readTime_leap htime
    have hminutes := readOffset_mod hoffset
    simp only [Bool.and_eq_true] at hcond
    refine ⟨hcond.2, ?_⟩
    dsimp only
    omega
  · cases h

/-! ### Reading what is written -/

theorem skipBlanks_cons {c : Char} (h : Text.isBlank c = false) (cs : List Char) :
    skipBlanks (c :: cs) = c :: cs :=
  List.dropWhile_cons_of_neg (by simp [h])

theorem isBlank_of_isDigit {c : Char} (h : c.isDigit = true) : Text.isBlank c = false := by
  have hrange := Text.toNat_of_isDigit h
  unfold Text.isBlank
  simp only [Bool.or_eq_false_iff, Bool.and_eq_false_iff, decide_eq_false_iff_not,
    beq_eq_false_iff_ne]
  omega

theorem noDigitAhead_take {rest : List Char} (h : Text.NoDigitAhead rest) (n : Nat) :
    Text.NoDigitAhead (rest.take n) := by
  intro c hc
  cases n with
  | zero => cases hc
  | succ n =>
    cases rest with
    | nil => cases hc
    | cons d rest => exact h c hc

/-- No blanks come before a number. -/
theorem skipBlanks_padded (width n : Nat) (rest : List Char) :
    skipBlanks ((padded width n).toList ++ rest) = (padded width n).toList ++ rest := by
  obtain ⟨d, ds, hds⟩ := List.exists_cons_of_ne_nil (Text.zeroPadded_ne_nil width n)
  have hd : d.isDigit = true := Text.isDigit_of_mem_zeroPadded (hds ▸ List.mem_cons_self)
  unfold padded
  rw [hds]
  exact skipBlanks_cons (isBlank_of_isDigit hd) _

/-- A number is read back if the reader takes all of its digits, and of those behind
them none. -/
theorem readDigits_padded {width most n : Nat} {rest : List Char}
    (hlength : (padded width n).toList.length ≤ most)
    (hrest : Text.NoDigitAhead (rest.take (most - (padded width n).toList.length))) :
    readDigits most ((padded width n).toList ++ rest) = some (n, rest) := by
  have hdigits : ∀ c ∈ (padded width n).toList, c.isDigit = true :=
    fun _ => Text.isDigit_of_mem_zeroPadded
  have hvalue : Text.ofDigits (padded width n).toList = n := Text.ofDigits_zeroPadded width n
  have htaken : (((padded width n).toList ++ rest).take most).takeWhile Char.isDigit
      = (padded width n).toList := by
    rw [List.take_append, List.take_of_length_le hlength]
    exact Text.takeWhile_isDigit hdigits hrest
  unfold readDigits
  rw [skipBlanks_padded]
  dsimp only
  rw [htaken]
  split
  next hnil => exact absurd hnil (Text.zeroPadded_ne_nil width n)
  · rw [hvalue, List.drop_left]

/-- A number of two digits is read back, if it lies between the bounds. -/
theorem readIn_padded {low high n : Nat} (hlow : low ≤ n) (hhigh : n ≤ high) (hsmall : n < 100)
    (rest : List Char) : readIn low high ((padded 2 n).toList ++ rest) = some (n, rest) := by
  have hlength : (padded 2 n).toList.length = 2 := Text.length_zeroPadded (by decide) hsmall
  have hread : readDigits 2 ((padded 2 n).toList ++ rest) = some (n, rest) := by
    refine readDigits_padded (Nat.le_of_eq hlength) ?_
    rw [hlength]
    exact fun _ hnone => nomatch hnone
  unfold readIn
  rw [hread]
  simp [Option.filter, hlow, hhigh]

/-- All digits behind the sign of a year are read. -/
theorem readDigits_year (n : Nat) (rest : List Char) :
    readDigits ((padded 4 n).toList ++ '-' :: rest).length ((padded 4 n).toList ++ '-' :: rest)
      = some (n, '-' :: rest) := by
  refine readDigits_padded ?_ (noDigitAhead_take (Text.noDigitAhead_cons rfl) _)
  rw [List.length_append]
  omega

theorem all_isDigit_take_padded (width n : Nat) (rest : List Char) :
    (((padded width n).toList ++ rest).take 1).all Char.isDigit = true := by
  obtain ⟨d, ds, hds⟩ := List.exists_cons_of_ne_nil (Text.zeroPadded_ne_nil width n)
  have hd : d.isDigit = true := Text.isDigit_of_mem_zeroPadded (hds ▸ List.mem_cons_self)
  unfold padded
  rw [hds]
  simp [hd]

theorem readYear_minus (rest : List Char) : readYear ('-' :: rest)
    = if (rest.take 1).all Char.isDigit then
        (readDigits rest.length rest).map fun (n, rest) => (-(n : Int), rest)
      else none := rfl

theorem readYear_plus (rest : List Char) : readYear ('+' :: rest)
    = if (rest.take 1).all Char.isDigit then
        (readDigits rest.length rest).map fun (n, rest) => ((n : Int), rest)
      else none := rfl

/-- A year is read back before the mark behind it. -/
theorem readYear_renderYear (year : Int) (rest : List Char) :
    readYear ((renderYear year).toList ++ '-' :: rest) = some (year, '-' :: rest) := by
  unfold renderYear
  split
  next hsmall =>
    simp only [Bool.and_eq_true, decide_eq_true_eq] at hsmall
    have hlength : (padded 4 year.toNat).toList.length = 4 :=
      Text.length_zeroPadded (by decide) (by omega)
    -- Four digits are all that are taken without a sign, whatever comes behind them.
    have hread : readDigits 4 ((padded 4 year.toNat).toList ++ '-' :: rest)
        = some (year.toNat, '-' :: rest) := by
      refine readDigits_padded (Nat.le_of_eq hlength) ?_
      rw [hlength]
      exact fun _ hnone => nomatch hnone
    have hunsigned : ∀ {c : Char}, c.isDigit = false → ∀ cs,
        (padded 4 year.toNat).toList ++ '-' :: rest ≠ c :: cs := fun hc cs =>
      Text.append_ne_cons (fun _ => Text.isDigit_of_mem_zeroPadded) (Text.zeroPadded_ne_nil 4 _)
        hc _ cs
    have hvalue : (year.toNat : Int) = year := by omega
    unfold readYear
    rw [skipBlanks_padded]
    split
    next heq => exact absurd heq (hunsigned rfl _)
    next heq => exact absurd heq (hunsigned rfl _)
    · simp only [hread, Option.map_some, hvalue]
  next hlarge =>
    simp only [Bool.and_eq_true, decide_eq_true_eq] at hlarge
    rw [String.toList_append, List.append_assoc]
    split
    next hnegative =>
      have hvalue : -(year.natAbs : Int) = year := by omega
      rw [show "-".toList = ['-'] from rfl, List.singleton_append, readYear_minus,
        if_pos (all_isDigit_take_padded 4 year.natAbs _), readDigits_year]
      simp only [Option.map_some, hvalue]
    next hpositive =>
      have hvalue : (year.natAbs : Int) = year := by omega
      rw [show "+".toList = ['+'] from rfl, List.singleton_append, readYear_plus,
        if_pos (all_isDigit_take_padded 4 year.natAbs _), readDigits_year]
      simp only [Option.map_some, hvalue]

theorem readMark_cons {mark : Char} (h : Text.isBlank mark = false) (rest : List Char) :
    readMark mark (mark :: rest) = some rest := by
  unfold readMark
  rw [skipBlanks_cons h]
  exact if_pos (beq_self_eq_true mark)

/-- A date is read back. -/
theorem readDate_render {date : Date} (hvalid : date.isValid = true)
    (hyear : yearInRange date.year = true) (rest : List Char) :
    readDate ((renderYear date.year).toList ++ '-' :: ((padded 2 date.month).toList
      ++ '-' :: ((padded 2 date.day).toList ++ rest))) = some (date, rest) := by
  have hfields := hvalid
  unfold Date.isValid at hfields
  simp only [Bool.and_eq_true, decide_eq_true_eq] at hfields
  obtain ⟨⟨⟨hmonth, hmonth'⟩, hday⟩, hday'⟩ := hfields
  have hmark : Text.isBlank '-' = false := rfl
  have hlength : Date.daysInMonth date.year date.month ≤ 31 := by
    unfold Date.daysInMonth
    split
    · split <;> decide
    all_goals decide
  have hcond : (date.isValid && yearInRange date.year) = true := by rw [hvalid, hyear]; rfl
  unfold readDate
  simp only [Option.bind_eq_bind, readYear_renderYear, readMark_cons hmark, Option.bind_some,
    readIn_padded hmonth hmonth' (by omega),
    readIn_padded hday (Nat.le_trans hday' hlength) (by omega)]
  exact if_pos hcond

/-- A time of day before the end of the text is read back. A leap second is one. -/
theorem readTime_render {ofDay leap : Nat} (hday : ofDay < 86400)
    (hleap : leap = 0 ∨ (leap = 1 ∧ ofDay % 60 = 59)) (rest : List Char) :
    readTime ((padded 2 (ofDay / 3600)).toList ++ ':' :: ((padded 2 (ofDay / 60 % 60)).toList
      ++ ':' :: ((padded 2 (ofDay % 60 + leap)).toList ++ 'Z' :: rest)))
      = some (ofDay, leap * 10 ^ 9, 'Z' :: rest) := by
  have hmark : Text.isBlank ':' = false := rfl
  have hnanos : readNanos ('Z' :: rest) = some (0, 'Z' :: rest) := rfl
  unfold readTime
  simp only [Option.bind_eq_bind, readMark_cons hmark, Option.bind_some,
    readIn_padded (Nat.zero_le _) (show ofDay / 3600 ≤ 23 by omega) (by omega),
    readIn_padded (Nat.zero_le _) (show ofDay / 60 % 60 ≤ 59 by omega) (by omega),
    readIn_padded (Nat.zero_le _) (show ofDay % 60 + leap ≤ 60 by omega) (by omega), hnanos]
  obtain rfl | ⟨rfl, hlast⟩ := hleap
  · have hne : ¬(ofDay % 60 + 0 == 60) = true := by
      rw [beq_iff_eq]
      omega
    have hsum : ofDay / 3600 * 3600 + ofDay / 60 % 60 * 60 + (ofDay % 60 + 0) = ofDay := by omega
    rw [if_neg hne, hsum]
    rfl
  · have heq : (ofDay % 60 + 1 == 60) = true := by rw [hlast]; rfl
    have hsum : ofDay / 3600 * 3600 + ofDay / 60 % 60 * 60 + 59 = ofDay := by omega
    rw [if_pos heq, hsum]
    rfl

/-! ### Instants -/

/-- What is written of an instant, character by character. -/
theorem toList_renderSeconds (t : Instant) : t.renderSeconds.toList
    = (renderYear t.date.year).toList ++ '-' :: ((padded 2 t.date.month).toList
      ++ '-' :: ((padded 2 t.date.day).toList ++ 'T' :: ((padded 2 (t.secondOfDay / 3600)).toList
      ++ ':' :: ((padded 2 (t.secondOfDay / 60 % 60)).toList
      ++ ':' :: ((padded 2 (t.secondOfDay % 60 + t.nanos / 10 ^ 9)).toList ++ ['Z']))))) := by
  have hdash : "-".toList = ['-'] := rfl
  have hdivider : "T".toList = ['T'] := rfl
  have hcolon : ":".toList = [':'] := rfl
  have hzone : "Z".toList = ['Z'] := rfl
  unfold renderSeconds renderDateTime
  simp only [String.toList_append, List.append_assoc, hdash, hdivider, hcolon, hzone,
    List.cons_append, List.nil_append]

/-- An instant that was written is read back in whole seconds. -/
theorem read_renderSeconds {t : Instant} (h : t.Nameable) :
    read t.renderSeconds = some t.wholeSeconds := by
  have hday : t.secondOfDay < 86400 := by
    unfold secondOfDay
    omega
  have hleap : t.nanos / 10 ^ 9 = 0 ∨ (t.nanos / 10 ^ 9 = 1 ∧ t.secondOfDay % 60 = 59) := by
    have := h.leap
    unfold secondOfDay
    omega
  have hseconds : t.date.toDays * 86400 + t.secondOfDay - 0 = t.seconds := by
    unfold date secondOfDay
    rw [Date.toDays_ofDays]
    omega
  have hdivider : ∀ cs, dropDivider ('T' :: cs) = some cs := fun _ => rfl
  have hoffset : readOffset (skipBlanks ['Z']) = some (0, []) := rfl
  have hvalid : t.date.isValid = true := Date.isValid_ofDays _
  rw [read_eq, toList_renderSeconds, readDate_render hvalid h.year, Option.bind_some]
  dsimp only
  rw [hdivider, Option.bind_some]
  unfold readBehind
  rw [readTime_render hday hleap]
  simp only [Option.bind_eq_bind, Option.bind_some, hoffset, hseconds]
  exact if_pos h.year

/-- The fraction of a second is not written. -/
theorem renderSeconds_wholeSeconds (t : Instant) :
    t.wholeSeconds.renderSeconds = t.renderSeconds := by
  have hleap : t.wholeSeconds.nanos / 10 ^ 9 = t.nanos / 10 ^ 9 := by
    show t.nanos / 10 ^ 9 * 10 ^ 9 / 10 ^ 9 = _
    omega
  unfold renderSeconds renderDateTime
  rw [hleap]
  rfl

end CordonWatch.Instant
