import CordonWatch.Json.Printer
import CordonWatch.Json.Reader
import CordonWatch.Proofs.Text.Digits

/-!
# Texts and numbers that are read back

Of what is written of a text, from behind its opening quote, the text is read
(`readText_quotedChars`): an escape stands for one character, and no character is half of
a pair.

Of what is written of a number the number is read (`readNumber_renderNumber`), with its
point and its power, if what comes behind it may come behind a value (`Closes`). A number
that was written as an integer has neither point nor power (`Decimal.IsFormed`).
-/

namespace CordonWatch

namespace Json

/-! ### Texts -/

/-- The number of four hexadecimal digits, if these are four. -/
def hexList? : List Char → Option Nat
  | [a, b, c, d] => hexFour? a b c d
  | _ => none

/-- What a control character is escaped by names it. -/
theorem hexList?_control {n : Nat} (h : n < 0x20) :
    hexList? (Text.zeroPadded 4 (Text.hex n)).toList = some n := by
  have hdigits : ∀ n < 0x20, hexList?
      (List.replicate (4 - (Nat.toDigits 16 n).length) '0' ++ Nat.toDigits 16 n) = some n := by
    decide
  rw [Text.toList_zeroPadded, Text.hex, String.length_ofList, String.toList_ofList]
  exact hdigits n h

/-- A reader that puts one more unit in front of what is read from the rest. -/
def withUnit (n : Nat) (rest : List Char) : Option (List Nat × List Char) :=
  (readUnits rest).map fun (units, rest) => (n :: units, rest)

theorem readUnits_number {digits : List Char} {n : Nat} (h : hexList? digits = some n)
    (rest : List Char) : readUnits ('\\' :: 'u' :: digits ++ rest) = withUnit n rest := by
  unfold hexList? at h
  split at h
  next a b c d =>
    show (hexFour? a b c d).bind _ = _
    rw [h, withUnit, Option.map_eq_bind]
    rfl
  · cases h

theorem readUnits_letter {e c : Char} (h : escaped? e = some c) (rest : List Char) :
    readUnits ('\\' :: e :: rest) = withUnit c.toNat rest := by
  have hnumber : ∀ a b c d rest', e = 'u' → rest = a :: b :: c :: d :: rest' → False := by
    rintro a b c d rest' rfl
    cases h
  rw [readUnits.eq_3 e rest hnumber, h, withUnit, Option.map_eq_bind]
  rfl

theorem readUnits_itself {c : Char} (hquote : c ≠ '"') (hslash : c ≠ '\\') (h : ¬c.toNat < 0x20)
    (rest : List Char) : readUnits (c :: rest) = withUnit c.toNat rest := by
  have hplain : ¬(decide (c.toNat < 0x20) || c == '\\') = true := by
    simp [h, hslash]
  rw [readUnits.eq_4 c rest hquote (fun _ _ _ _ _ hc => (hslash hc).elim)
    (fun _ _ hc => (hslash hc).elim), if_neg hplain, withUnit, Option.map_eq_bind]
  rfl

/-- Of an escaped character the reader reads the character. -/
theorem readUnits_escape (c : Char) (rest : List Char) :
    readUnits ((escape c).toList ++ rest) = withUnit c.toNat rest := by
  unfold escape
  split
  · exact readUnits_letter rfl rest
  · exact readUnits_letter rfl rest
  · exact readUnits_letter rfl rest
  · exact readUnits_letter rfl rest
  · exact readUnits_letter rfl rest
  · exact readUnits_letter rfl rest
  · exact readUnits_letter rfl rest
  next hquote hslash _ _ _ _ _ =>
    split
    next hsmall =>
      rw [String.toList_append]
      exact readUnits_number (hexList?_control hsmall) rest
    next hsmall =>
      rw [Char.toString_eq_singleton, String.toList_singleton]
      exact readUnits_itself hquote hslash hsmall rest

/-- What stands between the quotes of a written text. -/
def quotedChars (s : String) : List Char := s.toList.flatMap fun c => (escape c).toList

theorem readUnits_quotedChars (s : String) (rest : List Char) :
    readUnits (quotedChars s ++ '"' :: rest) = some (s.toList.map Char.toNat, rest) := by
  unfold quotedChars
  induction s.toList with
  | nil => rfl
  | cons c cs ih =>
    rw [List.flatMap_cons, List.append_assoc, readUnits_escape, withUnit, ih]
    rfl

/-- No character is half of a pair. -/
theorem joinPairs_cons (c : Char) (units : List Nat) :
    joinPairs (c.toNat :: units) = (joinPairs units).map (c :: ·) := by
  have hsingle : (c.toNat < 0xd800 || 0xdfff < c.toNat) = true := by
    have hvalid := c.valid
    simp only [UInt32.isValidChar, Nat.isValidChar] at hvalid
    have htoNat : c.val.toNat = c.toNat := rfl
    simp only [Bool.or_eq_true, decide_eq_true_eq]
    omega
  cases units with
  | nil => simp only [joinPairs, hsingle, if_true, Char.ofNat_toNat, Option.map_some]
  | cons v rest => rw [joinPairs, if_pos hsingle, Char.ofNat_toNat]

theorem joinPairs_map_toNat (cs : List Char) : joinPairs (cs.map Char.toNat) = some cs := by
  induction cs with
  | nil => rfl
  | cons c cs ih => rw [List.map_cons, joinPairs_cons, ih]; rfl

theorem toList_renderText (s : String) (rest : List Char) :
    (renderText s).toList ++ rest = '"' :: (quotedChars s ++ '"' :: rest) := by
  unfold renderText quotedChars
  rw [String.toList_append, String.toList_append, String.toList_join, List.flatMap_map,
    List.append_assoc, List.append_assoc]
  rfl

/-- A text is read back from behind its opening quote. -/
theorem readText_quotedChars (s : String) (rest : List Char) :
    readText (quotedChars s ++ '"' :: rest) = some (some s, rest) := by
  unfold readText
  rw [readUnits_quotedChars]
  show some ((joinPairs (s.toList.map Char.toNat)).map String.ofList, rest) = _
  rw [joinPairs_map_toNat, Option.map_some, String.ofList_toList]

/-! ### Numbers -/

/-- What comes behind a value: nothing, a comma or a closing bracket. -/
inductive Closes : List Char → Prop
  | nothing : Closes []
  | comma (rest : List Char) : Closes (',' :: rest)
  | bracket (rest : List Char) : Closes (']' :: rest)
  | brace (rest : List Char) : Closes ('}' :: rest)

theorem Closes.noDigitAhead {rest : List Char} (h : Closes rest) : Text.NoDigitAhead rest := by
  cases h with
  | nothing => exact fun _ hnone => nomatch hnone
  | comma | bracket | brace => exact Text.noDigitAhead_cons rfl

theorem Closes.readFraction {rest : List Char} (h : Closes rest) :
    readFraction rest = some (none, rest) := by
  cases h with
  | nothing | comma | bracket | brace => rfl

theorem Closes.readExponent {rest : List Char} (h : Closes rest) :
    readExponent rest = some (none, rest) := by
  cases h with
  | nothing | comma | bracket | brace => rfl

theorem takeDigits_append {ds : List Char} (hds : ∀ c ∈ ds, c.isDigit = true) (hne : ds ≠ [])
    {rest : List Char} (h : Text.NoDigitAhead rest) :
    takeDigits (ds ++ rest) = some (ds, rest) := by
  unfold takeDigits
  rw [Text.takeWhile_isDigit hds h, Text.dropWhile_isDigit hds h]
  split
  next hnil => exact absurd rfl hne
  · rfl

theorem takeDigits_toDigits (n : Nat) {rest : List Char} (h : Text.NoDigitAhead rest) :
    takeDigits (Nat.toDigits 10 n ++ rest) = some (Nat.toDigits 10 n, rest) :=
  takeDigits_append (fun _ => Text.isDigit_of_mem_toDigits) Nat.toDigits_ne_nil h

theorem readWhole_toDigits (n : Nat) {rest : List Char} (h : Text.NoDigitAhead rest) :
    readWhole (Nat.toDigits 10 n ++ rest) = some (Nat.toDigits 10 n, rest) := by
  by_cases hzero : n = 0
  · subst hzero
    rfl
  · obtain ⟨c, cs, hcs⟩ := List.exists_cons_of_ne_nil (Nat.toDigits_ne_nil (n := n) (b := 10))
    have hhead : c ≠ '0' := by
      intro hc
      refine Text.head?_toDigits hzero ?_
      rw [hcs, hc]
      rfl
    rw [← takeDigits_toDigits n h, hcs]
    exact readWhole.eq_2 (c :: cs ++ rest) fun _ heq => hhead (List.cons.inj heq).1

/-- The digits of an integer, with a sign if it is negative. -/
theorem toList_toString_int (i : Int) : (toString i).toList
    = (if i < 0 then ['-'] else []) ++ Nat.toDigits 10 i.natAbs := by
  cases i with
  | ofNat n =>
    rw [if_neg (show ¬Int.ofNat n < 0 from Int.not_lt.mpr (Int.natCast_nonneg n))]
    exact Nat.toList_repr
  | negSucc n =>
    rw [if_pos (Int.negSucc_lt_zero n)]
    show ("-" ++ (n + 1).repr).toList = _
    rw [String.toList_append, Nat.toList_repr]
    rfl

/-- No sign stands in front of digits. -/
theorem toDigits_ne_sign {c : Char} (hc : c.isDigit = false) (n : Nat) (rest cs : List Char) :
    Nat.toDigits 10 n ++ rest ≠ c :: cs :=
  Text.append_ne_cons (fun _ => Text.isDigit_of_mem_toDigits) Nat.toDigits_ne_nil hc rest cs

theorem readExponent_toString (i : Int) {rest : List Char} (h : Text.NoDigitAhead rest) :
    readExponent ('e' :: ((toString i).toList ++ rest)) = some (some i, rest) := by
  have hread := takeDigits_toDigits i.natAbs h
  rw [toList_toString_int]
  by_cases hi : i < 0
  · have hvalue : -(i.natAbs : Int) = i := by omega
    rw [if_pos hi]
    show (takeDigits (Nat.toDigits 10 i.natAbs ++ rest)).map _ = _
    simp only [hread, Option.map_some, Text.ofDigits_toDigits, if_true, hvalue]
  · have hvalue : (i.natAbs : Int) = i := by omega
    have hminus := toDigits_ne_sign (show '-'.isDigit = false from rfl) i.natAbs rest
    have hplus := toDigits_ne_sign (show '+'.isDigit = false from rfl) i.natAbs rest
    rw [if_neg hi]
    show readExponent ('e' :: (Nat.toDigits 10 i.natAbs ++ rest)) = _
    unfold readExponent
    dsimp only
    split
    next heq =>
      cases heq
      split
      · exact absurd ‹_› (hminus _)
      · exact absurd ‹_› (hplus _)
      · simp only [hread, Option.map_some, Text.ofDigits_toDigits, hvalue]
        rfl
    next heq => cases heq
    next hnot _ => exact absurd rfl (hnot _)

end Json

/-- Nothing stands behind a number that was written as an integer. -/
def Decimal.IsFormed (n : Decimal) : Prop := n.integral = true → n.places = 0 ∧ n.power = 0

namespace Json

/-- The digits behind the point of a number. -/
def decimalChars (n : Decimal) : List Char :=
  (Text.zeroPadded n.places (toString (n.digits % 10 ^ n.places))).toList

/-- The point of a number and the digits behind it. -/
def fractionChars (n : Decimal) : List Char := if n.places = 0 then [] else '.' :: decimalChars n

/-- The power of ten behind a number. -/
def exponentChars (n : Decimal) : List Char :=
  if n.integral ∨ (n.power = 0 ∧ n.places ≠ 0) then [] else 'e' :: (toString n.power).toList

theorem toList_renderNumber (n : Decimal) (rest : List Char) : (renderNumber n).toList ++ rest
    = (if n.negative then ['-'] else []) ++ (Nat.toDigits 10 (n.digits / 10 ^ n.places)
      ++ (fractionChars n ++ (exponentChars n ++ rest))) := by
  have hpoint : ".".toList = ['.'] := rfl
  have hmark : "e".toList = ['e'] := rfl
  have hwhole : (toString (n.digits / 10 ^ n.places)).toList
      = Nat.toDigits 10 (n.digits / 10 ^ n.places) := Nat.toList_repr
  unfold renderNumber fractionChars decimalChars exponentChars
  simp only [String.toList_append, List.append_assoc, apply_ite String.toList, hpoint, hmark,
    hwhole]
  rfl

/-- Reads a number behind its sign. -/
def readUnsigned (negative : Bool) (cs : List Char) : Option (Decimal × List Char) := do
  let (whole, cs) ← readWhole cs
  let (fraction, cs) ← readFraction cs
  let (exponent, cs) ← readExponent cs
  let decimals := fraction.getD []
  return (
    { negative
      digits := Text.ofDigits (whole ++ decimals)
      places := decimals.length
      power := exponent.getD 0
      integral := fraction.isNone && exponent.isNone },
    cs)

theorem readNumber_minus (cs : List Char) : readNumber ('-' :: cs) = readUnsigned true cs := rfl

theorem readNumber_unsigned {cs : List Char} (h : ∀ rest, cs ≠ '-' :: rest) :
    readNumber cs = readUnsigned false cs := by
  unfold readNumber
  split
  next heq =>
    split at heq
    · exact absurd rfl (h _)
    · cases heq
      rfl

theorem noDigitAhead_exponentChars (n : Decimal) {rest : List Char} (h : Closes rest) :
    Text.NoDigitAhead (exponentChars n ++ rest) := by
  unfold exponentChars
  split
  · exact h.noDigitAhead
  · exact Text.noDigitAhead_cons rfl

theorem noDigitAhead_fractionChars (n : Decimal) {rest : List Char}
    (h : Text.NoDigitAhead rest) : Text.NoDigitAhead (fractionChars n ++ rest) := by
  unfold fractionChars
  split
  · exact h
  · exact Text.noDigitAhead_cons rfl

theorem readExponent_exponentChars (n : Decimal) {rest : List Char} (h : Closes rest) :
    readExponent (exponentChars n ++ rest)
      = some (if n.integral ∨ (n.power = 0 ∧ n.places ≠ 0) then none else some n.power, rest) := by
  unfold exponentChars
  split
  · exact h.readExponent
  · exact readExponent_toString n.power h.noDigitAhead

theorem readFraction_point (cs : List Char) : readFraction ('.' :: cs)
    = (takeDigits cs).map fun (ds, rest) => (some ds, rest) := rfl

theorem readFraction_fractionChars (n : Decimal) {rest : List Char} (h : Closes rest) :
    readFraction (fractionChars n ++ (exponentChars n ++ rest))
      = some (if n.places = 0 then none else some (decimalChars n), exponentChars n ++ rest) := by
  unfold fractionChars
  split
  · unfold exponentChars
    split
    · exact h.readFraction
    · rfl
  · have hread : takeDigits (decimalChars n ++ (exponentChars n ++ rest))
        = some (decimalChars n, exponentChars n ++ rest) :=
      takeDigits_append (fun _ => Text.isDigit_of_mem_zeroPadded) (Text.zeroPadded_ne_nil _ _)
        (noDigitAhead_exponentChars n h)
    rw [List.cons_append, readFraction_point, hread]
    rfl

theorem length_decimalChars {n : Decimal} (h : n.places ≠ 0) :
    (decimalChars n).length = n.places :=
  Text.length_zeroPadded (Nat.pos_of_ne_zero h) (Nat.mod_lt _ (Nat.pow_pos (by decide)))

/-- The digits before the point and those behind it are all digits of a number. -/
theorem ofDigits_split {n : Decimal} (h : n.places ≠ 0) :
    Text.ofDigits (Nat.toDigits 10 (n.digits / 10 ^ n.places) ++ decimalChars n) = n.digits := by
  have hvalue : Text.ofDigits (decimalChars n) = n.digits % 10 ^ n.places :=
    Text.ofDigits_zeroPadded _ _
  rw [Text.ofDigits_append, Text.ofDigits_toDigits, hvalue, length_decimalChars h, Nat.mul_comm,
    Nat.div_add_mod]

theorem readUnsigned_renderNumber {n : Decimal} (hn : n.IsFormed) {rest : List Char}
    (h : Closes rest) :
    readUnsigned n.negative (Nat.toDigits 10 (n.digits / 10 ^ n.places)
      ++ (fractionChars n ++ (exponentChars n ++ rest))) = some (n, rest) := by
  have hstop := noDigitAhead_fractionChars n (noDigitAhead_exponentChars n h)
  have hsplit := ofDigits_split (n := n)
  have hlength := length_decimalChars (n := n)
  unfold readUnsigned
  simp only [Option.bind_eq_bind, readWhole_toDigits _ hstop, readFraction_fractionChars n h,
    readExponent_exponentChars n h, Option.bind_some]
  obtain ⟨negative, digits, places, power, integral⟩ := n
  dsimp only at hsplit hlength ⊢
  cases integral with
  | true =>
    obtain ⟨rfl, rfl⟩ : places = 0 ∧ power = 0 := hn rfl
    simp [Text.ofDigits_toDigits]
  | false =>
    by_cases hplaces : places = 0
    · subst hplaces
      simp [Text.ofDigits_toDigits]
    · by_cases hpower : power = 0
      · subst hpower
        simp [hplaces, hlength hplaces, hsplit hplaces]
      · simp [hplaces, hpower, hlength hplaces, hsplit hplaces]

theorem readNumber_renderNumber {n : Decimal} (hn : n.IsFormed) {rest : List Char}
    (h : Closes rest) : readNumber ((renderNumber n).toList ++ rest) = some (n, rest) := by
  have hread := readUnsigned_renderNumber hn h
  rw [toList_renderNumber]
  cases hnegative : n.negative with
  | true =>
    rw [hnegative] at hread
    exact hread
  | false =>
    rw [hnegative] at hread
    rw [← hread]
    exact readNumber_unsigned (toDigits_ne_sign rfl _ _)

end Json

end CordonWatch
