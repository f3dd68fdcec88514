/-!
# Digits

Numbers written in decimal, the first digit being the greatest, and texts that
are brought to a width with zeros. Zeros in front of a number do not change it
(`ofDigits_zeros`).
-/

namespace CordonWatch.Text

/-- The value of a decimal digit. -/
def digitValue (c : Char) : Nat := c.toNat - '0'.toNat

/-- The number that has one more digit at its end. -/
def withDigit (n : Nat) (c : Char) : Nat := 10 * n + digitValue c

/-- The number that a run of decimal digits writes; none write zero. -/
def ofDigits (digits : List Char) : Nat := digits.foldl withDigit 0

/-- A text with zeros in front of it, up to a width. -/
def zeroPadded (width : Nat) (s : String) : String :=
  String.ofList (List.replicate (width - s.length) '0') ++ s

/-- The last digit counts once, those before it ten times. -/
theorem ofDigits_concat (digits : List Char) (c : Char) :
    ofDigits (digits ++ [c]) = 10 * ofDigits digits + digitValue c := by
  simp [ofDigits, withDigit]

/-- Zeros in front of a number do not change it. -/
theorem ofDigits_zeros (count : Nat) (digits : List Char) :
    ofDigits (List.replicate count '0' ++ digits) = ofDigits digits := by
  induction count with
  | zero => rfl
  | succ count ih => exact ih

end CordonWatch.Text
