import CordonWatch.Number.Power
import CordonWatch.Text.Digits

/-!
# Numbers of 64 bits

A number without sign, or with a plus sign, in decimal digits. Zeros in front
of it do not count. What is wrong with a text that writes none is told in words.

Beside it stands the form of the numbers that need not be whole
(`isUnsignedNumber`).
-/

namespace CordonWatch.Text

/-- The greatest number of 64 bits. -/
def maxNumber : Nat := 2 ^ 64 - 1

/-- Reads the digits of a number of 64 bits that follow on `n`. The first
character that is no digit, or that makes the number too large, is what is wrong. -/
def readDigits (n : Nat) : List Char → Except String Nat
  | [] => .ok n
  | c :: rest =>
    if !c.isDigit then .error "invalid digit found in string"
    else
      let n := withDigit n c
      if n > maxNumber then .error "number too large to fit in target type"
      else readDigits n rest

/-- Reads a number of 64 bits, perhaps with a plus sign. -/
def readNumber (s : String) : Except String Nat :=
  match s.toList with
  | [] => .error "cannot parse integer from empty string"
  | ['+'] => .error "invalid digit found in string"
  | '+' :: rest => readDigits 0 rest
  | cs => readDigits 0 cs

/-- Whether digits follow an exponent's mark, perhaps behind a sign. -/
def isExponent : List Char → Bool
  | [] => false
  | '+' :: cs | '-' :: cs | cs => !cs.isEmpty && cs.all Char.isDigit

/-- Whether a text writes a number without sign, infinity, or what is no number. -/
def isUnsignedNumber (s : List Char) : Bool :=
  let (whole, rest) := (s.takeWhile Char.isDigit, s.dropWhile Char.isDigit)
  let (fraction, rest) :=
    match rest with
    | '.' :: rest => (rest.takeWhile Char.isDigit, rest.dropWhile Char.isDigit)
    | rest => ([], rest)
  let ending :=
    match rest with
    | [] => true
    | 'e' :: rest | 'E' :: rest => isExponent rest
    | _ => false
  ["inf", "infinity", "nan"].contains (String.ofList (s.map Char.toLower))
    || (!(whole.isEmpty && fraction.isEmpty) && ending)

end CordonWatch.Text
