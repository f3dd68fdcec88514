import CordonWatch.Number.Decimal
import CordonWatch.Number.Double
import CordonWatch.Text.Number

/-!
# What is kept of a number

A value of no known form is kept as it was written, but for its numbers. An
integer of 64 bits, with or without sign, is kept; any other number becomes a
double. That is quick and not always the nearest one: as many leading digits
as fit 64 bits are taken for an integer, the integer is rounded to a double,
and the double is multiplied with or divided by a power of ten, each time with
a rounding of its own. A number that becomes too great on the way is refused.
A double is kept as the number it is written as, with a point or a power of ten.
-/

namespace CordonWatch

namespace Double

/-- The greatest power of ten that is a double. -/
def maxTen : Nat := 308

/-- The double nearest to a power of ten. -/
def tenTo (power : Nat) : Double := (ofNat? (10 ^ power)).getD zero

/-- A double divided as often by the greatest power of ten. -/
def divideGreatly? : Nat → Double → Option Double
  | 0, x => some x
  | steps + 1, x =>
    if x.significand = 0 then some x else (x.div? (tenTo maxTen)).bind (divideGreatly? steps)

/-- A double times ten to a power. Great divisions are done in steps. -/
def timesTenTo? (x : Double) (power : Int) : Option Double :=
  if x.significand = 0 then some x
  else if 0 ≤ power then
    if power ≤ maxTen then x.mul? (tenTo power.toNat) else none
  else
    let down := (-power).toNat
    let steps := (down - 1) / maxTen
    (divideGreatly? steps x).bind (·.div? (tenTo (down - maxTen * steps)))

end Double

namespace Decimal

/-- Takes digits in as long as the number of them has 64 bits: that number,
and the digits left. -/
def gather (n : Nat) : List Char → Nat × List Char
  | [] => (n, [])
  | c :: rest =>
    if Text.withDigit n c ≤ Text.maxNumber then gather (Text.withDigit n c) rest else (n, c :: rest)

/-- The leading digits of a number, and the power of ten that the last of them
counts. After digits left out before the point, the digits after it are tried anew. -/
def leading (d : Decimal) : Nat × Int :=
  let all := (Text.zeroPadded (d.places + 1) (toString d.digits)).toList
  let (n, wholeLeft) := gather 0 (all.take (all.length - d.places))
  let (n, placesLeft) := gather n (all.drop (all.length - d.places))
  (n, d.power + wholeLeft.length - (d.places - placesLeft.length : Nat))

/-- The double that a number becomes, without its sign. -/
def toDouble? (d : Decimal) : Option Double :=
  let (n, power) := d.leading
  (Double.ofNat? n).bind (·.timesTenTo? power)

/-- Whether a number was written as an integer of 64 bits, with or without sign. -/
def isInt64 (d : Decimal) : Bool :=
  match d.toInt? with
  | some n => decide (-2 ^ 63 ≤ n) && decide (n < 2 ^ 64)
  | none => false

/-- How a double is written that has these digits with a power of ten behind them. A
power stands behind it only if it has more than sixteen digits before the point, or
more than four zeros behind the point; then the point is behind the first digit, if
there are others. -/
def ofShortest (negative : Bool) (digits : Nat) (power : Int) : Decimal :=
  let count := (toString digits).length
  let whole : Int := count + power
  if 16 < whole ∨ whole ≤ -5 then
    { negative, digits, places := count - 1, power := whole - 1, integral := false }
  else if 0 ≤ power then
    { negative, digits := digits * 10 ^ (power.toNat + 1), places := 1, integral := false }
  else { negative, digits, places := (-power).toNat, integral := false }

/-- What is kept of a number, unless it is refused. -/
def kept? (d : Decimal) : Option Decimal :=
  if d.isInt64 then some d
  else d.toDouble?.map fun x => ofShortest d.negative x.shortest.1 x.shortest.2

end Decimal

end CordonWatch
