/-!
# Numbers as written

A number in decimal keeps what its text says: the digits, how many of them
stand after the point, and the power of ten behind it. A number written
without point and power is integral; `1.0` is not.
-/

namespace CordonWatch

/-- A number as written. -/
structure Decimal where
  negative : Bool
  /-- The number that all digits write together. -/
  digits : Nat
  /-- How many of the digits stand after the point. -/
  places : Nat := 0
  /-- The power of ten written behind the digits. -/
  power : Int := 0
  /-- Written without point and power. -/
  integral : Bool
  deriving DecidableEq, Repr, Inhabited

namespace Decimal

/-- The power of ten that the last digit counts. -/
def exponent (d : Decimal) : Int := d.power - d.places

/-- The integer a number stands for, if it was written as one. A minus sign in
front of zero does not write an integer. -/
def toInt? (d : Decimal) : Option Int :=
  if d.integral && !(d.negative && d.digits == 0) then
    some (if d.negative then -(d.digits : Int) else (d.digits : Int))
  else none

/-- The number that writes an integer. -/
def ofInt (n : Int) : Decimal :=
  { negative := decide (n < 0), digits := n.natAbs, integral := true }

/-- Writing an integer and reading it back gives the integer. -/
@[simp] theorem toInt?_ofInt (n : Int) : (ofInt n).toInt? = some n := by
  by_cases h : n < 0
  · have hz : (n.natAbs == 0) = false := beq_eq_false_iff_ne.2 (by omega)
    have ha : -(n.natAbs : Int) = n := by omega
    simp only [toInt?, ofInt, h, hz, ha, decide_true, Bool.true_and, Bool.not_false, if_true]
  · have ha : (n.natAbs : Int) = n := by omega
    simp only [toInt?, ofInt, h, ha, decide_false, Bool.false_and, Bool.not_false, Bool.and_true,
      Bool.false_eq_true, if_true, if_false]

end Decimal

end CordonWatch
