import CordonWatch.Number.Power

/-!
# Doubles

A double is a number of at most 53 bits times a power of two that is neither
too great nor too small. Here it is that pair of numbers, and its arithmetic is
that of fractions, rounded to the nearest double; of two equally near ones the
one with the even significand is taken (`roundDiv_le`, `le_roundDiv` say that
nothing is moved by more than half a unit). Signs are kept elsewhere.
-/

namespace CordonWatch

/-- The integer nearest to a fraction, the even one of two. -/
def roundDiv (num den : Nat) : Nat :=
  let below := num / den
  let rest := 2 * (num % den)
  if rest < den ∨ (rest = den ∧ below % 2 = 0) then below else below + 1

/-- A rounded fraction is at most half a unit above the fraction. -/
theorem roundDiv_le (num den : Nat) : 2 * (den * roundDiv num den) ≤ 2 * num + den := by
  have split := Nat.div_add_mod num den
  unfold roundDiv
  dsimp only
  split
  · omega
  · rw [Nat.mul_add]
    omega

/-- A rounded fraction is at most half a unit below the fraction. -/
theorem le_roundDiv (num den : Nat) (positive : 0 < den) :
    2 * num ≤ 2 * (den * roundDiv num den) + den := by
  have split := Nat.div_add_mod num den
  have small := Nat.mod_lt num positive
  unfold roundDiv
  dsimp only
  split
  · omega
  · rw [Nat.mul_add]
    omega

/-- A finite double that is not negative: a significand times two to the scale. -/
structure Double where
  significand : Nat
  scale : Int
  deriving DecidableEq, Repr, Inhabited

namespace Double

/-- Bits of a significand. -/
def precision : Nat := 53

/-- The least power of two that a double counts. -/
def minScale : Int := -1074

/-- The greatest power of two that a double counts. -/
def maxScale : Int := 971

def zero : Double := ⟨0, minScale⟩

/-- A fraction of two numbers as multiples of two to a scale: as another fraction. -/
def inUnits (num den : Nat) (scale : Int) : Nat × Nat :=
  (num * 2 ^ (-scale).toNat, den * 2 ^ scale.toNat)

/-- The double nearest to a fraction, unless the fraction is too great for any. -/
def nearest? (num den : Nat) : Option Double :=
  if num = 0 then some zero
  else
    -- The scale is the least one at which the fraction has no more bits than fit.
    let guess := max ((num.log2 : Int) - (den.log2 : Int) - precision) minScale
    let fits : Bool :=
      let (n, d) := inUnits num den guess
      n / d < 2 ^ precision
    let scale := if fits then guess else guess + 1
    let (n, d) := inUnits num den scale
    let significand := roundDiv n d
    let x : Double :=
      if significand = 2 ^ precision then ⟨2 ^ (precision - 1), scale + 1⟩ else ⟨significand, scale⟩
    if x.scale ≤ maxScale then some x else none

/-- A double as a fraction. -/
def toRatio (x : Double) : Nat × Nat :=
  (x.significand * 2 ^ x.scale.toNat, 2 ^ (-x.scale).toNat)

/-- The double nearest to a product. -/
def mul? (x y : Double) : Option Double :=
  let (a, b) := x.toRatio
  let (c, d) := y.toRatio
  nearest? (a * c) (b * d)

/-- The double nearest to a quotient. -/
def div? (x y : Double) : Option Double :=
  let (a, b) := x.toRatio
  let (c, d) := y.toRatio
  nearest? (a * d) (b * c)

/-- The double nearest to an integer. -/
def ofNat? (n : Nat) : Option Double := nearest? n 1

/-! ### Shortest digits -/

/-- A number with ten to a power behind it, as a fraction. -/
def decimalRatio (digits : Nat) (power : Int) : Nat × Nat :=
  (digits * 10 ^ power.toNat, 10 ^ (-power).toNat)

/-- Whether digits with a power of ten behind them are nearest to a double. -/
def readsBack (x : Double) (digits : Nat) (power : Int) : Bool :=
  let (n, d) := decimalRatio digits power
  nearest? n d == some x

/-- Of the multiples of ten to a power, the one next to a double that reads
back as the double; the nearer one if both neighbours do. -/
def onGrid? (x : Double) (power : Int) : Option Nat :=
  let (a, b) := x.toRatio
  let num := a * 10 ^ (-power).toNat
  let den := b * 10 ^ power.toNat
  let below := num / den
  let near := roundDiv num den
  let far := if near = below then below + 1 else below
  [near, far].find? (x.readsBack · power)

/-- What a double is written with: the fewest digits that read back as the
double, and the power of ten behind them. -/
def shortest (x : Double) : Nat × Int :=
  if x.significand = 0 then (0, 0)
  else
    let (a, b) := x.toRatio
    let top : Int := ((toString a).length : Int) - (toString b).length
    -- Seventeen digits are always enough; the first grid may be coarser than the first digit.
    let grids : List Int := (List.range 20).map fun i : Nat => top - i
    match grids.findSome? fun power => (x.onGrid? power).map (·, power) with
    | some found => found
    | none => (x.significand * 2 ^ x.scale.toNat * 5 ^ (-x.scale).toNat, min x.scale 0)

end Double

end CordonWatch
