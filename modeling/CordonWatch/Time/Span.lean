/-!
# Lengths of time

Delays are counted in milliseconds. As text they have the largest unit that
leaves a whole part: `30s`, `1.5s`, `250ms`, and `0ns` for no time at all.
-/

namespace CordonWatch

/-- A length of time. -/
structure Span where
  millis : Nat
  deriving DecidableEq, Repr, Inhabited

namespace Span

def ofSeconds (n : Nat) : Span := ⟨1000 * n⟩

def isZero (s : Span) : Bool := s.millis == 0

/-- Thousandths after a decimal point, without zeros at the end. -/
def thousandths (n : Nat) : String :=
  let digits := (toString (1000 + n)).toList.drop 1
  match (digits.reverse.dropWhile (· == '0')).reverse with
  | [] => ""
  | ds => "." ++ String.ofList ds

/-- A length of time as text. -/
def render (s : Span) : String :=
  if s.millis ≥ 1000 then toString (s.millis / 1000) ++ thousandths (s.millis % 1000) ++ "s"
  else if s.millis > 0 then toString s.millis ++ "ms"
  else "0ns"

end Span

end CordonWatch
