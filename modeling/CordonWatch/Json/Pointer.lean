import CordonWatch.Json.Value
import CordonWatch.Text.Digits

/-!
# Pointers into a JSON value

A pointer is empty, and names the whole value, or is a sequence of steps with
a slash in front of each. A step into an object is a field name, in which `~1`
writes a slash and `~0` a tilde; a step into a list is a position in decimal
without leading zeros.
-/

namespace CordonWatch.Json

/-- Undoes the escapes of a step. A tilde before any other character stands for itself. -/
def unescapeStep : List Char → List Char
  | '~' :: '1' :: rest => '/' :: unescapeStep rest
  | '~' :: '0' :: rest => '~' :: unescapeStep rest
  | c :: rest => c :: unescapeStep rest
  | [] => []

/-- The position that a step writes: decimal digits without a leading zero. -/
def position? (step : List Char) : Option Nat :=
  match step with
  | [] => none
  | ['0'] => some 0
  | '0' :: _ => none
  | cs => if cs.all Char.isDigit then some (Text.ofDigits cs) else none

/-- The part of a value that a sequence of steps leads to. -/
def follow (v : Json) : List (List Char) → Option Json
  | [] => some v
  | step :: rest =>
    match v with
    | .object _ => (v.get? (String.ofList step)).bind (·.follow rest)
    | .list items => ((position? step).bind (items[·]?)).bind (·.follow rest)
    | _ => none

/-- The part of a value that a pointer names. -/
def at? (v : Json) (pointer : String) : Option Json :=
  match pointer.toList with
  | [] => some v
  | '/' :: cs => v.follow ((cs.splitOn '/').map unescapeStep)
  | _ => none

end CordonWatch.Json
