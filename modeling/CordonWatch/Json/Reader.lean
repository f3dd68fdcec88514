import CordonWatch.Json.Value
import CordonWatch.Text.Digits

/-!
# Reading JSON

`Json.read` reads a whole text as one value, with blanks around it and
nothing after. A reader takes the characters that are left and gives what it
read together with the rest. The nesting of the input bounds the recursion:
every step into a value, an item or a field either consumes a character or is
followed by one that does, so twice the length of the text is more than any
text needs.

The grammar is the strict one: no leading zeros, no bare control characters
in a text, no comma before a closing bracket.
-/

namespace CordonWatch.Json

/-- Drops blanks: space, tab, line feed and carriage return. -/
def skipBlanks : List Char → List Char
  | ' ' :: rest | '\t' :: rest | '\n' :: rest | '\r' :: rest => skipBlanks rest
  | cs => cs

/-- The value of a hexadecimal digit. -/
def hexDigit? (c : Char) : Option Nat :=
  if c.isDigit then some (Text.digitValue c)
  else if 'a' ≤ c ∧ c ≤ 'f' then some (c.toNat - 'a'.toNat + 10)
  else if 'A' ≤ c ∧ c ≤ 'F' then some (c.toNat - 'A'.toNat + 10)
  else none

/-- The number that four hexadecimal digits write. -/
def hexFour? (a b c d : Char) : Option Nat := do
  let a ← hexDigit? a
  let b ← hexDigit? b
  let c ← hexDigit? c
  let d ← hexDigit? d
  return 4096 * a + 256 * b + 16 * c + d

/-- The character of a one-letter escape. -/
def escaped? : Char → Option Char
  | '"' => some '"'
  | '\\' => some '\\'
  | '/' => some '/'
  | 'b' => some '\x08'
  | 'f' => some '\x0c'
  | 'n' => some '\n'
  | 'r' => some '\r'
  | 't' => some '\t'
  | _ => none

/-- Reads a text after its opening quote, as code points; an escape by number
may name half of a surrogate pair. -/
def readUnits : List Char → Option (List Nat × List Char)
  | '"' :: rest => some ([], rest)
  | '\\' :: 'u' :: a :: b :: c :: d :: rest => do
    let n ← hexFour? a b c d
    let (units, rest) ← readUnits rest
    return (n :: units, rest)
  | '\\' :: e :: rest => do
    let c ← escaped? e
    let (units, rest) ← readUnits rest
    return (c.toNat :: units, rest)
  | c :: rest =>
    if c.toNat < 0x20 || c == '\\' then none
    else do
      let (units, rest) ← readUnits rest
      return (c.toNat :: units, rest)
  | [] => none

/-- Joins surrogate pairs. A half without its other half spells nothing. -/
def joinPairs : List Nat → Option (List Char)
  | [] => some []
  | [u] => if u < 0xd800 || 0xdfff < u then some [Char.ofNat u] else none
  | u :: v :: rest =>
    if u < 0xd800 || 0xdfff < u then (joinPairs (v :: rest)).map (Char.ofNat u :: ·)
    else if u < 0xdc00 && 0xdc00 ≤ v && v ≤ 0xdfff then
      (joinPairs rest).map (Char.ofNat (0x10000 + 0x400 * (u - 0xd800) + (v - 0xdc00)) :: ·)
    else none

/-- Reads a text after its opening quote: what it spells, if it spells a string. -/
def readText (cs : List Char) : Option (Option String × List Char) :=
  (readUnits cs).map fun (units, rest) => ((joinPairs units).map String.ofList, rest)

/-- Splits off the digits in front, of which there must be one. -/
def takeDigits (cs : List Char) : Option (List Char × List Char) :=
  match cs.takeWhile Char.isDigit with
  | [] => none
  | ds => some (ds, cs.dropWhile Char.isDigit)

/-- Reads the digits before the point: one zero, or digits that start with none. -/
def readWhole : List Char → Option (List Char × List Char)
  | '0' :: rest => some (['0'], rest)
  | cs => takeDigits cs

/-- Reads a point and the digits after it, if there is a point. -/
def readFraction : List Char → Option (Option (List Char) × List Char)
  | '.' :: rest => (takeDigits rest).map fun (ds, rest) => (some ds, rest)
  | cs => some (none, cs)

/-- Reads an exponent, if there is one. -/
def readExponent : List Char → Option (Option Int × List Char)
  | 'e' :: rest | 'E' :: rest =>
    let (negative, rest) := match rest with
      | '-' :: rest => (true, rest)
      | '+' :: rest => (false, rest)
      | rest => (false, rest)
    (takeDigits rest).map fun (ds, rest) =>
      let n : Int := Text.ofDigits ds
      (some (if negative then -n else n), rest)
  | cs => some (none, cs)

/-- Reads a number. -/
def readNumber (cs : List Char) : Option (Decimal × List Char) := do
  let (negative, cs) := match cs with
    | '-' :: rest => (true, rest)
    | cs => (false, cs)
  let (whole, cs) ← readWhole cs
  let (fraction, cs) ← readFraction cs
  let (exponent, cs) ← readExponent cs
  let decimals := fraction.getD []
  return (
    { negative
      digits := Text.ofDigits (whole ++ decimals)
      places := decimals.length
      power := exponent.getD 0
      integral := fraction.isNone && exponent.isNone },
    cs)

/-- An object of the fields read, unless one of the names spells no string. -/
def ofFields (fields : List (Option String × Json)) : Json :=
  match fields.mapM fun f => f.1.map (·, f.2) with
  | some fields => .object fields
  | none => .unpaired

mutual

/-- Reads a value, after blanks. -/
def readValue : Nat → List Char → Option (Json × List Char)
  | 0, _ => none
  | fuel + 1, cs =>
    match skipBlanks cs with
    | 'n' :: 'u' :: 'l' :: 'l' :: rest => some (.null, rest)
    | 't' :: 'r' :: 'u' :: 'e' :: rest => some (.bool true, rest)
    | 'f' :: 'a' :: 'l' :: 's' :: 'e' :: rest => some (.bool false, rest)
    | '"' :: rest => (readText rest).map fun (s, rest) => (s.elim .unpaired .text, rest)
    | '[' :: rest =>
      match skipBlanks rest with
      | ']' :: rest => some (.list [], rest)
      | rest => (readItems fuel rest).map fun (items, rest) => (.list items, rest)
    | '{' :: rest =>
      match skipBlanks rest with
      | '}' :: rest => some (.object [], rest)
      | rest => (readFields fuel rest).map fun (fields, rest) => (ofFields fields, rest)
    | cs => (readNumber cs).map fun (n, rest) => (.number n, rest)

/-- Reads the items of a list and its closing bracket. -/
def readItems : Nat → List Char → Option (List Json × List Char)
  | 0, _ => none
  | fuel + 1, cs => do
    let (item, cs) ← readValue fuel cs
    match skipBlanks cs with
    | ',' :: rest =>
      let (items, rest) ← readItems fuel rest
      return (item :: items, rest)
    | ']' :: rest => return ([item], rest)
    | _ => none

/-- Reads the fields of an object and its closing brace. -/
def readFields : Nat → List Char → Option (List (Option String × Json) × List Char)
  | 0, _ => none
  | fuel + 1, cs =>
    match skipBlanks cs with
    | '"' :: rest => do
      let (name, cs) ← readText rest
      match skipBlanks cs with
      | ':' :: cs =>
        let (value, cs) ← readValue fuel cs
        match skipBlanks cs with
        | ',' :: rest =>
          let (fields, rest) ← readFields fuel rest
          return ((name, value) :: fields, rest)
        | '}' :: rest => return ([(name, value)], rest)
        | _ => none
      | _ => none
    | _ => none

end

/-- The value that a whole text writes. -/
def read (s : String) : Option Json :=
  match readValue (2 * s.length + 2) s.toList with
  | some (value, rest) => if (skipBlanks rest).isEmpty then some value else none
  | none => none

/-- Whether a whole text writes a value that may be kept. -/
def isValid (s : String) : Bool :=
  match read s with
  | some value => (value.kept? nestingLimit).isSome
  | none => false

end CordonWatch.Json
