import CordonWatch.Text.Digits
import CordonWatch.Text.Hidden
import CordonWatch.Time.Instant

/-!
# Instants as text

Instants are written as RFC 3339 prescribes, in universal time and to whole
seconds (`2024-01-01T00:00:00Z`) or to microseconds. A year outside 0 to 9999
carries its sign.

The reader is more liberal than the writer. Numbers may lack leading zeros
and may have blanks before them, as may the separators inside date and time;
`T`, `t` or one space divides date from time; the offset is `Z`, `z`, `UTC` in
any case, or hours and minutes with a sign, a hyphen or U+2212 for minus. The
second 60 is a leap second. Digits of the fraction after the ninth are
dropped.
-/

namespace CordonWatch.Instant

/-- A number with leading zeros up to `width` digits. -/
def padded (width n : Nat) : String := Text.zeroPadded width (toString n)

/-- A year: four digits, or a sign and at least four digits. -/
def renderYear (year : Int) : String :=
  if 0 ≤ year && year ≤ 9999 then padded 4 year.toNat
  else (if year < 0 then "-" else "+") ++ padded 4 year.natAbs

/-- Date and time up to the whole second. A leap second is written as second 60. -/
def renderDateTime (t : Instant) : String :=
  let date := t.date
  let ofDay := t.secondOfDay
  renderYear date.year ++ "-" ++ padded 2 date.month ++ "-" ++ padded 2 date.day ++ "T"
    ++ padded 2 (ofDay / 3600) ++ ":" ++ padded 2 (ofDay / 60 % 60) ++ ":"
    ++ padded 2 (ofDay % 60 + t.nanos / 10 ^ 9)

/-- An instant in whole seconds. -/
def renderSeconds (t : Instant) : String := renderDateTime t ++ "Z"

/-- An instant in microseconds. -/
def renderMicros (t : Instant) : String :=
  renderDateTime t ++ "." ++ padded 6 (t.nanos % 10 ^ 9 / 1000) ++ "Z"

/-! ### Reading -/

/-- Drops blanks. -/
def skipBlanks (cs : List Char) : List Char := cs.dropWhile Text.isBlank

/-- Reads a number of at least one and at most `most` digits, after blanks. -/
def readDigits (most : Nat) (cs : List Char) : Option (Nat × List Char) :=
  let cs := skipBlanks cs
  match (cs.take most).takeWhile Char.isDigit with
  | [] => none
  | ds => some (Text.ofDigits ds, cs.drop ds.length)

/-- Reads a year: up to four digits, or a sign and any number of digits. -/
def readYear (cs : List Char) : Option (Int × List Char) :=
  match skipBlanks cs with
  | '-' :: rest =>
    if (rest.take 1).all Char.isDigit then
      (readDigits rest.length rest).map fun (n, rest) => (-(n : Int), rest)
    else none
  | '+' :: rest =>
    if (rest.take 1).all Char.isDigit then
      (readDigits rest.length rest).map fun (n, rest) => ((n : Int), rest)
    else none
  | cs => (readDigits 4 cs).map fun (n, rest) => ((n : Int), rest)

/-- Reads a number that lies between two bounds. -/
def readIn (low high : Nat) (cs : List Char) : Option (Nat × List Char) :=
  (readDigits 2 cs).filter fun (n, _) => low ≤ n && n ≤ high

/-- Reads a separator, after blanks. -/
def readMark (mark : Char) (cs : List Char) : Option (List Char) :=
  match skipBlanks cs with
  | c :: rest => if c == mark then some rest else none
  | [] => none

/-- Reads a fraction of a second in nanoseconds, if there is one. -/
def readNanos : List Char → Option (Nat × List Char)
  | '.' :: rest =>
    match (rest.take 9).takeWhile Char.isDigit with
    | [] => none
    | ds => some (Text.ofDigits ds * 10 ^ (9 - ds.length), rest.dropWhile Char.isDigit)
  | cs => some (0, cs)

/-- Two digits as a number. -/
def twoDigits (a b : Char) : Option Nat :=
  if a.isDigit && b.isDigit then some (Text.ofDigits [a, b]) else none

/-- Reads hours and minutes of an offset, with colons or blanks between them,
in seconds. -/
def readHoursMinutes : List Char → Option (Int × List Char)
  | a :: b :: rest => do
    let hours ← twoDigits a b
    match rest.dropWhile fun c => c == ':' || Text.isBlank c with
    | c :: d :: rest =>
      let minutes ← twoDigits c d
      if minutes < 60 then return ((hours * 3600 + minutes * 60 : Nat), rest) else none
    | _ => none
  | _ => none

/-- Reads an offset from universal time, in seconds; it is less than a day. -/
def readOffset (cs : List Char) : Option (Int × List Char) :=
  match cs with
  | 'Z' :: rest | 'z' :: rest => some (0, rest)
  | '+' :: rest => (readHoursMinutes rest).filter (·.1 < 86400)
  | '-' :: rest | '\u2212' :: rest =>
    ((readHoursMinutes rest).filter (·.1 < 86400)).map fun (n, rest) => (-n, rest)
  | u :: t :: c :: rest =>
    if u.toUpper == 'U' && t.toUpper == 'T' && c.toUpper == 'C' then some (0, rest) else none
  | _ => none

/-- The years that a date may lie in. -/
def yearInRange (year : Int) : Bool := -262143 ≤ year && year ≤ 262142

/-- Reads a date. -/
def readDate (cs : List Char) : Option (Date × List Char) := do
  let (year, cs) ← readYear cs
  let cs ← readMark '-' cs
  let (month, cs) ← readIn 1 12 cs
  let cs ← readMark '-' cs
  let (day, cs) ← readIn 1 31 cs
  let date : Date := { year, month, day }
  if date.isValid && yearInRange year then return (date, cs) else none

/-- Reads a time of day: seconds into the day, and nanoseconds. -/
def readTime (cs : List Char) : Option (Nat × Nat × List Char) := do
  let (hour, cs) ← readIn 0 23 cs
  let cs ← readMark ':' cs
  let (minute, cs) ← readIn 0 59 cs
  let cs ← readMark ':' cs
  let (second, cs) ← readIn 0 60 cs
  let (nanos, cs) ← readNanos cs
  let start := hour * 3600 + minute * 60
  if second == 60 then return (start + 59, 10 ^ 9 + nanos, cs)
  else return (start + second, nanos, cs)

/-- The instant that a text writes. -/
def read (s : String) : Option Instant := do
  let (date, cs) ← readDate s.toList
  let cs ← match cs with
    | 't' :: rest | 'T' :: rest | ' ' :: rest => some rest
    | _ => none
  let (second, nanos, cs) ← readTime cs
  let (offset, cs) ← readOffset (skipBlanks cs)
  let t : Instant := ⟨date.toDays * 86400 + second - offset, nanos⟩
  if (skipBlanks cs).isEmpty && yearInRange t.date.year then return t else none

end CordonWatch.Instant
