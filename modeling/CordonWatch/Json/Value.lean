import CordonWatch.Number.Kept
import CordonWatch.Table

/-!
# JSON values

A value is kept close to the text it was read from, since what a reader may
refuse depends on how the text was written:

- a number is a `Decimal`, which keeps all its digits;
- an object keeps its fields in order, and every one of two with one name;
- a text whose escapes name half of a surrogate pair spells no string. Such a
  text, and an object with a field so named, is `unpaired`. It may be skipped,
  but not kept.

`Json.kept?` says what is kept of a whole value of no known form: nothing in
it may be unpaired, its containers may nest only so deep, and each number must
be one that can be kept (`Decimal.kept?`). Of several fields with one name the
last is kept, and the fields by name; all of them are looked at first.
-/

namespace CordonWatch

/-- A JSON value. -/
inductive Json where
  | null
  | bool (b : Bool)
  | number (n : Decimal)
  | text (s : String)
  | list (items : List Json)
  | object (fields : List (String × Json))
  | unpaired
  deriving Inhabited

namespace Json

/-- The value that writes an integer. -/
def int (n : Int) : Json := .number (Decimal.ofInt n)

/-- The value that writes a natural number. -/
def nat (n : Nat) : Json := int n

/-- A text, or null when absent. -/
def ofText? : Option String → Json
  | some s => .text s
  | none => .null

def isNull : Json → Bool
  | .null => true
  | _ => false

mutual

/-- What is kept of a value whose containers may nest `room` deep. -/
def kept? (room : Nat) : Json → Option Json
  | .number n => n.kept?.map .number
  | .list items => if room = 0 then none else (keptItems? (room - 1) items).map .list
  | .object fields =>
    if room = 0 then none
    else (keptFields? (room - 1) fields).map fun kept => .object (Table.ofList kept).entries
  | .unpaired => none
  | .null => some .null
  | .bool b => some (.bool b)
  | .text s => some (.text s)

def keptItems? (room : Nat) : List Json → Option (List Json)
  | [] => some []
  | v :: rest => do
    let v ← kept? room v
    let rest ← keptItems? room rest
    return v :: rest

def keptFields? (room : Nat) : List (String × Json) → Option (List (String × Json))
  | [] => some []
  | (name, v) :: rest => do
    let v ← kept? room v
    let rest ← keptFields? room rest
    return (name, v) :: rest

end

/-- Containers in a kept text nest at most this deep. -/
def nestingLimit : Nat := 127

/-! ### Looking into a value -/

/-- The value of the last field of that name. -/
def get? (name : String) : Json → Option Json
  | .object fields => (fields.reverse.find? (·.1 == name)).map (·.2)
  | _ => none

/-- The value of a field, where null counts as absent. -/
def field? (name : String) (v : Json) : Option Json :=
  (v.get? name).filter (!·.isNull)

def asText : Json → Option String
  | .text s => some s
  | _ => none

def asBool : Json → Option Bool
  | .bool b => some b
  | _ => none

def asList : Json → Option (List Json)
  | .list items => some items
  | _ => none

/-- An integer between two bounds, both included. -/
def asIntIn (low high : Int) : Json → Option Int
  | .number n => n.toInt?.filter fun i => decide (low ≤ i) && decide (i ≤ high)
  | _ => none

/-- An integer of 32 bits with sign. -/
def asInt32 : Json → Option Int := asIntIn (-2 ^ 31) (2 ^ 31 - 1)

/-- An integer of 64 bits with sign. -/
def asInt64 : Json → Option Int := asIntIn (-2 ^ 63) (2 ^ 63 - 1)

end Json

end CordonWatch
