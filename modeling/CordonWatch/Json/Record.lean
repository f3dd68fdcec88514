import CordonWatch.Json.Value
import CordonWatch.Table

/-!
# Records in JSON

Two disciplines for reading a record, by where the record is defined.

A **closed** record is one of this library's own resource. It is an object
that has each known field at most once, or a list of its fields in their
declared order, from which fields at the end may be missing. A field of it is
required, has a default, or is optional; only an optional one may be null.

An **open** record is one of the platform's own types. It is an object, a
field may be repeated, in which case the last one counts, and null always
means that the field is absent.

Both ignore fields they do not know, whatever those hold. A reader gives
`none` for a value it refuses.
-/

namespace CordonWatch.Json

/-! ### Closed records -/

/-- Whether every known name occurs at most once. -/
def namesOnce (names : List String) (fields : List (String × Json)) : Bool :=
  names.all fun name => (fields.filter (·.1 == name)).length ≤ 1

/-- The fields of a closed record, in the order of their names. -/
def closed? (names : List String) : Json → Option (List (Option Json))
  | .object fields =>
    if namesOnce names fields then some (names.map fun name => fields.lookup name) else none
  | .list items =>
    if items.length ≤ names.length then
      some (items.map some ++ List.replicate (names.length - items.length) none)
    else none
  | _ => none

/-- A field that must be present. -/
def required {α : Type} (read : Json → Option α) : Option Json → Option α
  | some v => read v
  | none => none

/-- A field that may be missing and then has a default. -/
def defaulted {α : Type} (default : α) (read : Json → Option α) : Option Json → Option α
  | some v => read v
  | none => some default

/-- A field that may be missing or null. -/
def optional {α : Type} (read : Json → Option α) : Option Json → Option (Option α)
  | some .null | none => some none
  | some v => (read v).map some

/-- A list of values that are all read. -/
def listOf {α : Type} (read : Json → Option α) : Json → Option (List α)
  | .list items => items.mapM read
  | _ => none

/-! ### Open records -/

/-- The fields of an open record. -/
def open? : Json → Option (List (String × Json))
  | .object fields => some fields
  | _ => none

/-- The last value of a field of an open record, provided that every one of
the field can be read. -/
def entry? {α : Type} (name : String) (read : Json → Option α) (fields : List (String × Json)) :
    Option (Option α) := do
  let values ← (fields.filter fun f => f.1 == name).mapM fun f => optional read (some f.2)
  return values.getLast?.join

/-- A map from names to texts. -/
def textTable : Json → Option (Table String String)
  | .object fields => do
    let entries ← fields.mapM fun f => f.2.asText.map fun s => (f.1, s)
    return Table.ofList entries
  | _ => none

/-! ### Writing -/

/-- A field, unless its value is absent. -/
def present {α : Type} (name : String) (write : α → Json) (value : Option α) :
    List (String × Json) :=
  match value with
  | some v => [(name, write v)]
  | none => []

/-- A list of values that are all written. -/
def ofList {α : Type} (write : α → Json) (l : List α) : Json := .list (l.map write)

/-- A table of texts as an object. -/
def ofTextTable (t : Table String String) : Json := .object (t.entries.map fun e => (e.1, .text e.2))

end CordonWatch.Json
