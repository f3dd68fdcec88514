import CordonWatch.Json.Printer

/-!
# Writing YAML

A value in block style: fields and items on lines of their own, the content of
an object or a list within an object indented by two blanks, except that items
of a list are not indented further than the field that holds the list. Empty
containers stay on the line. A text is written plain where that reads back as
the same text, and otherwise between quotes: single ones, or double ones if it
has characters that need an escape.
-/

namespace CordonWatch.Json

/-- Words that a plain text must not be, because they mean something else. -/
def reservedWords : List String :=
  ["null", "true", "false", "yes", "no", "on", "off", "y", "n", "~"]

/-- Whether a text starts like a number, or with a character that has a meaning there. -/
def startsSpecially : List Char → Bool
  | [] => true
  | c :: rest =>
    c.isDigit || "-?:,[]\x7b\x7d#&*!|>'\"%@` ".toList.contains c
      || (c == '+' || c == '.') && (rest.head?.all fun d => d.isDigit || d == '.')
      || c == '=' || c == '<'

/-- Whether a character of a text ends it, or starts a comment, when followed by another. -/
def hasBreak : List Char → Bool
  | ':' :: [] => true
  | ':' :: ' ' :: _ => true
  | ' ' :: '#' :: _ => true
  | ' ' :: [] => true
  | _ :: rest => hasBreak rest
  | [] => false

/-- Whether a text may be written plain. -/
def isPlain (s : String) : Bool :=
  let cs := s.toList
  !startsSpecially cs && !hasBreak cs
    && !(reservedWords.contains (String.ofList (cs.map Char.toLower)))

/-- Whether a text has characters that are written by an escape. -/
def needsEscape (s : String) : Bool := s.toList.any fun c => c.toNat < 0x20 || c.toNat == 0x7f

/-- A text on one line. -/
def yamlText (s : String) : String :=
  if needsEscape s then renderText s
  else if isPlain s then s
  else "'" ++ String.join (s.toList.map fun c => if c == '\x27' then "''" else c.toString) ++ "'"

/-- A value that stays on the line: one that is no container, or an empty one. -/
def yamlInline? : Json → Option String
  | .list [] => some "[]"
  | .object [] => some "\x7b\x7d"
  | .list _ | .object _ => none
  | .text s => some (yamlText s)
  | other => some other.render

/-- Lines moved to the right, the first of them behind a dash. -/
def asItem : List String → List String
  | [] => []
  | first :: rest => ("- " ++ first) :: rest.map ("  " ++ ·)

mutual

/-- The lines of a value. -/
def yamlLines : Json → List String
  | .object fields => if fields.isEmpty then ["\x7b\x7d"] else yamlFields fields
  | .list items => if items.isEmpty then ["[]"] else yamlItems items
  | .text s => [yamlText s]
  | other => [other.render]

/-- The lines of the items of a list. -/
def yamlItems : List Json → List String
  | [] => []
  | v :: rest => asItem (yamlLines v) ++ yamlItems rest

/-- The lines of the fields of an object. -/
def yamlFields : List (String × Json) → List String
  | [] => []
  | (name, v) :: rest =>
    let lines := yamlLines v
    let entry :=
      match yamlInline? v, v with
      | some s, _ => [yamlText name ++ ": " ++ s]
      -- The dashes of the items stand below the name.
      | none, .list _ => (yamlText name ++ ":") :: lines
      | none, _ => (yamlText name ++ ":") :: lines.map ("  " ++ ·)
    entry ++ yamlFields rest

end

/-- A value as a document. -/
def renderYaml (v : Json) : String := String.join (v.yamlLines.map (· ++ "\n"))

end CordonWatch.Json
