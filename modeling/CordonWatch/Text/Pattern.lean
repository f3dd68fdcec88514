import CordonWatch.Text.Letter

/-!
# Patterns

Which texts are regular expressions, of those in which nothing stands in
braces. A pattern is read character by character: `Progress.step` says what
may come next, and `isPattern` that the end may.

Not a pattern is a text with an open group or class, with something to be
repeated where there is nothing, with a range that runs backwards, or with an
escape that has no meaning. The bounds of words are among those escapes: where
a word ends cannot be told from one character.
-/

namespace CordonWatch.Text.Pattern

/-- Where an escape stands. -/
inductive Site where
  | outside
  /-- In a class, where an item of it begins. -/
  | item
  /-- In a class, behind a dash. The range begins with a character, unless what
  stands before the dash is a class itself. -/
  | rangeEnd (first : Option Char)
  deriving DecidableEq, Repr, Inhabited

/-- What is expected next. -/
inductive Expecting where
  /-- A term, or a mark of repetition if there is something to repeat. -/
  | term (repeatable : Bool)
  /-- The rest of a group, behind its parenthesis. -/
  | group
  /-- What kind of group it is, behind the question mark. -/
  | groupKind
  /-- The angle bracket before the name of a group. -/
  | nameStart
  /-- The rest of the name of a group, of which the last character was read first. -/
  | name (read : List Char)
  /-- More flags. -/
  | flags (read : List Char)
  /-- What stands first in a class. -/
  | classStart (negatable : Bool)
  /-- More of the dashes that a class begins with. -/
  | dashes
  /-- An item of a class, or the end of the class. -/
  | item
  /-- What may come behind an item: a character, or a class if none. A
  character that doubled joins two classes is marked. -/
  | afterItem (last : Option Char) (joins : Bool)
  /-- What may come behind an item and a dash. -/
  | afterDash (first : Option Char)
  | escape (site : Site)
  /-- So many hexadecimal digits of a character. -/
  | digits (site : Site) (left value : Nat)
  /-- The letter of a general category. -/
  | category (site : Site)
  deriving DecidableEq, Repr, Inhabited

/-- How far a pattern is read. -/
structure Progress where
  /-- How many groups are open. -/
  groups : Nat := 0
  /-- How many classes are open, one within the other. -/
  classes : Nat := 0
  names : List (List Char) := []
  expecting : Expecting := .term false
  deriving DecidableEq, Repr, Inhabited

/-- The value of a hexadecimal digit. -/
def hexValue? (c : Char) : Option Nat :=
  if c.isDigit then some (c.toNat - '0'.toNat)
  else if 'a' ≤ c ∧ c ≤ 'f' then some (c.toNat - 'a'.toNat + 10)
  else if 'A' ≤ c ∧ c ≤ 'F' then some (c.toNat - 'A'.toNat + 10)
  else none

/-- Whether a character may stand in the name of a group. -/
def isInName (c : Char) (first : Bool) : Bool :=
  c == '_' || (isAlphanumeric c && !(first && c.isDigit))
    || (!first && (c == '.' || c == '[' || c == ']'))

namespace Progress

/-- What is expected next is something else. -/
def expect (p : Progress) (e : Expecting) : Progress := { p with expecting := e }

/-- Opens a group. -/
def openGroup (p : Progress) : Progress :=
  { p with groups := p.groups + 1, expecting := .term false }

/-- Opens a class. -/
def openClass (p : Progress) : Progress :=
  { p with classes := p.classes + 1, expecting := .classStart true }

/-- Closes a class. -/
def closeClass (p : Progress) : Progress :=
  { p with
    classes := p.classes - 1
    expecting := if p.classes ≤ 1 then .term true else .item }

/-- Ends a range. -/
def endRange (p : Progress) (first last : Option Char) : Option Progress :=
  match first, last with
  | some a, some b => if a ≤ b then some (p.expect .item) else none
  | _, _ => none

/-- Ends an escape, which stands for a character, or for a class if none. -/
def endEscape (p : Progress) (c : Option Char) : Site → Option Progress
  | .outside => some (p.expect (.term true))
  | .item => some (p.expect (.afterItem c false))
  | .rangeEnd first => p.endRange first c

/-- Reads a character where a term may stand. -/
def stepTerm (p : Progress) (repeatable : Bool) (c : Char) : Option Progress :=
  match c with
  | '(' => some (p.expect .group)
  | ')' =>
    if p.groups = 0 then none else some { p with groups := p.groups - 1, expecting := .term true }
  | '|' => some (p.expect (.term false))
  | '[' => some p.openClass
  | '*' | '+' | '?' => if repeatable then some (p.expect (.term true)) else none
  | '{' => none
  | '\\' => some (p.expect (.escape .outside))
  | _ => some (p.expect (.term true))

/-- Reads a character where an item of a class may stand. -/
def stepItem (p : Progress) (c : Char) : Progress :=
  match c with
  | '[' => p.openClass
  | ']' => p.closeClass
  | '\\' => p.expect (.escape .item)
  | _ => p.expect (.afterItem (some c) (c == '&' || c == '-' || c == '~'))

/-- Reads a flag, or the end of the flags. A dash comes once and not at the
end, and no flag comes twice. -/
def stepFlags (p : Progress) (read : List Char) (c : Char) : Option Progress :=
  if c == ':' || c == ')' then
    if read.head? == some '-' || (c == ')' && read.isEmpty) then none
    else some (if c == ':' then p.openGroup else p.expect (.term false))
  else if ['-', 'i', 'm', 's', 'U', 'u', 'x', 'R'].contains c && !read.contains c then
    some (p.expect (.flags (c :: read)))
  else none

/-- Reads the character behind a backslash. -/
def stepEscape (p : Progress) (site : Site) (c : Char) : Option Progress :=
  match c with
  | 'x' => some (p.expect (.digits site 2 0))
  | 'u' => some (p.expect (.digits site 4 0))
  | 'U' => some (p.expect (.digits site 8 0))
  | 'p' | 'P' => some (p.expect (.category site))
  | 'd' | 'D' | 's' | 'S' | 'w' | 'W' => p.endEscape none site
  | 'a' => p.endEscape (some '\x07') site
  | 't' => p.endEscape (some '\t') site
  | 'n' => p.endEscape (some '\n') site
  | 'v' => p.endEscape (some '\x0b') site
  | 'f' => p.endEscape (some '\x0c') site
  | 'r' => p.endEscape (some '\r') site
  | 'A' | 'z' => if site = .outside then p.endEscape none site else none
  | '<' | '>' => none
  | c => if c.isAlphanum || 0x80 ≤ c.toNat then none else p.endEscape (some c) site

/-- Reads a hexadecimal digit of a character. -/
def stepDigits (p : Progress) (site : Site) (left value : Nat) (c : Char) : Option Progress := do
  let value := 16 * value + (← hexValue? c)
  if 1 < left then return p.expect (.digits site (left - 1) value)
  else if value.isValidChar then p.endEscape (some (Char.ofNat value)) site
  else none

/-- Reads a character. -/
def step (p : Progress) (c : Char) : Option Progress :=
  match p.expecting with
  | .term repeatable => p.stepTerm repeatable c
  | .group => if c == '?' then some (p.expect .groupKind) else p.openGroup.stepTerm false c
  | .groupKind =>
    if c == '<' then some (p.expect (.name []))
    else if c == 'P' then some (p.expect .nameStart)
    else p.stepFlags [] c
  | .nameStart => if c == '<' then some (p.expect (.name [])) else none
  | .name read =>
    if c == '>' then
      if read.isEmpty || p.names.contains read then none
      else some { p.openGroup with names := read :: p.names }
    else if isInName c read.isEmpty then some (p.expect (.name (c :: read)))
    else none
  | .flags read => p.stepFlags read c
  | .classStart negatable =>
    if c == '^' && negatable then some (p.expect (.classStart false))
    else if c == '-' then some (p.expect .dashes)
    else if c == ']' then some (p.expect .item)
    else some (p.stepItem c)
  | .dashes => if c == '-' then some (p.expect .dashes) else some (p.stepItem c)
  | .item => some (p.stepItem c)
  | .afterItem last joins =>
    if joins && last == some c then some (p.expect .item)
    else if c == '-' then some (p.expect (.afterDash last))
    else some (p.stepItem c)
  | .afterDash first =>
    if c == ']' then some p.closeClass
    else if c == '-' then some (p.expect .item)
    else if c == '\\' then some (p.expect (.escape (.rangeEnd first)))
    else p.endRange first (some c)
  | .escape site => p.stepEscape site c
  | .digits site left value => p.stepDigits site left value c
  | .category site =>
    if ['c', 'l', 'm', 'n', 'p', 's', 'z'].contains c.toLower then p.endEscape none site else none

/-- Whether the end may come. -/
def mayEnd (p : Progress) : Bool :=
  match p.expecting with
  | .term _ => p.groups == 0
  | _ => false

/-- Reads the rest of a pattern. -/
def accepts (p : Progress) : List Char → Bool
  | [] => p.mayEnd
  | c :: rest => (p.step c).any fun p => p.accepts rest

end Progress

/-- Whether a text is a pattern. -/
def isPattern (s : List Char) : Bool := Progress.accepts {} s

end CordonWatch.Text.Pattern
