import CordonWatch.Log
import CordonWatch.Text.Hidden
import CordonWatch.Text.Letter
import CordonWatch.Text.Number
import CordonWatch.Text.Pattern

/-!
# Which lines are logged

A filter is written as directives with commas between them. A directive is a
level (`warn` in any case, or a number from 0 to 5), a target (`cluster`), or
a target with a level (`cluster=debug`). A target may be followed, or replaced,
by brackets with the name of a span of time, fields in braces, or both:
`cluster[pass{node}]=debug`.

Our lines stand in no span. So a directive for a span admits none of them, nor
does one that asks for the value of a field; one that asks only that a field
is there is for the lines that have it. Of the directives for a line the most
specific one says whether the line is logged: the one with the longest target,
which the line's begins with, then the one with the most fields.

A text that is no list of directives stands for `info`.
-/

namespace CordonWatch

/-- How much is logged: nothing, or lines up to a detail. -/
inductive LogDetail where
  | off
  | error
  | warn
  | info
  | debug
  | trace
  deriving DecidableEq, Repr, Inhabited

namespace LogDetail

/-- Rank of a detail; the greater, the more is logged. -/
def rank : LogDetail → Nat
  | .off => 0
  | .error => 1
  | .warn => 2
  | .info => 3
  | .debug => 4
  | .trace => 5

/-- The detail at which a line of a level is logged. -/
def ofLevel : LogLevel → LogDetail
  | .error => .error
  | .warn => .warn
  | .info => .info
  | .debug => .debug

/-- The detail of a rank. -/
def ofRank? : Nat → Option LogDetail
  | 0 => some .off
  | 1 => some .error
  | 2 => some .warn
  | 3 => some .info
  | 4 => some .debug
  | 5 => some .trace
  | _ => none

/-- The detail that a word names. -/
def ofWord? (s : String) : Option LogDetail :=
  match String.ofList (s.toList.map Char.toLower) with
  | "off" => some .off
  | "error" => some .error
  | "warn" => some .warn
  | "info" => some .info
  | "debug" => some .debug
  | "trace" => some .trace
  | _ => none

/-- The detail that a text names by its rank or in a word. -/
def ofText? (s : String) : Option LogDetail :=
  match Text.readNumber s with
  | .ok n => ofRank? n
  | .error _ => ofWord? s

/-- A rank determines its detail. -/
@[simp] theorem ofRank?_rank (d : LogDetail) : ofRank? d.rank = some d := by cases d <;> rfl

end LogDetail

/-- A field that a directive asks for. -/
structure FieldDemand where
  name : String
  /-- Whether a value is asked for, too. -/
  valued : Bool
  deriving DecidableEq, Repr, Inhabited

namespace FieldDemand

/-- Whether a text asks for a value: it is a number or a pattern. A number
without plus sign is a pattern, too. -/
def isValue : List Char → Bool
  | '+' :: rest => Text.isUnsignedNumber rest
  | s => Text.Pattern.isPattern s

/-- A field, perhaps with a value behind an equals sign. The value ends at
another equals sign. -/
def ofText? (s : List Char) : Option FieldDemand :=
  let name := String.ofList (s.takeWhile (· != '='))
  match s.dropWhile (· != '=') with
  | _ :: value => if isValue (value.takeWhile (· != '=')) then some ⟨name, true⟩ else none
  | [] => some ⟨name, false⟩

end FieldDemand

/-- A directive. -/
structure LogDirective where
  /-- What the target of a line begins with; nothing is asked of it if none. -/
  target : Option String := none
  /-- The span in which a line must stand. -/
  span : Option String := none
  fields : List FieldDemand := []
  detail : LogDetail := .trace
  deriving DecidableEq, Repr, Inhabited

namespace LogDirective

/-- Where the reading of a directive is; what is read now began at a place. -/
inductive Reading where
  | start
  | name (since : Nat)
  | span (since : Nat)
  | field (since : Nat)
  | afterFields
  | afterSpan
  | detail (since : Nat)
  deriving DecidableEq, Repr, Inhabited

/-- Whether a directive may begin with a character. -/
def isInitial (c : Char) : Bool := c == '-' || c == ':' || c == '_' || Text.isAlphanumeric c

/-- Reads the character at a place. What was read is cut out of `text`. -/
def step (text : List Char) (place : Nat) (c : Char) (d : LogDirective) :
    Reading → Option (LogDirective × Reading)
  | .start =>
    if c == '[' then some (d, .span (place + 1))
    else if isInitial c then some (d, .name place)
    else none
  | .name since =>
    let cut := String.ofList (text.extract since place)
    if c == '=' then some ({ d with target := some cut }, .detail (place + 1))
    else if c == '[' then some ({ d with target := some cut }, .span (place + 1))
    else some (d, .name since)
  | .span since =>
    let cut := String.ofList (text.extract since place)
    if c == ']' then some ({ d with span := some cut }, .afterSpan)
    else if c == '{' then
      some ({ d with span := if cut.isEmpty then none else some cut }, .field (place + 1))
    else some (d, .span since)
  | .field since =>
    if c == '}' then
      let cut := text.extract since place
      if cut.isEmpty then none
      else (FieldDemand.ofText? cut).map fun f =>
        ({ d with fields := d.fields ++ [f] }, .afterFields)
    else some (d, .field since)
  | .afterFields => if c == ']' then some (d, .afterSpan) else none
  | .afterSpan => if c == '=' then some (d, .detail (place + 1)) else none
  | .detail since => some (d, .detail since)

/-- Ends the reading. A name alone is a level if it names one, else a target. -/
def finish (text : List Char) (d : LogDirective) : Reading → Option LogDirective
  | .name since =>
    let cut := String.ofList (text.drop since)
    match LogDetail.ofText? cut with
    | some detail => some { d with detail }
    | none => some { d with target := some cut }
  | .detail since =>
    let cut := String.ofList (text.drop since)
    if cut.isEmpty then some d
    else (LogDetail.ofText? cut).map fun detail => { d with detail }
  | .afterSpan => some d
  | .start | .span _ | .field _ | .afterFields => none

/-- Reads the characters from a place on. -/
def readFrom (text : List Char) (place : Nat) (d : LogDirective) (reading : Reading) :
    List Char → Option LogDirective
  | [] => d.finish text reading
  | c :: rest =>
    match d.step text place c reading with
    | some (d, reading) => d.readFrom text (place + 1) reading rest
    | none => none

/-- Reads a directive. Blanks around it are skipped while it is parted, but
its parts are cut out of the text with the blanks, at the same places: a level
with blanks around it names a target. -/
def parse? (s : String) : Option LogDirective :=
  let text := s.toList
  let inner := ((text.dropWhile Text.isBlank).reverse.dropWhile Text.isBlank).reverse
  readFrom text 0 {} .start inner

/-- Whether a directive is for a line in no span, with that target and those fields. -/
def covers (d : LogDirective) (target : String) (fields : List String) : Bool :=
  d.span.isNone && d.fields.all (fun f => !f.valued && fields.contains f.name)
    && d.target.all fun t => t.toList.isPrefixOf target.toList

/-- Whether a directive is at least as specific as another one for the same line. -/
def isSpecificAs (d other : LogDirective) : Bool :=
  let length (d : LogDirective) : Nat := d.target.elim 0 fun t => t.length + 1
  length other < length d
    || (length other == length d && other.fields.length ≤ d.fields.length)

end LogDirective

/-- A filter of lines. -/
abbrev LogFilter : Type := List LogDirective

namespace LogFilter

/-- What is logged unless something else is asked for. -/
def standard : LogFilter := [{ detail := .info }]

/-- The filter that a text writes. Without any directive only errors are logged. -/
def ofText (s : String) : LogFilter :=
  let parts := (s.splitOn ",").filter (!·.isEmpty)
  match parts.mapM LogDirective.parse? with
  | none => standard
  | some [] => [{ detail := .error }]
  | some directives => directives

/-- Of two directives the more specific one, the later of two that are equally so. -/
def moreSpecific (found : Option LogDirective) (d : LogDirective) : Option LogDirective :=
  match found with
  | some other => if d.isSpecificAs other then some d else some other
  | none => some d

/-- Whether a line of a target and level, with those fields, is logged. -/
def admits (f : LogFilter) (target : String) (level : LogLevel) (fields : List String) : Bool :=
  match (f.filter (·.covers target fields)).foldl moreSpecific none with
  | some d => (LogDetail.ofLevel level).rank ≤ d.detail.rank
  | none => false

end LogFilter

end CordonWatch
