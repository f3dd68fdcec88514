/-!
# Targets of requests

What a request asks for is written as a path with a query behind it, both of
which may be followed by a fragment that nobody looks at. The whole may stand
behind a scheme and an authority (`http://host:80/path`), which make no
difference to the path; a target that is an authority alone has no path, and a
lone asterisk is one of its own.

A request is sent only if its target is no longer than 65534 bytes and has
none but allowed characters. Every character beyond ASCII is allowed.
-/

namespace CordonWatch.Http

/-- Why no request can be made for a target. -/
inductive TargetDefect where
  | invalidCharacter
  | tooLong
  deriving DecidableEq, Repr, Inhabited

/-- What is wrong, in words. -/
def TargetDefect.message : TargetDefect → String
  | .invalidCharacter => "invalid uri character"
  | .tooLong => "uri too long"

namespace Target

/-- Bytes of the longest target. -/
def maxBytes : Nat := 65534

/-- Whether a character ends a path or an authority. -/
def isPathEnd (c : Char) : Bool := c == '?' || c == '#'

/-- Whether a character is allowed in a path. -/
def isPathChar (c : Char) : Bool :=
  let n := c.toNat
  0x7f ≤ n || (0x61 ≤ n && n ≤ 0x7a) || (0x40 ≤ n && n ≤ 0x5f) || (0x24 ≤ n && n ≤ 0x3b)
    || c == '!' || c == '"' || c == '=' || c == '{' || c == '|' || c == '}' || c == '~'

/-- Whether a character is allowed in a query. -/
def isQueryChar (c : Char) : Bool :=
  let n := c.toNat
  (0x3f ≤ n) || (0x24 ≤ n && n ≤ 0x3b) || c == '!' || c == '='

/-- Whether a path with its query and fragment has none but allowed characters. -/
def isWellFormed (cs : List Char) : Bool :=
  (cs.takeWhile (!isPathEnd ·)).all isPathChar
    && ((cs.dropWhile (!isPathEnd ·)).takeWhile (· != '#')).all isQueryChar

/-- What is wrong with a target that is a path with its query and fragment. -/
def defect? (target : String) : Option TargetDefect :=
  if target.utf8ByteSize > maxBytes then some .tooLong
  else if isWellFormed target.toList then none
  else some .invalidCharacter

/-- Whether a character may stand in a scheme. -/
def isSchemeChar (c : Char) : Bool := c.isAlphanum || c == '+' || c == '-' || c == '.'

/-- The path of a target. One that stands behind an authority is at least a slash. -/
def path (target : String) : String :=
  let cut (cs : List Char) : String := String.ofList (cs.takeWhile (!isPathEnd ·))
  match target.toList with
  | ['*'] => "*"
  | '/' :: cs => cut ('/' :: cs)
  | cs =>
    match cs.dropWhile isSchemeChar with
    | ':' :: '/' :: '/' :: rest =>
      let path := cut (rest.dropWhile fun c => c != '/' && !isPathEnd c)
      if path.isEmpty then "/" else path
    | _ => ""

end Target

end CordonWatch.Http
