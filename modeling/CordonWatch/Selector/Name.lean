/-!
# Names of labels

A label key is a name, or a prefix, a slash and a name. A name has one to 63
bytes: letters, digits, `-`, `_` and `.`, with a letter or digit at both ends.
A prefix has at most 253 bytes and is a domain name in lower case, whose
labels may each have any length. A label value is empty or a name.

All characters that can occur are ASCII, and lengths count bytes, so a text
with any other character is no name whatever its length.
-/

namespace CordonWatch.Selector

/-- Greatest number of bytes of a name. -/
def maxNameBytes : Nat := 63

/-- Greatest number of bytes of a prefix. -/
def maxPrefixBytes : Nat := 253

/-- Whether a property holds of the first and of the last character of a text
that has one. -/
def bothEnds (p : Char → Bool) (cs : List Char) : Bool :=
  cs.head?.any p && cs.getLast?.any p

/-- A character inside a name. -/
def isNameChar (c : Char) : Bool := c.isAlphanum || c == '-' || c == '_' || c == '.'

/-- Whether a text is a name. -/
def isName (s : String) : Bool :=
  s.utf8ByteSize ≤ maxNameBytes && bothEnds Char.isAlphanum s.toList && s.toList.all isNameChar

/-- A character inside a label of a domain name. -/
def isDomainChar (c : Char) : Bool := c.isLower || c.isDigit || c == '-'

/-- Whether a text is one label of a domain name. -/
def isDomainLabel (cs : List Char) : Bool :=
  bothEnds Char.isAlphanum cs && cs.all isDomainChar

/-- Whether a text is a domain name: labels with dots between them. -/
def isDomain (cs : List Char) : Bool := (cs.splitOn '.').all isDomainLabel

/-- Whether a text is a prefix of a key. -/
def isKeyPrefix (s : String) : Bool :=
  s.utf8ByteSize ≤ maxPrefixBytes && isDomain s.toList

/-- Whether a text is a label value. -/
def isValue (s : String) : Bool := s.isEmpty || isName s

/-- A key at its first slash: the prefix, if there is a slash, and the name. -/
def splitKey (key : String) : Option String × String :=
  let cs := key.toList
  match cs.dropWhile (· != '/') with
  | _ :: name => (some (String.ofList (cs.takeWhile (· != '/'))), String.ofList name)
  | [] => (none, key)

end CordonWatch.Selector
