import CordonWatch.Text.Hidden

/-!
# Quoted text

Messages quote the key, value, operator or body they are about. A quotation
stands between double quotes and shows on one line what it quotes: a double
quote and a backslash get a backslash, tab, carriage return, line feed and
NUL have short escapes, and every other hidden character is written by its
number. Everything else stands for itself.
-/

namespace CordonWatch.Text

/-- A number in lower-case hexadecimal, without leading zeros. -/
def hex (n : Nat) : String := String.ofList (Nat.toDigits 16 n)

/-- How one character is written between quotes. -/
def Quoted.character (c : Char) : String :=
  match c with
  | '"' => "\\\""
  | '\\' => "\\\\"
  | '\t' => "\\t"
  | '\r' => "\\r"
  | '\n' => "\\n"
  | '\x00' => "\\0"
  | c => if isHidden c then "\\u\x7b" ++ hex c.toNat ++ "\x7d" else c.toString

/-- Text between double quotes, on one line and with hidden characters shown. -/
def quoted (s : String) : String :=
  "\"" ++ String.join (s.toList.map Quoted.character) ++ "\""

end CordonWatch.Text
