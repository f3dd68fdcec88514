import CordonWatch.Json.Value
import CordonWatch.Text.Digits
import CordonWatch.Text.Quoted

/-!
# Writing JSON

A value on one line without blanks. A text escapes the double quote, the
backslash and the control characters, which have short escapes or are written
by number in four hexadecimal digits; all else stands for itself.
-/

namespace CordonWatch.Json

/-- How one character is written in a text. -/
def escape (c : Char) : String :=
  match c with
  | '"' => "\\\""
  | '\\' => "\\\\"
  | '\x08' => "\\b"
  | '\x0c' => "\\f"
  | '\n' => "\\n"
  | '\r' => "\\r"
  | '\t' => "\\t"
  | c =>
    if c.toNat < 0x20 then
      "\\u" ++ Text.zeroPadded 4 (Text.hex c.toNat)
    else c.toString

/-- A text between its quotes. -/
def renderText (s : String) : String := "\"" ++ String.join (s.toList.map escape) ++ "\""

/-- A number as it stands: its digits with the point among them, and the power of ten
behind them. One that was not written as an integer has either. -/
def renderNumber (n : Decimal) : String :=
  (if n.negative then "-" else "") ++ toString (n.digits / 10 ^ n.places)
    ++ (if n.places = 0 then ""
        else "." ++ Text.zeroPadded n.places (toString (n.digits % 10 ^ n.places)))
    ++ (if n.integral ∨ (n.power = 0 ∧ n.places ≠ 0) then "" else "e" ++ toString n.power)

mutual

/-- A value on one line. What spells no string is written as an empty text. -/
def render : Json → String
  | .null => "null"
  | .bool b => if b then "true" else "false"
  | .number n => renderNumber n
  | .text s => renderText s
  | .list items => "[" ++ ",".intercalate (renderItems items) ++ "]"
  | .object fields => "\x7b" ++ ",".intercalate (renderFields fields) ++ "\x7d"
  | .unpaired => "\"\""

def renderItems : List Json → List String
  | [] => []
  | v :: rest => render v :: renderItems rest

def renderFields : List (String × Json) → List String
  | [] => []
  | (name, v) :: rest => (renderText name ++ ":" ++ render v) :: renderFields rest

end

end CordonWatch.Json
