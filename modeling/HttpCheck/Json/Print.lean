import HttpCheck.Json.Value
import HttpCheck.Text.Hex
/-!
# Writing JSON

The compact text of a value: no blanks; members in key order; in strings the quote and
backslash are escaped, as are backspace, form feed, line feed, carriage return and tab
by letter and the other control characters below `0x20` as `\u00xx` in lowercase
hexadecimal; every other character is written as itself. Integers are written exactly,
doubles in the JSON layout of their shortest decimal.
-/
namespace HttpCheck

/-- The decimal digits of a natural. -/
def natText (n : Nat) : String :=
  String.ofList ((Decimal.digitList n).map fun d => Char.ofNat ('0'.toNat + d))

/-- The decimal text of an integer, with `-` when negative. -/
def intText (i : Int) : String :=
  if i < 0 then "-" ++ natText i.natAbs else natText i.toNat

namespace Json

/-- How one character is written inside a JSON string. -/
def escapeChar (c : Char) : List Char :=
  if c == '"' then ['\\', '"']
  else if c == '\\' then ['\\', '\\']
  else if c == '\x08' then ['\\', 'b']
  else if c == '\x0c' then ['\\', 'f']
  else if c == '\n' then ['\\', 'n']
  else if c == '\r' then ['\\', 'r']
  else if c == '\t' then ['\\', 't']
  else if c.toNat < 0x20 then
    ['\\', 'u', '0', '0', Hex.digit (c.toNat / 16), Hex.digit (c.toNat % 16)]
  else [c]

/-- A JSON string literal. -/
def quote (s : String) : String :=
  String.ofList ('"' :: s.toList.flatMap escapeChar ++ ['"'])

/-- The text of a number; a double that is not finite has none in JSON and is written
`null`. -/
def numberText : JsonNumber → String
  | .natural n => natText n
  | .negative n => intText n
  | .float x => if x.isFinite then Binary64.render Binary64.jsonLayout x else "null"

mutual
/-- The compact text of a value. -/
def render : Json → String
  | .null => "null"
  | .bool true => "true"
  | .bool false => "false"
  | .number n => numberText n
  | .string s => quote s
  | .array xs => "[" ++ renderItems xs ++ "]"
  | .object ms => "\x7b" ++ renderMembers ms ++ "\x7d"

/-- Items separated by commas. -/
def renderItems : List Json → String
  | [] => ""
  | [x] => render x
  | x :: xs => render x ++ "," ++ renderItems xs

/-- Members `"key":value` separated by commas. -/
def renderMembers : List (String × Json) → String
  | [] => ""
  | [(k, v)] => quote k ++ ":" ++ render v
  | (k, v) :: ms => quote k ++ ":" ++ render v ++ "," ++ renderMembers ms
end

end Json
end HttpCheck
