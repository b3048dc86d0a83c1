import HttpCheck.Unicode.Printable
import HttpCheck.Text.Hex
/-!
# Quoted literals

The literal form of a text, as written between double quotes for a reader: NUL, tab,
carriage return, line feed, backslash and the double quote get a backslash escape;
a character that extends a grapheme or is not printable is written `\u{h}` with its
code point in lowercase hexadecimal without leading zeros; every other character,
the apostrophe among them, stands for itself.
-/
namespace HttpCheck.Quoted

open HttpCheck.Unicode

/-- Lowercase hexadecimal digits of a number, without leading zeros (`0` for zero). -/
def hexDigits (n : Nat) : List Char :=
  if n < 16 then [Hex.digit n] else hexDigits (n / 16) ++ [Hex.digit (n % 16)]
termination_by n
decreasing_by omega

/-- The escape `\u{h}` of a code point. -/
def unicodeEscape (c : Char) : List Char :=
  ['\\', 'u', '\x7b'] ++ hexDigits c.toNat ++ ['\x7d']

/-- How one character is written inside the quotes. -/
def escapeChar (c : Char) : List Char :=
  if c == '\x00' then ['\\', '0']
  else if c == '\t' then ['\\', 't']
  else if c == '\r' then ['\\', 'r']
  else if c == '\n' then ['\\', 'n']
  else if c == '\\' then ['\\', '\\']
  else if c == '"' then ['\\', '"']
  else if isGraphemeExtend c then unicodeEscape c
  else if isPrintable c then [c]
  else unicodeEscape c

/-- The quoted literal of a text, quotes included. -/
def literal (s : String) : String :=
  String.ofList ('"' :: s.toList.flatMap escapeChar ++ ['"'])

end HttpCheck.Quoted
