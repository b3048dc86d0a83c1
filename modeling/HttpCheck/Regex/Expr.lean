import HttpCheck.Unicode.Ranges
import HttpCheck.Unicode.Property
/-!
# Expressions

What a pattern means once its syntax is resolved: sets of characters, assertions about
the place between two characters, and the ways of combining them. Flags are gone by
now: case-insensitivity has widened the sets, and the line and Unicode modes have
chosen which assertion each anchor is.

An assertion looks at the character before the place and the one after it (none at the
ends of the text).
-/
namespace HttpCheck.Regex

open HttpCheck.Unicode

/-- An assertion about a place in the text. -/
inductive Look where
  /-- The start of the text. -/
  | start
  /-- The end of the text. -/
  | finish
  /-- The start of a line: the start of the text or after a line feed; with `crlf`, also
  after a carriage return that no line feed follows. -/
  | startLine (crlf : Bool)
  /-- The end of a line: the end of the text or before a line feed; with `crlf`, also
  before a carriage return, and not between a carriage return and a line feed. -/
  | endLine (crlf : Bool)
  /-- A word boundary: a word character on exactly one side. -/
  | word (unicode : Bool)
  /-- Not a word boundary. -/
  | notWord (unicode : Bool)
  /-- The start of a word: none before, one after. -/
  | wordStart (unicode : Bool)
  /-- The end of a word: one before, none after. -/
  | wordEnd (unicode : Bool)
  /-- No word character before. -/
  | wordStartHalf (unicode : Bool)
  /-- No word character after. -/
  | wordEndHalf (unicode : Bool)
  deriving DecidableEq, Repr, Inhabited

/-- The word characters as a sorted array of ranges, for lookup by bisection. -/
def wordRanges : Array (Nat × Nat) := wordTable.ranges.toArray

/-- Whether a character is a word character: by the Unicode definition, or only ASCII
letters, digits and `_`. -/
def isWordChar (unicode : Bool) (c : Char) : Bool :=
  if unicode then RangeTable.containsIn wordRanges c.toNat 0 wordRanges.size
  else c.isAlphanum || c == '_'

/-- Whether the character at one side of a place is a word character. -/
def wordAt (unicode : Bool) : Option Char → Bool
  | some c => isWordChar unicode c
  | none => false

/-- Whether an assertion holds between `before` and `after`. -/
def Look.holds (before after : Option Char) : Look → Bool
  | .start => before.isNone
  | .finish => after.isNone
  | .startLine false => before.isNone || before == some '\n'
  | .startLine true =>
    before.isNone || before == some '\n' || (before == some '\r' && after != some '\n')
  | .endLine false => after.isNone || after == some '\n'
  | .endLine true =>
    after.isNone || after == some '\r' || (after == some '\n' && before != some '\r')
  | .word u => wordAt u before != wordAt u after
  | .notWord u => wordAt u before == wordAt u after
  | .wordStart u => !wordAt u before && wordAt u after
  | .wordEnd u => wordAt u before && !wordAt u after
  | .wordStartHalf u => !wordAt u before
  | .wordEndHalf u => !wordAt u after

/-- A resolved pattern. -/
inductive Expr where
  /-- The empty text. -/
  | empty
  /-- One character from a set. -/
  | chars (set : RangeTable)
  /-- An assertion, taking no characters. -/
  | look (l : Look)
  /-- Between `min` and `max` (unbounded when none) repetitions. -/
  | repetition (min : Nat) (max : Option Nat) (e : Expr)
  /-- A group, which captures. -/
  | group (e : Expr)
  /-- One after the other. -/
  | concat (es : List Expr)
  /-- Any one of them. -/
  | alt (es : List Expr)
  deriving Inhabited

/-- One character. -/
def Expr.char (c : Char) : Expr := .chars (RangeTable.single c.toNat)

end HttpCheck.Regex
