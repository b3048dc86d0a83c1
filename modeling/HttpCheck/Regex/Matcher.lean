import HttpCheck.Regex.Parse
import HttpCheck.Regex.Translate
import HttpCheck.Regex.Automaton
import HttpCheck.Regex.Footprint
/-!
# Matchers

A pattern compiled for searching: read, resolved, checked for size and turned into an
automaton. A matcher answers whether its pattern matches anywhere in a text.
-/
namespace HttpCheck.Regex

/-- Why a pattern cannot be compiled. -/
inductive CompileError where
  /-- The pattern is malformed, or asks for what cannot be matched. -/
  | malformed (e : SyntaxError)
  /-- The automaton would exceed the size limit, in bytes. -/
  | tooBig (limit : Nat)
  deriving Repr

/-- The text of a compile error for a pattern. -/
def CompileError.message (pattern : String) : CompileError → String
  | .malformed e => e.render pattern
  | .tooBig limit => "Compiled regex exceeds size limit of " ++ natText limit ++ " bytes."

/-- A compiled pattern. -/
structure Matcher where
  pattern : String
  automaton : Automaton

/-- Compiles a pattern. -/
def Matcher.compile (pattern : String) : Except CompileError Matcher := do
  let ast ← (parseAst pattern).mapError .malformed
  let expr ← (translate ast).mapError .malformed
  if !expr.fitsSizeLimit then throw (.tooBig sizeLimit)
  return ⟨pattern, Automaton.ofExpr expr⟩

/-- Whether the pattern matches somewhere in the text. -/
def Matcher.isMatch (m : Matcher) (text : String) : Bool := m.automaton.isMatch text

end HttpCheck.Regex
