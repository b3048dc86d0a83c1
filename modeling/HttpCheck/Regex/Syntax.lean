import HttpCheck.Json.Print
/-!
# Regular expression syntax

The abstract syntax of a pattern, with the place of every part: a position is a
character offset with its line (from one) and column (from one, counted in
characters). Errors name what is wrong and where; written out, an error shows the
pattern with carets under the faulty part:

```
regex parse error:
    a{2,1}
     ^^^^^
error: invalid repetition count range, the start must be <= the end
```

A pattern of several lines is shown between two rules of 79 tildes, each line behind
its number.
-/
namespace HttpCheck.Regex

/-- A place in a pattern. -/
structure Position where
  offset : Nat
  line : Nat
  column : Nat
  deriving DecidableEq, Repr, Inhabited

/-- The part of a pattern from `start` up to, not including, `stop`. -/
structure Span where
  start : Position
  stop : Position
  deriving DecidableEq, Repr, Inhabited

/-- The span of nothing at a position. -/
def Span.at (p : Position) : Span := ⟨p, p⟩

/-- A flag of a group or a flag setting. -/
inductive Flag where
  | caseInsensitive
  | multiLine
  | dotMatchesNewLine
  | swapGreed
  | unicode
  | crlf
  | ignoreWhitespace
  deriving DecidableEq, Repr, Inhabited

/-- An item of a flag list: a flag, or the `-` that negates the flags after it. -/
inductive FlagItem where
  | negation
  | flag (f : Flag)
  deriving DecidableEq, Repr, Inhabited

/-- An assertion about the place between two characters. -/
inductive AssertionKind where
  | startLine
  | endLine
  | startText
  | endText
  | wordBoundary
  | notWordBoundary
  | wordBoundaryStart
  | wordBoundaryEnd
  | wordBoundaryStartHalf
  | wordBoundaryEndHalf
  deriving DecidableEq, Repr, Inhabited

/-- The three kinds of Perl class: `\d`, `\s`, `\w`. -/
inductive PerlKind where
  | digit
  | space
  | word
  deriving DecidableEq, Repr, Inhabited

/-- How a Unicode class is named: `\pL`, `\p{Greek}`, `\p{sc=Greek}`, `\p{sc!=Greek}`. -/
inductive UnicodeClassKind where
  | oneLetter (c : Char)
  | named (name : String)
  | namedValue (notEqual : Bool) (name value : String)
  deriving DecidableEq, Repr, Inhabited

/-- The ASCII classes of the `[:name:]` form. -/
inductive AsciiKind where
  | alnum | alpha | ascii | blank | cntrl | digit | graph | lower | print | punct | space
  | upper | word | xdigit
  deriving DecidableEq, Repr, Inhabited

/-- How a literal was written: as itself, as an escape of a special character, or as
a hexadecimal escape (`\x..` written with exactly two digits counts as a byte). -/
inductive LiteralKind where
  | verbatim
  | escaped
  | hexByte
  | hexOther
  deriving DecidableEq, Repr, Inhabited

/-- A literal character. -/
structure Literal where
  span : Span
  kind : LiteralKind
  c : Char
  deriving DecidableEq, Repr, Inhabited

/-- The operators between classes: `&&`, `--`, `~~`. -/
inductive ClassOp where
  | intersection
  | difference
  | symmetricDifference
  deriving DecidableEq, Repr, Inhabited

mutual
/-- A set inside brackets: an item, or two sets joined by an operator. -/
inductive ClassSet where
  | item (i : ClassSetItem)
  | binaryOp (span : Span) (op : ClassOp) (lhs rhs : ClassSet)

/-- An item of a bracketed class. -/
inductive ClassSetItem where
  | empty (span : Span)
  | literal (lit : Literal)
  | range (span : Span) (first last : Literal)
  | ascii (span : Span) (kind : AsciiKind) (negated : Bool)
  | unicode (span : Span) (negated : Bool) (kind : UnicodeClassKind)
  | perl (span : Span) (kind : PerlKind) (negated : Bool)
  | bracketed (span : Span) (negated : Bool) (set : ClassSet)
  | union (span : Span) (items : List ClassSetItem)
end

/-- A repetition operator: `?`, `*`, `+`, `{n}`, `{n,}`, `{n,m}`. -/
inductive RepetitionKind where
  | zeroOrOne
  | zeroOrMore
  | oneOrMore
  | exactly (n : Nat)
  | atLeast (n : Nat)
  | bounded (m n : Nat)
  deriving DecidableEq, Repr, Inhabited

/-- What a group is: numbered, named, or not capturing (with flags). -/
inductive GroupKind where
  | captureIndex (index : Nat)
  | captureName (name : String) (index : Nat)
  | nonCapturing (flags : List FlagItem)
  deriving DecidableEq, Repr, Inhabited

/-- A pattern. -/
inductive Ast where
  | empty (span : Span)
  | flags (span : Span) (items : List FlagItem)
  | literal (lit : Literal)
  | dot (span : Span)
  | assertion (span : Span) (kind : AssertionKind)
  | classUnicode (span : Span) (negated : Bool) (kind : UnicodeClassKind)
  | classPerl (span : Span) (kind : PerlKind) (negated : Bool)
  | classBracketed (span : Span) (negated : Bool) (set : ClassSet)
  | repetition (span : Span) (kind : RepetitionKind) (greedy : Bool) (ast : Ast)
  | group (span : Span) (kind : GroupKind) (ast : Ast)
  | alternation (span : Span) (asts : List Ast)
  | concat (span : Span) (asts : List Ast)
  deriving Inhabited

/-- The span of a pattern. -/
def Ast.span : Ast → Span
  | .empty s | .flags s _ | .dot s | .assertion s _ | .classUnicode s _ _ | .classPerl s _ _
  | .classBracketed s _ _ | .repetition s _ _ _ | .group s _ _ | .alternation s _
  | .concat s _ => s
  | .literal l => l.span

/-- The span of a set item. -/
def ClassSetItem.span : ClassSetItem → Span
  | .empty s | .range s _ _ | .ascii s _ _ | .unicode s _ _ | .perl s _ _ | .bracketed s _ _
  | .union s _ => s
  | .literal l => l.span

/-- The span of a set. -/
def ClassSet.span : ClassSet → Span
  | .item i => i.span
  | .binaryOp s _ _ _ => s

/-- What can be wrong with a pattern. -/
inductive ErrorKind where
  | classEscapeInvalid
  | classRangeInvalid
  | classRangeLiteral
  | classUnclosed
  | decimalEmpty
  | decimalInvalid
  | escapeHexEmpty
  | escapeHexInvalid
  | escapeHexInvalidDigit
  | escapeUnexpectedEof
  | escapeUnrecognized
  | flagDanglingNegation
  | flagDuplicate
  | flagRepeatedNegation
  | flagUnexpectedEof
  | flagUnrecognized
  | groupNameDuplicate
  | groupNameEmpty
  | groupNameInvalid
  | groupNameUnexpectedEof
  | groupUnclosed
  | groupUnopened
  | nestLimitExceeded (limit : Nat)
  | repetitionCountInvalid
  | repetitionCountDecimalEmpty
  | repetitionCountUnclosed
  | repetitionMissing
  | specialWordBoundaryUnclosed
  | specialWordBoundaryUnrecognized
  | specialWordOrRepetitionUnexpectedEof
  | unicodeClassInvalid
  | unsupportedBackreference
  | unsupportedLookAround
  | unicodeNotAllowed
  | invalidUtf8
  | unicodePropertyNotFound
  | unicodePropertyValueNotFound
  deriving DecidableEq, Repr, Inhabited

/-- The words for what is wrong. -/
def ErrorKind.message : ErrorKind → String
  | .classEscapeInvalid => "invalid escape sequence found in character class"
  | .classRangeInvalid => "invalid character class range, the start must be <= the end"
  | .classRangeLiteral => "invalid range boundary, must be a literal"
  | .classUnclosed => "unclosed character class"
  | .decimalEmpty => "decimal literal empty"
  | .decimalInvalid => "decimal literal invalid"
  | .escapeHexEmpty => "hexadecimal literal empty"
  | .escapeHexInvalid => "hexadecimal literal is not a Unicode scalar value"
  | .escapeHexInvalidDigit => "invalid hexadecimal digit"
  | .escapeUnexpectedEof => "incomplete escape sequence, reached end of pattern prematurely"
  | .escapeUnrecognized => "unrecognized escape sequence"
  | .flagDanglingNegation => "dangling flag negation operator"
  | .flagDuplicate => "duplicate flag"
  | .flagRepeatedNegation => "flag negation operator repeated"
  | .flagUnexpectedEof => "expected flag but got end of regex"
  | .flagUnrecognized => "unrecognized flag"
  | .groupNameDuplicate => "duplicate capture group name"
  | .groupNameEmpty => "empty capture group name"
  | .groupNameInvalid => "invalid capture group character"
  | .groupNameUnexpectedEof => "unclosed capture group name"
  | .groupUnclosed => "unclosed group"
  | .groupUnopened => "unopened group"
  | .nestLimitExceeded n =>
    "exceed the maximum number of nested parentheses/brackets (" ++ natText n ++ ")"
  | .repetitionCountInvalid => "invalid repetition count range, the start must be <= the end"
  | .repetitionCountDecimalEmpty => "repetition quantifier expects a valid decimal"
  | .repetitionCountUnclosed => "unclosed counted repetition"
  | .repetitionMissing => "repetition operator missing expression"
  | .specialWordBoundaryUnclosed =>
    "special word boundary assertion is either unclosed or contains an invalid character"
  | .specialWordBoundaryUnrecognized =>
    "unrecognized special word boundary assertion, valid choices are: start, end, " ++
      "start-half or end-half"
  | .specialWordOrRepetitionUnexpectedEof =>
    "found either the beginning of a special word boundary or a bounded repetition on " ++
      "a \\b with an opening brace, but no closing brace"
  | .unicodeClassInvalid => "invalid Unicode character class"
  | .unsupportedBackreference => "backreferences are not supported"
  | .unsupportedLookAround =>
    "look-around, including look-ahead and look-behind, is not supported"
  | .unicodeNotAllowed => "Unicode not allowed here"
  | .invalidUtf8 => "pattern can match invalid UTF-8"
  | .unicodePropertyNotFound => "Unicode property not found"
  | .unicodePropertyValueNotFound => "Unicode property value not found"

/-- An error in a pattern: what, where, and for duplicates where the first one was. -/
structure SyntaxError where
  kind : ErrorKind
  span : Span
  aux : Option Span
  deriving DecidableEq, Repr, Inhabited

/-- The lines of a text: split at line feeds, a carriage return before a line feed
dropped, no line after a final line feed. -/
def textLines (s : String) : List String :=
  let parts := s.splitOn "\n"
  let parts := if s.endsWith "\n" then parts.dropLast else parts
  let n := parts.length
  (parts.zipIdx.map fun (p, i) =>
    if i + 1 < n || s.endsWith "\n" then
      (if p.endsWith "\r" then String.ofList p.toList.dropLast else p)
    else p)

/-- `n` copies of a character. -/
def repeatChar (c : Char) (n : Nat) : String := String.ofList (List.replicate n c)

/-- The caret line under one line of a pattern, for the spans on it. -/
def caretLine (padding : Nat) (spans : List Span) : String :=
  let (out, _) := spans.foldl (fun (acc : String × Nat) s =>
    let (out, pos) := acc
    let gap := s.start.column - 1 - pos
    let carets := max 1 (s.stop.column - s.start.column)
    (out ++ repeatChar ' ' gap ++ repeatChar '^' carets, pos + gap + carets)) ("", 0)
  repeatChar ' ' padding ++ out

/-- The text of an error in a pattern. -/
def SyntaxError.render (pattern : String) (e : SyntaxError) : String :=
  let ls := textLines pattern
  let lineCount := ls.length + (if pattern.endsWith "\n" then 1 else 0)
  let width := if lineCount ≤ 1 then 0 else (natText lineCount).length
  let padding := if width = 0 then 4 else 2 + width
  let spans := e.span :: e.aux.toList
  let byStart := spans.mergeSort fun a b =>
    a.start.offset < b.start.offset ||
      (a.start.offset == b.start.offset && a.stop.offset ≤ b.stop.offset)
  let oneLine := byStart.filter fun s => s.start.line == s.stop.line
  let multi := byStart.filter fun s => s.start.line != s.stop.line
  let notated := String.join (ls.zipIdx.map fun (l, i) =>
    let number := natText (i + 1)
    let lead := if width > 0 then repeatChar ' ' (width - number.length) ++ number ++ ": "
      else "    "
    let here := oneLine.filter fun s => s.start.line == i + 1
    lead ++ l ++ "\n" ++ (if here.isEmpty then "" else caretLine padding here ++ "\n"))
  let rule := repeatChar '~' 79
  if pattern.contains '\n' then
    let notes := multi.map fun s =>
      "on line " ++ natText s.start.line ++ " (column " ++ natText s.start.column ++
        ") through line " ++ natText s.stop.line ++ " (column " ++
        natText (s.stop.column - 1) ++ ")"
    "regex parse error:\n" ++ rule ++ "\n" ++ notated ++ rule ++ "\n" ++
      (if notes.isEmpty then "" else "\n".intercalate notes ++ "\n") ++ "error: " ++ e.kind.message
  else "regex parse error:\n" ++ notated ++ "error: " ++ e.kind.message

end HttpCheck.Regex
