import HttpCheck.Regex.Syntax
import HttpCheck.Text.Blank
import HttpCheck.Unicode.Alphanumeric
/-!
# Reading patterns

A reader from pattern text to syntax, in one pass from left to right. Groups and
alternations in progress are kept on a stack, as are open brackets and pending class
operators, so that every error can point at the part it is about: an unclosed group
at its `(`, an unclosed class at its `[`, a bad repetition count at the whole `{...}`.

Blanks are insignificant only under the `x` flag (then `#` starts a comment to the end
of the line), except inside a counted repetition `{n,m}`, where they are always
allowed. After reading, nesting deeper than 250 groups, classes, repetitions,
alternations and sequences is refused.
-/
namespace HttpCheck.Regex

/-- A sequence being read. -/
structure Concat where
  span : Span
  asts : List Ast
  deriving Inhabited

/-- The pattern of a sequence: nothing, its one part, or the sequence. -/
def Concat.intoAst (c : Concat) : Ast :=
  match c.asts with
  | [] => .empty c.span
  | [a] => a
  | _ => .concat c.span c.asts

/-- A union of class items being read. -/
structure ClassUnion where
  span : Span
  items : List ClassSetItem
  deriving Inhabited

/-- Adds an item; the span grows to cover it. -/
def ClassUnion.push (u : ClassUnion) (item : ClassSetItem) : ClassUnion :=
  let start := if u.items.isEmpty then item.span.start else u.span.start
  ⟨⟨start, item.span.stop⟩, u.items ++ [item]⟩

/-- The item of a union: nothing, its one item, or the union. -/
def ClassUnion.intoItem (u : ClassUnion) : ClassSetItem :=
  match u.items with
  | [] => .empty u.span
  | [i] => i
  | _ => .union u.span u.items

/-- A group or an alternation in progress. -/
inductive GroupState where
  /-- An open group, with the sequence before it and the blank mode outside it. -/
  | group (outer : Concat) (span : Span) (kind : GroupKind) (ignoreWhitespace : Bool)
  /-- The branches of an alternation read so far. -/
  | alternation (span : Span) (asts : List Ast)
  deriving Inhabited

/-- A class in progress. -/
inductive ClassState where
  /-- An open bracket, with the union it belongs to. -/
  | opened (outer : ClassUnion) (span : Span) (negated : Bool)
  /-- An operator waiting for its right side. -/
  | op (kind : ClassOp) (lhs : ClassSet)
  deriving Inhabited

/-- Everything the reader keeps. -/
structure ReaderState where
  pattern : Array Char
  pos : Position
  ignoreWhitespace : Bool
  captureIndex : Nat
  captureNames : List (String × Span)
  groups : List GroupState
  classes : List ClassState
  deriving Inhabited

/-- Reading with state and errors. -/
abbrev Reader := StateT ReaderState (Except SyntaxError)

/-- A primitive: what an escape or a plain character can be. -/
inductive Primitive where
  | literal (l : Literal)
  | assertion (span : Span) (kind : AssertionKind)
  | dot (span : Span)
  | perl (span : Span) (kind : PerlKind) (negated : Bool)
  | unicode (span : Span) (negated : Bool) (kind : UnicodeClassKind)
  deriving Inhabited

namespace Primitive

/-- The span of a primitive. -/
def span : Primitive → Span
  | .literal l => l.span
  | .assertion s _ | .dot s | .perl s _ _ | .unicode s _ _ => s

/-- The pattern of a primitive. -/
def intoAst : Primitive → Ast
  | .literal l => .literal l
  | .assertion s k => .assertion s k
  | .dot s => .dot s
  | .perl s k n => .classPerl s k n
  | .unicode s n k => .classUnicode s n k

end Primitive

/-- Whether a character has a meaning of its own in a pattern. -/
def isMetaCharacter (c : Char) : Bool :=
  "\\.+*?()|[]\x7b\x7d^$#&-~".contains c

/-- Whether an escaped character stands for itself: meta characters, and ASCII that
is not a letter, a digit, `<` or `>`. -/
def isEscapeable (c : Char) : Bool :=
  isMetaCharacter c ||
    (c.toNat < 128 && !c.isAlphanum && c != '<' && c != '>')

/-- Whether a character may stand in a capture name (first or later). -/
def isCaptureChar (c : Char) (first : Bool) : Bool :=
  if first then c == '_' || Unicode.alphabeticTable.contains c.toNat
  else c == '_' || c == '.' || c == '[' || c == ']' || Unicode.alphanumericTable.contains c.toNat

/-- Whether a character is an ASCII hexadecimal digit. -/
def isHexChar (c : Char) : Bool :=
  ('0' ≤ c ∧ c ≤ '9') || ('a' ≤ c ∧ c ≤ 'f') || ('A' ≤ c ∧ c ≤ 'F')

/-- The value of hexadecimal digits. -/
def hexValueOf (cs : List Char) : Nat :=
  cs.foldl (fun n c => 16 * n + Unicode.RangeTable.hexValue c) 0

/-- The place after a character. -/
def Position.after (p : Position) (c : Char) : Position :=
  if c == '\n' then ⟨p.offset + 1, p.line + 1, 1⟩ else ⟨p.offset + 1, p.line, p.column + 1⟩

/-- The state of a flag in a flag list: set, cleared (after `-`), or not named. -/
def flagState (items : List FlagItem) (f : Flag) : Option Bool :=
  let rec go (negated : Bool) : List FlagItem → Option Bool
    | [] => none
    | .negation :: rest => go true rest
    | .flag g :: rest => if g == f then some !negated else go negated rest
  go false items

/-- The ASCII class of a name. -/
def AsciiKind.ofName : String → Option AsciiKind
  | "alnum" => some .alnum
  | "alpha" => some .alpha
  | "ascii" => some .ascii
  | "blank" => some .blank
  | "cntrl" => some .cntrl
  | "digit" => some .digit
  | "graph" => some .graph
  | "lower" => some .lower
  | "print" => some .print
  | "punct" => some .punct
  | "space" => some .space
  | "upper" => some .upper
  | "word" => some .word
  | "xdigit" => some .xdigit
  | _ => none

section Reading

/-- The character at an offset (NUL past the end). -/
def charAt (i : Nat) : Reader Char := do return (← get).pattern.getD i '\x00'

/-- The character at an offset, if there is one. -/
def charAt? (i : Nat) : Reader (Option Char) := do return (← get).pattern[i]?

/-- A bound on the steps of any loop over the pattern. -/
def fuelBound : Reader Nat := do return (← get).pattern.size + 1

/-- The text between two offsets. -/
def textBetween (start stop : Nat) : Reader String := do
  return String.ofList (((← get).pattern.toList.drop start).take (stop - start))

/-- The current position. -/
def here : Reader Position := do return (← get).pos

/-- Whether the whole pattern has been read. -/
def atEnd : Reader Bool := do return (← get).pos.offset ≥ (← get).pattern.size

/-- The current character. -/
def current : Reader Char := do charAt (← get).pos.offset

/-- The empty span at the current position. -/
def spanHere : Reader Span := do let p ← here; return ⟨p, p⟩

/-- The span of the current character. -/
def spanChar : Reader Span := do
  let p ← here
  return ⟨p, p.after (← charAt p.offset)⟩

/-- Fails with an error at a span. -/
def fail {α : Type} (span : Span) (kind : ErrorKind) : Reader α := throw ⟨kind, span, none⟩

/-- A result read earlier, now needed. -/
def liftExcept {α : Type} : Except SyntaxError α → Reader α
  | .ok a => pure a
  | .error e => throw e

/-- Moves past the current character; whether a character follows. -/
def bump : Reader Bool := do
  if ← atEnd then return false
  let c ← current
  modify fun s => { s with pos := s.pos.after c }
  return !(← atEnd)

/-- The character after the current one. -/
def peek : Reader (Option Char) := do
  if ← atEnd then return none
  charAt? ((← get).pos.offset + 1)

/-- Whether the pattern has some characters at an offset. -/
def hasAt (i : Nat) (cs : List Char) : Reader Bool := do
  let pattern := (← get).pattern
  return cs.zipIdx.all fun (c, j) => pattern[i + j]? == some c

/-- Moves past a text when it comes next. -/
def bumpIf (s : String) : Reader Bool := do
  if ← hasAt (← get).pos.offset s.toList then
    for _ in s.toList do
      let _ ← bump
    return true
  return false

/-- Skips a comment, up to and including its line feed. -/
def skipComment : Nat → Reader Unit
  | 0 => pure ()
  | fuel + 1 => do
    if ← atEnd then return
    let c ← current
    let _ ← bump
    if c == '\n' then return
    skipComment fuel

/-- Skips blanks and comments. -/
def skipBlanks : Nat → Reader Unit
  | 0 => pure ()
  | fuel + 1 => do
    if ← atEnd then return
    let c ← current
    if Blank.isBlank c then
      let _ ← bump
      skipBlanks fuel
    else if c == '#' then
      let _ ← bump
      skipComment (← fuelBound)
      skipBlanks fuel
    else return

/-- Skips blanks and comments under the `x` flag. -/
def bumpSpace : Reader Unit := do
  if (← get).ignoreWhitespace then skipBlanks (← fuelBound)

/-- Moves past the current character and any blanks; whether a character follows. -/
def bumpAndBumpSpace : Reader Bool := do
  if !(← bump) then return false
  bumpSpace
  return !(← atEnd)

/-- The next character that is not a blank or in a comment, under the `x` flag. -/
def peekSpace : Reader (Option Char) := do
  if !(← get).ignoreWhitespace then return ← peek
  if ← atEnd then return none
  let start := (← get).pos.offset + 1
  let rest := ((← get).pattern.toList.drop start).zipIdx
  let rec scan (inComment : Bool) : List (Char × Nat) → Nat
    | [] => start
    | (c, i) :: more =>
      if Blank.isBlank c then scan inComment more
      else if !inComment && c == '#' then scan true more
      else start + i
  charAt? (scan false rest)

/-- Skips blanks, whatever the flags. -/
def skipAnyBlanks (andSpace : Bool) : Nat → Reader Unit
  | 0 => pure ()
  | fuel + 1 => do
    if ← atEnd then return
    if Blank.isBlank (← current) then
      if andSpace then let _ ← bumpAndBumpSpace else let _ ← bump
      skipAnyBlanks andSpace fuel

/-- Decimal digits, read on while blanks are skipped. -/
def decimalDigits (acc : List Char) : Nat → Reader (List Char)
  | 0 => pure acc
  | fuel + 1 => do
    if ← atEnd then return acc
    let c ← current
    if '0' ≤ c ∧ c ≤ '9' then
      let _ ← bumpAndBumpSpace
      decimalDigits (acc ++ [c]) fuel
    else return acc

/-- A decimal number of a repetition count, below `2 ^ 32`. The digits are read even
when the number is refused, and a missing number is reported as a missing count: the
caller decides when the error counts. -/
def readDecimal : Reader (Except SyntaxError Nat) := do
  skipAnyBlanks false (← fuelBound)
  let start ← here
  let digits ← decimalDigits [] (← fuelBound)
  let span : Span := ⟨start, ← here⟩
  skipAnyBlanks true (← fuelBound)
  if digits.isEmpty then return .error ⟨.repetitionCountDecimalEmpty, span, none⟩
  let n := digits.foldl (fun n c => 10 * n + (c.toNat - '0'.toNat)) 0
  if n ≥ Nat.pow 2 32 then return .error ⟨.decimalInvalid, span, none⟩
  return .ok n

/-- Reads one flag letter. -/
def parseFlag : Reader Flag := do
  match ← current with
  | 'i' => return .caseInsensitive
  | 'm' => return .multiLine
  | 's' => return .dotMatchesNewLine
  | 'U' => return .swapGreed
  | 'u' => return .unicode
  | 'R' => return .crlf
  | 'x' => return .ignoreWhitespace
  | _ => fail (← spanChar) .flagUnrecognized

/-- Reads flags up to `:` or `)`, each with its span. -/
def parseFlagItems (items : List (FlagItem × Span)) (lastNegation : Option Span) :
    Nat → Reader (List (FlagItem × Span))
  | 0 => return items
  | fuel + 1 => do
    let c ← current
    if c == ':' || c == ')' then
      if let some sp := lastNegation then fail sp .flagDanglingNegation
      return items
    let sp ← spanChar
    let (item, lastNegation) ← if c == '-' then pure (FlagItem.negation, some sp)
      else do let f ← parseFlag; pure (FlagItem.flag f, none)
    match items.find? (·.1 == item) with
    | some (_, first) =>
      let kind := if item == .negation then ErrorKind.flagRepeatedNegation else .flagDuplicate
      throw ⟨kind, sp, some first⟩
    | none => pure ()
    let items := items ++ [(item, sp)]
    if !(← bump) then fail (← spanHere) .flagUnexpectedEof
    parseFlagItems items lastNegation fuel

/-- The next capture index. -/
def nextCaptureIndex : Reader Nat := do
  let i := (← get).captureIndex + 1
  modify fun s => { s with captureIndex := i }
  return i

/-- Reads the characters of a capture name up to `>`. -/
def captureChars (start : Position) : Nat → Reader Unit
  | 0 => pure ()
  | fuel + 1 => do
    let c ← current
    if c == '>' then return
    if !isCaptureChar c ((← here) == start) then fail (← spanChar) .groupNameInvalid
    if !(← bump) then return
    captureChars start fuel

/-- Reads a capture name and its `>`; names are unique. -/
def parseCaptureName : Reader String := do
  if ← atEnd then fail (← spanHere) .groupNameUnexpectedEof
  let start ← here
  captureChars start (← fuelBound)
  let stop ← here
  if ← atEnd then fail (← spanHere) .groupNameUnexpectedEof
  let _ ← bump
  let name ← textBetween start.offset stop.offset
  if name.isEmpty then fail ⟨start, start⟩ .groupNameEmpty
  let span : Span := ⟨start, stop⟩
  match (← get).captureNames.find? (·.1 == name) with
  | some (_, first) => throw ⟨.groupNameDuplicate, span, some first⟩
  | none => modify fun s => { s with captureNames := s.captureNames ++ [(name, span)] }
  return name

/-- What an opening parenthesis starts. -/
inductive GroupStart where
  | setFlags (span : Span) (items : List FlagItem)
  | opened (span : Span) (kind : GroupKind)

/-- Reads the start of a group at `(`. -/
def parseGroup : Reader GroupStart := do
  let openSpan ← spanChar
  let _ ← bump
  bumpSpace
  let mut lookAround := false
  if ← bumpIf "?=" then lookAround := true
  else if ← bumpIf "?!" then lookAround := true
  else if ← bumpIf "?<=" then lookAround := true
  else if ← bumpIf "?<!" then lookAround := true
  if lookAround then fail ⟨openSpan.start, ← here⟩ .unsupportedLookAround
  let innerSpan ← spanHere
  let mut named := false
  if ← bumpIf "?P<" then named := true
  else if ← bumpIf "?<" then named := true
  if named then
    let index ← nextCaptureIndex
    let name ← parseCaptureName
    return .opened openSpan (.captureName name index)
  if ← bumpIf "?" then
    if ← atEnd then fail openSpan .groupUnclosed
    let items ← parseFlagItems [] none (← fuelBound)
    let flags := items.map (·.1)
    let charEnd ← current
    let _ ← bump
    if charEnd == ')' then
      if flags.isEmpty then fail innerSpan .repetitionMissing
      return .setFlags ⟨openSpan.start, ← here⟩ flags
    return .opened openSpan (.nonCapturing flags)
  let index ← nextCaptureIndex
  return .opened openSpan (.captureIndex index)

/-- Hexadecimal digits of a fixed count. -/
def hexDigitsFixed (acc : List Char) : Nat → Reader (List Char)
  | 0 => pure acc
  | k + 1 => do
    if !acc.isEmpty then
      if !(← bumpAndBumpSpace) then fail (← spanHere) .escapeUnexpectedEof
    let c ← current
    if !isHexChar c then fail (← spanChar) .escapeHexInvalidDigit
    hexDigitsFixed (acc ++ [c]) k

/-- Hexadecimal digits up to `}`. -/
def hexDigitsBraced (acc : List Char) : Nat → Reader (List Char)
  | 0 => pure acc
  | fuel + 1 => do
    if !(← bumpAndBumpSpace) then return acc
    let c ← current
    if c == '}' then return acc
    if !isHexChar c then fail (← spanChar) .escapeHexInvalidDigit
    hexDigitsBraced (acc ++ [c]) fuel

/-- Reads `\x`, `\u` or `\U` after the backslash: fixed digits or digits in braces. -/
def parseHex : Reader Literal := do
  let letter ← current
  let digits := if letter == 'x' then 2 else if letter == 'u' then 4 else 8
  if !(← bumpAndBumpSpace) then fail (← spanHere) .escapeUnexpectedEof
  if (← current) == '{' then
    let bracePos ← here
    let start := (← spanChar).stop
    let hex ← hexDigitsBraced [] (← fuelBound)
    if ← atEnd then fail ⟨bracePos, ← here⟩ .escapeUnexpectedEof
    let stop ← here
    let _ ← bumpAndBumpSpace
    if hex.isEmpty then fail ⟨bracePos, ← here⟩ .escapeHexEmpty
    let n := hexValueOf hex
    if n ≥ Nat.pow 2 32 || !n.isValidChar then fail ⟨start, stop⟩ .escapeHexInvalid
    return ⟨⟨start, ← here⟩, .hexOther, Char.ofNat n⟩
  else
    let start ← here
    let hex ← hexDigitsFixed [] digits
    let _ ← bumpAndBumpSpace
    let stop ← here
    let n := hexValueOf hex
    if !n.isValidChar then fail ⟨start, stop⟩ .escapeHexInvalid
    return ⟨⟨start, stop⟩, if letter == 'x' then .hexByte else .hexOther, Char.ofNat n⟩

/-- Characters of a braced class name up to `}`. -/
def bracedName (acc : List Char) : Nat → Reader (List Char)
  | 0 => pure acc
  | fuel + 1 => do
    if !(← bumpAndBumpSpace) then return acc
    let c ← current
    if c == '}' then return acc
    bracedName (acc ++ [c]) fuel

/-- The kind of a braced Unicode class name: `name`, `name=value`, `name:value` or
`name!=value`. -/
def unicodeKindOf (name : String) : UnicodeClassKind :=
  match name.splitOn "!=" with
  | first :: rest@(_ :: _) => .namedValue true first ("!=".intercalate rest)
  | _ =>
    let cs := name.toList
    match cs.findIdx? (fun c => c == ':' || c == '=') with
    | some i => .namedValue false (String.ofList (cs.take i)) (String.ofList (cs.drop (i + 1)))
    | none => .named name

/-- Reads `\p` or `\P` after the backslash. -/
def parseUnicodeClass : Reader (Span × Bool × UnicodeClassKind) := do
  let negated := (← current) == 'P'
  if !(← bumpAndBumpSpace) then fail (← spanHere) .escapeUnexpectedEof
  if (← current) == '{' then
    let start := (← spanChar).stop
    let name ← bracedName [] (← fuelBound)
    if ← atEnd then fail (← spanHere) .escapeUnexpectedEof
    let _ ← bump
    return (⟨start, ← here⟩, negated, unicodeKindOf (String.ofList name))
  else
    let start ← here
    let c ← current
    if c == '\\' then fail (← spanChar) .unicodeClassInvalid
    let _ ← bumpAndBumpSpace
    return (⟨start, ← here⟩, negated, .oneLetter c)

/-- Letters of a special word boundary name. -/
def boundaryName (acc : List Char) : Nat → Reader (List Char)
  | 0 => pure acc
  | fuel + 1 => do
    if ← atEnd then return acc
    let c ← current
    if ('A' ≤ c ∧ c ≤ 'Z') ∨ ('a' ≤ c ∧ c ≤ 'z') ∨ c = '-' then
      let _ ← bumpAndBumpSpace
      boundaryName (acc ++ [c]) fuel
    else return acc

/-- After `\b` at `{`: a special word boundary `\b{start}` and the like, or nothing
(the brace then starts a repetition). -/
def maybeSpecialWordBoundary (wbStart : Position) : Reader (Option AssertionKind) := do
  let start ← here
  if !(← bumpAndBumpSpace) then fail ⟨wbStart, ← here⟩ .specialWordOrRepetitionUnexpectedEof
  let startContents ← here
  let c ← current
  if !(('A' ≤ c ∧ c ≤ 'Z') ∨ ('a' ≤ c ∧ c ≤ 'z') ∨ c = '-') then
    modify fun s => { s with pos := start }
    return none
  let name ← boundaryName [] (← fuelBound)
  if (← atEnd) || (← current) != '}' then fail ⟨start, ← here⟩ .specialWordBoundaryUnclosed
  let stop ← here
  let _ ← bump
  match String.ofList name with
  | "start" => return some .wordBoundaryStart
  | "end" => return some .wordBoundaryEnd
  | "start-half" => return some .wordBoundaryStartHalf
  | "end-half" => return some .wordBoundaryEndHalf
  | _ => fail ⟨startContents, stop⟩ .specialWordBoundaryUnrecognized

/-- Reads an escape at a backslash. -/
def parseEscape : Reader Primitive := do
  let start ← here
  if !(← bump) then fail ⟨start, ← here⟩ .escapeUnexpectedEof
  let c ← current
  if '0' ≤ c ∧ c ≤ '9' then fail ⟨start, (← spanChar).stop⟩ .unsupportedBackreference
  if c == 'x' || c == 'u' || c == 'U' then
    let lit ← parseHex
    return .literal { lit with span := ⟨start, lit.span.stop⟩ }
  if c == 'p' || c == 'P' then
    let (sp, negated, kind) ← parseUnicodeClass
    return .unicode ⟨start, sp.stop⟩ negated kind
  if "dswDSW".contains c then
    let sp ← spanChar
    let _ ← bump
    let kind := if c == 'd' || c == 'D' then PerlKind.digit
      else if c == 's' || c == 'S' then .space else .word
    return .perl ⟨start, sp.stop⟩ kind (c == 'D' || c == 'S' || c == 'W')
  let _ ← bump
  let span : Span := ⟨start, ← here⟩
  if isEscapeable c then return .literal ⟨span, .escaped, c⟩
  match c with
  | 'a' => return .literal ⟨span, .escaped, '\x07'⟩
  | 'f' => return .literal ⟨span, .escaped, '\x0c'⟩
  | 't' => return .literal ⟨span, .escaped, '\t'⟩
  | 'n' => return .literal ⟨span, .escaped, '\n'⟩
  | 'r' => return .literal ⟨span, .escaped, '\r'⟩
  | 'v' => return .literal ⟨span, .escaped, '\x0b'⟩
  | 'A' => return .assertion span .startText
  | 'z' => return .assertion span .endText
  | 'b' =>
    if !(← atEnd) then
      if (← current) == '{' then
        if let some kind ← maybeSpecialWordBoundary start then
          return .assertion ⟨start, ← here⟩ kind
    return .assertion span .wordBoundary
  | 'B' => return .assertion span .notWordBoundary
  | '<' => return .assertion span .wordBoundaryStart
  | '>' => return .assertion span .wordBoundaryEnd
  | _ => fail span .escapeUnrecognized

/-- Reads a primitive: an escape, `.`, `^`, `$` or a plain character. -/
def parsePrimitive : Reader Primitive := do
  let c ← current
  if c == '\\' then return ← parseEscape
  let sp ← spanChar
  let _ ← bump
  match c with
  | '.' => return .dot sp
  | '^' => return .assertion sp .startLine
  | '$' => return .assertion sp .endLine
  | _ => return .literal ⟨sp, .verbatim, c⟩

/-- The repeated part: the last part of the sequence, which must be something. -/
def lastRepeatable (concat : Concat) : Reader Ast := do
  match concat.asts.getLast? with
  | none => fail (← spanHere) .repetitionMissing
  | some (.empty _) | some (.flags _ _) => fail (← spanHere) .repetitionMissing
  | some a => return a

/-- Reads `?`, `*` or `+` (and a following `?` for laziness). -/
def parseUncountedRepetition (concat : Concat) (kind : RepetitionKind) : Reader Concat := do
  let ast ← lastRepeatable concat
  let mut greedy := true
  if ← bump then
    if (← current) == '?' then
      greedy := false
      let _ ← bump
  let span : Span := ⟨ast.span.start, ← here⟩
  return { concat with asts := concat.asts.dropLast ++ [.repetition span kind greedy ast] }

/-- Reads a counted repetition `{n}`, `{n,}` or `{n,m}`. A bad first count is
reported only once the brace is seen to hold more than it. -/
def parseCountedRepetition (concat : Concat) : Reader Concat := do
  let start ← here
  let ast ← lastRepeatable concat
  if !(← bumpAndBumpSpace) then fail ⟨start, ← here⟩ .repetitionCountUnclosed
  let first ← readDecimal
  if ← atEnd then fail ⟨start, ← here⟩ .repetitionCountUnclosed
  let kind ← if (← current) == ',' then do
      if !(← bumpAndBumpSpace) then fail ⟨start, ← here⟩ .repetitionCountUnclosed
      if (← current) != '}' then
        let m ← liftExcept first
        let n ← liftExcept (← readDecimal)
        pure (RepetitionKind.bounded m n)
      else pure (.atLeast (← liftExcept first))
    else pure (.exactly (← liftExcept first))
  if (← atEnd) || (← current) != '}' then fail ⟨start, ← here⟩ .repetitionCountUnclosed
  let mut greedy := true
  if ← bumpAndBumpSpace then
    if (← current) == '?' then
      greedy := false
      let _ ← bump
  let opSpan : Span := ⟨start, ← here⟩
  if let .bounded m n := kind then
    if m > n then fail opSpan .repetitionCountInvalid
  let span : Span := ⟨ast.span.start, ← here⟩
  return { concat with asts := concat.asts.dropLast ++ [.repetition span kind greedy ast] }

/-- Starts a group, or applies flags set in place. -/
def pushGroup (concat : Concat) : Reader Concat := do
  match ← parseGroup with
  | .setFlags span items =>
    if let some v := flagState items .ignoreWhitespace then
      modify fun s => { s with ignoreWhitespace := v }
    return { concat with asts := concat.asts ++ [.flags span items] }
  | .opened span kind =>
    let old := (← get).ignoreWhitespace
    let new := match kind with
      | .nonCapturing items => (flagState items .ignoreWhitespace).getD old
      | _ => old
    modify fun s => { s with groups := .group concat span kind old :: s.groups,
                             ignoreWhitespace := new }
    return ⟨← spanHere, []⟩

/-- Ends a group at `)`. -/
def popGroup (inner : Concat) : Reader Concat := do
  let (outer, span, kind, ws, alt, rest) ← match (← get).groups with
    | .group c sp k ws :: rest => pure (c, sp, k, ws, none, rest)
    | .alternation asp asts :: .group c sp k ws :: rest => pure (c, sp, k, ws, some (asp, asts), rest)
    | _ => fail (← spanChar) .groupUnopened
  modify fun s => { s with groups := rest, ignoreWhitespace := ws }
  let inner := { inner with span := ⟨inner.span.start, ← here⟩ }
  let _ ← bump
  let span : Span := ⟨span.start, ← here⟩
  let body := match alt with
    | some (asp, asts) => Ast.alternation ⟨asp.start, inner.span.stop⟩ (asts ++ [inner.intoAst])
    | none => inner.intoAst
  return { outer with asts := outer.asts ++ [.group span kind body] }

/-- Ends a branch of an alternation at `|`. -/
def pushAlternate (concat : Concat) : Reader Concat := do
  let p ← here
  let branch := (Concat.mk ⟨concat.span.start, p⟩ concat.asts).intoAst
  modify fun s => match s.groups with
    | .alternation sp asts :: rest => { s with groups := .alternation sp (asts ++ [branch]) :: rest }
    | gs => { s with groups := .alternation ⟨concat.span.start, p⟩ [branch] :: gs }
  let _ ← bump
  return ⟨← spanHere, []⟩

/-- Ends the pattern. -/
def popGroupEnd (concat : Concat) : Reader Ast := do
  let p ← here
  let concat := { concat with span := ⟨concat.span.start, p⟩ }
  match (← get).groups with
  | [] => return concat.intoAst
  | [.alternation sp asts] => return .alternation ⟨sp.start, p⟩ (asts ++ [concat.intoAst])
  | .alternation _ _ :: .group _ gsp _ _ :: _ => fail gsp .groupUnclosed
  | .group _ gsp _ _ :: _ => fail gsp .groupUnclosed
  | _ => return concat.intoAst

/-- The error for a class left open: at the innermost open bracket. -/
def unclosedClass : Reader SyntaxError := do
  match (← get).classes.find? (fun s => match s with | .opened .. => true | _ => false) with
  | some (.opened _ sp _) => return ⟨.classUnclosed, sp, none⟩
  | _ => return ⟨.classUnclosed, ← spanHere, none⟩

/-- Combines a right side with a pending operator, if any. -/
def popClassOp (rhs : ClassSet) : Reader ClassSet := do
  match (← get).classes with
  | .op kind lhs :: rest =>
    modify fun s => { s with classes := rest }
    return .binaryOp ⟨lhs.span.start, rhs.span.stop⟩ kind lhs rhs
  | _ => return rhs

/-- Starts an operator between classes. -/
def pushClassOp (kind : ClassOp) (union : ClassUnion) : Reader ClassUnion := do
  let lhs ← popClassOp (.item union.intoItem)
  modify fun s => { s with classes := .op kind lhs :: s.classes }
  return ⟨← spanHere, []⟩

/-- Reads `-` characters at the start of a class as literals. -/
def leadingDashes (start : Position) (union : ClassUnion) : Nat → Reader ClassUnion
  | 0 => pure union
  | fuel + 1 => do
    if (← current) != '-' then return union
    let union := union.push (.literal ⟨← spanChar, .verbatim, '-'⟩)
    if !(← bumpAndBumpSpace) then fail ⟨start, start⟩ .classUnclosed
    leadingDashes start union fuel

/-- Opens a class at `[`: its negation, leading `-` and a leading `]` as literals. -/
def pushClassOpen (outer : ClassUnion) : Reader ClassUnion := do
  let start ← here
  if !(← bumpAndBumpSpace) then fail ⟨start, ← here⟩ .classUnclosed
  let mut negated := false
  if (← current) == '^' then
    if !(← bumpAndBumpSpace) then fail ⟨start, ← here⟩ .classUnclosed
    negated := true
  let union ← leadingDashes start ⟨← spanHere, []⟩ (← fuelBound)
  let mut union := union
  if union.items.isEmpty && (← current) == ']' then
    union := union.push (.literal ⟨← spanChar, .verbatim, ']'⟩)
    if !(← bumpAndBumpSpace) then fail ⟨start, ← here⟩ .classUnclosed
  let span : Span := ⟨start, ← here⟩
  modify fun s => { s with classes := .opened outer span negated :: s.classes }
  return union

/-- Closes a class at `]`: the finished class, or the union it belongs to. -/
def popClass (inner : ClassUnion) : Reader (ClassUnion ⊕ Ast) := do
  let set ← popClassOp (.item inner.intoItem)
  match (← get).classes with
  | .opened outer sp negated :: rest =>
    modify fun s => { s with classes := rest }
    let _ ← bump
    let span : Span := ⟨sp.start, ← here⟩
    if rest.isEmpty then return .inr (.classBracketed span negated set)
    return .inl (outer.push (.bracketed span negated set))
  | _ => return .inr (.classBracketed inner.span false set)

/-- Name characters of an ASCII class, up to `:`. -/
def asciiNameEnd : Nat → Reader Unit
  | 0 => pure ()
  | fuel + 1 => do
    if (← current) == ':' then return
    if !(← bump) then return
    asciiNameEnd fuel

/-- At `[` inside a class: an ASCII class `[:name:]` or `[:^name:]`, or nothing (and
the reader is back at the `[`). -/
def maybeAsciiClass : Reader (Option ClassSetItem) := do
  let start ← here
  let restore : Reader (Option ClassSetItem) := do
    modify fun s => { s with pos := start }
    return none
  if !(← bump) then return ← restore
  if (← current) != ':' then return ← restore
  if !(← bump) then return ← restore
  let mut negated := false
  if (← current) == '^' then
    negated := true
    if !(← bump) then return ← restore
  let nameStart := (← here).offset
  asciiNameEnd (← fuelBound)
  if ← atEnd then return ← restore
  let name ← textBetween nameStart (← here).offset
  if !(← bumpIf ":]") then return ← restore
  match AsciiKind.ofName name with
  | some kind => return some (.ascii ⟨start, ← here⟩ kind negated)
  | none => restore

/-- Reads one item of a class: an escape or a plain character. -/
def parseClassItem : Reader Primitive := do
  if (← current) == '\\' then return ← parseEscape
  let sp ← spanChar
  let c ← current
  let _ ← bump
  return .literal ⟨sp, .verbatim, c⟩

/-- The class item of a primitive; assertions cannot stand in a class. -/
def classItemOf : Primitive → Reader ClassSetItem
  | .literal l => pure (.literal l)
  | .unicode s n k => pure (.unicode s n k)
  | .perl s k n => pure (.perl s k n)
  | p => fail p.span .classEscapeInvalid

/-- The literal at an end of a range. -/
def rangeEndOf : Primitive → Reader Literal
  | .literal l => pure l
  | p => fail p.span .classRangeLiteral

/-- Reads an item of a class, or a range `a-z`. -/
def parseClassRange : Reader ClassSetItem := do
  let first ← parseClassItem
  bumpSpace
  if ← atEnd then throw (← unclosedClass)
  let next ← peekSpace
  if (← current) != '-' || next == some ']' || next == some '-' then
    return ← classItemOf first
  if !(← bumpAndBumpSpace) then throw (← unclosedClass)
  let last ← parseClassItem
  let span : Span := ⟨first.span.start, last.span.stop⟩
  let a ← rangeEndOf first
  let b ← rangeEndOf last
  if a.c > b.c then fail span .classRangeInvalid
  return .range span a b

/-- Reads a bracketed class, from its first `[` to its matching `]`. -/
def classLoop (union : ClassUnion) : Nat → Reader Ast
  | 0 => do throw (← unclosedClass)
  | fuel + 1 => do
    bumpSpace
    if ← atEnd then throw (← unclosedClass)
    let c ← current
    if c == '[' then
      if !(← get).classes.isEmpty then
        if let some item ← maybeAsciiClass then
          return ← classLoop (union.push item) fuel
      return ← classLoop (← pushClassOpen union) fuel
    if c == ']' then
      match ← popClass union with
      | .inl outer => return ← classLoop outer fuel
      | .inr cls => return cls
    let next ← peek
    if c == '&' && next == some '&' then
      let _ ← bumpIf "&&"
      return ← classLoop (← pushClassOp .intersection union) fuel
    if c == '-' && next == some '-' then
      let _ ← bumpIf "--"
      return ← classLoop (← pushClassOp .difference union) fuel
    if c == '~' && next == some '~' then
      let _ ← bumpIf "~~"
      return ← classLoop (← pushClassOp .symmetricDifference union) fuel
    classLoop (union.push (← parseClassRange)) fuel

/-- The main loop: reads parts until the end of the pattern. -/
def mainLoop (concat : Concat) : Nat → Reader Concat
  | 0 => pure concat
  | fuel + 1 => do
    bumpSpace
    if ← atEnd then return concat
    let concat ← match ← current with
      | '(' => pushGroup concat
      | ')' => popGroup concat
      | '|' => pushAlternate concat
      | '[' => do
        let cls ← classLoop ⟨← spanHere, []⟩ (2 * (← fuelBound))
        pure { concat with asts := concat.asts ++ [cls] }
      | '?' => parseUncountedRepetition concat .zeroOrOne
      | '*' => parseUncountedRepetition concat .zeroOrMore
      | '+' => parseUncountedRepetition concat .oneOrMore
      | '{' => parseCountedRepetition concat
      | _ => do
        let p ← parsePrimitive
        pure { concat with asts := concat.asts ++ [p.intoAst] }
    mainLoop concat fuel

end Reading

mutual
/-- The span of the first part of a class set nested deeper than `limit`, in reading
order. -/
def deepSet (limit depth : Nat) : ClassSet → Option Span
  | .item i => deepItem limit depth i
  | .binaryOp sp _ l r =>
    if depth + 1 > limit then some sp
    else (deepSet limit (depth + 1) l).orElse fun _ => deepSet limit (depth + 1) r

/-- The first too-deep part of a class item. -/
def deepItem (limit depth : Nat) : ClassSetItem → Option Span
  | .bracketed sp _ set => if depth + 1 > limit then some sp else deepSet limit (depth + 1) set
  | .union sp items => if depth + 1 > limit then some sp else deepItems limit (depth + 1) items
  | _ => none

/-- The first too-deep part of a list of class items. -/
def deepItems (limit depth : Nat) : List ClassSetItem → Option Span
  | [] => none
  | i :: rest => (deepItem limit depth i).orElse fun _ => deepItems limit depth rest
end

mutual
/-- The span of the first part nested deeper than `limit`, in reading order. Groups,
bracketed classes, repetitions, alternations and sequences nest; so do unions and
operators inside classes. -/
def deepAst (limit depth : Nat) : Ast → Option Span
  | .classBracketed sp _ set => if depth + 1 > limit then some sp else deepSet limit (depth + 1) set
  | .repetition sp _ _ a => if depth + 1 > limit then some sp else deepAst limit (depth + 1) a
  | .group sp _ a => if depth + 1 > limit then some sp else deepAst limit (depth + 1) a
  | .alternation sp asts => if depth + 1 > limit then some sp else deepAsts limit (depth + 1) asts
  | .concat sp asts => if depth + 1 > limit then some sp else deepAsts limit (depth + 1) asts
  | _ => none

/-- The first too-deep part of a list of patterns. -/
def deepAsts (limit depth : Nat) : List Ast → Option Span
  | [] => none
  | a :: rest => (deepAst limit depth a).orElse fun _ => deepAsts limit depth rest
end

/-- The deepest nesting allowed. -/
def nestLimit : Nat := 250

/-- Reads a pattern. -/
def parseAst (pattern : String) : Except SyntaxError Ast := do
  let start : Position := ⟨0, 1, 1⟩
  let init : ReaderState := ⟨pattern.toList.toArray, start, false, 0, [], [], []⟩
  let run : Reader Ast := do
    let concat ← mainLoop ⟨⟨start, start⟩, []⟩ (← fuelBound)
    popGroupEnd concat
  let (ast, _) ← run.run init
  match deepAst nestLimit 0 ast with
  | some sp => throw ⟨.nestLimitExceeded nestLimit, sp, none⟩
  | none => return ast

end HttpCheck.Regex
