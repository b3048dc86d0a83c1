import HttpCheck.Regex.Syntax
import HttpCheck.Regex.Classes
import HttpCheck.Regex.Expr
/-!
# From syntax to expressions

Resolves flags, classes and anchors. Flags set by `(?flags)` hold to the end of the
enclosing group (across later branches of an alternation too); flags of a group
`(?flags:...)` hold inside it only.

Case-insensitivity closes each literal and each class under simple case folding,
before a class is negated. Outside Unicode mode (`(?-u)`) classes are ASCII, Unicode
classes are refused, and anything that could match a byte that is not ASCII is
refused, since texts are always well-formed UTF-8.
-/
namespace HttpCheck.Regex

open HttpCheck.Unicode

/-- The flags in force at a point of a pattern. -/
structure Flags where
  caseInsensitive : Bool
  multiLine : Bool
  dotAll : Bool
  swapGreed : Bool
  unicode : Bool
  crlf : Bool
  deriving DecidableEq, Repr

/-- The flags at the start of a pattern: only Unicode mode is on. -/
def Flags.initial : Flags := ⟨false, false, false, false, true, false⟩

/-- Sets one flag. -/
def Flags.set (f : Flags) (g : Flag) (v : Bool) : Flags :=
  match g with
  | .caseInsensitive => { f with caseInsensitive := v }
  | .multiLine => { f with multiLine := v }
  | .dotMatchesNewLine => { f with dotAll := v }
  | .swapGreed => { f with swapGreed := v }
  | .unicode => { f with unicode := v }
  | .crlf => { f with crlf := v }
  | .ignoreWhitespace => f

/-- Applies a flag list: flags before a `-` are set, flags after it cleared. -/
def Flags.apply (f : Flags) (items : List FlagItem) : Flags :=
  (items.foldl (fun (acc : Flags × Bool) item =>
    match item with
    | .negation => (acc.1, false)
    | .flag g => (acc.1.set g acc.2, acc.2)) (f, true)).1

/-- An error at a span. -/
def errorAt (span : Span) (kind : ErrorKind) : SyntaxError := ⟨kind, span, none⟩

/-- Folds (when case-insensitive) and then negates a Unicode class. -/
def unicodeFoldAndNegate (f : Flags) (negated : Bool) (t : RangeTable) : RangeTable :=
  let t := if f.caseInsensitive then t.caseFold else t
  if negated then t.complement else t

/-- Folds (when case-insensitive) and then negates a byte class, which must stay
ASCII. -/
def bytesFoldAndNegate (f : Flags) (span : Span) (negated : Bool) (t : RangeTable) :
    Except SyntaxError RangeTable := do
  let t := if f.caseInsensitive then t.asciiCaseFold else t
  let t := if negated then t.byteComplement else t
  if !t.isAscii then throw (errorAt span .invalidUtf8)
  return t

/-- The character of a literal. Outside Unicode mode a two-digit `\x` escape is a byte,
and one above `7F` is refused. -/
def literalChar (f : Flags) (l : Literal) : Except SyntaxError Char :=
  if f.unicode || l.kind != .hexByte || l.c.toNat ≤ 0x7F then .ok l.c
  else .error (errorAt l.span .invalidUtf8)

/-- The character of a literal in a class; outside Unicode mode it must be ASCII. -/
def classChar (f : Flags) (l : Literal) : Except SyntaxError Char := do
  let c ← literalChar f l
  if !f.unicode && c.toNat > 0x7F then throw (errorAt l.span .unicodeNotAllowed)
  return c

/-- A literal, as a set of its case variants when case-insensitive. -/
def literalExpr (f : Flags) (l : Literal) : Except SyntaxError Expr := do
  let c ← literalChar f l
  if !f.caseInsensitive then return .char c
  if f.unicode then return .chars (RangeTable.single c.toNat).caseFold
  if c.toNat > 0x7F then return .char c
  return .chars (RangeTable.single c.toNat).asciiCaseFold

/-- Any character but a line feed; with `s` any character at all; with `R` neither a
line feed nor a carriage return. -/
def dotExpr (f : Flags) (span : Span) : Except SyntaxError Expr :=
  if !f.unicode then .error (errorAt span .invalidUtf8)
  else if f.dotAll then .ok (.chars RangeTable.all)
  else if f.crlf then .ok (.chars (RangeTable.ofRanges [(0x0A, 0x0A), (0x0D, 0x0D)]).complement)
  else .ok (.chars (RangeTable.single 0x0A).complement)

/-- A Unicode class `\p{...}` or `\P{...}`. -/
def unicodeClass (f : Flags) (span : Span) (negated : Bool) (kind : UnicodeClassKind) :
    Except SyntaxError RangeTable := do
  if !f.unicode then throw (errorAt span .unicodeNotAllowed)
  let (query, negated) := match kind with
    | .oneLetter c => (ClassQuery.oneLetter c, negated)
    | .named name => (.binary name, negated)
    | .namedValue notEqual name value => (.byValue name value, negated != notEqual)
  match lookupClass query with
  | .ok t => return unicodeFoldAndNegate f negated t
  | .error .propertyNotFound => throw (errorAt span .unicodePropertyNotFound)
  | .error .propertyValueNotFound => throw (errorAt span .unicodePropertyValueNotFound)

/-- A Perl class `\d`, `\s`, `\w` or its negation. The Unicode ones are closed under
case folding already. -/
def perlClass (f : Flags) (span : Span) (kind : PerlKind) (negated : Bool) :
    Except SyntaxError RangeTable :=
  if f.unicode then
    let t := perlTable true kind
    .ok (if negated then t.complement else t)
  else
    let t := perlTable false kind
    let t := if negated then t.byteComplement else t
    if t.isAscii then .ok t else .error (errorAt span .invalidUtf8)

/-- The anchor an assertion is under the flags. -/
def lookOf (f : Flags) : AssertionKind → Look
  | .startLine => if f.multiLine then .startLine f.crlf else .start
  | .endLine => if f.multiLine then .endLine f.crlf else .finish
  | .startText => .start
  | .endText => .finish
  | .wordBoundary => .word f.unicode
  | .notWordBoundary => .notWord f.unicode
  | .wordBoundaryStart => .wordStart f.unicode
  | .wordBoundaryEnd => .wordEnd f.unicode
  | .wordBoundaryStartHalf => .wordStartHalf f.unicode
  | .wordBoundaryEndHalf => .wordEndHalf f.unicode

/-- The least and greatest count of a repetition. -/
def RepetitionKind.bounds : RepetitionKind → Nat × Option Nat
  | .zeroOrOne => (0, some 1)
  | .zeroOrMore => (0, none)
  | .oneOrMore => (1, none)
  | .exactly n => (n, some n)
  | .atLeast n => (n, none)
  | .bounded m n => (m, some n)

/-- Case folding of both sides of a class operator. -/
def foldOperand (f : Flags) (t : RangeTable) : RangeTable :=
  if !f.caseInsensitive then t else if f.unicode then t.caseFold else t.asciiCaseFold

mutual
/-- The characters of a bracketed set. -/
def translateSet (f : Flags) : ClassSet → Except SyntaxError RangeTable
  | .item i => translateItem f i
  | .binaryOp _ op l r => do
    let lhs := foldOperand f (← translateSet f l)
    let rhs := foldOperand f (← translateSet f r)
    return match op with
      | .intersection => lhs.inter rhs
      | .difference => lhs.diff rhs
      | .symmetricDifference => lhs.symmDiff rhs

/-- The characters of an item of a set. -/
def translateItem (f : Flags) : ClassSetItem → Except SyntaxError RangeTable
  | .empty _ => pure RangeTable.empty
  | .literal l => do return RangeTable.single (← classChar f l).toNat
  | .range _ a b => do
    let lo ← classChar f a
    let hi ← classChar f b
    return RangeTable.ofRanges [(lo.toNat, hi.toNat)]
  | .ascii sp k negated =>
    if f.unicode then pure (unicodeFoldAndNegate f negated k.table)
    else bytesFoldAndNegate f sp negated k.table
  | .unicode sp negated kind => unicodeClass f sp negated kind
  | .perl sp k negated => perlClass f sp k negated
  | .bracketed sp negated set => do
    let t ← translateSet f set
    if f.unicode then pure (unicodeFoldAndNegate f negated t)
    else bytesFoldAndNegate f sp negated t
  | .union _ items => translateItems f items

/-- The characters of the items of a union. -/
def translateItems (f : Flags) : List ClassSetItem → Except SyntaxError RangeTable
  | [] => pure RangeTable.empty
  | i :: rest => do
    let a ← translateItem f i
    let b ← translateItems f rest
    return a.union b
end

mutual
/-- The expression of a pattern, and the flags in force after it. -/
def translateAst (f : Flags) : Ast → Except SyntaxError (Expr × Flags)
  | .empty _ => pure (.empty, f)
  | .flags _ items => pure (.empty, f.apply items)
  | .literal l => do return (← literalExpr f l, f)
  | .dot sp => do return (← dotExpr f sp, f)
  | .assertion _ k => pure (.look (lookOf f k), f)
  | .classUnicode sp negated kind => do return (.chars (← unicodeClass f sp negated kind), f)
  | .classPerl sp k negated => do return (.chars (← perlClass f sp k negated), f)
  | .classBracketed sp negated set => do
    let t ← translateSet f set
    let t ← if f.unicode then pure (unicodeFoldAndNegate f negated t)
      else bytesFoldAndNegate f sp negated t
    return (.chars t, f)
  | .repetition _ kind _ a => do
    let (e, f') ← translateAst f a
    let (lo, hi) := kind.bounds
    return (.repetition lo hi e, f')
  | .group _ kind a => do
    match kind with
    | .nonCapturing items =>
      let (e, _) ← translateAst (f.apply items) a
      return (e, f)
    | _ =>
      let (e, _) ← translateAst f a
      return (.group e, f)
  | .alternation _ asts => do
    let (es, f') ← translateAsts f asts
    return (.alt es, f')
  | .concat _ asts => do
    let (es, f') ← translateAsts f asts
    return (.concat es, f')

/-- The expressions of a list of patterns, read in order. -/
def translateAsts (f : Flags) : List Ast → Except SyntaxError (List Expr × Flags)
  | [] => pure ([], f)
  | a :: rest => do
    let (e, f1) ← translateAst f a
    let (es, f2) ← translateAsts f1 rest
    return (e :: es, f2)
end

/-- The expression of a whole pattern. -/
def translate (ast : Ast) : Except SyntaxError Expr :=
  (translateAst Flags.initial ast).map (·.1)

end HttpCheck.Regex
