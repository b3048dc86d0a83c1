import HttpCheck.Text.Punycode
import HttpCheck.Unicode.Idna
import HttpCheck.Unicode.Bidi
import HttpCheck.Unicode.Joining
import HttpCheck.Unicode.Normalization
/-!
# Internationalised domain names

A domain written in ASCII may hold labels in Punycode, marked by the prefix `xn--`
(compared after lowering). Such a label stands for the characters it decodes to, and
the domain is refused unless each of them is a label that UTS #46 accepts, under
nontransitional processing with joiners and bidirectional text checked:

* the text after the prefix decodes;
* the result is neither empty nor made of ASCII alone (else the label had no reason to
  be encoded), and does not itself begin with `xn--`;
* every character is one the mapping leaves as it is, and the label is in
  Normalization Form C;
* the first character is not a combining mark;
* a zero-width joiner follows a virama, and so does a zero-width non-joiner unless it
  stands between a character that joins on the left (or both sides) and one that joins
  on the right (or both sides), with only transparent characters between.

A domain with a right-to-left character (class R, AL or AN) in any label is a
bidirectional domain, and then every label, ASCII ones too, must keep the rule for
labels of RFC 5893: it begins with a left-to-right or right-to-left character, holds
only classes that agree with that direction, ends (before nonspacing marks) with a
character of its direction or a number, and a right-to-left label does not mix
European and Arabic numbers.

Labels without the prefix are ASCII and need nothing more on their own.
-/
namespace HttpCheck.Http.Idna

open HttpCheck.Unicode

/-- The prefix of a label in Punycode. -/
def acePrefix : List Char := ['x', 'n', '-', '-']

/-- The zero-width non-joiner. -/
def nonJoiner : Char := Char.ofNat 0x200C

/-- The zero-width joiner. -/
def joiner : Char := Char.ofNat 0x200D

/-- Whether a character is a virama (canonical combining class 9). -/
def isVirama (c : Char) : Bool := combiningClass c.toNat == 9

/-- Whether the first character that is not transparent has one of the joining types. -/
def joinsAs (cs : List Char) (types : List JoiningType) : Bool :=
  (cs.dropWhile (joiningType · == .transparent)).head?.any (types.contains <| joiningType ·)

/-- Whether a joiner or non-joiner `c` may stand between `before` (nearest first) and
`after`. -/
def joinerAllowed (before after : List Char) (c : Char) : Bool :=
  before.head?.any isVirama ||
    (c == nonJoiner && joinsAs before [.left, .dual] && joinsAs after [.right, .dual])

/-- Whether every joiner and non-joiner of the characters stands where it may;
`before` holds the characters already passed, nearest first. -/
def joinersAllowed (before : List Char) : List Char → Bool
  | [] => true
  | c :: after =>
    (!(c == nonJoiner || c == joiner) || joinerAllowed before after c) &&
      joinersAllowed (c :: before) after

/-- Whether decoded characters may stand as a label. -/
def labelValid (cs : List Char) : Bool :=
  !cs.isEmpty && cs.any (0x80 ≤ ·.toNat) && !acePrefix.isPrefixOf cs &&
    cs.all (labelValidTable.contains ·.toNat) && isNfc cs &&
    !(cs.head?.any (combiningMarkTable.contains ·.toNat)) &&
    joinersAllowed [] cs

/-- The characters a label stands for, or `none` when it is refused on its own. -/
def label? (label : List Char) : Option (List Char) :=
  if acePrefix.isPrefixOf label then
    match Punycode.decode? (label.drop acePrefix.length) with
    | some cs => if labelValid cs then some cs else none
    | none => none
  else some label

/-- The classes a left-to-right label may hold. -/
def leftToRightClasses : List BidiClass :=
  [.leftToRight, .europeanNumber, .europeanSeparator, .commonSeparator,
    .europeanTerminator, .otherNeutral, .boundaryNeutral, .nonspacingMark]

/-- The classes a right-to-left label may hold. -/
def rightToLeftClasses : List BidiClass :=
  [.rightToLeft, .arabicLetter, .arabicNumber, .europeanNumber, .europeanSeparator,
    .commonSeparator, .europeanTerminator, .otherNeutral, .boundaryNeutral, .nonspacingMark]

/-- Whether a label keeps the rule for labels of a bidirectional domain. -/
def bidiLabelValid (cs : List Char) : Bool :=
  let classes := cs.map bidiClass
  let last := classes.reverse.find? (· != .nonspacingMark)
  match classes.head? with
  | none => true
  | some .leftToRight =>
    classes.all leftToRightClasses.contains &&
      last.all [.leftToRight, .europeanNumber].contains
  | some .rightToLeft | some .arabicLetter =>
    classes.all rightToLeftClasses.contains &&
      last.any [.rightToLeft, .arabicLetter, .europeanNumber, .arabicNumber].contains &&
      !(classes.contains .europeanNumber && classes.contains .arabicNumber)
  | some _ => false

/-- Whether every label of a lowered ASCII domain is acceptable. -/
def domainAcceptable (domain : String) : Bool :=
  match (domain.toList.splitOn '.').mapM label? with
  | none => false
  | some labels =>
    !labels.any (·.any (bidiClass · |>.isRightToLeft)) || labels.all bidiLabelValid

end HttpCheck.Http.Idna
