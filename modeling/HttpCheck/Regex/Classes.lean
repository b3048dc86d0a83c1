import HttpCheck.Regex.Syntax
import HttpCheck.Unicode.Category
import HttpCheck.Unicode.Script
import HttpCheck.Unicode.Property
import HttpCheck.Unicode.CaseFold
import HttpCheck.Unicode.Age
import HttpCheck.Unicode.Break
/-!
# Character classes

The sets of characters that class syntax names: the Perl classes `\d`, `\s`, `\w`, the
ASCII classes `[:alpha:]` and the like, and the Unicode classes `\p{...}`.

A Unicode class name is looked up after normalisation (blanks, `_` and `-` dropped,
letters lowered, a leading `is` ignored). A bare name is a binary property, then a
general category, then a script; `name=value` looks the value up under the property.
The general category, the script, the script extensions, the age and the three text
boundary properties can be asked for by value; the class of an age holds everything
assigned up to that version. Names of properties that exist but cannot be used are
told apart from names that do not exist, since the two are reported differently.

Case-insensitive matching closes a class under simple case folding: every character
that folds to the same character as a member becomes a member too.
-/
namespace HttpCheck.Regex

open HttpCheck.Unicode

/-- Why a Unicode class cannot be looked up. -/
inductive LookupError where
  | propertyNotFound
  | propertyValueNotFound
  deriving DecidableEq, Repr

/-- How a Unicode class is asked for: `\pL`, `\p{name}` or `\p{name=value}`. -/
inductive ClassQuery where
  | oneLetter (c : Char)
  | binary (name : String)
  | byValue (name value : String)
  deriving DecidableEq, Repr

/-- The key under which a table name is kept: blanks, `_` and `-` dropped, letters
lowered. -/
def nameKey (name : String) : String :=
  String.ofList (name.toList.filterMap fun c =>
    if c == ' ' || c == '_' || c == '-' then none else some c.toLower)

/-- The entry of a table one of whose names has the key `key`. -/
def findEntry {β : Type} (entries : List (String × List String × β)) (key : String) :
    Option (String × β) :=
  (entries.find? fun (canon, aliases, _) => (canon :: aliases).any (nameKey · == key)).map
    fun (canon, _, body) => (canon, body)

/-- Every property name that lookup knows, keyed. Names of properties that are not
binary, or that have no table, are known but cannot be asked for by name alone. -/
def knownPropertyKeys : List String :=
  ["cjkaccountingnumeric", "kaccountingnumeric", "cjkothernumeric", "kothernumeric",
   "cjkprimarynumeric", "kprimarynumeric", "nv", "numericvalue", "cf", "casefolding",
   "cjkcompatibilityvariant", "kcompatibilityvariant", "dm", "decompositionmapping",
   "fcnfkc", "fcnfkcclosure", "lc", "lowercasemapping", "nfkccf", "nfkccasefold", "scf",
   "simplecasefolding", "sfc", "slc", "simplelowercasemapping", "stc",
   "simpletitlecasemapping", "suc", "simpleuppercasemapping", "tc", "titlecasemapping", "uc",
   "uppercasemapping", "bmg", "bidimirroringglyph", "bpb", "bidipairedbracket", "cjkiicore",
   "kiicore", "cjkirggsource", "kirggsource", "cjkirghsource", "kirghsource",
   "cjkirgjsource", "kirgjsource", "cjkirgkpsource", "kirgkpsource", "cjkirgksource",
   "kirgksource", "cjkirgmsource", "kirgmsource", "cjkirgssource", "kirgssource",
   "cjkirgtsource", "kirgtsource", "cjkirgusource", "kirgusource", "cjkirgvsource",
   "kirgvsource", "cjkrsunicode", "krsunicode", "unicoderadicalstroke", "urs", "isc",
   "isocomment", "jsn", "jamoshortname", "na", "name", "na1", "unicode1name", "namealias",
   "scx", "scriptextensions", "age", "blk", "block", "sc", "script", "bc", "bidiclass",
   "bpt", "bidipairedbrackettype", "ccc", "canonicalcombiningclass", "dt",
   "decompositiontype", "ea", "eastasianwidth", "gc", "generalcategory", "gcb",
   "graphemeclusterbreak", "hst", "hangulsyllabletype", "inpc", "indicpositionalcategory",
   "insc", "indicsyllabiccategory", "jg", "joininggroup", "jt", "joiningtype", "lb",
   "linebreak", "nfcqc", "nfcquickcheck", "nfdqc", "nfdquickcheck", "nfkcqc",
   "nfkcquickcheck", "nfkdqc", "nfkdquickcheck", "nt", "numerictype", "sb", "sentencebreak",
   "vo", "verticalorientation", "wb", "wordbreak", "ce", "compositionexclusion", "compex",
   "fullcompositionexclusion", "grlink", "graphemelink", "hyphen", "oalpha",
   "otheralphabetic", "odi", "otherdefaultignorablecodepoint", "ogrext",
   "othergraphemeextend", "oidc", "otheridcontinue", "oids", "otheridstart", "olower",
   "otherlowercase", "omath", "othermath", "oupper", "otheruppercase", "xonfc",
   "expandsonnfc", "xonfd", "expandsonnfd", "xonfkc", "expandsonnfkc", "xonfkd",
   "expandsonnfkd", "incb", "indicconjunctbreak", "nfkcscf", "nfkcsimplecasefold"]

/-- Whether a key names a property: one with a table, or one lookup knows of. -/
def isPropertyKey (key : String) : Bool :=
  (findEntry propertyTables key).isSome || knownPropertyKeys.contains key

/-- The table of a two-letter general category, by canonical name. -/
def categoryTable (canon : String) : RangeTable :=
  match categoryTables.find? (·.1 == canon) with
  | some (_, _, ranges) => RangeTable.ofString ranges
  | none => RangeTable.empty

/-- The general category with a key: `any`, `assigned`, `ascii`, a two-letter category
or a group of them. -/
def generalCategory (key : String) : Option RangeTable :=
  if key == "any" then some RangeTable.all
  else if key == "assigned" then some (categoryTable "Unassigned").complement
  else if key == "ascii" then some (RangeTable.ofRanges [(0, 0x7F)])
  else match findEntry categoryTables key with
    | some (_, ranges) => some (RangeTable.ofString ranges)
    | none => (findEntry categoryGroups key).map fun (_, members) =>
      members.foldl (fun acc m => acc.union (categoryTable m)) RangeTable.empty

/-- The script with a key. -/
def scriptClass (key : String) : Option RangeTable :=
  (findEntry scriptTables key).map fun (_, ranges) => RangeTable.ofString ranges

/-- Whether a key names a script that has no table. -/
def isScriptWithoutTable (key : String) : Bool :=
  scriptsWithoutTable.any fun (canon, aliases) => (canon :: aliases).any (nameKey · == key)

/-- The characters whose script extensions hold the script with a key. -/
def scriptExtensionClass (key : String) : Option RangeTable :=
  (findEntry scriptExtensionTables key).map fun (_, ranges) => RangeTable.ofString ranges

/-- The characters assigned in the version with a key or before it. -/
def ageClass (key : String) : Option RangeTable :=
  let index := ageTables.findIdx? fun (canon, aliases, _) =>
    (canon :: aliases).any (nameKey · == key)
  index.map fun i =>
    (ageTables.take (i + 1)).foldl (fun acc (_, _, ranges) => acc.union (RangeTable.ofString ranges))
      RangeTable.empty

/-- The value with a key in a table of values. -/
def valueClass (tables : List (String × List String × String)) (key : String) :
    Option RangeTable :=
  (findEntry tables key).map fun (_, ranges) => RangeTable.ofString ranges

/-- The binary property with a key. -/
def binaryProperty (key : String) : Option RangeTable :=
  (findEntry propertyTables key).map fun (_, ranges) => RangeTable.ofString ranges

/-- A class asked for by one name: a property (but `cf`, `sc` and `lc` are the
categories of those names), then a general category, then a script. -/
def lookupBinary (name : String) : Except LookupError RangeTable :=
  let key := normalizeName name
  if key != "cf" && key != "sc" && key != "lc" && isPropertyKey key then
    match binaryProperty key with
    | some t => .ok t
    | none => .error .propertyNotFound
  else match generalCategory key with
    | some t => .ok t
    | none => match scriptClass key with
      | some t => .ok t
      | none => .error (if isScriptWithoutTable key then .propertyValueNotFound
          else .propertyNotFound)

/-- The class of a value, or the error for a value that has none. -/
def orValueNotFound : Option RangeTable → Except LookupError RangeTable
  | some t => .ok t
  | none => .error .propertyValueNotFound

/-- A class asked for by property and value. -/
def lookupByValue (name value : String) : Except LookupError RangeTable :=
  let key := normalizeName name
  let valueKey := normalizeName value
  if key == "gc" || key == "generalcategory" then orValueNotFound (generalCategory valueKey)
  else if key == "sc" || key == "script" then orValueNotFound (scriptClass valueKey)
  else if key == "scx" || key == "scriptextensions" then
    orValueNotFound (scriptExtensionClass valueKey)
  else if key == "age" then orValueNotFound (ageClass valueKey)
  else if key == "gcb" || key == "graphemeclusterbreak" then
    orValueNotFound (valueClass graphemeBreakTables valueKey)
  else if key == "wb" || key == "wordbreak" then
    orValueNotFound (valueClass wordBreakTables valueKey)
  else if key == "sb" || key == "sentencebreak" then
    orValueNotFound (valueClass sentenceBreakTables valueKey)
  else if isPropertyKey key then .error .propertyValueNotFound
  else .error .propertyNotFound

/-- The class a query names. -/
def lookupClass : ClassQuery → Except LookupError RangeTable
  | .oneLetter c => lookupBinary (String.singleton c)
  | .binary name => lookupBinary name
  | .byValue name value => lookupByValue name value

/-- The characters of the White_Space property. -/
def spaceTable : RangeTable :=
  RangeTable.ofRanges [(0x09, 0x0D), (0x20, 0x20), (0x85, 0x85), (0xA0, 0xA0),
    (0x1680, 0x1680), (0x2000, 0x200A), (0x2028, 0x2029), (0x202F, 0x202F),
    (0x205F, 0x205F), (0x3000, 0x3000)]

/-- The ranges of an ASCII class. -/
def AsciiKind.ranges : AsciiKind → List (Nat × Nat)
  | .alnum => [(0x30, 0x39), (0x41, 0x5A), (0x61, 0x7A)]
  | .alpha => [(0x41, 0x5A), (0x61, 0x7A)]
  | .ascii => [(0x00, 0x7F)]
  | .blank => [(0x09, 0x09), (0x20, 0x20)]
  | .cntrl => [(0x00, 0x1F), (0x7F, 0x7F)]
  | .digit => [(0x30, 0x39)]
  | .graph => [(0x21, 0x7E)]
  | .lower => [(0x61, 0x7A)]
  | .print => [(0x20, 0x7E)]
  | .punct => [(0x21, 0x2F), (0x3A, 0x40), (0x5B, 0x60), (0x7B, 0x7E)]
  | .space => [(0x09, 0x0D), (0x20, 0x20)]
  | .upper => [(0x41, 0x5A)]
  | .word => [(0x30, 0x39), (0x41, 0x5A), (0x5F, 0x5F), (0x61, 0x7A)]
  | .xdigit => [(0x30, 0x39), (0x41, 0x46), (0x61, 0x66)]

/-- The set of an ASCII class. -/
def AsciiKind.table (k : AsciiKind) : RangeTable := RangeTable.ofRanges k.ranges

/-- A Perl class: Unicode digits, blanks and word characters, or their ASCII
counterparts. -/
def perlTable (unicode : Bool) : PerlKind → RangeTable
  | .digit => if unicode then digitTable else AsciiKind.digit.table
  | .space => if unicode then spaceTable else AsciiKind.space.table
  | .word => if unicode then wordTable else AsciiKind.word.table

/-- The classes of characters that simple case folding makes equal. -/
def foldClasses : List (List Nat) :=
  ((caseFoldClasses.splitOn " ").filter (· ≠ "")).map fun cls =>
    (cls.splitOn ",").map RangeTable.hexNat

end HttpCheck.Regex

namespace HttpCheck.Unicode.RangeTable

/-- A set closed under simple case folding. -/
def caseFold (t : RangeTable) : RangeTable :=
  let extra := Regex.foldClasses.foldl (fun acc cls =>
    if cls.any t.contains then cls.map (fun c => (c, c)) ++ acc else acc) []
  t.union (RangeTable.ofRanges extra)

/-- A set of bytes closed under ASCII case folding. -/
def asciiCaseFold (t : RangeTable) : RangeTable :=
  let letters := (List.range 26).foldl (fun acc i =>
    let upper := 0x41 + i
    let lower := 0x61 + i
    if t.contains upper || t.contains lower then (upper, upper) :: (lower, lower) :: acc
    else acc) []
  t.union (RangeTable.ofRanges letters)

/-- The complement within the bytes `0 ..= 255`. -/
def byteComplement (t : RangeTable) : RangeTable :=
  t.complement.inter (RangeTable.ofRanges [(0, 0xFF)])

/-- Whether every member is ASCII. -/
def isAscii (t : RangeTable) : Bool :=
  t.ranges.all fun (_, hi) => hi ≤ 0x7F

end HttpCheck.Unicode.RangeTable
