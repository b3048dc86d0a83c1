import HttpCheck.Settings.Value
/-!
# Settings paths

A key names a place in the settings tree: a name (`[A-Za-z0-9_-]+`), then any number
of `.name` (a member of a table) and `[n]` (an item of an array, `n` a signed integer,
blanks allowed around it). A malformed key is reported with the key, a caret under the
place where reading stopped, and what was expected there.

Setting a value at a path makes the path exist: what stands in the way and is not a
table (or an array, for an index) is replaced by an empty one, and arrays are padded
with nothing up to the index. A table set at a place is merged into the table there,
member by member and recursively; any other value replaces what was there.
-/
namespace HttpCheck.Settings

/-- A path into a settings tree. -/
inductive KeyPath where
  | name (key : String)
  | child (parent : KeyPath) (key : String)
  | index (parent : KeyPath) (i : Int)
  deriving DecidableEq, Repr, Inhabited

/-- Whether a character may stand in a name. -/
def isNameChar (c : Char) : Bool :=
  ('a' ≤ c ∧ c ≤ 'z') || ('A' ≤ c ∧ c ≤ 'Z') || ('0' ≤ c ∧ c ≤ '9') || c == '_' || c == '-'

/-- Why reading a key stopped: the byte offset, what was being read, what was
expected, and an underlying cause. -/
structure KeyError where
  offset : Nat
  label : Option String
  expected : List String
  cause : Option String
  deriving Inhabited

/-- What is expected of a name. -/
def nameExpected : List String := ["ASCII alphanumeric", "\x60_\x60", "\x60-\x60"]

/-- The UTF-8 length of some characters. -/
def byteLength (cs : List Char) : Nat := (String.ofList cs).utf8ByteSize

/-- Reads a name at the front of `cs`, which starts at byte `offset`. -/
def readName (offset : Nat) (cs : List Char) : Except KeyError (String × List Char × Nat) :=
  let name := cs.takeWhile isNameChar
  if name.isEmpty then .error ⟨offset, some "identifier", nameExpected, none⟩
  else .ok (String.ofList name, cs.drop name.length, offset + name.length)

/-- Reads an index after `[`: an optional minus sign and digits, up to and including `]`. -/
def readIndex (offset : Nat) (cs : List Char) : Except KeyError (Int × List Char × Nat) :=
  let blanks := cs.takeWhile (fun c => c == ' ' || c == '\t')
  let cs := cs.drop blanks.length
  let offset := offset + blanks.length
  let (sign, afterSign) := match cs with
    | '-' :: rest => (some '-', rest)
    | _ => (none, cs)
  let signLength := if sign.isSome then 1 else 0
  let digits := afterSign.takeWhile Char.isDigit
  if digits.isEmpty then
    .error ⟨offset + signLength, some "subscript", ["integer"], none⟩
  else
    let n : Int := Binary64.digitsValue digits
    let v := if sign == some '-' then -n else n
    let bound : Int := Nat.pow 2 63
    if v < -bound || v ≥ bound then
      let cause := if sign == some '-' then "number too small to fit in target type"
        else "number too large to fit in target type"
      .error ⟨offset, some "subscript", ["integer"], some cause⟩
    else
      let rest := afterSign.drop digits.length
      let offset := offset + signLength + digits.length
      let blanks := rest.takeWhile (fun c => c == ' ' || c == '\t')
      let rest := rest.drop blanks.length
      let offset := offset + blanks.length
      match rest with
      | ']' :: more => .ok (v, more, offset + 1)
      | _ => .error ⟨offset, some "subscript", ["\x60]\x60"], none⟩

/-- Reads the suffixes of a path; each step reads at least one character, so the
length of the text bounds the steps. -/
def readSuffixes (acc : KeyPath) (offset : Nat) (cs : List Char) : Nat → Except KeyError KeyPath
  | 0 => .ok acc
  | fuel + 1 =>
    match cs with
    | [] => .ok acc
    | '[' :: rest => do
      let (i, more, offset') ← readIndex (offset + 1) rest
      readSuffixes (.index acc i) offset' more fuel
    | '.' :: rest => do
      let (k, more, offset') ← readName (offset + 1) rest
      readSuffixes (.child acc k) offset' more fuel
    | c :: _ => .error ⟨offset + byteLength [c], some "postfix", ["\x60[\x60", "\x60.\x60"], none⟩

/-- Reads a key. -/
def parseKeyPath (key : String) : Except KeyError KeyPath := do
  let cs := key.toList
  let (k, rest, offset) ← readName 0 cs
  readSuffixes (.name k) offset rest (cs.length + 1)

/-- The text of what a key reader expected. -/
def KeyError.detail (e : KeyError) : String :=
  let parts := (e.label.map fun l => "invalid " ++ l).toList ++
    (if e.expected.isEmpty then [] else ["expected " ++ ", ".intercalate e.expected]) ++
    e.cause.toList
  "\n".intercalate parts

/-- The line and column (both from zero, the column in characters) of a byte offset. -/
def lineAndColumn (text : String) (offset : Nat) : Nat × Nat :=
  let bytes := text.toUTF8.toList
  let before := bytes.take offset
  let line := before.count 10
  let lineStart := before.length - (before.reverse.takeWhile (· != 10)).length
  let column := (String.fromUTF8? (ByteArray.mk (bytes.extract lineStart offset).toArray)).map
    (·.length) |>.getD (offset - lineStart)
  (line, column)

/-- The report of a malformed key: the key, a caret under the place where reading
stopped, and what was expected. A key of several lines is shown by its line, with the
line and column named. -/
def KeyError.render (key : String) (e : KeyError) : String :=
  if key.contains '\n' then
    let (line, column) := lineAndColumn key e.offset
    let number := natText (line + 1)
    let gutter := String.ofList (List.replicate number.length ' ')
    let content := ((key.splitOn "\n")[line]?).getD ""
    "parse error at line " ++ number ++ ", column " ++ natText (column + 1) ++ "\n" ++
      gutter ++ " |\n" ++ number ++ " | " ++ content ++ "\n" ++
      gutter ++ " | " ++ String.ofList (List.replicate column ' ') ++ "^\n" ++ e.detail
  else
    key ++ "\n" ++ String.ofList (List.replicate e.offset ' ') ++ "^\n" ++ e.detail

/-- A value as a table: its members, or none when it is not a table. -/
def Value.members : Value → List (String × Value)
  | .table entries => entries
  | _ => []

/-- A value as an array: its items, or none when it is not an array. -/
def Value.items : Value → List Value
  | .array items => items
  | _ => []

/-- Changes the member `k` of a table (nothing when it is missing), keeping the order
of members; a new member goes last. -/
def updateMember (entries : List (String × Value)) (k : String) (f : Value → Value) :
    List (String × Value) :=
  if entries.any (·.1 == k) then entries.map fun (k', v) => if k' == k then (k', f v) else (k', v)
  else entries ++ [(k, f .nil)]

/-- The position an index names in an array of some length, and the nothing-padding
to put before the array when a negative index reaches past its start. -/
def indexPlace (i : Int) (len : Nat) : Nat × Nat :=
  if i ≥ 0 then (i.toNat, 0)
  else if i.natAbs ≤ len then (len - i.natAbs, 0)
  else (0, i.natAbs - len)

/-- Changes the item at an index of an array, padding it with nothing as needed. -/
def updateItem (items : List Value) (i : Int) (f : Value → Value) : List Value :=
  let (pos, front) := indexPlace i items.length
  let items := List.replicate front Value.nil ++ items
  let items := if pos < items.length then items else items ++ List.replicate (pos + 1 - items.length) .nil
  items.modify pos f

/-- Changes the value at a path, making the path exist. -/
def KeyPath.update : KeyPath → (Value → Value) → Value → Value
  | .name k, f, root => .table (updateMember root.members k f)
  | .child p k, f, root => p.update (fun v => .table (updateMember v.members k f)) root
  | .index p i, f, root => p.update (fun v => .array (updateItem v.items i f)) root

mutual
/-- What stands at a place after a value is set there: a table is merged into the
table there, anything else replaces it. -/
def assign (old : Value) : Value → Value
  | .table entries => mergeMembers old.members entries
  | v => v

/-- Merges members into a table, one after another. -/
def mergeMembers (target : List (String × Value)) : List (String × Value) → Value
  | [] => .table target
  | (k, v) :: rest => mergeMembers (updateMember target k (fun old => assign old v)) rest
end

/-- Sets a value at a path. -/
def KeyPath.set (p : KeyPath) (v : Value) (root : Value) : Value := p.update (fun old => assign old v) root

end HttpCheck.Settings
