import HttpCheck.Binary64.Layout
import HttpCheck.Binary64.Parse
import HttpCheck.Text.Quoted
import HttpCheck.Json.Print
/-!
# Settings values

A settings tree: tables of named values, arrays, and scalars. Reading a scalar as a
given type converts where it can: any scalar reads as text, a boolean reads as `0` or
`1`, a text reads as a number when it is one (or `true`, `on`, `yes`, `false`, `off`,
`no` in any case), a double is rounded to the nearest integer (halves away from zero).
What cannot be converted is reported as an unexpected value against what was expected.
-/
namespace HttpCheck.Settings

/-- A settings value. -/
inductive Value where
  | nil
  | boolean (b : Bool)
  | int (i : Int)
  | nat (n : Nat)
  | float (x : Binary64)
  | string (s : String)
  | table (entries : List (String × Value))
  | array (items : List Value)
  deriving Inhabited

/-- A value found where another kind was expected. -/
inductive Unexpected where
  | bool (b : Bool)
  | int (i : Int)
  | nat (n : Nat)
  | float (x : Binary64)
  | str (s : String)
  | unit
  | seq
  | map
  deriving Inhabited

/-- The text of a double as settings write it. -/
def floatText (x : Binary64) : String := Binary64.render Binary64.plainLayout x

/-- How an unexpected value is named. -/
def Unexpected.text : Unexpected → String
  | .bool b => "boolean " ++ "\x60" ++ toString b ++ "\x60"
  | .int i => "64-bit integer \x60" ++ intText i ++ "\x60"
  | .nat n => "64-bit unsigned integer \x60" ++ natText n ++ "\x60"
  | .float x => "floating point \x60" ++ floatText x ++ "\x60"
  | .str s => "string " ++ Quoted.literal s
  | .unit => "unit value"
  | .seq => "sequence"
  | .map => "map"

/-- A value of the wrong kind, with where it was found. -/
structure TypeError where
  unexpected : Unexpected
  expected : String
  key : Option String
  origin : Option String
  deriving Inhabited

/-- `invalid type: <found>, expected <what>`, with the key and the origin if known. -/
def TypeError.message (e : TypeError) : String :=
  "invalid type: " ++ e.unexpected.text ++ ", expected " ++ e.expected ++
    (match e.key with
      | some k => " for key \x60" ++ k ++ "\x60"
      | none => "") ++
    (match e.origin with
      | some o => " in " ++ o
      | none => "")

/-- What a conversion reports: the unexpected value and what was expected. -/
abbrev Conversion := Except (Unexpected × String)

/-- The ASCII lowercase of a text. -/
def lowerText (s : String) : String := String.ofList (Binary64.lowerAscii s.toList)

/-- The nearest natural to a double, saturating: negative values and NaN give `0`,
values beyond `2 ^ 64 - 1` give `2 ^ 64 - 1`. -/
def saturatingNat (x : Binary64) : Nat :=
  if x.isNaN then 0
  else if x.isInfinite then (if x.negative then 0 else Nat.pow 2 64 - 1)
  else
    let (neg, mag) := x.roundHalfAway
    if neg then 0 else min mag (Nat.pow 2 64 - 1)

/-- The value as an unsigned 64-bit integer. -/
def Value.intoNat : Value → Conversion Nat
  | .nat n => .ok n
  | .int i =>
    if i ≥ 0 then .ok i.toNat else .error (.int i, "an unsigned 64 bit or less integer")
  | .string s =>
    let l := lowerText s
    if l == "true" || l == "on" || l == "yes" then .ok 1
    else if l == "false" || l == "off" || l == "no" then .ok 0
    else match Binary64.parseU64? s with
      | some n => .ok n
      | none => .error (.str s, "an integer")
  | .boolean b => .ok (if b then 1 else 0)
  | .float x => .ok (saturatingNat x)
  | .nil => .error (.unit, "an integer")
  | .table _ => .error (.map, "an integer")
  | .array _ => .error (.seq, "an integer")

/-- The value as text. -/
def Value.intoString : Value → Conversion String
  | .string s => .ok s
  | .boolean b => .ok (toString b)
  | .int i => .ok (intText i)
  | .nat n => .ok (natText n)
  | .float x => .ok (floatText x)
  | .nil => .error (.unit, "a string")
  | .table _ => .error (.map, "a string")
  | .array _ => .error (.seq, "a string")

end HttpCheck.Settings
