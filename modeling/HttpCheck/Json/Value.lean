import HttpCheck.Binary64.Layout
/-!
# JSON values

A JSON number keeps the kind it was read as: a natural below `2 ^ 64`, a negative
integer of at least `-2 ^ 63`, or a finite double. An object holds its members sorted
by key, each key once; adding a key that is present replaces its value. Two values are
equal when they have the same shape, numbers of the same kind and equal value (for
doubles, `0.0` equals `-0.0`), and equal members.
-/
namespace HttpCheck

/-- A JSON number, by the kind it was read or built as. -/
inductive JsonNumber where
  /-- A natural below `2 ^ 64`. -/
  | natural (n : Nat)
  /-- A negative integer, at least `-2 ^ 63`. -/
  | negative (n : Int)
  /-- A finite double. -/
  | float (x : Binary64)
  deriving Inhabited, Repr

/-- A JSON value. -/
inductive Json where
  | null
  | bool (b : Bool)
  | number (n : JsonNumber)
  | string (s : String)
  | array (items : List Json)
  | object (members : List (String × Json))
  deriving Inhabited, Repr

namespace JsonNumber

/-- Equality of numbers: the same kind and the same value. -/
def sameAs : JsonNumber → JsonNumber → Bool
  | .natural a, .natural b => a == b
  | .negative a, .negative b => a == b
  | .float a, .float b => a.sameValue b
  | _, _ => false

/-- The number of an integer: natural when not negative. -/
def ofInt (i : Int) : JsonNumber := if i < 0 then .negative i else .natural i.toNat

end JsonNumber

namespace Json

/-- Adds a member to sorted members, replacing the value of an equal key. -/
def insertMember (k : String) (v : Json) : List (String × Json) → List (String × Json)
  | [] => [(k, v)]
  | (k', v') :: rest =>
    if k = k' then (k, v) :: rest
    else if k < k' then (k, v) :: (k', v') :: rest
    else (k', v') :: insertMember k v rest

/-- The object of members given in any order; of equal keys the last one counts. -/
def objectOf (members : List (String × Json)) : Json :=
  .object (members.foldl (fun acc (k, v) => insertMember k v acc) [])

/-- The value of a key in sorted members. -/
def lookup (k : String) : List (String × Json) → Option Json
  | [] => none
  | (k', v) :: rest => if k = k' then some v else lookup k rest

mutual
/-- Equality of JSON values. -/
def sameAs : Json → Json → Bool
  | .null, .null => true
  | .bool a, .bool b => a == b
  | .number a, .number b => a.sameAs b
  | .string a, .string b => a == b
  | .array xs, .array ys => sameItems xs ys
  | .object xs, .object ys => sameMembers xs ys
  | _, _ => false

/-- Equality of item lists. -/
def sameItems : List Json → List Json → Bool
  | [], [] => true
  | x :: xs, y :: ys => sameAs x y && sameItems xs ys
  | _, _ => false

/-- Equality of sorted member lists. -/
def sameMembers : List (String × Json) → List (String × Json) → Bool
  | [], [] => true
  | (k, x) :: xs, (l, y) :: ys => k == l && sameAs x y && sameMembers xs ys
  | _, _ => false
end

@[simp] theorem insertMember_nil (k : String) (v : Json) : insertMember k v [] = [(k, v)] := rfl

end Json
end HttpCheck
