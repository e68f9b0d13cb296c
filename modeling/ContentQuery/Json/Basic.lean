import ContentQuery.Json.Binary64

/-!
# JSON values

Members of an object keep the order in which they were first written. Integers and floats are
different numbers as values (`1` and `1.0` are not the same JSON value), though both have a binary64
reading through which they compare.
-/

namespace ContentQuery

/-- A JSON number: an integer that fits 64 bits, signed or unsigned, or a finite float. -/
inductive Number where
  | int (value : Int)
  | float (value : Binary64)
  deriving DecidableEq, Inhabited

namespace Number

/-- The binary64 reading of a number. -/
def toBinary64 : Number → Binary64
  | .int i => .ofInt i
  | .float x => x

/-- Equality of values: integers with integers, floats with floats, the two float zeros alike. -/
def same : Number → Number → Bool
  | .int i, .int j => i == j
  | .float x, .float y => x.sameValue y
  | _, _ => false

end Number

inductive Json where
  | null
  | bool (value : Bool)
  | number (value : Number)
  | string (value : String)
  | array (items : List Json)
  | object (members : List (String × Json))
  deriving Inhabited

namespace Json

/-- Members in order; each key at most once. -/
abbrev Object := List (String × Json)

namespace Object

def get? (key : String) : Object → Option Json
  | [] => none
  | (k, v) :: rest => if k = key then some v else get? key rest

/-- Replaces the value of a key where it stands, or adds the member at the end. -/
def insert (key : String) (value : Json) : Object → Object
  | [] => [(key, value)]
  | (k, v) :: rest => if k = key then (k, value) :: rest else (k, v) :: insert key value rest

def keys (members : Object) : List String := members.map Prod.fst

/-- The object that results from inserting members one by one: a repeated key keeps its first
position and its last value. -/
def ofList (members : List (String × Json)) : Object :=
  members.foldl (fun acc (k, v) => acc.insert k v) []

end Object

def ofNat (n : Nat) : Json := .number (.int n)

def isNull : Json → Bool
  | .null => true
  | _ => false

def isTrue : Json → Bool
  | .bool true => true
  | _ => false

def string? : Json → Option String
  | .string s => some s
  | _ => none

def array? : Json → Option (List Json)
  | .array items => some items
  | _ => none

def object? : Json → Option Object
  | .object members => some members
  | _ => none

/-- Members of an object; any other value has none. -/
def members (v : Json) : Object := v.object?.getD []

/-- Member of an object; any other value has none. -/
def get? (v : Json) (key : String) : Option Json := v.members.get? key

/-! ## Equality of values -/

mutual

/-- Equality of values. Integers and floats differ, and so do objects only by their members, not by
the order of these. -/
def same : Json → Json → Bool
  | .null, .null => true
  | .bool a, .bool b => a == b
  | .number a, .number b => a.same b
  | .string a, .string b => a == b
  | .array a, .array b => sameItems a b
  | .object a, .object b => a.length == b.length && sameMembers a b
  | _, _ => false

def sameItems : List Json → List Json → Bool
  | [], [] => true
  | x :: xs, y :: ys => same x y && sameItems xs ys
  | _, _ => false

/-- Every member of the first object is in the second. -/
def sameMembers : List (String × Json) → Object → Bool
  | [], _ => true
  | (k, v) :: rest, other =>
    (match other.get? k with
      | some w => same v w
      | none => false) && sameMembers rest other

end

end Json

end ContentQuery
