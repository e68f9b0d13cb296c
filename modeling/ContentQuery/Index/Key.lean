import ContentQuery.Json.Basic

/-!
# Index keys

Scalars have keys, one after the other by kind and by value within a kind. Equal values have equal
keys: an integer meets the float of the same value, and the two zeros meet.
-/

namespace ContentQuery

inductive IndexKey where
  | bool (value : Bool)
  /-- A word that orders numbers by value. -/
  | number (word : Nat)
  | string (value : String)
  deriving DecidableEq, Repr

namespace IndexKey

/-- The key of a scalar. -/
def ofJson? : Json → Option IndexKey
  | .bool b => some (.bool b)
  | .number n => some (.number n.toBinary64.orderWord)
  | .string s => some (.string s)
  | _ => none

def rank : IndexKey → Nat
  | .bool _ => 0
  | .number _ => 1
  | .string _ => 2

instance : Ord IndexKey where
  compare
    | .bool a, .bool b => compare a b
    | .number a, .number b => compare a b
    | .string a, .string b => compare a b
    | a, b => compare a.rank b.rank

end IndexKey

/-- One end of a range of keys. -/
inductive Bound where
  | none
  | closed (key : IndexKey)
  | opened (key : IndexKey)
  deriving DecidableEq, Repr

namespace Bound

/-- The key lies on the right side of a lower end. -/
def allowsFrom : Bound → IndexKey → Bool
  | .none, _ => true
  | .closed low, key => compare low key != .gt
  | .opened low, key => compare low key == .lt

/-- The key lies on the right side of an upper end. -/
def allowsTo : Bound → IndexKey → Bool
  | .none, _ => true
  | .closed high, key => compare key high != .gt
  | .opened high, key => compare key high == .lt

/-- The ends leave room for no key at all: they lie the wrong way round, or meet and do not both
belong to the range. -/
def crossed : Bound → Bound → Bool
  | .closed low, .closed high => compare low high == .gt
  | .closed low, .opened high | .opened low, .closed high | .opened low, .opened high =>
    compare low high != .lt
  | .none, _ | _, .none => false

end Bound

namespace IndexKey

/-- The least key of the same kind. -/
def least : IndexKey → IndexKey
  | .bool _ => .bool false
  | .number _ => .number 0
  | .string _ => .string ""

/-- The end of the keys of the same kind. No string is the last one, but strings are the last
kind. -/
def last : IndexKey → Bound
  | .bool _ => .closed (.bool true)
  | .number _ => .closed (.number 0xFFFFFFFFFFFFFFFF)
  | .string _ => .none

end IndexKey

end ContentQuery
