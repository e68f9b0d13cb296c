import ContentQuery.Json.Basic

/-!
# Comparing values

Tests compare values of one kind: numbers by what they count, so that `1` meets `1.0`, strings by
code points, and `false` before `true`. Sorting needs an order on all values: kinds come one after
the other, arrays compare item by item, and objects are all alike.
-/

namespace ContentQuery.Json

/-- Equality in tests: numbers by value, everything else as values. -/
def equals : Json → Json → Bool
  | .number a, .number b => a.toBinary64.sameValue b.toBinary64
  | a, b => a.same b

/-- The order of two values of one scalar kind. -/
def compare? : Json → Json → Option Ordering
  | .number a, .number b => some (compare a.toBinary64.valueKey b.toBinary64.valueKey)
  | .string a, .string b => some (compare a b)
  | .bool a, .bool b => some (compare a b)
  | _, _ => none

/-- Place of a value's kind in the order of all values. -/
def rank : Json → Nat
  | .null => 0
  | .bool _ => 1
  | .number _ => 2
  | .string _ => 3
  | .array _ => 4
  | .object _ => 5

mutual

/-- The order of all values. -/
def order : Json → Json → Ordering
  | .bool a, .bool b => compare a b
  | .number a, .number b => compare a.toBinary64.totalKey b.toBinary64.totalKey
  | .string a, .string b => compare a b
  | .array a, .array b => orderItems a b
  | a, b => compare a.rank b.rank

def orderItems : List Json → List Json → Ordering
  | [], [] => .eq
  | [], _ :: _ => .lt
  | _ :: _, [] => .gt
  | x :: xs, y :: ys => (order x y).then (orderItems xs ys)

end

/-- The first value comes no later than the second. -/
def notAfter (a b : Json) : Bool := order a b != .gt

end ContentQuery.Json
