/-!
# Sets of characters

A set is a list of ranges of code points. `CharSet.normal` puts them in order and joins those that
touch; the set operations give sets in that form.
-/

namespace ContentQuery

/-- Code points from `low` to `high`, both included. -/
structure CharRange where
  low : Nat
  high : Nat
  deriving Repr, DecidableEq

abbrev CharSet := List CharRange

namespace CharSet

/-- The largest code point. -/
def maxPoint : Nat := 0x10FFFF

def empty : CharSet := []

def all : CharSet := [⟨0, maxPoint⟩]

def single (c : Char) : CharSet := [⟨c.toNat, c.toNat⟩]

def ofRange (a b : Char) : CharSet := [⟨a.toNat, b.toNat⟩]

def hasPoint (s : CharSet) (n : Nat) : Bool := s.any fun r => r.low ≤ n && n ≤ r.high

def has (s : CharSet) (c : Char) : Bool := s.hasPoint c.toNat

/-- Adds a range in front of ranges that are apart and start no earlier. -/
def absorb (r : CharRange) : CharSet → CharSet
  | [] => [r]
  | t :: more => if t.low ≤ r.high + 1 then absorb ⟨r.low, max r.high t.high⟩ more else r :: t :: more

/-- The same set with its ranges ordered and apart from one another. -/
def normal (s : CharSet) : CharSet := (s.mergeSort fun a b => a.low ≤ b.low).foldr absorb []

def union (a b : CharSet) : CharSet := normal (a ++ b)

/-- The code points from `start` on that no range of an ordered set holds. -/
def gaps (start : Nat) : CharSet → CharSet
  | [] => if start ≤ maxPoint then [⟨start, maxPoint⟩] else []
  | r :: rest =>
    if start < r.low then ⟨start, r.low - 1⟩ :: gaps (r.high + 1) rest else gaps (r.high + 1) rest

def complement (s : CharSet) : CharSet := gaps 0 (normal s)

def inter (a b : CharSet) : CharSet := complement (union (complement a) (complement b))

def diff (a b : CharSet) : CharSet := inter a (complement b)

def symmDiff (a b : CharSet) : CharSet := union (diff a b) (diff b a)

/-! ## Sets written as text -/

def hexDigit? (c : Char) : Option Nat :=
  if c.isDigit then some (c.toNat - '0'.toNat)
  else if 'A' ≤ c && c ≤ 'F' then some (c.toNat - 'A'.toNat + 10)
  else none

/-- The hexadecimal numbers in a text, whatever stands between them. -/
def hexWords (cs : List Char) : List Nat :=
  let step := fun (acc : List Nat × Option Nat) c =>
    match hexDigit? c, acc.2 with
    | some d, some n => (acc.1, some (16 * n + d))
    | some d, none => (acc.1, some d)
    | none, some n => (n :: acc.1, none)
    | none, none => acc
  match cs.foldl step ([], none) with
  | (ns, some n) => (n :: ns).reverse
  | (ns, none) => ns.reverse

/-- One range, written `41-5A`, or a single code point, written `AA`. -/
def rangeOfText (word : List Char) : CharSet :=
  match hexWords word with
  | [n] => [⟨n, n⟩]
  | [a, b] => [⟨a, b⟩]
  | _ => []

/-- The ranges of a text, parted by blanks or line ends. -/
def ofText (text : String) : CharSet :=
  (text.toList.splitBy fun c _ => c != ' ' && c != '\n').flatMap rangeOfText

end CharSet

end ContentQuery
