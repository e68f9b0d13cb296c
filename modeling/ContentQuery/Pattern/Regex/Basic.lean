import ContentQuery.Text.CharSet

/-!
# Regular expressions and what they match

A pattern is read as a map on sets of positions: from the positions where a match may begin to those
where it may end. Repetition applies such a map again and again. Since a map never moves to an
earlier position, applying it once more than there are positions reaches everything that more
applications would, so repetitions end without a count of their own.

Greed and groups play no part, as only the existence of a match is asked for.
-/

namespace ContentQuery

/-- A condition on a position: on the characters on both sides of it. Conditions about words hold
the set of word characters. -/
inductive Look where
  | textStart
  | textEnd
  /-- Start of a line; lines end at a line feed. -/
  | lineStart
  | lineEnd
  /-- Start of a line; lines end at a line feed, a carriage return, or both in turn. -/
  | lineStartAny
  | lineEndAny
  | boundary (word : CharSet)
  | noBoundary (word : CharSet)
  | wordStart (word : CharSet)
  | wordEnd (word : CharSet)
  /-- No word character before the position. -/
  | wordStartHalf (word : CharSet)
  /-- No word character after the position. -/
  | wordEndHalf (word : CharSet)
  deriving DecidableEq, Repr

namespace Look

/-- Is there a character, and one of the set? -/
def isIn (word : CharSet) : Option Char → Bool
  | none => false
  | some c => word.has c

/-- Does a condition hold between two characters, of which either may be missing? -/
def holds (condition : Look) (before after : Option Char) : Bool :=
  match condition with
  | .textStart => before.isNone
  | .textEnd => after.isNone
  | .lineStart => before.isNone || before == some '\n'
  | .lineEnd => after.isNone || after == some '\n'
  | .lineStartAny =>
    before.isNone || before == some '\n' || (before == some '\r' && after != some '\n')
  | .lineEndAny =>
    after.isNone || after == some '\r' || (after == some '\n' && before != some '\r')
  | .boundary word => isIn word before != isIn word after
  | .noBoundary word => isIn word before == isIn word after
  | .wordStart word => !isIn word before && isIn word after
  | .wordEnd word => isIn word before && !isIn word after
  | .wordStartHalf word => !isIn word before
  | .wordEndHalf word => !isIn word after

end Look

inductive Regex where
  | empty
  /-- One of a set of characters; `unicode` tells in which of two ways the set was written. -/
  | set (chars : CharSet) (unicode : Bool)
  | look (condition : Look)
  | seq (first second : Regex)
  | alt (left right : Regex)
  /-- At least `min` times, and at most `max` times when that is given; `greedy` prefers many. -/
  | rep (body : Regex) (min : Nat) (max : Option Nat) (greedy : Bool)
  /-- In parentheses; `captures` keeps what the body matches. -/
  | group (captures : Bool) (body : Regex)
  deriving Repr, Inhabited

namespace Regex

/-! ## Positions -/

/-- One flag for each position of a text: before each character and after the last. -/
abbrev Positions := List Bool

def Positions.join (a b : Positions) : Positions := List.zipWith (· || ·) a b

def Positions.without (a b : Positions) : Positions := List.zipWith (fun x y => x && !y) a b

def Positions.any (a : Positions) : Bool := List.any a id

/-- The characters on both sides of each position. -/
def sides : Option Char → List Char → List (Option Char × Option Char)
  | before, [] => [(before, none)]
  | before, c :: cs => (before, some c) :: sides (some c) cs

/-- Everything reached by any number of applications. `reached` holds what is reached so far and
`front` what was reached last. The fuel bounds the number of applications. -/
def closure (step : Positions → Positions) : Nat → Positions → Positions → Positions
  | 0, reached, _ => reached
  | fuel + 1, reached, front =>
    let next := (step front).without reached
    if next.any then closure step fuel (reached.join next) next else reached

/-- Everything reached by a number of applications; the same set twice stays the same. -/
def iterate (step : Positions → Positions) : Nat → Positions → Positions
  | 0, at_ => at_
  | n + 1, at_ =>
    let next := step at_
    if next == at_ then at_ else iterate step n next

/-- Positions where a match may end that begins at one of the given positions. -/
def ends (text : List Char) : Regex → Positions → Positions
  | .empty, at_ => at_
  | .set chars _, at_ => false :: List.zipWith (fun here c => here && chars.has c) at_ text
  | .look condition, at_ =>
    List.zipWith (fun here (before, after) => here && condition.holds before after) at_
      (sides none text)
  | .seq first second, at_ => ends text second (ends text first at_)
  | .alt left right, at_ => (ends text left at_).join (ends text right at_)
  | .group _ body, at_ => ends text body at_
  | .rep body min max _, at_ =>
    let enough := text.length + 1
    let start := iterate (ends text body) (Nat.min min enough) at_
    let more := match max with
      | none => enough
      | some m => Nat.min (m - min) enough
    closure (ends text body) more start start

/-- Some part of the text matches. -/
def isMatch (r : Regex) (text : String) : Bool :=
  let cs := text.toList
  (r.ends cs (List.replicate (cs.length + 1) true)).any

end Regex

end ContentQuery
