import ContentQuery.Pattern.Regex.Basic
import ContentQuery.Text.Encoding

/-!
# Normal forms of patterns

Before an automaton is made of a pattern, the pattern is brought into a shorter form that matches the
same: characters that follow one another become words, lists inside lists are flattened, alternatives
that are single characters or classes become one class, a beginning that all alternatives share is
drawn out of them, and repetitions that make no difference are dropped. `Normal.ofRegex` gives that
form. The automaton, and so the room that it takes, depends on it alone.
-/

namespace ContentQuery

/-- A class of characters with the encodings of its members. Classes that were written in different
ways are kept apart. -/
structure CharClass where
  chars : CharSet
  unicode : Bool
  codes : List (List ByteRange) := chars.encodings

/-- A pattern in normal form. Words are not empty, and lists hold at least two members. -/
inductive Normal where
  | empty
  | word (text : List Char)
  | chars (members : CharClass)
  | look (condition : Look)
  | capture (body : Normal)
  | sequence (parts : List Normal)
  | choice (alternatives : List Normal)
  | rep (body : Normal) (min : Nat) (max : Option Nat) (greedy : Bool)

namespace Normal

/-! ## Lengths -/

mutual

/-- It matches, if at all, the empty text only. -/
def isEmptyOnly : Normal → Bool
  | .empty | .look _ => true
  | .word _ | .chars _ => false
  | .capture body | .rep body _ _ _ => body.isEmptyOnly
  | .sequence rs | .choice rs => areEmptyOnly rs

def areEmptyOnly : List Normal → Bool
  | [] => true
  | r :: rs => r.isEmptyOnly && areEmptyOnly rs

end

mutual

/-- A number of characters that every match has at least; nothing for a class without members and
for what holds one. -/
def minLength : Normal → Option Nat
  | .empty | .look _ => some 0
  | .word text => some text.length
  | .chars members => if members.chars.isEmpty then none else some 1
  | .capture body => body.minLength
  | .rep body min _ _ => body.minLength.map (min * ·)
  | .sequence rs => (minLengths rs).map List.sum
  | .choice rs => (minLengths rs).bind List.min?

def minLengths : List Normal → Option (List Nat)
  | [] => some []
  | r :: rs => do return (← r.minLength) :: (← minLengths rs)

end

/-! ## Equality -/

mutual

/-- The same part of a pattern. What is captured is kept apart, so no two captures are the same. -/
def same : Normal → Normal → Bool
  | .empty, .empty => true
  | .word a, .word b => a == b
  | .chars a, .chars b => a.unicode == b.unicode && a.chars == b.chars
  | .look a, .look b => a == b
  | .sequence rs, .sequence ss => sameAll rs ss
  | .choice rs, .choice ss => sameAll rs ss
  | .rep r min max greedy, .rep s min' max' greedy' =>
    min == min' && max == max' && greedy == greedy' && r.same s
  | _, _ => false

def sameAll : List Normal → List Normal → Bool
  | [], [] => true
  | r :: rs, s :: ss => r.same s && sameAll rs ss
  | _, _ => false

end

/-! ## Building -/

/-- A class; a single character is a word. There is one class without members. -/
def ofSet (s : CharSet) (unicode : Bool) : Normal :=
  let s := s.betweenCharacters
  match s with
  | [] => .chars { chars := [], unicode := false }
  | [r] => if r.low == r.high then .word [Char.ofNat r.low] else .chars { chars := s, unicode }
  | _ => .chars { chars := s, unicode }

/-- The parts that follow one another. -/
def parts : Normal → List Normal
  | .empty => []
  | .sequence rs => rs
  | r => [r]

/-- Puts a part in front of others; two words become one. -/
def attach : Normal → List Normal → List Normal
  | .word a, .word b :: rest => .word (a ++ b) :: rest
  | r, rest => r :: rest

def ofParts : List Normal → Normal
  | [] => .empty
  | [r] => r
  | rs => .sequence rs

/-- One after the other. -/
def andThen (a b : Normal) : Normal := ofParts (a.parts.foldr attach b.parts)

def inOrder (rs : List Normal) : Normal := rs.foldr andThen .empty

def alternatives : Normal → List Normal
  | .choice rs => rs
  | r => [r]

/-- The one character of a word. -/
def singleChar? : Normal → Option CharRange
  | .word [c] => some ⟨c.toNat, c.toNat⟩
  | _ => none

def classOf? : Normal → Option CharSet
  | .chars members => some members.chars
  | _ => none

/-- Alternatives as one class, if all of them are single characters or all of them are classes, and
as a list otherwise. -/
def merge (rs : List Normal) : Normal :=
  match rs.flatMap alternatives with
  | [] => ofSet [] false
  | [r] => r
  | rs =>
    match rs.mapM singleChar? with
    | some singles => ofSet (CharSet.normal singles) true
    | none =>
      match rs.mapM classOf? with
      | some sets => ofSet (CharSet.normal sets.flatten) true
      | none => .choice rs

/-- The parts that two lists begin with alike. -/
def commonStart : List Normal → List Normal → List Normal
  | r :: rs, s :: ss => if r.same s then r :: commonStart rs ss else []
  | _, _ => []

/-- The parts that all alternatives begin with, if each is a sequence. -/
def sharedStart (rs : List Normal) : List Normal :=
  let sequences := rs.mapM fun r =>
    match r with
    | .sequence parts => some parts
    | _ => none
  match sequences with
  | some (first :: second :: more) => (second :: more).foldl commonStart first
  | _ => []

/-- One of several. -/
def oneOf : List Normal → Normal
  | [r] => r
  | rs =>
    let rs := rs.flatMap alternatives
    match sharedStart rs with
    | [] => merge rs
    | start => inOrder (start ++ [merge (rs.map fun r => ofParts (r.parts.drop start.length))])

/-- A repetition. More than one time makes no difference to what matches the empty text only. -/
def repeated (body : Normal) (min : Nat) (max : Option Nat) (greedy : Bool) : Normal :=
  let (min, max) :=
    if body.isEmptyOnly then (Nat.min min 1, some (Nat.min (max.getD 1) 1)) else (min, max)
  if max == some 0 then .empty
  else if min == 1 && max == some 1 then body
  else .rep body min max greedy

/-- The alternatives of a pattern. -/
def alternativesOf : Regex → List Normal
  | .empty => [.empty]
  | .set s unicode => [ofSet s unicode]
  | .look condition => [.look condition]
  | .seq a b => [andThen (oneOf (alternativesOf a)) (oneOf (alternativesOf b))]
  | .alt a b => alternativesOf a ++ alternativesOf b
  | .rep body min max greedy => [repeated (oneOf (alternativesOf body)) min max greedy]
  | .group captures body =>
    let body := oneOf (alternativesOf body)
    [if captures then .capture body else body]

def ofRegex (r : Regex) : Normal := oneOf (alternativesOf r)

/-! ## Anchors -/

mutual

/-- Every match begins where the condition holds. -/
def beginsWith (condition : Look) : Normal → Bool
  | .look c => c == condition
  | .capture body => body.beginsWith condition
  | .rep body min _ _ => 0 < min && body.beginsWith condition
  | .sequence rs => firstBeginsWith condition rs
  | .choice rs => allBeginWith condition rs
  | .empty | .word _ | .chars _ => false

def firstBeginsWith (condition : Look) : List Normal → Bool
  | [] => false
  | r :: rs => r.beginsWith condition || (r.isEmptyOnly && firstBeginsWith condition rs)

def allBeginWith (condition : Look) : List Normal → Bool
  | [] => true
  | r :: rs => r.beginsWith condition && allBeginWith condition rs

end

mutual

/-- Every match ends where the condition holds. -/
def endsWith (condition : Look) : Normal → Bool
  | .look c => c == condition
  | .capture body => body.endsWith condition
  | .rep body min _ _ => 0 < min && body.endsWith condition
  | .sequence rs => lastEndsWith condition rs
  | .choice rs => allEndWith condition rs
  | .empty | .word _ | .chars _ => false

def lastEndsWith (condition : Look) : List Normal → Bool
  | [] => false
  | r :: rs => lastEndsWith condition rs || (areEmptyOnly rs && r.endsWith condition)

def allEndWith (condition : Look) : List Normal → Bool
  | [] => true
  | r :: rs => r.endsWith condition && allEndWith condition rs

end

end Normal

end ContentQuery
