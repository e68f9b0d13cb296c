import ContentQuery.Pattern.Regex.Escape

/-!
# Bracketed classes

A bracketed class lists characters, ranges, named classes and further bracketed classes. Two lists
may be joined by an operator; operators bind to the left. When case is ignored, both sides of an
operator are folded before it applies, and a whole class before it is negated.
-/

namespace ContentQuery.Regex

/-- A set of characters with the depth of brackets and operators it was written with. -/
structure Nested where
  chars : CharSet
  depth : Nat

inductive ClassOperator where
  | inter
  | diff
  | symmDiff
  deriving DecidableEq, Repr

def ClassOperator.apply : ClassOperator → CharSet → CharSet → CharSet
  | .inter => CharSet.inter
  | .diff => CharSet.diff
  | .symmDiff => CharSet.symmDiff

/-- A bracket that is open. -/
structure Bracket where
  negated : Bool
  /-- What stands before the last operator. -/
  left : Option (Nested × ClassOperator) := none
  /-- Members since then, latest first. -/
  items : List Nested := []

namespace Bracket

def add (b : Bracket) (item : Nested) : Bracket := { b with items := item :: b.items }

/-- The members since the last operator as one set. A single member is not nested any deeper. -/
def list (b : Bracket) : Nested :=
  match b.items with
  | [item] => item
  | items =>
    { chars := CharSet.normal (items.flatMap (·.chars))
      depth := if items.isEmpty then 0 else 1 + (items.map (·.depth)).foldl Nat.max 0 }

/-- Everything in the bracket so far as one set. -/
def total (f : Flags) (b : Bracket) : Nested :=
  match b.left with
  | none => b.list
  | some (left, op) =>
    { chars := op.apply (f.fold left.chars) (f.fold b.list.chars)
      depth := 1 + Nat.max left.depth b.list.depth }

def operator (f : Flags) (op : ClassOperator) (b : Bracket) : Bracket :=
  { b with left := some (b.total f, op), items := [] }

def close? (f : Flags) (b : Bracket) : Option Nested := do
  let all := b.total f
  return { chars := ← f.negate? b.negated (f.fold all.chars), depth := all.depth + 1 }

end Bracket

/-- Hyphens at the start of a class stand for themselves. -/
def leadingHyphens (f : Flags) : Nat → Bracket → List Char → Bracket × List Char
  | fuel + 1, b, '-' :: cs =>
    leadingHyphens f fuel (b.add ⟨CharSet.single '-', 0⟩) (f.skip cs)
  | _, b, cs => (b, cs)

/-- Opens a class after its bracket. A caret negates it, and a closing bracket that comes first
stands for itself. -/
def openBracket (f : Flags) (cs : List Char) : Bracket × List Char :=
  let (negated, cs) := match f.skip cs with
    | '^' :: cs => (true, f.skip cs)
    | cs => (false, cs)
  let (b, cs) := leadingHyphens f cs.length { negated } cs
  match b.items, cs with
  | [], ']' :: cs => (b.add ⟨CharSet.single ']', 0⟩, f.skip cs)
  | _, cs => (b, cs)

/-- A class named inside brackets of its own, `[:alpha:]` or `[:^alpha:]`, whose opening bracket is
already read. Nothing if it is not of that form; a negated one may be refused. -/
def bracketName? (f : Flags) : List Char → Option (Option CharSet × List Char)
  | ':' :: cs => do
    let (negated, cs) := match cs with
      | '^' :: cs => (true, cs)
      | cs => (false, cs)
    let named ← Class.bracketed? (String.ofList (cs.takeWhile (· != ':')))
    match cs.dropWhile (· != ':') with
    | ':' :: ']' :: rest => some (f.negate? negated (f.fold named), rest)
    | _ => none
  | _ => none

/-- One end of a range, or a member of its own. -/
def bracketAtom (f : Flags) : List Char → Option (Atom × List Char)
  | '\\' :: cs => escape f cs
  | c :: cs => some (.char c false, cs)
  | [] => none

/-- A character as a member. Without Unicode only those of ASCII can be members. -/
def member? (f : Flags) (c : Char) : Option Nat :=
  if f.unicode || c.toNat < 128 then some c.toNat else none

def Atom.members? (f : Flags) : Atom → Option CharSet
  | .char c _ => do
    let n ← member? f c
    return [⟨n, n⟩]
  | .chars s => some s
  | .look _ => none

/-- Reads a member or a range. A hyphen before a closing bracket or another hyphen makes no range. -/
def bracketItem (f : Flags) (cs : List Char) : Option (Nested × List Char) := do
  let (first, cs) ← bracketAtom f cs
  let alone : Option (Nested × List Char) := do return (⟨← first.members? f, 0⟩, f.skip cs)
  match f.skip cs with
  | [] => none
  | '-' :: more =>
    if f.peek more == some ']' || f.peek more == some '-' then alone
    else
      let (last, rest) ← bracketAtom f (f.skip more)
      match first, last with
      | .char a _, .char b _ =>
        let low ← member? f a
        let high ← member? f b
        if low ≤ high then return (⟨[⟨low, high⟩], 0⟩, rest) else none
      | _, _ => none
  | _ => alone

/-- Reads a class from the inside of its bracket on; `outer` are the brackets open around it. The
fuel bounds the number of members. -/
def bracketFrom (f : Flags) : Nat → List Bracket → Bracket → List Char →
    Option (Nested × List Char)
  | 0, _, _, _ => none
  | fuel + 1, outer, here, cs =>
    match f.skip cs with
    | [] => none
    | '[' :: cs =>
      match bracketName? f cs with
      | some (named, rest) => do
        bracketFrom f fuel outer (here.add ⟨← named, 0⟩) rest
      | none =>
        let (inner, rest) := openBracket f cs
        bracketFrom f fuel (here :: outer) inner rest
    | ']' :: rest => do
      let closed ← here.close? f
      match outer with
      | [] => return (closed, rest)
      | parent :: outer => bracketFrom f fuel outer (parent.add closed) rest
    | '&' :: '&' :: rest => bracketFrom f fuel outer (here.operator f .inter) rest
    | '-' :: '-' :: rest => bracketFrom f fuel outer (here.operator f .diff) rest
    | '~' :: '~' :: rest => bracketFrom f fuel outer (here.operator f .symmDiff) rest
    | cs => do
      let (item, rest) ← bracketItem f cs
      bracketFrom f fuel outer (here.add item) rest

/-- Reads a bracketed class whose bracket is already read. -/
def bracketed (f : Flags) (cs : List Char) : Option (Nested × List Char) :=
  let (b, rest) := openBracket f cs
  bracketFrom f (rest.length + 1) [] b rest

end ContentQuery.Regex
