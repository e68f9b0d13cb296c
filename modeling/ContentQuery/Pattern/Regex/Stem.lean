import ContentQuery.Pattern.Regex.Normal

/-!
# Stems

Every match of a pattern begins with one of the pattern's stems; a whole stem is itself a match. So if
all stems are whole, a match can be found by looking for words, and no automaton is made of the
pattern: `Normal.isWords` tells when that is done.

Stems are listed in the order in which a match prefers them. They are kept few and short: at the
bounds below they are cut, and what is cut is not whole any more, or they are given up, when anything
may be a stem. A class with many members has no listed stems either.
-/

namespace ContentQuery

structure Stem where
  bytes : List UInt8
  whole : Bool
  deriving DecidableEq, Repr

namespace Stem

/-- The first bytes of a stem. -/
def cut (n : Nat) (s : Stem) : Stem := if n < s.bytes.length then ⟨s.bytes.take n, false⟩ else s

def partly (s : Stem) : Stem := { s with whole := false }

/-- A stem, and after it another if it is whole. -/
def followedBy (s : Stem) (others : List Stem) : List Stem :=
  if s.whole then others.map fun t => ⟨s.bytes ++ t.bytes, t.whole⟩ else [s]

/-- Makes one of equal stems that are next to each other, whole if all of them are. -/
def unite : List Stem → List Stem
  | [] => []
  | s :: rest =>
    match unite rest with
    | [] => [s]
    | t :: more =>
      if s.bytes = t.bytes then ⟨s.bytes, s.whole && t.whole⟩ :: more else s :: t :: more

/-- Drops each stem that begins with one before it, as that one is preferred. -/
def preferred (stems : List Stem) : List Stem :=
  stems.foldl
    (fun kept s => if kept.any (·.bytes.isPrefixOf s.bytes) then kept else kept ++ [s]) []

/-- The bytes that two stems begin with alike. -/
def common : List UInt8 → List UInt8 → List UInt8
  | a :: as, b :: bs => if a = b then a :: common as bs else []
  | _, _ => []

end Stem

/-- The stems of a pattern, unless they were given up. -/
abbrev Stems := Option (List Stem)

namespace Stems

/-! ## Bounds -/

/-- Members of a class whose members are stems. -/
def maxMembers : Nat := 10

/-- Repetitions that are written out. -/
def maxRepeats : Nat := 10

def maxBytes : Nat := 100

def maxStems : Nat := 250

/-- Bytes to which stems are cut to make room for others. -/
def roomyBytes : Nat := 4

/-! ## Building -/

/-- The stem of what matches the empty text. -/
def nothing : Stems := some [⟨[], true⟩]

def cut (n : Nat) (a : Stems) : Stems := a.map (·.map (Stem.cut n))

def partly (a : Stems) : Stems := a.map (·.map Stem.partly)

def unite (a : Stems) : Stems := a.map Stem.unite

/-- Nothing that follows can be added. -/
def isSettled (a : Stems) : Bool := a.all fun stems => stems.all fun s => !s.whole

/-- Stems of one pattern and then of another. -/
def followedBy (a b : Stems) : Stems :=
  let b := do
    let stems ← a
    let others ← b
    guard (stems.length * others.length ≤ maxStems)
    return others
  match a, b with
  | none, _ => none
  | some stems, none =>
    if stems.any (·.bytes.isEmpty) then none else cut maxBytes (partly (some stems))
  | some stems, some others =>
    cut maxBytes (some (Stem.unite (stems.flatMap (·.followedBy others))))

/-- All stems of two patterns, if they are not too many. -/
def together (a b : Stems) : Stems := do
  let stems ← a
  let others ← b
  guard (stems.length + others.length ≤ maxStems)
  return Stem.unite (stems ++ others)

/-- Stems of either pattern, those of the first preferred. -/
def orElse (a b : Stems) : Stems :=
  together a b <|> together (cut roomyBytes a).unite (cut roomyBytes b).unite

/-- A pattern some times in a row. -/
def copies (body : Stems) : Nat → Stems → Stems
  | 0, a => a
  | n + 1, a => if a.isSettled then a else copies body n (followedBy a body)

def repeated (body : Stems) (min : Nat) (max : Option Nat) (greedy : Bool) : Stems :=
  if min == 0 then
    let body := if max == some 1 then body else partly body
    if greedy then orElse body nothing else orElse nothing body
  else
    let a := copies body (Nat.min min maxRepeats) nothing
    if max == some min && min ≤ maxRepeats then a else partly a

/-- The members of a class, unless they are many. -/
def ofClass (members : CharSet) : Stems := do
  guard (members.foldl (fun n r => n + (r.high + 1 - r.low)) 0 ≤ maxMembers)
  return members.flatMap fun r =>
    (List.range' r.low (r.high + 1 - r.low)).map fun n => ⟨CharRange.bytes n, true⟩

def ofWord (text : List Char) : Stems :=
  cut maxBytes (some [⟨text.flatMap String.utf8EncodeChar, true⟩])

end Stems

namespace Normal

mutual

/-- The stems of a pattern. -/
def stems : Normal → Stems
  | .empty | .look _ => Stems.nothing
  | .word text => Stems.ofWord text
  | .chars members => Stems.ofClass members.chars
  | .capture body => body.stems
  | .rep body min max greedy => Stems.repeated body.stems min max greedy
  | .sequence rs => stemsInOrder Stems.nothing rs
  | .choice rs => stemsOfAny (some []) rs

def stemsInOrder (a : Stems) : List Normal → Stems
  | [] => a
  | r :: rs => if a.isSettled then a else stemsInOrder (a.followedBy r.stems) rs

def stemsOfAny (a : Stems) : List Normal → Stems
  | [] => a
  | r :: rs => if a.isNone then a else stemsOfAny (a.orElse r.stems) rs

end

/-! ## Patterns that are words -/

mutual

/-- Nothing is captured, and no condition is put on a position. -/
def isPlain : Normal → Bool
  | .empty | .word _ | .chars _ => true
  | .look _ | .capture _ => false
  | .rep body _ _ _ => body.isPlain
  | .sequence rs | .choice rs => arePlain rs

def arePlain : List Normal → Bool
  | [] => true
  | r :: rs => r.isPlain && arePlain rs

end

/-- Bytes that are frequent in texts. -/
def frequentBytes : CharSet :=
  CharSet.ofText "A D 20 28-29 2C-32 39-3A 5F 61-69 6C-70 72-76 78-79 7C 80-84 90 B1 B5-B7 B9-BD
BF-FF"

/-- Lengths to which stems are cut while there are more than the number beside it. -/
def shorterStems : List (Nat × Nat) := [(5, 10), (4, 10), (3, 64), (2, 64), (1, 10)]

/-- Cuts stems until they are few enough. -/
def shorten : List (Nat × Nat) → List Stem → List Stem
  | [], stems => stems
  | (bytes, few) :: rest, stems =>
    if stems.length ≤ few then stems
    else shorten rest (Stem.preferred (stems.map (Stem.cut bytes)))

/-- Shorter stems are better to look for than whole ones: they are few, and none is very short. -/
def isBetter (stems : List Stem) : Bool :=
  stems.length ≤ 64 && stems.all fun s => 2 < s.bytes.length

/-- Whole stems are looked for as they are. A single byte is looked for instead if it is rare and all
begin with it, and so is a longer beginning that all share, or some shorter stems. -/
def keepsWhole (written : Nat) (stems : List Stem) : Bool :=
  match stems with
  | [] => false
  | [s] => written ≤ 1 || s.bytes.length == 1 || 3 < s.bytes.length ||
      s.bytes.head?.all fun b => frequentBytes.hasPoint b.toNat
  | s :: rest =>
    let shared := rest.foldl (fun shared t => Stem.common t.bytes shared) s.bytes
    let rare := shared.head?.any fun b => !frequentBytes.hasPoint b.toNat
    if (rare && shared.length ≤ 3) || 4 < shared.length || (1 < shared.length && 16 < stems.length)
    then false
    else
      let shorter := shorten shorterStems stems
      shorter.all (·.whole) || !isBetter shorter

/-- Words that a pattern stands for are looked for without an automaton. -/
def isWords (r : Normal) : Bool :=
  r.isPlain &&
    match r.stems.unite with
    | none => false
    | some written =>
      let stems := Stem.preferred written
      !written.any (·.bytes.isEmpty) && stems.all (·.whole) && keepsWhole written.length stems

end Normal

end ContentQuery
