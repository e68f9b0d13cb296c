import ContentQuery.Pattern.Regex.Stem
import ContentQuery.Pattern.Regex.WordTree
import Std.Data.HashMap

/-!
# Building automata

The automaton of a pattern reads bytes, forward from the start of a match or backward from its end.
Only its extent is of interest here, so building it counts states and keeps no transitions;
`Normal.build` gives the states of each kind of pattern, and `Normal.fits` tells whether the automata
of both directions stay within `Extent.limit`.

States of a class of characters are shared: one that leads on in the same way as one before is not
built again, as long as that one is remembered. The memory has a fixed number of places and a new
state takes the place of an older one that falls on the same, so how many states a class takes depends
on where in the automaton it stands.
-/

namespace ContentQuery

/-- Building part of an automaton, which ends without a result once it grows too large. -/
abbrev Build := StateT Extent Option

namespace Build

def grow (more : Extent) : Build Unit := fun e =>
  let e := e + more
  if e.fits then some ((), e) else none

/-- Adds one state and gives its number. -/
def state (s : Extent) : Build Nat := fun e =>
  let next := e + s
  if next.fits then some (e.states, next) else none

/-- How a part of an automaton ends. -/
inductive Exit where
  /-- In a state with one way on. -/
  | plain
  /-- In a state that holds a list of ways on. -/
  | branching

/-- Leads on from the end of a part. -/
def Exit.link : Exit → Build Unit
  | .plain => pure ()
  | .branching => grow (.ofBranches 1)

/-- The same part again and again, `n` times. -/
def copies (part : Build Exit) : Nat → Exit → Build Exit
  | 0, last => pure last
  | n + 1, last => do
    let next ← part
    last.link
    copies part n next

/-! ## Remembered states -/

/-- States already built, by what they lead to. Keys that fall on one place displace one another. -/
abbrev Memory := Std.HashMap Nat (List Nat × Nat)

/-- The place of a key among so many. -/
def place (places : Nat) (key : List Nat) : Nat :=
  let hash := key.foldl (fun (h : UInt64) n => (h ^^^ n.toUInt64) * 1099511628211)
    14695981039346656037
  hash.toNat % places

/-- The state remembered for a key, or else a new one. -/
def remembered (places : Nat) (key : List Nat) (new : Extent) (m : Memory) : Build (Nat × Memory) :=
  let at_ := place places key
  let fresh : Build (Nat × Memory) := do
    let id ← state new
    return (id, m.insert at_ (key, id))
  match m[at_]? with
  | some (known, id) => if known == key then pure (id, m) else fresh
  | none => fresh

/-! ## Classes -/

/-- Places of the memory for forward classes. -/
def forwardPlaces : Nat := 10000

/-- Places of the memory for backward classes. -/
def backwardPlaces : Nat := 1000

/-- The encodings with the same first range, group by group, without that range. -/
def firstRanges (codes : List (List ByteRange)) : List (ByteRange × List (List ByteRange)) :=
  (codes.splitBy fun a b => a.head? == b.head?).filterMap fun group =>
    group.head?.bind List.head? |>.map fun first => (first, group.map List.tail)

/-- Builds the state that tells encodings of at most `depth` ranges apart, after the states that it
leads to. All encodings end in the state `target`. -/
def forwardNode (target : Nat) : Nat → List (List ByteRange) → Memory → Build (Nat × Memory)
  | 0, _, m => pure (target, m)
  | depth + 1, codes, m =>
    if codes.all List.isEmpty then pure (target, m)
    else do
      let (key, m) ← (firstRanges codes).foldlM
        (fun (key, m) (first, rest) => do
          let (next, m) ← forwardNode target depth rest m
          return (key ++ [first.low.toNat, first.high.toNat, next], m))
        ([], m)
      remembered forwardPlaces key (.withTransitions (key.length / 3)) m

/-- Builds the states of one encoding, read backward: its first range ends in the state `target`. -/
def backwardChain (target : Nat) (code : List ByteRange) (m : Memory) : Build (Nat × Memory) :=
  code.foldlM
    (fun (next, m) r => remembered backwardPlaces [next, r.low.toNat, r.high.toNat] (.plain 1) m)
    (target, m)

/-- A class of characters. In ASCII, one state tells its ranges apart. -/
def chars (back : Bool) (members : CharClass) : Build Exit :=
  if List.all members.chars (·.high < 128) then do
    grow (.plain 1 + .withTransitions (List.length members.chars))
    return .plain
  else if back then do
    grow (.plain 1)
    let target ← state (.plain 1)
    let _ ← members.codes.foldlM
      (fun m code => do
        let (_, m) ← backwardChain target code m
        grow (.ofBranches 1)
        return m)
      (∅ : Memory)
    return .plain
  else do
    let target ← state (.plain 1)
    let _ ← forwardNode target 4 members.codes ∅
    return .plain

/-! ## Words -/

def bytesOf (word : List Char) : List UInt8 := word.flatMap String.utf8EncodeChar

def word? : Normal → Option (List Char)
  | .word text => some text
  | _ => none

/-- A choice between words, of which the tree is made. -/
def words (back : Bool) (ws : List (List Char)) : Build Exit := do
  let tree := WordTree.ofWords <| ws.map fun w =>
    if back then (bytesOf w).reverse else bytesOf w
  grow (.plain 1 + tree.extent)
  return .plain

/-! ## Repetition -/

/-- A repetition of a part. `nonempty` tells that every match of the part takes some text. -/
def repetition (part : Build Exit) (nonempty : Bool) : Nat → Option Nat → Build Exit
  | 0, some 1 => do
    grow (.plain 1 + .ofBranches 2)
    let last ← part
    grow (.plain 1)
    last.link
    return .plain
  | 0, none =>
    if nonempty then do
      grow (.plain 1 + .ofBranches 1)
      (← part).link
      return .branching
    else do
      (← part).link
      grow (.plain 3 + .ofBranches 4)
      return .plain
  | n + 1, none => do
    (← copies part (n + 1) .plain).link
    grow (.plain 1 + .ofBranches 1)
    return .branching
  | min, some max => do
    let last ← if min == 0 then do grow (.plain 1); pure .plain else copies part min .plain
    if max ≤ min then return last
    grow (.plain 1)
    let option : Build Exit := do
      grow (.plain 1 + .ofBranches 2)
      part
    (← copies option (max - min) last).link
    return .plain

end Build

namespace Normal

open Build

mutual

/-- Builds the automaton of a pattern, backward or forward. -/
def build (back : Bool) : Normal → Build Exit
  | .empty | .look _ => do grow (.plain 1); return .plain
  | .word text => do grow (.plain (bytesOf text).length); return .plain
  | .chars members => Build.chars back members
  | .capture body =>
    if back then body.build back
    else do
      grow (.plain 1)
      let last ← body.build back
      grow (.plain 1)
      last.link
      return .plain
  | .sequence rs => if back then buildBackward rs else buildForward .plain rs
  | .choice rs =>
    match rs.mapM word? with
    | some ws => Build.words back ws
    | none => buildChoice back rs
  | .rep body min max _ =>
    repetition (body.build back) (body.minLength.any (0 < ·)) min max

/-- Builds parts in their order, after a part with the given end. -/
def buildForward (last : Exit) : List Normal → Build Exit
  | [] => return last
  | r :: rs => do
    let next ← r.build false
    last.link
    buildForward next rs

/-- Builds parts from the last one on. -/
def buildBackward : List Normal → Build Exit
  | [] => return .plain
  | r :: rs => do
    let last ← buildBackward rs
    let next ← r.build true
    last.link
    return next

/-- Builds alternatives: the state that leads to each of them comes after the second. -/
def buildChoice (back : Bool) : List Normal → Build Exit
  | [] => return .plain
  | [r] => r.build back
  | a :: b :: rs => do
    let first ← a.build back
    let second ← b.build back
    grow (.plain 2 + .ofBranches 2)
    first.link
    second.link
    buildRest back rs

def buildRest (back : Bool) : List Normal → Build Exit
  | [] => return .plain
  | r :: rs => do
    let last ← r.build back
    grow (.ofBranches 1)
    last.link
    buildRest back rs

end

/-- Builds the whole automaton of a pattern: with states that pass over what stands before a match,
unless matches begin at the end that reading starts from; with states around it that tell where a
forward match begins and ends; and with a state for a match. -/
def buildAll (back : Bool) (r : Normal) : Build Unit := do
  let anchored := if back then r.endsWith .textEnd else r.beginsWith .textStart
  grow (if anchored then .plain 1 else .plain 2 + .withTransitions 1 + .ofBranches 2)
  if back then
    let last ← r.build true
    grow (.plain 1)
    last.link
  else
    grow (.plain 1)
    let last ← r.build false
    grow (.plain 2)
    last.link

/-- So many words are looked for without an automaton. -/
def manyWords : Nat := 3000

def isManyWords : Normal → Bool
  | .choice rs => manyWords ≤ rs.length && rs.all (word? · |>.isSome)
  | _ => false

/-- The automata of a pattern stay within the limit. -/
def fits (r : Normal) : Bool :=
  r.isWords || r.isManyWords || ((r.buildAll false .zero).isSome && (r.buildAll true .zero).isSome)

end Normal

end ContentQuery
