import ContentQuery.Pattern.Regex.Bracket
import ContentQuery.Pattern.Regex.Automaton
import ContentQuery.Text.Unicode.Letter

/-!
# Reading patterns

A pattern is read from left to right. `Level` is a group under way; the groups open around it wait
in a list, so the reader itself only ever looks at the next character. A flag set inside a group
holds to the end of that group, across its alternatives.

`Regex.parse?` refuses a pattern that is nested too deeply or whose automaton would be too large.
-/

namespace ContentQuery.Regex

/-- Part of a pattern with the depth it was written with. -/
structure Piece where
  regex : Regex
  depth : Nat

/-- What the deepest pattern may be nested. -/
def maxDepth : Nat := 250

/-- A group under way. -/
structure Level where
  /-- Flags in force around the group. -/
  outside : Flags
  captures : Bool
  /-- Alternatives that are finished, latest first. -/
  alternatives : List Piece := []
  /-- Pieces of the alternative under way, latest first. A place where only flags are set has no
  piece. -/
  pieces : List (Option Piece) := []

def deepest (pieces : List Piece) : Nat := (pieces.map (·.depth)).foldl Nat.max 0

namespace Level

def add (l : Level) (p : Piece) : Level := { l with pieces := some p :: l.pieces }

/-- The alternative under way. -/
def sequence (l : Level) : Piece :=
  match l.pieces with
  | [] => ⟨.empty, 0⟩
  | [p] => p.getD ⟨.empty, 0⟩
  | ps =>
    let written := ps.filterMap id
    match written with
    | [] => ⟨.empty, 1⟩
    | last :: before =>
      ⟨before.foldl (fun r p => .seq p.regex r) last.regex, 1 + deepest written⟩

/-- Begins another alternative. -/
def nextAlternative (l : Level) : Level :=
  { l with alternatives := l.sequence :: l.alternatives, pieces := [] }

/-- The whole group. -/
def choice (l : Level) : Piece :=
  match l.alternatives with
  | [] => l.sequence
  | before =>
    ⟨before.foldl (fun r p => .alt p.regex r) l.sequence.regex,
      1 + deepest (l.sequence :: before)⟩

/-- Repeats the last piece, if there is one to repeat. -/
def repeatLast? (l : Level) (min : Nat) (max : Option Nat) (greedy : Bool) : Option Level :=
  match l.pieces with
  | some p :: more =>
    some { l with pieces := some ⟨.rep p.regex min max greedy, p.depth + 1⟩ :: more }
  | _ => none

/-- The whole group as a piece of the one around it. -/
def close (l : Level) : Piece :=
  let inner := l.choice
  ⟨.group l.captures inner.regex, inner.depth + 1⟩

end Level

/-! ## Single characters -/

/-- The class a character stands for, with its other cases when case is ignored. -/
def charClass (f : Flags) (c : Char) : CharSet := f.fold (CharSet.single c)

def atomPiece (f : Flags) : Atom → Option Piece
  | .char c isByte =>
    -- a byte that is no character by itself
    if isByte && !f.unicode && 128 ≤ c.toNat then none else some ⟨.set (charClass f c) f.unicode, 0⟩
  | .chars s => some ⟨.set s f.unicode, 0⟩
  | .look condition => some ⟨.look condition, 0⟩

/-- What a dot stands for: without Unicode it would match bytes that are no characters. -/
def dotClass? (f : Flags) : Option CharSet :=
  if !f.unicode then none
  else if f.dotMatchesAll then some CharSet.all
  else if f.anyLineEnd then some (CharSet.complement [⟨10, 10⟩, ⟨13, 13⟩])
  else some (CharSet.complement [⟨10, 10⟩])

def startLook (f : Flags) : Look :=
  if !f.multiLine then .textStart else if f.anyLineEnd then .lineStartAny else .lineStart

def endLook (f : Flags) : Look :=
  if !f.multiLine then .textEnd else if f.anyLineEnd then .lineEndAny else .lineEnd

/-! ## Repetition -/

/-- A number of at most 32 bits, with blanks around it. -/
def countOf? (cs : List Char) : Option Nat :=
  let digits := Text.trim cs
  if digits.isEmpty || !digits.all Char.isDigit then none
  else
    let n := digits.foldl (fun n c => 10 * n + (c.toNat - '0'.toNat)) 0
    if n < 0x100000000 then some n else none

/-- The bounds written in braces: `n`, `n,` or `n,m`. -/
def bounds? (word : List Char) : Option (Nat × Option Nat) :=
  match splitAtSign? [','] word with
  | none => (countOf? word).map fun n => (n, some n)
  | some (low, []) => (countOf? low).map fun n => (n, none)
  | some (low, high) => do
    let n ← countOf? low
    let m ← countOf? high
    if n ≤ m then return (n, some m) else none

/-- Whether a repetition is greedy: not if a question mark follows it, unless greed is swapped. -/
def Flags.greed (f : Flags) : List Char → Bool × List Char
  | '?' :: cs => (f.swapGreed, cs)
  | cs => (!f.swapGreed, cs)

/-! ## Groups -/

/-- Sets one flag. The second component are the flags that are on to begin with. -/
def Flags.set? (f : Flags) (flag : Char) (on : Bool) : Option Flags :=
  match flag with
  | 'i' => some { f with ignoreCase := on }
  | 'm' => some { f with multiLine := on }
  | 's' => some { f with dotMatchesAll := on }
  | 'x' => some { f with verbose := on }
  | 'R' => some { f with anyLineEnd := on }
  | 'u' => some { f with unicode := on }
  | 'U' => some { f with swapGreed := on }
  | _ => none

/-- Reads flags up to a colon or a closing parenthesis. `seen` are the signs read so far, latest
first; none may come twice, and a hyphen has to be followed by a flag. -/
def flagsFrom : List Char → Flags → List Char → Option (Flags × List Char)
  | _, _, [] => none
  | seen, f, c :: cs =>
    if c == ':' || c == ')' then
      if seen.head? == some '-' then none else some (f, c :: cs)
    else if seen.contains c then none
    else if c == '-' then flagsFrom (c :: seen) f cs
    else match f.set? c (!seen.contains '-') with
      | some f => flagsFrom (c :: seen) f cs
      | none => none

/-- A name of a group starts with a letter or an underscore; digits, dots and brackets may follow. -/
def isGroupName (name : List Char) : Bool :=
  let isLetter (c : Char) : Bool := c == '_' || (CharSet.ofText Text.Unicode.letterText).has c
  let isLater (c : Char) : Bool :=
    isLetter c || ['.', '[', ']'].contains c || (CharSet.ofText Text.Unicode.numberText).has c
  match name with
  | [] => false
  | c :: cs => isLetter c && cs.all isLater

/-- What an opening parenthesis begins. -/
inductive Opening where
  /-- A group, with the flags inside it and, if it captures, its name. -/
  | group (inside : Flags) (captures : Bool) (name : Option (List Char))
  /-- Flags from here on. -/
  | setting (flags : Flags)

def namedGroup (f : Flags) (cs : List Char) : Option (Opening × List Char) :=
  let name := cs.takeWhile (· != '>')
  match cs.dropWhile (· != '>') with
  | '>' :: rest => if isGroupName name then some (.group f true (some name), rest) else none
  | _ => none

/-- Reads what follows an opening parenthesis. Conditions on the text around a match are refused. -/
def opening (f : Flags) (cs : List Char) : Option (Opening × List Char) :=
  match f.skip cs with
  | '?' :: '=' :: _ => none
  | '?' :: '!' :: _ => none
  | '?' :: '<' :: '=' :: _ => none
  | '?' :: '<' :: '!' :: _ => none
  | '?' :: 'P' :: '<' :: cs => namedGroup f cs
  | '?' :: '<' :: cs => namedGroup f cs
  | '?' :: ')' :: _ => none
  | '?' :: cs =>
    match flagsFrom [] f cs with
    | some (inside, ':' :: rest) => some (.group inside false none, rest)
    | some (flags, ')' :: rest) => some (.setting flags, rest)
    | _ => none
  | cs => some (.group f true none, cs)

/-! ## The reader -/

/-- Reads a pattern to its end, given the names of groups so far, the groups that are open around,
and the one under way. The fuel bounds the number of pieces. -/
def readFrom : Nat → List (List Char) → List Level → Level → Flags → List Char → Option Piece
  | 0, _, _, _, _, _ => none
  | fuel + 1, names, outer, here, f, cs =>
    let again (min : Nat) (max : Option Nat) (rest : List Char) : Option Piece := do
      let (greedy, rest) := f.greed rest
      readFrom fuel names outer (← here.repeatLast? min max greedy) f rest
    match f.skip cs with
    | [] => if outer.isEmpty then some here.choice else none
    | '(' :: cs => do
      let (opened, rest) ← opening f cs
      match opened with
      | .setting flags =>
        readFrom fuel names outer { here with pieces := none :: here.pieces } flags rest
      | .group inside captures none =>
        readFrom fuel names (here :: outer) { outside := f, captures } inside rest
      | .group inside captures (some name) =>
        if names.contains name then none
        else readFrom fuel (name :: names) (here :: outer) { outside := f, captures } inside rest
    | ')' :: rest =>
      match outer with
      | [] => none
      | parent :: outer => readFrom fuel names outer (parent.add here.close) here.outside rest
    | '|' :: rest => readFrom fuel names outer here.nextAlternative f rest
    | '[' :: cs => do
      let (item, rest) ← bracketed f cs
      readFrom fuel names outer (here.add ⟨.set item.chars f.unicode, item.depth⟩) f rest
    | '?' :: rest => again 0 (some 1) rest
    | '*' :: rest => again 0 none rest
    | '+' :: rest => again 1 none rest
    | '\x7b' :: cs => do
      let (word, rest) ← untilBrace f.verbose false cs
      let (min, max) ← bounds? word
      again min max (f.skip rest)
    | '.' :: rest => do
      readFrom fuel names outer (here.add ⟨.set (← dotClass? f) f.unicode, 0⟩) f rest
    | '^' :: rest => readFrom fuel names outer (here.add ⟨.look (startLook f), 0⟩) f rest
    | '$' :: rest => readFrom fuel names outer (here.add ⟨.look (endLook f), 0⟩) f rest
    | '\\' :: cs => do
      let (atom, rest) ← escape f cs
      readFrom fuel names outer (here.add (← atomPiece f atom)) f rest
    | c :: rest => do
      readFrom fuel names outer (here.add (← atomPiece f (.char c false))) f rest

/-- Reads a pattern under the flags that are set from its start. -/
def parse? (f : Flags) (pattern : String) : Option Regex := do
  let cs := pattern.toList
  let whole ← readFrom (cs.length + 1) [] [] { outside := f, captures := false } f cs
  if whole.depth ≤ maxDepth && (Normal.ofRegex whole.regex).fits then return whole.regex else none

end ContentQuery.Regex
