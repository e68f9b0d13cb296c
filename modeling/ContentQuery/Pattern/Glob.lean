/-!
# Globs

A glob matches a whole text. `?` stands for one character, `*` for any number of them, and `[…]` for
one of a set or, after `!`, outside it; none of these matches a `/`, nor a dot at the start of the
text or after a `/`. `**` between slashes stands for any number of path components.
-/

namespace ContentQuery

/-- One member of a bracketed set. -/
inductive GlobRange where
  | single (c : Char)
  | between (low high : Char)
  deriving DecidableEq, Repr

inductive GlobToken where
  | char (c : Char)
  | anyChar
  | anyText
  | anyComponents
  | oneOf (set : List GlobRange)
  | noneOf (set : List GlobRange)
  deriving DecidableEq, Repr

inductive GlobFault where
  | wildcards
  | components
  | range
  deriving DecidableEq, Repr

/-- What is wrong with a glob and at which character. -/
structure GlobError where
  position : Nat
  fault : GlobFault
  deriving DecidableEq, Repr

def GlobFault.message : GlobFault → String
  | .wildcards => "wildcards are either regular `*` or recursive `**`"
  | .components => "recursive wildcards must form a single path component"
  | .range => "invalid range pattern"

def GlobError.message (e : GlobError) : String :=
  "Pattern syntax error near position " ++ toString e.position ++ ": " ++ e.fault.message

abbrev Glob := List GlobToken

namespace Glob

/-! ## Reading -/

/-- Members of a bracketed set: `a-c` is a range, any other character stands for itself. -/
def rangesOf : List Char → List GlobRange
  | a :: '-' :: b :: rest => .between a b :: rangesOf rest
  | a :: rest => .single a :: rangesOf rest
  | [] => []

/-- A set that opens after a bracket: its token and the number of characters up to and with the
closing bracket. The first character of a set never closes it. -/
def bracket? (cs : List Char) : Option (GlobToken × Nat) :=
  let close (set : List Char) : Option (List Char) :=
    match set with
    | first :: more =>
      if more.contains ']' then some (first :: more.takeWhile (· != ']')) else none
    | [] => none
  match cs with
  | '!' :: set => (close set).map fun s => (.noneOf (rangesOf s), s.length + 2)
  | set => (close set).map fun s => (.oneOf (rangesOf s), s.length + 1)

/-- Adds a token for path components, but not twice in a row after something else. -/
def addComponents (acc : List GlobToken) : List GlobToken :=
  match acc with
  | .anyComponents :: _ :: _ => acc
  | _ => .anyComponents :: acc

/-- Reads the characters from position `at_` on. `before` is the character in front of them, and the
tokens so far come in reverse. The fuel bounds the number of steps. -/
def readFrom : Nat → Nat → Option Char → List GlobToken → List Char →
    Except GlobError (List GlobToken)
  | _, _, _, acc, [] => .ok acc.reverse
  | 0, _, _, acc, _ :: _ => .ok acc.reverse
  | fuel + 1, at_, before, acc, c :: cs =>
    match c with
    | '?' => readFrom fuel (at_ + 1) (some c) (.anyChar :: acc) cs
    | '*' =>
      let stars := 1 + (cs.takeWhile (· == '*')).length
      let rest := cs.dropWhile (· == '*')
      let next := at_ + stars
      if stars > 2 then .error ⟨at_ + 2, .wildcards⟩
      else if stars < 2 then readFrom fuel next (some '*') (.anyText :: acc) rest
      else if before.isSome && before != some '/' then .error ⟨at_ - 1, .components⟩
      else match rest with
        | '/' :: rest => readFrom fuel (next + 1) (some '/') (addComponents acc) rest
        | [] => readFrom fuel next (some '*') (addComponents acc) []
        | _ :: _ => .error ⟨next, .components⟩
    | '[' =>
      match bracket? cs with
      | some (token, n) => readFrom fuel (at_ + 1 + n) (some ']') (token :: acc) (cs.drop n)
      | none => .error ⟨at_, .range⟩
    | c => readFrom fuel (at_ + 1) (some c) (.char c :: acc) cs

/-- Reads a glob. -/
def parse (text : String) : Except GlobError Glob :=
  let cs := text.toList
  readFrom cs.length 0 none [] cs

/-! ## Matching -/

/-- How far a match got. When the text runs out before the glob does, no longer match of an earlier
wildcard can help either. -/
inductive Outcome where
  | matched
  | mismatch
  | exhausted
  deriving DecidableEq

def GlobRange.has : GlobRange → Char → Bool
  | .single a, c => a == c
  | .between a b, c => a ≤ c && c ≤ b

def isSeparator (c : Char) : Bool := c == '/'

/-- The character matches a token for one character. A dot that begins a component is matched only
by itself. -/
def tokenMatches (token : GlobToken) (afterSeparator : Bool) (c : Char) : Bool :=
  match token with
  | .char a => a == c
  | .anyChar => plain
  | .oneOf set => plain && set.any (GlobRange.has · c)
  | .noneOf set => plain && !set.any (GlobRange.has · c)
  | _ => false
where
  plain := !isSeparator c && !(afterSeparator && c == '.')

/-- Lets a wildcard take one character after another and tries the rest of the glob after each.
`rest` matches what follows the wildcard. -/
def extend (components : Bool) (rest : Bool → List Char → Outcome) :
    Bool → List Char → Outcome
  | afterSeparator, [] => rest afterSeparator []
  | afterSeparator, c :: cs =>
    if afterSeparator && c == '.' then .mismatch
    else
      let separator := isSeparator c
      if components && !separator then extend components rest separator cs
      else if !components && separator then .mismatch
      else match rest separator cs with
        | .mismatch => extend components rest separator cs
        | outcome => outcome

/-- Matches the glob with the whole of a text, given whether it begins a path component. -/
def matchFrom : Glob → Bool → List Char → Outcome
  | [], _, [] => .matched
  | [], _, _ :: _ => .mismatch
  | .anyText :: tokens, afterSeparator, cs =>
    match matchFrom tokens afterSeparator cs with
    | .mismatch => extend false (matchFrom tokens) afterSeparator cs
    | outcome => outcome
  | .anyComponents :: tokens, afterSeparator, cs =>
    match matchFrom tokens afterSeparator cs with
    | .mismatch => extend true (matchFrom tokens) afterSeparator cs
    | outcome => outcome
  | _ :: _, _, [] => .exhausted
  | token :: tokens, afterSeparator, c :: cs =>
    if tokenMatches token afterSeparator c then matchFrom tokens (isSeparator c) cs else .mismatch

def isMatch (glob : Glob) (text : String) : Bool :=
  matchFrom glob true text.toList == .matched

end Glob

end ContentQuery
