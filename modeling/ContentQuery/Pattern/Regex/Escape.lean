import ContentQuery.Pattern.Regex.Class
import ContentQuery.Text.Blank

/-!
# Flags, blanks and escapes of a pattern

An escape stands for a character, a class of characters or a condition. In verbose mode blanks and
comments are passed over wherever a pattern's parts meet.

Readers take the characters still to be read and give what they read with the rest of them, or
nothing when the pattern is wrong.
-/

namespace ContentQuery.Regex

/-- What the flags of a pattern say at one place of it. -/
structure Flags where
  /-- `i` -/
  ignoreCase : Bool := false
  /-- `m` -/
  multiLine : Bool := false
  /-- `s` -/
  dotMatchesAll : Bool := false
  /-- `x` -/
  verbose : Bool := false
  /-- `U` -/
  swapGreed : Bool := false
  /-- `R` -/
  anyLineEnd : Bool := false
  /-- `u` -/
  unicode : Bool := true
  deriving DecidableEq, Repr

/-! ## Blanks -/

/-- Drops blanks and comments; `inComment` tells whether the text starts inside a comment. -/
def dropBlanks : Bool → List Char → List Char
  | _, [] => []
  | true, c :: cs => dropBlanks (c != '\n') cs
  | false, c :: cs =>
    if Text.isBlank c then dropBlanks false cs
    else if c == '#' then dropBlanks true cs
    else c :: cs

/-- Drops blanks and comments in verbose mode. -/
def Flags.skip (f : Flags) (cs : List Char) : List Char :=
  if f.verbose then dropBlanks false cs else cs

/-- The next character when blanks are passed over. A comment is not passed over, only the sign
that opens it. -/
def peekAfterBlanks (fallback : Option Char) : Bool → List Char → Option Char
  | _, [] => fallback
  | inComment, c :: cs =>
    if Text.isBlank c then peekAfterBlanks fallback inComment cs
    else if !inComment && c == '#' then peekAfterBlanks fallback true cs
    else some c

/-- The next character as a range looks for it. -/
def Flags.peek (f : Flags) (cs : List Char) : Option Char :=
  if f.verbose then peekAfterBlanks cs.head? false cs else cs.head?

/-- The characters up to a closing brace. In verbose mode, blanks and comments between them are left
out. -/
def untilBrace (verbose : Bool) : Bool → List Char → Option (List Char × List Char)
  | _, [] => none
  | true, c :: cs => untilBrace verbose (c != '\n') cs
  | false, c :: cs =>
    if verbose && Text.isBlank c then untilBrace verbose false cs
    else if verbose && c == '#' then untilBrace verbose true cs
    else if c == '\x7d' then some ([], cs)
    else (untilBrace verbose false cs).map fun (word, rest) => (c :: word, rest)

/-! ## Classes under flags -/

/-- Adds the characters that differ only in case, when case is ignored. -/
def Flags.fold (f : Flags) (s : CharSet) : CharSet :=
  if !f.ignoreCase then s
  else if f.unicode then Class.foldCase s
  else Class.foldAsciiCase s

/-- The complement of a set, if it is to be negated. Without Unicode a complement would hold bytes
that are no characters, and is refused. -/
def Flags.negate? (f : Flags) (negated : Bool) (s : CharSet) : Option CharSet :=
  if !negated then some s
  else if f.unicode then some s.complement
  else none

/-! ## Escapes -/

/-- What an escape, or a character by itself, stands for. -/
inductive Atom where
  /-- A character; `isByte` if it was written as a number of two hexadecimal digits. -/
  | char (c : Char) (isByte : Bool)
  | chars (set : CharSet)
  | look (condition : Look)

def hexValue? (c : Char) : Option Nat :=
  if c.isDigit then some (c.toNat - '0'.toNat) else CharSet.hexDigit? c.toUpper

def charOf? (n : Nat) : Option Char :=
  if h : n.isValidChar then some (Char.ofNatAux n h) else none

/-- Reads a character by a fixed number of hexadecimal digits. -/
def hexDigits (f : Flags) : Nat → Nat → List Char → Option (Nat × List Char)
  | 0, n, cs => some (n, cs)
  | _ + 1, _, [] => none
  | more + 1, n, c :: cs => do hexDigits f more (16 * n + (← hexValue? c)) (f.skip cs)

/-- Reads a character by its number, in braces or in a fixed number of digits. -/
def hexChar (f : Flags) (digits : Nat) (cs : List Char) : Option (Atom × List Char) :=
  match f.skip cs with
  | '\x7b' :: cs => do
    let (word, rest) ← untilBrace f.verbose false cs
    if word.isEmpty then none
    else
      let n ← word.foldlM (fun n c => do return 16 * n + (← hexValue? c)) 0
      return (.char (← charOf? n) false, rest)
  | cs => do
    let (n, rest) ← hexDigits f digits 0 cs
    return (.char (← charOf? n) (digits == 2), rest)

/-- Splits at the first place where a sign stands. -/
def splitAtSign? (sign : List Char) : List Char → Option (List Char × List Char)
  | [] => none
  | c :: cs =>
    if sign.isPrefixOf (c :: cs) then some ([], (c :: cs).drop sign.length)
    else (splitAtSign? sign cs).map fun (a, b) => (c :: a, b)

/-- The class that a text in braces names: alone, or as a property and its value. The second
component tells whether the characters outside the class are meant. -/
def propertyClass? (word : List Char) : Option (CharSet × Bool) :=
  match ["!=", ":", "="].findSome? fun sign =>
      (splitAtSign? sign.toList word).map fun parts => (parts, sign == "!=") with
  | some ((property, value), outside) =>
    (Class.valued? (String.ofList property) (String.ofList value)).map (·, outside)
  | none => (Class.named? (String.ofList word)).map (·, false)

/-- Reads a class named by a Unicode property; without Unicode there are none. -/
def property (f : Flags) (negated : Bool) (cs : List Char) : Option (Atom × List Char) := do
  let ((named, outside), rest) ← match f.skip cs with
    | '\x7b' :: cs => do
      let (word, rest) ← untilBrace f.verbose false cs
      pure (← propertyClass? word, rest)
    | '\\' :: _ => none
    | c :: cs => do pure ((← Class.named? (String.singleton c), false), f.skip cs)
    | [] => none
  if f.unicode then return (.chars (← f.negate? (negated != outside) (f.fold named)), rest)
  else none

/-- Reads what may follow `\b`: a side in braces, if the braces hold no number. -/
def wordSide (f : Flags) (cs : List Char) : Option (Atom × List Char) :=
  let word := Text.wordChars f.unicode
  match cs with
  | '\x7b' :: inner =>
    match f.skip inner with
    | [] => none
    | c :: more =>
      if c.isAlpha || c == '-' then do
        let (name, rest) ← untilBrace f.verbose false (c :: more)
        match String.ofList name with
        | "start" => return (.look (.wordStart word), rest)
        | "end" => return (.look (.wordEnd word), rest)
        | "start-half" => return (.look (.wordStartHalf word), rest)
        | "end-half" => return (.look (.wordEndHalf word), rest)
        | _ => none
      else some (.look (.boundary word), cs)
  | _ => some (.look (.boundary word), cs)

/-- Any character of ASCII may be escaped that is neither a letter nor a digit; angle brackets have a
meaning of their own. -/
def isEscapable (c : Char) : Bool :=
  c.toNat < 128 && !c.isAlphanum && c != '<' && c != '>'

/-- Reads an escape whose backslash is already read. -/
def escape (f : Flags) : List Char → Option (Atom × List Char)
  | [] => none
  | c :: cs =>
    let letter (set : CharSet) (negated : Bool) : Option (Atom × List Char) := do
      return (.chars (← f.negate? negated set), cs)
    match c with
    | 'x' => hexChar f 2 cs
    | 'u' => hexChar f 4 cs
    | 'U' => hexChar f 8 cs
    | 'p' => property f false cs
    | 'P' => property f true cs
    | 'd' => letter (Class.decimalDigits f.unicode) false
    | 'D' => letter (Class.decimalDigits f.unicode) true
    | 's' => letter (Class.spaces f.unicode) false
    | 'S' => letter (Class.spaces f.unicode) true
    | 'w' => letter (Text.wordChars f.unicode) false
    | 'W' => letter (Text.wordChars f.unicode) true
    | 'a' => some (.char '\x07' false, cs)
    | 'f' => some (.char '\x0c' false, cs)
    | 't' => some (.char '\t' false, cs)
    | 'n' => some (.char '\n' false, cs)
    | 'r' => some (.char '\r' false, cs)
    | 'v' => some (.char '\x0b' false, cs)
    | 'A' => some (.look .textStart, cs)
    | 'z' => some (.look .textEnd, cs)
    | 'b' => wordSide f cs
    | 'B' => some (.look (.noBoundary (Text.wordChars f.unicode)), cs)
    | '<' => some (.look (.wordStart (Text.wordChars f.unicode)), cs)
    | '>' => some (.look (.wordEnd (Text.wordChars f.unicode)), cs)
    | c => if isEscapable c then some (.char c false, cs) else none

end ContentQuery.Regex
