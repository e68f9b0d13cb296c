import ContentQuery.Json.Basic

/-!
# Tokens of JSON text

A text is cut into tokens first. Numbers get their value here: digits are gathered while they fit 64
bits, the rest only move the decimal point, and a float is then made with one rounding for the
digits and one for the power of ten.

A number past the largest float and a string with half of a surrogate pair have the form of a token
but no value. They are tokens too, as a reader may pass over them.
-/

namespace ContentQuery.Json

inductive Token where
  | openBracket
  | closeBracket
  | openBrace
  | closeBrace
  | comma
  | colon
  | null
  | bool (value : Bool)
  | number (value : Number)
  | string (value : String)
  /-- A number without a value. -/
  | hugeNumber
  /-- A string without a value. -/
  | brokenString

namespace Token

/-! ## Numbers -/

def maxWord : Nat := 0xFFFFFFFFFFFFFFFF

def digitValue (c : Char) : Nat := c.toNat - '0'.toNat

/-- Digits gathered so far and the power of ten still to apply. -/
structure Digits where
  significand : Nat
  exponent : Int

/-- Digits before the point. From the first one that would not fit on, each counts as a power of
ten. -/
def Digits.whole : List Char → Digits → Digits
  | [], d => d
  | c :: cs, d =>
    if d.exponent > 0 || d.significand * 10 + digitValue c > maxWord then
      whole cs { d with exponent := d.exponent + 1 }
    else whole cs { d with significand := d.significand * 10 + digitValue c }

/-- Digits after the point. From the first one that does not fit on, they are left out. -/
def Digits.fraction : List Char → Digits → Digits
  | [], d => d
  | c :: cs, d =>
    if d.significand * 10 + digitValue c > maxWord then d
    else fraction cs ⟨d.significand * 10 + digitValue c, d.exponent - 1⟩

/-- The largest power of ten that is a float. -/
def maxPower : Nat := 308

/-- `x / 10 ^ n`, with one rounding for a power of ten that is a float and in steps for a higher
one. The first argument bounds the number of steps. -/
def scaleDown : Nat → Binary64 → Nat → Option Binary64
  | 0, x, n => x.div? (.powerOfTen n)
  | steps + 1, x, n =>
    if n ≤ maxPower then x.div? (.powerOfTen n)
    else if x.isZero then some x
    else match x.div? (.powerOfTen maxPower) with
      | none => none
      | some y => scaleDown steps y (n - maxPower)

/-- `x * 10 ^ e`; none past the largest float. -/
def scale (x : Binary64) (e : Int) : Option Binary64 :=
  if e < 0 then scaleDown ((-e).toNat / maxPower) x (-e).toNat
  else if x.isZero then some x
  else if e > maxPower then none
  else x.mul? (.powerOfTen e.toNat)

/-- The float with the given digits and written exponent. An exponent that does not fit 32 bits
leaves zero, or nothing when it is positive and the digits are not zero. -/
def float? (negative : Bool) (d : Digits) (exponentNegative : Bool) (exponent : Nat) :
    Option Binary64 :=
  if exponent > 0x7FFFFFFF then
    if d.significand != 0 && !exponentNegative then none else some (.zero negative)
  else
    let e : Int := if exponentNegative then -(exponent : Int) else exponent
    (scale (.ofInt d.significand) (d.exponent + e)).map (·.withSign negative)

/-- An integer that fits 64 bits stays one; `-0` and longer ones are floats. -/
def integer? (negative : Bool) (digits : List Char) : Option Number :=
  let value := digits.foldl (fun n c => n * 10 + digitValue c) 0
  if !negative && value ≤ maxWord then some (.int value)
  else if negative && 0 < value && value ≤ 0x8000000000000000 then some (.int (-value))
  else (float? negative (Digits.whole digits ⟨0, 0⟩) false 0).map .float

def isExponentMark (c : Char) : Bool := c == 'e' || c == 'E'

/-- Sign and digits of a written exponent, and what follows. -/
def exponentPart? (cs : List Char) : Option (Bool × Nat × List Char) :=
  let (negative, rest) := match cs with
    | '-' :: r => (true, r)
    | '+' :: r => (false, r)
    | r => (false, r)
  let digits := rest.takeWhile Char.isDigit
  if digits.isEmpty then none
  else some (negative, digits.foldl (fun n c => n * 10 + digitValue c) 0,
    rest.dropWhile Char.isDigit)

/-- Reads the exponent, if one is written, and makes the float. -/
def finishFloat? (negative : Bool) (d : Digits) : List Char → Option (Number × List Char)
  | c :: cs =>
    if isExponentMark c then do
      let (down, e, rest) ← exponentPart? cs
      let x ← float? negative d down e
      return (.float x, rest)
    else (float? negative d false 0).map fun x => (.float x, c :: cs)
  | [] => (float? negative d false 0).map fun x => (.float x, [])

/-- Reads a number whose sign is already read. -/
def unsigned? (negative : Bool) (cs : List Char) : Option (Number × List Char) :=
  let digits := cs.takeWhile Char.isDigit
  let rest := cs.dropWhile Char.isDigit
  if digits.isEmpty || (digits.head? == some '0' && digits.length > 1) then none
  else match rest with
    | '.' :: r =>
      let fraction := r.takeWhile Char.isDigit
      if fraction.isEmpty then none
      else finishFloat? negative (Digits.fraction fraction (Digits.whole digits ⟨0, 0⟩))
        (r.dropWhile Char.isDigit)
    | c :: r =>
      if isExponentMark c then finishFloat? negative (Digits.whole digits ⟨0, 0⟩) (c :: r)
      else (integer? negative digits).map fun n => (n, c :: r)
    | [] => (integer? negative digits).map fun n => (n, [])

def number? : List Char → Option (Number × List Char)
  | '-' :: rest => unsigned? true rest
  | cs => unsigned? false cs

/-- What follows some digits, of which there has to be one. -/
def dropDigits? (cs : List Char) : Option (List Char) :=
  if (cs.head?.map Char.isDigit).getD false then some (cs.dropWhile Char.isDigit) else none

/-- What follows an exponent, if one is written. -/
def dropExponent? : List Char → Option (List Char)
  | c :: cs =>
    if isExponentMark c then
      match cs with
      | '-' :: r => dropDigits? r
      | '+' :: r => dropDigits? r
      | r => dropDigits? r
    else some (c :: cs)
  | [] => some []

/-- What follows a number, whatever its value. -/
def dropNumber? (cs : List Char) : Option (List Char) :=
  let unsigned := match cs with
    | '-' :: r => r
    | r => r
  let whole := match unsigned with
    | '0' :: r => if (r.head?.map Char.isDigit).getD false then none else some r
    | r => dropDigits? r
  whole.bind fun
    | '.' :: r => (dropDigits? r).bind dropExponent?
    | r => dropExponent? r

/-! ## Strings -/

def hexValue? (c : Char) : Option Nat :=
  if c.isDigit then some (c.toNat - '0'.toNat)
  else if 'a' ≤ c && c ≤ 'f' then some (c.toNat - 'a'.toNat + 10)
  else if 'A' ≤ c && c ≤ 'F' then some (c.toNat - 'A'.toNat + 10)
  else none

def hexValues? (cs : List Char) : Option Nat :=
  cs.foldl (fun acc c => do return (← acc) * 16 + (← hexValue? c)) (some 0)

def isHighSurrogate (n : Nat) : Bool := 0xD800 ≤ n && n < 0xDC00

def isLowSurrogate (n : Nat) : Bool := 0xDC00 ≤ n && n < 0xE000

/-- The character of a one-letter escape. -/
def escaped? (c : Char) : Option Char :=
  if c = '"' || c = '\\' || c = '/' then some c
  else if c = 'b' then some (Char.ofNat 8)
  else if c = 'f' then some (Char.ofNat 12)
  else if c = 'n' then some '\n'
  else if c = 'r' then some '\r'
  else if c = 't' then some '\t'
  else none

/-- The rest of a string after its opening quote; the characters read so far come in reverse.
Surrogates must come in pairs, and control characters must be escaped. -/
def stringRest? : List Char → List Char → Option (String × List Char)
  | acc, '"' :: rest => some (String.ofList acc.reverse, rest)
  | acc, '\\' :: 'u' :: a :: b :: c :: d :: rest =>
    match hexValues? [a, b, c, d] with
    | none => none
    | some n =>
      if isLowSurrogate n then none
      else if isHighSurrogate n then
        match rest with
        | '\\' :: 'u' :: e :: f :: g :: h :: rest' =>
          match hexValues? [e, f, g, h] with
          | none => none
          | some m =>
            if isLowSurrogate m then
              stringRest? (Char.ofNat (0x10000 + (n - 0xD800) * 0x400 + (m - 0xDC00)) :: acc) rest'
            else none
        | _ => none
      else stringRest? (Char.ofNat n :: acc) rest
  | acc, '\\' :: c :: rest =>
    match escaped? c with
    | none => none
    | some x => stringRest? (x :: acc) rest
  | acc, c :: rest => if c.toNat < 32 || c = '\\' then none else stringRest? (c :: acc) rest
  | _, [] => none

/-- What follows a string after its opening quote, whatever its characters. -/
def dropString? : List Char → Option (List Char)
  | '"' :: rest => some rest
  | '\\' :: 'u' :: a :: b :: c :: d :: rest =>
    if (hexValues? [a, b, c, d]).isSome then dropString? rest else none
  | '\\' :: c :: rest => if (escaped? c).isSome then dropString? rest else none
  | c :: rest => if c.toNat < 32 || c = '\\' then none else dropString? rest
  | [] => none

/-! ## Texts -/

def isBlank (c : Char) : Bool := c == ' ' || c == '\n' || c == '\t' || c == '\r'

/-- First token of a text that starts with no blank. -/
def next? : List Char → Option (Token × List Char)
  | '[' :: r => some (.openBracket, r)
  | ']' :: r => some (.closeBracket, r)
  | '\x7b' :: r => some (.openBrace, r)
  | '\x7d' :: r => some (.closeBrace, r)
  | ',' :: r => some (.comma, r)
  | ':' :: r => some (.colon, r)
  | '"' :: r =>
    match stringRest? [] r with
    | some (s, rest) => some (.string s, rest)
    | none => (dropString? r).map fun rest => (.brokenString, rest)
  | 'n' :: 'u' :: 'l' :: 'l' :: r => some (.null, r)
  | 't' :: 'r' :: 'u' :: 'e' :: r => some (.bool true, r)
  | 'f' :: 'a' :: 'l' :: 's' :: 'e' :: r => some (.bool false, r)
  | cs =>
    match number? cs with
    | some (n, rest) => some (.number n, rest)
    | none => (dropNumber? cs).map fun rest => (.hugeNumber, rest)

/-- Tokens of a text, gathered in reverse. The fuel bounds the number of steps; every step takes a
character. -/
def scan : Nat → List Char → List Token → Option (List Token)
  | _, [], acc => some acc.reverse
  | 0, _ :: _, _ => none
  | fuel + 1, c :: cs, acc =>
    if isBlank c then scan fuel cs acc
    else match next? (c :: cs) with
      | none => none
      | some (t, rest) => scan fuel rest (t :: acc)

/-- Tokens of a text; none when some part of it is no token. -/
def ofString? (text : String) : Option (List Token) :=
  let cs := text.toList
  scan cs.length cs []

end Token

end ContentQuery.Json
