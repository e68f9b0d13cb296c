/-!
# Finite binary64 numbers

A finite binary64 number is a sign and the 63 bits below it, its *magnitude*. Read as a natural
number the magnitude grows with the absolute value, so the two orders on such numbers (by value, and
the total order that tells `-0.0` from `0.0`) are orders of integers, and arithmetic is exact
arithmetic on naturals followed by one rounding.
-/

namespace ContentQuery

/-- A finite binary64 number. Magnitudes from `2047 <<< 52` on stand for infinity and for no
number at all, so they are left out. -/
structure Binary64 where
  negative : Bool
  magnitude : Nat
  finite : magnitude < 2047 <<< 52
  deriving DecidableEq

namespace Binary64

/-- The number with the given sign and magnitude, if that is finite. -/
def ofMagnitude? (negative : Bool) (magnitude : Nat) : Option Binary64 :=
  if h : magnitude < 2047 <<< 52 then some ⟨negative, magnitude, h⟩ else none

/-- The largest number of a sign. -/
def largest (negative : Bool) : Binary64 := ⟨negative, (2047 <<< 52) - 1, by omega⟩

/-- The zero of a sign. -/
def zero (negative : Bool) : Binary64 := ⟨negative, 0, by omega⟩

instance : Inhabited Binary64 := ⟨zero false⟩

def isZero (x : Binary64) : Bool := x.magnitude == 0

def withSign (x : Binary64) (negative : Bool) : Binary64 := { x with negative }

/-! ## The two orders -/

/-- Orders numbers by value: the two zeros share a key. -/
def valueKey (x : Binary64) : Int := if x.negative then -(x.magnitude : Int) else x.magnitude

/-- Orders numbers by value, and `-0.0` before `0.0`. -/
def totalKey (x : Binary64) : Int := if x.negative then -(x.magnitude : Int) - 1 else x.magnitude

/-- Same value; the two zeros are the same value. -/
def sameValue (x y : Binary64) : Bool := x.valueKey == y.valueKey

/-- The 64-bit word that orders numbers by value as an unsigned integer. -/
def orderWord (x : Binary64) : Nat :=
  (0x8000000000000000 + x.valueKey - if x.valueKey < 0 then 1 else 0).toNat

/-! ## Value as a fraction -/

/-- The integer `m` of the value `m * 2 ^ q`. -/
def significand (x : Binary64) : Nat :=
  if x.magnitude < 1 <<< 52 then x.magnitude else (1 <<< 52) + x.magnitude % (1 <<< 52)

/-- The exponent `q` of the value `m * 2 ^ q`. -/
def exponent (x : Binary64) : Int :=
  if x.magnitude < 1 <<< 52 then -1074 else (x.magnitude >>> 52 : Nat) - 1075

/-- Numerator of the absolute value, over `denominator`. -/
def numerator (x : Binary64) : Nat := x.significand <<< x.exponent.toNat

def denominator (x : Binary64) : Nat := 1 <<< (-x.exponent).toNat

/-! ## Rounding -/

/-- The quotient to the nearest integer, a half to the even neighbour. -/
def roundDiv (num den : Nat) : Nat :=
  let q := num / den
  let r := num % den
  if 2 * r > den || (2 * r == den && q % 2 == 1) then q + 1 else q

/-- The exponent of the last kept bit when `num / den` is written with 53 bits, but never below that
of the smallest number. -/
def unitExponent (num den : Nat) : Int :=
  let l : Int := (num.log2 : Int) - den.log2
  let atLeast := num <<< (-l).toNat ≥ den <<< l.toNat
  max ((if atLeast then l else l - 1) - 52) (-1074)

/-- Magnitude of the number nearest to `num / den`, a half to the even neighbour. It may be one that
stands for infinity. A carry out of the 53 bits runs into the exponent, as it should. -/
def roundMagnitude (num den : Nat) : Nat :=
  if num == 0 then 0
  else
    let e := unitExponent num den
    ((e + 1074).toNat <<< 52) + roundDiv (num <<< (-e).toNat) (den <<< e.toNat)

/-- The number nearest to `num / den`; none past the largest number. -/
def ofFraction? (negative : Bool) (num den : Nat) : Option Binary64 :=
  ofMagnitude? negative (roundMagnitude num den)

/-- The number nearest to an integer. Integers too large for binary64 give the largest number of
their sign. -/
def ofInt (i : Int) : Binary64 :=
  let negative := decide (i < 0)
  (ofFraction? negative i.natAbs 1).getD (largest negative)

/-- The rounded product; none past the largest number. -/
def mul? (x y : Binary64) : Option Binary64 :=
  ofFraction? (x.negative != y.negative) (x.numerator * y.numerator) (x.denominator * y.denominator)

/-- The rounded quotient; none past the largest number or by zero. -/
def div? (x y : Binary64) : Option Binary64 :=
  if y.isZero then none
  else ofFraction? (x.negative != y.negative) (x.numerator * y.denominator)
    (x.denominator * y.numerator)

/-- The number nearest to a power of ten. -/
def powerOfTen (n : Nat) : Binary64 := (ofFraction? false (Nat.pow 10 n) 1).getD (largest false)

end Binary64

end ContentQuery
