import ContentQuery.Json.Basic

/-!
# Shortest decimal text of a number

A float is written with the fewest significant digits that read back as the same float. A value
`m * 2 ^ q` owns the interval of reals that round to it; for one digit, two, and so on up to
seventeen, the two neighbours of the value on the grid with that many digits are tested against the
interval, and the first grid with a hit gives the digits. `Layout` holds what is a matter of format:
where positional writing ends and how an exponent is spelt.
-/

namespace ContentQuery

/-- The decimal `digits * 10 ^ exponent`. -/
structure Decimal where
  digits : Nat
  /-- Power of ten of the last digit. -/
  exponent : Int
  deriving Repr, DecidableEq

namespace Decimal

/-- Moves trailing zeros of the digits into the exponent. The fuel bounds the number of zeros. -/
def trim : Nat → Decimal → Decimal
  | 0, d => d
  | fuel + 1, d =>
    if d.digits != 0 && d.digits % 10 == 0 then trim fuel ⟨d.digits / 10, d.exponent + 1⟩ else d

/-- `10 ^ e ≤ num / den`. -/
def reaches (num den : Nat) (e : Int) : Bool :=
  den * Nat.pow 10 e.toNat ≤ num * Nat.pow 10 (-e).toNat

/-- The power of ten of the first digit of `num / den`. The binary logarithm gives it up to two, and
the test decides. -/
def leadingExponent (num den : Nat) : Int :=
  let guess : Int := ((num.log2 : Int) - den.log2) * 30103 / 100000 - 2
  ([4, 3, 2, 1].find? fun k => reaches num den (guess + k)).elim guess (guess + ·)

/-- The reals that round to a positive float, in quarters of its last bit, and the value itself. -/
structure Interval where
  low : Nat
  value : Nat
  high : Nat
  /-- Both ends belong to the interval; they do when the last bit is even. -/
  closed : Bool
  /-- All three count multiples of `2 ^ unit`. -/
  unit : Int

/-- Below a power of two the neighbour is twice as near as above, so the interval is shorter on
that side. -/
def Interval.of (x : Binary64) : Interval :=
  let m := x.significand
  let lowGap := if m == 1 <<< 52 && x.magnitude ≥ 1 <<< 53 then 1 else 2
  { low := 4 * m - lowGap, value := 4 * m, high := 4 * m + 2, closed := m % 2 == 0,
    unit := x.exponent - 2 }

/-- The candidate `d * 10 ^ e` as a fraction of the interval's unit. -/
def Interval.admits (i : Interval) (d : Nat) (e : Int) : Bool :=
  let num := (d * Nat.pow 10 e.toNat) <<< (-i.unit).toNat
  let den := Nat.pow 10 (-e).toNat <<< i.unit.toNat
  if i.closed then i.low * den ≤ num && num ≤ i.high * den
  else i.low * den < num && num < i.high * den

/-- The better of the two neighbours of the value on the grid of multiples of `10 ^ e`: the nearer
one that the interval admits, and of two equally near ones the even one. -/
def Interval.nearest? (i : Interval) (e : Int) : Option Nat :=
  let num := (i.value * Nat.pow 10 (-e).toNat) <<< i.unit.toNat
  let den := Nat.pow 10 e.toNat <<< (-i.unit).toNat
  let below := num / den
  let rest := num % den
  let downFirst := 2 * rest < den || (2 * rest == den && below % 2 == 0)
  (if downFirst then [below, below + 1] else [below + 1, below]).find? (i.admits · e)

/-- Shortest decimal of a positive float. -/
def shortest (x : Binary64) : Decimal :=
  let i := Interval.of x
  let lead := leadingExponent x.numerator x.denominator
  let hit := (List.range 17).findSome? fun (n : Nat) =>
    (i.nearest? (lead - n)).map fun d => (⟨d, lead - n⟩ : Decimal)
  trim 20 (hit.getD ⟨0, 0⟩)

end Decimal

/-- How a decimal is laid out. -/
structure Layout where
  /-- Leading exponents from here on … -/
  positionalFrom : Int
  /-- … and below this one are written positionally. -/
  positionalBelow : Int
  /-- Written for a value without a fraction in positional form. -/
  wholeSuffix : String
  exponentMark : String
  plusSign : String

namespace Layout

/-- Numbers from `0.00001` up to below `10 ^ 16` are written positionally and always show a
fraction; others as `d.ddde-7` or `d.ddde+16`. -/
def json : Layout := ⟨-5, 16, ".0", "e", "+"⟩

def zeros (n : Nat) : String := String.ofList (List.replicate n '0')

def write (l : Layout) (d : Decimal) : String :=
  let text := toString d.digits
  let n := text.length
  let lead : Int := d.exponent + n - 1
  if l.positionalFrom ≤ lead && lead < l.positionalBelow then
    if d.exponent ≥ 0 then text ++ zeros d.exponent.toNat ++ l.wholeSuffix
    else if lead ≥ 0 then
      let whole := (lead + 1).toNat
      String.ofList (text.toList.take whole) ++ "." ++ String.ofList (text.toList.drop whole)
    else "0." ++ zeros (-lead - 1).toNat ++ text
  else
    let fraction := if n ≤ 1 then "" else "." ++ String.ofList (text.toList.drop 1)
    let sign := if lead < 0 then "-" else l.plusSign
    String.ofList (text.toList.take 1) ++ fraction ++ l.exponentMark ++ sign ++ toString lead.natAbs

end Layout

/-- Text of a float. Zero has no digits to look for. -/
def Binary64.text (x : Binary64) : String :=
  let body := if x.isZero then "0.0" else Layout.json.write (Decimal.shortest x)
  if x.negative then "-" ++ body else body

def Number.text : Number → String
  | .int i => toString i
  | .float x => x.text

end ContentQuery
