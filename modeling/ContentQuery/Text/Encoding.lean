import ContentQuery.Text.CharSet

/-!
# Encodings of sets of characters

A character is encoded by one to four bytes. A range of characters is cut into parts whose encodings
are told by one range of bytes for each place, `CharRange.encodings`: the encodings of such a part are
all the ways of taking a byte of the first range, then one of the second, and so on.
-/

namespace ContentQuery

/-- Bytes from `low` to `high`, both included. -/
structure ByteRange where
  low : UInt8
  high : UInt8
  deriving Repr, DecidableEq

namespace CharRange

/-- The last code points with encodings of one, two and three bytes. -/
def lengthEnds : List Nat := [0x7F, 0x7FF, 0xFFFF]

/-- Code points that share their bytes but for the last one, two and three: each byte after the first
tells sixty-four code points apart. -/
def blockSizes : List Nat := [64, 64 * 64, 64 * 64 * 64]

/-- The ends of the part of a range that starts or ends inside a block which the range leaves. -/
def blockCuts (r : CharRange) (size : Nat) : List Nat :=
  let first := r.low / size
  let last := r.high / size
  if first == last then []
  else if r.low % size != 0 then [first * size + size - 1]
  else if r.high % size != size - 1 then [last * size - 1]
  else []

/-- Where a range has to be cut first: the last code point of the first part. -/
def cut? (r : CharRange) : Option Nat :=
  (lengthEnds ++ if r.high ≤ 0x7F then [] else blockSizes.flatMap r.blockCuts).find? fun n =>
    r.low ≤ n && n < r.high

theorem cut?_bounds {r : CharRange} {n : Nat} (h : r.cut? = some n) : r.low ≤ n ∧ n < r.high := by
  have := List.find?_some h
  simpa using this

/-- The bytes of a code point. -/
def bytes (point : Nat) : List UInt8 := String.utf8EncodeChar (Char.ofNat point)

/-- The encodings of a range, part by part. -/
def encodings (r : CharRange) : List (List ByteRange) :=
  match _ : r.cut? with
  | none => [List.zipWith ByteRange.mk (bytes r.low) (bytes r.high)]
  | some n => encodings ⟨r.low, n⟩ ++ encodings ⟨n + 1, r.high⟩
termination_by r.high - r.low
decreasing_by all_goals (have bounds := cut?_bounds ‹_›; omega)

end CharRange

namespace CharSet

/-- The code points of a set that are characters, as the surrogates are not. -/
def withoutSurrogates (s : CharSet) : CharSet :=
  s.flatMap fun r =>
    [⟨r.low, Nat.min r.high 0xD7FF⟩, ⟨Nat.max r.low 0xE000, r.high⟩].filter fun part =>
      part.low ≤ part.high

def isSurrogate (n : Nat) : Bool := 0xD800 ≤ n && n ≤ 0xDFFF

/-- The same characters, in ranges that neither begin nor end with a surrogate. -/
def betweenCharacters (s : CharSet) : CharSet :=
  let trimmed : List CharRange := s.map fun r =>
    ⟨if isSurrogate r.low then 0xE000 else r.low, if isSurrogate r.high then 0xD7FF else r.high⟩
  trimmed.filter fun r => r.low ≤ r.high

/-- The encodings of the characters of a set, in their order. -/
def encodings (s : CharSet) : List (List ByteRange) :=
  s.withoutSurrogates.flatMap CharRange.encodings

end CharSet

end ContentQuery
