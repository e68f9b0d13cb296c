import ContentQuery.Filter.Match
import ContentQuery.Filter.Operator
import ContentQuery.Index.Key
import ContentQuery.Query.Projection

/-!
# The order of index keys

Keys are a total order in which only equal keys compare equal. What a test sees of a value is what
its key tells:

* **Equality** (`ofJson?_eq_of_equals`, `Json.equals_iff`): values that a test takes for equal have the
  same key, and scalars only if they are equal.
* **Bounds** (`exists_key_of_compare?`, `compare?_of_rank_eq`): a value that compares with a bound has a
  key of the bound's kind, and the two keys compare in the same way.
* **Kinds** (`isLE_least`, `allowsTo_last`, `rank_eq_iff_least`, `rank_eq_iff_last`): keys of values of a
  kind lie between its least key and its end, and no others do.
* **Ranges** (`crossed_eq_false`): a range that holds a key is never taken for an empty one.
* **Comparisons** (`Operator.meets_iff`): the values that satisfy a comparison are those with a key in its
  range.
-/

namespace ContentQuery

/-! ## Numbers as words -/

namespace Binary64

theorem valueKey_lt (x : Binary64) : x.valueKey < 0x8000000000000000 := by
  have h := x.finite
  unfold valueKey
  split <;> omega

theorem lt_valueKey (x : Binary64) : -0x8000000000000000 < x.valueKey := by
  have h := x.finite
  unfold valueKey
  split <;> omega

/-- The word of a number is below all words that stand for no number. -/
theorem orderWord_lt (x : Binary64) : x.orderWord < 0x10000000000000000 := by
  have h := x.valueKey_lt
  have h' := x.lt_valueKey
  unfold orderWord
  split <;> omega

/-- Words order numbers by value. -/
theorem orderWord_lt_iff (x y : Binary64) : x.orderWord < y.orderWord ↔ x.valueKey < y.valueKey := by
  have hx := x.lt_valueKey
  have hy := y.lt_valueKey
  unfold orderWord
  split <;> split <;> omega

/-- Numbers of the same value have the same word. -/
theorem orderWord_eq_iff (x y : Binary64) : x.orderWord = y.orderWord ↔ x.valueKey = y.valueKey := by
  have h1 := orderWord_lt_iff x y
  have h2 := orderWord_lt_iff y x
  omega

theorem compare_orderWord (x y : Binary64) :
    compare x.orderWord y.orderWord = compare x.valueKey y.valueKey := by
  rcases Int.lt_trichotomy x.valueKey y.valueKey with h | h | h
  · rw [Int.compare_eq_lt.mpr h, Nat.compare_eq_lt.mpr ((orderWord_lt_iff x y).mpr h)]
  · rw [Int.compare_eq_eq.mpr h, Nat.compare_eq_eq.mpr ((orderWord_eq_iff x y).mpr h)]
  · rw [Int.compare_eq_gt.mpr h, Nat.compare_eq_gt.mpr ((orderWord_lt_iff y x).mpr h)]

end Binary64

/-! ## Keys are a total order -/

namespace IndexKey

@[simp] theorem compare_bool (a b : Bool) : compare (bool a) (bool b) = compare a b := rfl

@[simp] theorem compare_number (a b : Nat) : compare (number a) (number b) = compare a b := rfl

@[simp] theorem compare_string (a b : String) : compare (string a) (string b) = compare a b := rfl

instance : Std.OrientedOrd IndexKey where
  eq_swap {a b} := by
    cases a <;> cases b
    case bool.bool a b => exact Std.OrientedOrd.eq_swap (a := a) (b := b)
    case number.number a b => exact Std.OrientedOrd.eq_swap (a := a) (b := b)
    case string.string a b => exact Std.OrientedOrd.eq_swap (a := a) (b := b)
    all_goals rfl

instance : Std.TransOrd IndexKey where
  isLE_trans {a b c} hab hbc := by
    cases a <;> cases b <;> cases c
    case bool.bool.bool a b c => exact Std.TransOrd.isLE_trans (a := a) (b := b) (c := c) hab hbc
    case number.number.number a b c =>
      exact Std.TransOrd.isLE_trans (a := a) (b := b) (c := c) hab hbc
    case string.string.string a b c =>
      exact Std.TransOrd.isLE_trans (a := a) (b := b) (c := c) hab hbc
    -- Kinds differ somewhere: the ranks decide.
    all_goals first | rfl | exact Bool.noConfusion hab | exact Bool.noConfusion hbc

instance : Std.LawfulEqOrd IndexKey where
  eq_of_compare {a b} h := by
    cases a <;> cases b
    case bool.bool a b => rw [Std.LawfulEqOrd.eq_of_compare (a := a) (b := b) h]
    case number.number a b => rw [Std.LawfulEqOrd.eq_of_compare (a := a) (b := b) h]
    case string.string a b => rw [Std.LawfulEqOrd.eq_of_compare (a := a) (b := b) h]
    all_goals exact Ordering.noConfusion h

/-! ## Kinds -/

/-- The word of a number has 64 bits. -/
def Fits : IndexKey → Prop
  | .number word => word ≤ 0xFFFFFFFFFFFFFFFF
  | .bool _ | .string _ => True

theorem fits_of_ofJson? {v : Json} {key : IndexKey} (h : ofJson? v = some key) : key.Fits := by
  cases v with
  | number n =>
      obtain rfl := Option.some.inj h
      exact Nat.le_of_lt_succ n.toBinary64.orderWord_lt
  | bool b | string s =>
      obtain rfl := Option.some.inj h
      exact trivial
  | null | array items | object members => cases h

/-- The least key of a kind comes before all keys of the kind. -/
theorem isLE_least {a b : IndexKey} (h : b.rank = a.rank) : (compare a.least b).isLE := by
  cases a <;> cases b
  case bool.bool a b => cases b <;> rfl
  case number.number a b => exact Nat.isLE_compare.mpr (Nat.zero_le b)
  case string.string a b =>
    have hnot : ¬ b < "" := List.not_lt_nil b.toList
    exact (isLE_compareOfLessAndEq String.le_antisymm String.not_le String.le_total).mpr
      (String.not_lt.mp hnot)
  all_goals exact absurd h (by simp [rank])

theorem allowsFrom_least {a b : IndexKey} (h : a.rank = b.rank) :
    (Bound.closed b.least).allowsFrom a := by
  simpa [Bound.allowsFrom, Ordering.isLE_iff_ne_gt] using isLE_least h

/-- A key lies before the end of its kind. -/
theorem allowsTo_last {a b : IndexKey} (ha : a.Fits) (h : a.rank = b.rank) : b.last.allowsTo a := by
  cases a <;> cases b
  case bool.bool a b => cases a <;> rfl
  case number.number a b =>
    simpa [last, Bound.allowsTo] using Nat.compare_ne_gt.mpr ha
  case string.string a b => rfl
  all_goals exact absurd h (by simp [rank])

/-- Of the keys up to a key, those from the least of its kind on are of its kind. -/
theorem rank_eq_iff_least {a b : IndexKey} (h : compare a b ≠ .gt) :
    a.rank = b.rank ↔ (Bound.closed b.least).allowsFrom a := by
  refine ⟨allowsFrom_least, fun hlow => ?_⟩
  cases a <;> cases b <;> first | rfl | exact Bool.noConfusion hlow | exact absurd rfl h

/-- Of the keys from a key on, those up to the end of its kind are of its kind. -/
theorem rank_eq_iff_last {a b : IndexKey} (ha : a.Fits) (h : compare a b ≠ .lt) :
    a.rank = b.rank ↔ b.last.allowsTo a := by
  refine ⟨allowsTo_last ha, fun hhigh => ?_⟩
  cases a <;> cases b <;> first | rfl | exact Bool.noConfusion hhigh | exact absurd rfl h

/-! ## Keys and tests -/

/-- **Equality is visible in the key.** Values that a test takes for equal have the same key, or
both have none. -/
theorem ofJson?_eq_of_equals {v w : Json} (h : v.equals w = true) : ofJson? v = ofJson? w := by
  cases v <;> cases w
  case number.number a b =>
    have hkey : a.toBinary64.valueKey = b.toBinary64.valueKey := by
      simpa [Json.equals, Binary64.sameValue] using h
    simp [ofJson?, (Binary64.orderWord_eq_iff _ _).mpr hkey]
  case bool.bool a b =>
    have hab : a = b := by simpa [Json.equals, Json.same] using h
    rw [hab]
  case string.string a b =>
    have hab : a = b := by simpa [Json.equals, Json.same] using h
    rw [hab]
  -- Values of two kinds are never equal; nulls, lists and objects have no key.
  all_goals first | rfl | simp [Json.equals, Json.same] at h

/-- **Bounds are visible in the key.** A value that compares with a bound has a key of the bound's
kind, and the keys compare alike. -/
theorem exists_key_of_compare? {v bound : Json} {key : IndexKey} (hkey : ofJson? bound = some key)
    {o : Ordering} (h : v.compare? bound = some o) :
    ∃ a, ofJson? v = some a ∧ a.rank = key.rank ∧ compare a key = o := by
  cases v <;> cases bound <;> simp only [ofJson?, Option.some.injEq, reduceCtorEq] at hkey <;>
    subst hkey
  case number.number x y =>
    refine ⟨_, rfl, rfl, ?_⟩
    rw [compare_number, Binary64.compare_orderWord]
    simpa [Json.compare?] using h
  case bool.bool x y => exact ⟨_, rfl, rfl, by simpa [Json.compare?] using h⟩
  case string.string x y => exact ⟨_, rfl, rfl, by simpa [Json.compare?] using h⟩
  all_goals simp [Json.compare?] at h

/-- Values with keys of one kind compare as their keys do. -/
theorem compare?_of_rank_eq {v bound : Json} {a key : IndexKey} (ha : ofJson? v = some a)
    (hkey : ofJson? bound = some key) (h : a.rank = key.rank) :
    v.compare? bound = some (compare a key) := by
  cases v <;> cases bound <;> simp only [ofJson?, Option.some.injEq, reduceCtorEq] at ha hkey <;>
    subst ha hkey
  case number.number x y => rw [compare_number, Binary64.compare_orderWord, Json.compare?]
  case bool.bool x y => rfl
  case string.string x y => rfl
  all_goals exact absurd h (by simp [rank])

end IndexKey

namespace Json

open IndexKey (ofJson?)

theorem isScalar_iff {v : Json} : v.isScalar ↔ (ofJson? v).isSome := by
  cases v <;> simp [isScalar, ofJson?]

/-- **Equality of scalars** is that of their keys. -/
theorem equals_iff {a b : Json} (hb : b.isScalar) : a.equals b ↔ ofJson? a = ofJson? b := by
  constructor
  · exact IndexKey.ofJson?_eq_of_equals
  · intro h
    cases b <;> cases a <;> simp_all [isScalar, ofJson?, equals, same, Binary64.sameValue,
      Binary64.orderWord_eq_iff]

end Json

/-! ## Ranges -/

namespace Bound

theorem allowsTo_closed (high key : IndexKey) :
    (closed high).allowsTo key = (compare key high).isLE := by
  rw [allowsTo]
  cases compare key high <;> rfl

theorem allowsTo_opened (high key : IndexKey) :
    (opened high).allowsTo key = (compare key high).isLT := by
  rw [allowsTo]
  cases compare key high <;> rfl

theorem allowsFrom_closed (low key : IndexKey) :
    (closed low).allowsFrom key = (compare key low).isGE := by
  rw [allowsFrom, Std.OrientedOrd.eq_swap (a := low) (b := key)]
  cases compare key low <;> rfl

theorem allowsFrom_opened (low key : IndexKey) :
    (opened low).allowsFrom key = (compare key low).isGT := by
  rw [allowsFrom, Std.OrientedOrd.eq_swap (a := low) (b := key)]
  cases compare key low <;> rfl

/-- Ends that both allow some key leave room for it. -/
theorem crossed_eq_false {low high : Bound} {key : IndexKey} (hlow : low.allowsFrom key)
    (hhigh : high.allowsTo key) : crossed low high = false := by
  cases low <;> cases high <;>
    simp only [allowsFrom, allowsTo, bne_iff_ne, beq_iff_eq, Ordering.ne_gt_iff_isLE] at hlow hhigh
  case closed.closed low high =>
    have hle : (compare low high).isLE := Std.TransOrd.isLE_trans hlow hhigh
    cases h : compare low high <;> simp_all [crossed]
  case closed.opened low high =>
    have hlt : compare low high = .lt := Std.TransCmp.lt_of_isLE_of_lt hlow hhigh
    simp [crossed, hlt]
  case opened.closed low high =>
    have hlt : compare low high = .lt := Std.TransCmp.lt_of_lt_of_isLE hlow hhigh
    simp [crossed, hlt]
  case opened.opened low high =>
    have hlt : compare low high = .lt := Std.TransCmp.lt_trans hlow hhigh
    simp [crossed, hlt]
  all_goals rfl

end Bound

/-! ## Comparisons -/

namespace Operator

/-- Operators that compare a value with a bound. -/
def comparisons : List Operator := [.lt, .lte, .gt, .gte]

theorem mem_comparisons {op : Operator} :
    op ∈ comparisons ↔ op = .lt ∨ op = .lte ∨ op = .gt ∨ op = .gte := by
  simp [comparisons]

/-- The orders in which a value may stand to the bound. -/
def allows : Operator → Ordering → Bool
  | .lt => Ordering.isLT
  | .lte => Ordering.isLE
  | .gt => Ordering.isGT
  | .gte => Ordering.isGE
  | _ => fun _ => false

/-- Does a value satisfy the comparison with a bound? -/
def meets (bound : Json) (op : Operator) (v : Json) : Bool := (v.compare? bound).any op.allows

variable {op : Operator} {v bound : Json} {a key : IndexKey}

/-- A list satisfies no comparison. -/
theorem array?_of_meets (h : op.meets bound v) : v.array? = none := by
  cases v with
  | array items =>
      have hnone : (Json.array items).compare? bound = none := rfl
      simp [meets, hnone] at h
  | _ => rfl

/-- The lower end of the keys that compare with a key as an operator asks. -/
def low (key : IndexKey) : Operator → Bound
  | .gt => .opened key
  | .gte => .closed key
  | _ => .closed key.least

/-- The upper end. -/
def high (key : IndexKey) : Operator → Bound
  | .lt => .opened key
  | .lte => .closed key
  | _ => key.last

/-- The keys of a kind that compare with a key as an operator asks are those in its range. -/
theorem allows_iff (hop : op ∈ comparisons) (ha : IndexKey.ofJson? v = some a) :
    a.rank = key.rank ∧ op.allows (compare a key) ↔
      (op.low key).allowsFrom a ∧ (op.high key).allowsTo a := by
  have hleast := @IndexKey.rank_eq_iff_least a key
  have hlast := @IndexKey.rank_eq_iff_last a key (IndexKey.fits_of_ofJson? ha)
  -- The end at the key itself says how the keys compare, the other end says that they are of one kind.
  rcases mem_comparisons.mp hop with rfl | rfl | rfl | rfl
  · show _ ↔ _ ∧ (Bound.opened key).allowsTo a
    rw [Bound.allowsTo_opened]
    exact and_congr_left fun hlt => hleast fun hgt => by simp [allows, hgt] at hlt
  · show _ ↔ _ ∧ (Bound.closed key).allowsTo a
    rw [Bound.allowsTo_closed]
    exact and_congr_left fun hle => hleast fun hgt => by simp [allows, hgt] at hle
  · show _ ↔ (Bound.opened key).allowsFrom a ∧ _
    rw [Bound.allowsFrom_opened, and_comm]
    exact and_congr_right fun hgt => hlast fun hlt => by simp [allows, hlt] at hgt
  · show _ ↔ (Bound.closed key).allowsFrom a ∧ _
    rw [Bound.allowsFrom_closed, and_comm]
    exact and_congr_right fun hge => hlast fun hlt => by simp [allows, hlt] at hge

/-- **A comparison is a range** of keys: a value satisfies it when its key lies in the range. -/
theorem meets_iff (hop : op ∈ comparisons) (hkey : IndexKey.ofJson? bound = some key) :
    op.meets bound v ↔ ∃ a, IndexKey.ofJson? v = some a ∧
      (op.low key).allowsFrom a ∧ (op.high key).allowsTo a := by
  constructor
  · intro h
    obtain ⟨o, ho, hallows⟩ := (Option.any_eq_true _ _).mp h
    obtain ⟨a, ha, hrank, rfl⟩ := IndexKey.exists_key_of_compare? hkey ho
    exact ⟨a, ha, (allows_iff hop ha).mp ⟨hrank, hallows⟩⟩
  · rintro ⟨a, ha, hrange⟩
    obtain ⟨hrank, hallows⟩ := (allows_iff hop ha).mpr hrange
    rw [meets, IndexKey.compare?_of_rank_eq ha hkey hrank]
    exact hallows

end Operator

/-- The tests of comparisons are passed by the values that satisfy them. -/
theorem Test.passesOn_eq_meets (bound v : Json) :
    (Test.lt bound).passesOn v = Operator.lt.meets bound v ∧
      (Test.lte bound).passesOn v = Operator.lte.meets bound v ∧
      (Test.gt bound).passesOn v = Operator.gt.meets bound v ∧
      (Test.gte bound).passesOn v = Operator.gte.meets bound v := by
  simp only [passesOn, Operator.meets]
  rcases v.compare? bound with _ | (_ | _ | _) <;> decide

end ContentQuery
