import ContentQuery.Json.Order
import Mathlib.Data.Ordering.Lemmas

/-!
# The order of all values is a total preorder

Values are ordered by their kinds, numbers by the total order of their bit patterns
(**`Binary64.toInt_totalWord_bits`**), and lists item by item. However kinds and nested lists mix, any
two values can be compared, and what the comparisons say fits together
(**`Json.order_swap`**, **`Json.order_composes`**).

That three comparisons fit together (`Composes`) says more than that one may be left out: it can be
shown of the three at hand alone, so that it goes through lists by one induction.
-/

namespace ContentQuery

/-! ## Numbers -/

namespace Binary64

/-- The bit pattern of a number: its sign, and the magnitude below it. -/
def bits (x : Binary64) : BitVec 64 := BitVec.cons x.negative (BitVec.ofNat 63 x.magnitude)

/-- The word by which a bit pattern is placed in the total order, as a signed integer: where the sign
is set, the bits below it are flipped. -/
def totalWord (w : BitVec 64) : BitVec 64 := w ^^^ (w.sshiftRight 63 >>> 1)

theorem totalWord_cons_false (w : BitVec 63) :
    totalWord (BitVec.cons false w) = BitVec.cons false w := by
  have hshift : (BitVec.cons false w).sshiftRight 63 >>> 1 = 0#64 := by
    rw [BitVec.sshiftRight_eq_of_msb_false (by simp)]
    apply BitVec.eq_of_toNat_eq
    have hlt := w.isLt
    simp [Nat.shiftRight_eq_div_pow]
    omega
  rw [totalWord, hshift, BitVec.xor_zero]

theorem totalWord_cons_true (w : BitVec 63) :
    totalWord (BitVec.cons true w) = BitVec.cons true (~~~w) := by
  have hshift : (BitVec.cons true w).sshiftRight 63 = BitVec.allOnes 64 := by
    rw [BitVec.sshiftRight_eq_of_msb_true (by simp)]
    apply BitVec.eq_of_toNat_eq
    have hlt := w.isLt
    simp [Nat.shiftRight_eq_div_pow]
    omega
  have hmask : BitVec.allOnes 64 >>> 1 = BitVec.cons false (BitVec.allOnes 63) := by decide
  rw [totalWord, hshift, hmask, BitVec.cons_xor_cons, BitVec.xor_allOnes]
  rfl

/-- **The total order of numbers** is that of their bit patterns. -/
theorem toInt_totalWord_bits (x : Binary64) : (totalWord x.bits).toInt = x.totalKey := by
  have hfinite : x.magnitude < 2 ^ 63 := Nat.lt_trans x.finite (by decide)
  cases hsign : x.negative with
  | false =>
      rw [bits, hsign, totalWord_cons_false, totalKey, hsign, BitVec.toInt_eq_toNat_cond,
        BitVec.toNat_cons']
      simp
      omega
  | true =>
      rw [bits, hsign, totalWord_cons_true, totalKey, hsign, BitVec.toInt_eq_toNat_cond,
        BitVec.toNat_cons']
      simp
      omega

end Binary64

/-! ## Comparisons that fit together -/

/-- What the comparisons of a first with a second, the second with a third and the first with the
third say fits together: equals can stand in for each other, and two steps the same way lead that
way. -/
structure Composes (ab bc ac : Ordering) : Prop where
  of_eq_left : ab = .eq → ac = bc
  of_eq_right : bc = .eq → ac = ab
  of_same : ab = bc → ac = ab

namespace Composes

variable {ab bc ac ab' bc' ac' : Ordering}

/-- Comparing by one thing and then by another. -/
theorem lex (h : Composes ab bc ac) (h' : Composes ab' bc' ac') :
    Composes (ab.then ab') (bc.then bc') (ac.then ac') := by
  obtain ⟨hleft, hright, hsame⟩ := h
  obtain ⟨hleft', hright', hsame'⟩ := h'
  constructor
  · cases ab <;> simp_all
  · cases bc <;> simp_all
  · cases ab <;> cases bc <;> cases bc' <;> simp_all

theorem isLE (h : Composes ab bc ac) (hab : ab.isLE) (hbc : bc.isLE) : ac.isLE := by
  obtain ⟨hleft, hright, hsame⟩ := h
  cases ab <;> cases bc <;> simp_all

theorem of_transCmp {α : Type} (cmp : α → α → Ordering) [Std.TransCmp cmp] (a b c : α) :
    Composes (cmp a b) (cmp b c) (cmp a c) where
  of_eq_left := Std.TransCmp.congr_left
  of_eq_right h := (Std.TransCmp.congr_right h).symm
  of_same h := by
    cases hab : cmp a b with
    | lt => exact Std.TransCmp.lt_trans hab (h ▸ hab)
    | eq => exact Std.TransCmp.eq_trans hab (h ▸ hab)
    | gt => exact Std.TransCmp.gt_trans hab (h ▸ hab)

end Composes

/-! ## Values -/

namespace Json

/-- Values of different kinds compare as their kinds do. -/
theorem order_of_rank_ne {a b : Json} (h : a.rank ≠ b.rank) :
    order a b = compare a.rank b.rank := by
  cases a <;> cases b <;> first | rfl | exact absurd rfl h

mutual

/-- **Any two values can be compared**, and the other way round the answer is the opposite. -/
theorem order_swap (a b : Json) : order a b = (order b a).swap := by
  cases a <;> cases b
  case bool.bool a b => exact Std.OrientedOrd.eq_swap
  case number.number a b => exact Std.OrientedOrd.eq_swap
  case string.string a b => exact Std.OrientedOrd.eq_swap
  case array.array as bs => exact orderItems_swap as bs
  all_goals rfl

theorem orderItems_swap (as bs : List Json) : orderItems as bs = (orderItems bs as).swap := by
  cases as with
  | nil => cases bs <;> rfl
  | cons a as =>
      cases bs with
      | nil => rfl
      | cons b bs =>
          rw [orderItems, orderItems, Ordering.swap_then, ← order_swap a b, ← orderItems_swap as bs]

end

/-- Where not all three values are of one kind, their kinds decide. -/
theorem composes_of_rank_ne {a b c : Json} (h : a.rank = b.rank → b.rank ≠ c.rank) :
    Composes (order a b) (order b c) (order a c) := by
  have hranks := Composes.of_transCmp compare a.rank b.rank c.rank
  have hab := @order_of_rank_ne a b
  have hbc := @order_of_rank_ne b c
  have hac := @order_of_rank_ne a c
  have heq := @Nat.compare_eq_eq
  constructor <;> grind [Composes]

mutual

/-- **Comparisons of values fit together.** -/
theorem order_composes (a b c : Json) : Composes (order a b) (order b c) (order a c) := by
  by_cases hkind : a.rank = b.rank ∧ b.rank = c.rank
  · obtain ⟨hab, hbc⟩ := hkind
    -- The second and the third value are of the kind of the first.
    cases a with
    | bool x =>
        cases b <;> cases hab
        cases c <;> cases hbc
        exact .of_transCmp compare _ _ _
    | number x =>
        cases b <;> cases hab
        cases c <;> cases hbc
        exact .of_transCmp compare _ _ _
    | string x =>
        cases b <;> cases hab
        cases c <;> cases hbc
        exact .of_transCmp compare _ _ _
    | array items =>
        cases b <;> cases hab
        cases c <;> cases hbc
        exact orderItems_composes _ _ _
    | null | object _ =>
        cases b <;> cases hab
        cases c <;> cases hbc
        exact ⟨fun _ => rfl, fun _ => rfl, fun _ => rfl⟩
  · exact composes_of_rank_ne fun hab hbc => hkind ⟨hab, hbc⟩

theorem orderItems_composes (as bs cs : List Json) :
    Composes (orderItems as bs) (orderItems bs cs) (orderItems as cs) := by
  cases as with
  | nil => cases bs <;> cases cs <;> constructor <;> grind [orderItems]
  | cons a as =>
      cases bs with
      | nil => cases cs <;> constructor <;> grind [orderItems]
      | cons b bs =>
          cases cs with
          | nil => constructor <;> grind [orderItems]
          | cons c cs => exact (order_composes a b c).lex (orderItems_composes as bs cs)

end

instance : Std.TransCmp order where
  eq_swap := order_swap _ _
  isLE_trans := (order_composes _ _ _).isLE

end Json

end ContentQuery
