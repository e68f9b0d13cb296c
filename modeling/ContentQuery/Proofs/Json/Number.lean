import ContentQuery.Proofs.Json.Order
import Mathlib.Algebra.Order.Field.Power
import Mathlib.Algebra.Order.Field.Rat
import Mathlib.Tactic.Ring

/-!
# Numbers by value

A finite number stands for the fraction `± m * 2 ^ q`. Numbers are compared by their magnitudes instead,
and ordered in an index by one word each. Both say the same as comparing fractions:

* **`Binary64.compare_value`**: signed magnitudes compare as values do. In units of the smallest number
  a value is an integer, and greater magnitudes are more units (`Binary64.unitsOf_strictMono`).
* **`Binary64.toNat_keyWord`**: the word of a number is its bit pattern with some bits flipped.
-/

namespace ContentQuery

namespace Binary64

/-! ## Units -/

/-- The fraction that a number stands for. -/
def value (x : Binary64) : ℚ := (if x.negative then -1 else 1) * x.significand * 2 ^ x.exponent

/-- How many of the smallest number a magnitude stands for. From the `2 ^ 52`th on, magnitudes go up in
steps that double every `2 ^ 52` of them. -/
def unitsOf (magnitude : Nat) : Nat :=
  if magnitude < 2 ^ 52 then magnitude
  else (2 ^ 52 + magnitude % 2 ^ 52) * 2 ^ (magnitude / 2 ^ 52 - 1)

theorem unitsOf_lt_succ (magnitude : Nat) : unitsOf magnitude < unitsOf (magnitude + 1) := by
  have hpos : 0 < 2 ^ (magnitude / 2 ^ 52 - 1) := Nat.two_pow_pos _
  by_cases hlow : magnitude + 1 < 2 ^ 52
  · rw [unitsOf, unitsOf, if_pos hlow, if_pos (by omega)]
    exact Nat.lt_succ_self magnitude
  · rw [unitsOf, unitsOf, if_neg hlow]
    by_cases hmod : magnitude % 2 ^ 52 + 1 < 2 ^ 52
    · -- The next magnitude has the same exponent.
      have hdiv : (magnitude + 1) / 2 ^ 52 = magnitude / 2 ^ 52 := by omega
      have hrest : (magnitude + 1) % 2 ^ 52 = magnitude % 2 ^ 52 + 1 := by omega
      rw [if_neg (by omega), hdiv, hrest]
      exact Nat.mul_lt_mul_of_pos_right (by omega) hpos
    · -- The next magnitude is the first one with the next exponent.
      have hdiv : (magnitude + 1) / 2 ^ 52 = magnitude / 2 ^ 52 + 1 := by omega
      have hrest : (magnitude + 1) % 2 ^ 52 = 0 := by omega
      rw [hdiv, hrest]
      split
      · have hzero : magnitude / 2 ^ 52 = 0 := by omega
        rw [hzero]
        omega
      · obtain ⟨e, he⟩ : ∃ e, magnitude / 2 ^ 52 = e + 1 := ⟨magnitude / 2 ^ 52 - 1, by omega⟩
        rw [he, Nat.add_sub_cancel, Nat.add_sub_cancel, Nat.pow_succ]
        have hlt : 2 ^ 52 + magnitude % 2 ^ 52 < 2 ^ 52 * 2 := by omega
        calc (2 ^ 52 + magnitude % 2 ^ 52) * 2 ^ e < 2 ^ 52 * 2 * 2 ^ e :=
              Nat.mul_lt_mul_of_pos_right hlt (Nat.two_pow_pos e)
          _ = (2 ^ 52 + 0) * (2 ^ e * 2) := by ring

/-- **Greater magnitudes** stand for more. -/
theorem unitsOf_strictMono : StrictMono unitsOf := strictMono_nat_of_lt_succ unitsOf_lt_succ

/-- The units of a signed magnitude. -/
def signedUnits (key : Int) : Int :=
  if key < 0 then -unitsOf key.natAbs else unitsOf key.natAbs

theorem signedUnits_lt {a b : Int} (hlt : a < b) : signedUnits a < signedUnits b := by
  unfold signedUnits
  split <;> split
  · have hunits := unitsOf_strictMono (show b.natAbs < a.natAbs by omega)
    omega
  · have hunits : unitsOf 0 < unitsOf a.natAbs := unitsOf_strictMono (by omega)
    omega
  · omega
  · have hunits := unitsOf_strictMono (show a.natAbs < b.natAbs by omega)
    omega

theorem signedUnits_valueKey (x : Binary64) :
    signedUnits x.valueKey = (if x.negative then -1 else 1) * unitsOf x.magnitude := by
  rw [signedUnits, valueKey]
  cases x.negative with
  | false => simp
  | true =>
      by_cases hzero : x.magnitude = 0
      · simp [hzero, unitsOf]
      · simp [Nat.pos_of_ne_zero hzero]

/-- Values are whole numbers of units. -/
theorem value_eq_units (x : Binary64) :
    x.value = signedUnits x.valueKey * 2 ^ (-1074 : Int) := by
  have hunits : (x.significand : ℚ) * 2 ^ x.exponent = unitsOf x.magnitude * 2 ^ (-1074 : Int) := by
    have hone : 1 <<< 52 = 2 ^ 52 := rfl
    rw [significand, exponent, unitsOf, hone, Nat.shiftRight_eq_div_pow]
    split
    · rfl
    · rename_i hge
      obtain ⟨e, he⟩ : ∃ e, x.magnitude / 2 ^ 52 = e + 1 := ⟨x.magnitude / 2 ^ 52 - 1, by omega⟩
      have hexponent : ((e + 1 : Nat) : Int) - 1075 = (e : Int) + -1074 := by omega
      rw [he, hexponent, zpow_add₀ two_ne_zero, zpow_natCast, Nat.add_sub_cancel, ← mul_assoc]
      congr 1
      push_cast
      rfl
  rw [value, signedUnits_valueKey, mul_assoc, hunits, ← mul_assoc]
  congr 1
  cases x.negative <;> simp

/-! ## Comparing -/

/-- **Signed magnitudes compare as values.** -/
theorem compare_value (x y : Binary64) : compare x.value y.value = compare x.valueKey y.valueKey := by
  have hmono : StrictMono fun key : Int => (signedUnits key : ℚ) * 2 ^ (-1074 : Int) := by
    intro a b hlt
    have hunits : (signedUnits a : ℚ) < signedUnits b := Int.cast_lt.mpr (signedUnits_lt hlt)
    exact mul_lt_mul_of_pos_right hunits (zpow_pos two_pos _)
  calc compare x.value y.value
      = cmp (signedUnits x.valueKey * 2 ^ (-1074 : Int) : ℚ)
          (signedUnits y.valueKey * 2 ^ (-1074 : Int)) := by
        rw [value_eq_units, value_eq_units, cmp_eq_compare]
    _ = cmp x.valueKey y.valueKey := hmono.cmp_map_eq _ _
    _ = compare x.valueKey y.valueKey := cmp_eq_compare _ _

theorem sameValue_iff (x y : Binary64) : x.sameValue y ↔ x.value = y.value := by
  rw [sameValue, beq_iff_eq, ← compare_eq_iff_eq, ← compare_value, compare_eq_iff_eq]

/-! ## Words -/

/-- The word of a number in an index, made from its bit pattern: both zeros count as the positive one,
then all bits are flipped where the sign is set, and the sign alone where it is not. -/
def keyWord (x : Binary64) : BitVec 64 :=
  let w := (if x.isZero then zero false else x).bits
  if w >>> 63 = 1#64 then ~~~w else w ^^^ (1#64 <<< 63)

theorem sign_cons (sign : Bool) (w : BitVec 63) : BitVec.cons sign w >>> 63 = 1#64 ↔ sign := by
  have hlt := w.isLt
  rw [← BitVec.toNat_inj, BitVec.toNat_ushiftRight, BitVec.toNat_cons', Nat.shiftRight_eq_div_pow]
  cases sign <;> simp <;> omega

/-- **The word of a number** is its bit pattern, flipped. -/
theorem toNat_keyWord (x : Binary64) : x.keyWord.toNat = x.orderWord := by
  have hfinite : x.magnitude < 2 ^ 63 := Nat.lt_trans x.finite (by decide)
  by_cases hzero : x.isZero
  · have hmagnitude : x.magnitude = 0 := by simpa [isZero] using hzero
    have hkey : x.valueKey = 0 := by simp [valueKey, hmagnitude]
    rw [keyWord, if_pos hzero, orderWord, hkey]
    decide
  · have hmagnitude : x.magnitude ≠ 0 := by simpa [isZero] using hzero
    rw [keyWord, if_neg hzero, orderWord, valueKey, bits]
    simp only [sign_cons]
    have hsign : 1#64 <<< 63 = BitVec.cons true 0#63 := by decide
    cases x.negative with
    | true =>
        rw [if_pos rfl, if_pos rfl, BitVec.not_cons, BitVec.toNat_cons']
        simp
        omega
    | false =>
        rw [if_neg Bool.false_ne_true, hsign, BitVec.cons_xor_cons, BitVec.toNat_cons']
        simp
        omega

end Binary64

end ContentQuery
