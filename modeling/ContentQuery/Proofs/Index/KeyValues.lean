import ContentQuery.Proofs.Index.KeyOrder
import ContentQuery.Proofs.Json.Number

/-!
# Keys mirror values

Tests compare values, an index compares keys, and a range of an index is cut out of the keys of one
kind. The three agree on all scalars (**`IndexKey.mirrors_values`**), numbers among them by what they
count: equality and order of numbers are those of the fractions that they stand for.
-/

namespace ContentQuery.IndexKey

/-- **Scalars compare** where their keys are of one kind, and as these do. -/
theorem compare?_eq_some_iff {a b : Json} {ka kb : IndexKey} (ha : ofJson? a = some ka)
    (hb : ofJson? b = some kb) (o : Ordering) :
    a.compare? b = some o ↔ ka.rank = kb.rank ∧ compare ka kb = o := by
  constructor
  · intro h
    obtain ⟨key, hkey, hrank, hcompare⟩ := exists_key_of_compare? hb h
    obtain rfl := Option.some.inj (ha.symm.trans hkey)
    exact ⟨hrank, hcompare⟩
  · rintro ⟨hrank, rfl⟩
    exact compare?_of_rank_eq ha hb hrank

/-- **Kinds are ranges.** The keys from the least one of a kind to the end of the kind are the keys of
the kind. -/
theorem between_least_last_iff {key other : IndexKey} (h : key.Fits) :
    (Bound.closed other.least).allowsFrom key ∧ other.last.allowsTo key ↔ key.rank = other.rank := by
  constructor
  · rintro ⟨hlow, hhigh⟩
    -- A key of another kind comes before all keys of the kind, or after them.
    cases key <;> cases other <;> first | rfl | exact Bool.noConfusion hlow | exact Bool.noConfusion hhigh
  · intro hrank
    exact ⟨allowsFrom_least hrank, allowsTo_last h hrank⟩

theorem ofJson?_number (x : Number) :
    ofJson? (.number x) = some (.number x.toBinary64.keyWord.toNat) := by
  rw [Binary64.toNat_keyWord]
  rfl

/-- **Keys mirror values.**

* Scalars have keys; they are equal if their keys are, and compare where these are of one kind, in the
  same way.
* The key of a number is made from its bits. Numbers are equal and in order as the fractions are that
  they stand for.
* All keys of scalars fit their kind, and the keys that fit lie between the least key and the end of
  their own kind and of no other. -/
theorem mirrors_values :
    (∀ a b : Json, a.isScalar → b.isScalar → ∃ ka kb,
      ofJson? a = some ka ∧ ofJson? b = some kb ∧
      (a.equals b ↔ ka = kb) ∧
      ∀ o, a.compare? b = some o ↔ ka.rank = kb.rank ∧ compare ka kb = o) ∧
    (∀ x y : Number,
      ofJson? (.number x) = some (.number x.toBinary64.keyWord.toNat) ∧
      ((Json.number x).equals (.number y) ↔ x.toBinary64.value = y.toBinary64.value) ∧
      (Json.number x).compare? (.number y) =
        some (compare x.toBinary64.value y.toBinary64.value)) ∧
    (∀ v key, ofJson? v = some key → key.Fits) ∧
    ∀ key other : IndexKey, key.Fits →
      ((Bound.closed other.least).allowsFrom key ∧ other.last.allowsTo key ↔
        key.rank = other.rank) := by
  refine ⟨fun a b ha hb => ?_, fun x y => ⟨ofJson?_number x, ?_, ?_⟩, fun _ _ => fits_of_ofJson?,
    fun _ _ => between_least_last_iff⟩
  · obtain ⟨ka, hka⟩ := Option.isSome_iff_exists.mp (Json.isScalar_iff.mp ha)
    obtain ⟨kb, hkb⟩ := Option.isSome_iff_exists.mp (Json.isScalar_iff.mp hb)
    refine ⟨ka, kb, hka, hkb, ?_, compare?_eq_some_iff hka hkb⟩
    rw [Json.equals_iff hb, hka, hkb, Option.some.injEq]
  · exact x.toBinary64.sameValue_iff y.toBinary64
  · rw [Binary64.compare_value]
    rfl

/-- The two zeros have one key, and it lies among the keys of numbers. -/
theorem mirrors_values_zeros :
    let negative : Json := .number (.float (.zero true))
    let positive : Json := .number (.int 0)
    ∃ ka kb, ofJson? negative = some ka ∧ ofJson? positive = some kb ∧ ka = kb ∧
      compare ka kb = .eq ∧ (Bound.closed kb.least).allowsFrom ka ∧ kb.last.allowsTo ka := by
  intro negative positive
  obtain ⟨hscalars, -, hfits, hkinds⟩ := mirrors_values
  obtain ⟨ka, kb, ha, hb, hequal, hcompare⟩ := hscalars negative positive rfl rfl
  have heq : ka = kb := hequal.mp (by decide)
  obtain ⟨hrank, horder⟩ := (hcompare .eq).mp (by decide)
  exact ⟨ka, kb, ha, hb, heq, horder, (hkinds ka kb (hfits _ _ ha)).mpr hrank⟩

end ContentQuery.IndexKey
