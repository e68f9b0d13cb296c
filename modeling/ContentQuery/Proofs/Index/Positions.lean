import ContentQuery.Index.Tree
import ContentQuery.Proofs.Index.KeyOrder
import ContentQuery.Query.Run
import Mathlib.Data.List.Perm.Subperm

/-!
# Positions in an index

What an index holds is told by which positions stand under which key. Every list of positions that an
index gives is strictly ascending (`Ascending`), and so is what several of them have in common.

* `mem_at_insert` — inserting adds one position under one key and changes nothing else.
* `mem_between` — a range gives the positions under all keys that both of its ends allow.
* `mem_common` — what two ascending lists have in common is their intersection.
-/

namespace ContentQuery

/-- Positions each after the one before. -/
abbrev Ascending (positions : List Nat) : Prop := positions.Pairwise (· < ·)

/-- Ascending positions below a bound are no more than the bound. -/
theorem Ascending.length_le {positions : List Nat} (h : Ascending positions) {n : Nat}
    (hn : ∀ p ∈ positions, p < n) : positions.length ≤ n := by
  have hsub : positions ⊆ List.range n := fun p hp => List.mem_range.mpr (hn p hp)
  have hnodup : positions.Nodup := h.imp Nat.ne_of_lt
  calc positions.length ≤ (List.range n).length := (List.subperm_of_subset hnodup hsub).length_le
    _ = n := List.length_range

/-! ## One position more -/

@[simp] theorem mem_insertPosition {position p : Nat} {positions : List Nat} :
    p ∈ insertPosition position positions ↔ p = position ∨ p ∈ positions := by
  induction positions with
  | nil => simp [insertPosition]
  | cons q rest ih =>
      unfold insertPosition
      split
      · simp
      · split
        · next heq => simp [heq]
        · simp only [List.mem_cons, ih]
          exact or_left_comm

theorem Ascending.insertPosition {positions : List Nat} (h : Ascending positions) (position : Nat) :
    Ascending (insertPosition position positions) := by
  induction positions with
  | nil => simp [ContentQuery.insertPosition]
  | cons q rest ih =>
      obtain ⟨hq, hrest⟩ := List.pairwise_cons.mp h
      unfold ContentQuery.insertPosition
      split
      · next hlt =>
          refine List.pairwise_cons.mpr ⟨?_, h⟩
          intro p hp
          rcases List.mem_cons.mp hp with rfl | hp
          · exact hlt
          · exact Nat.lt_trans hlt (hq p hp)
      · split
        · exact h
        · next hge hne =>
            refine List.pairwise_cons.mpr ⟨?_, ih hrest⟩
            intro p hp
            rcases mem_insertPosition.mp hp with rfl | hp
            · omega
            · exact hq p hp

/-! ## Positions put in order -/

/-- Dropping each repeat of its neighbour from positions in order leaves each position once. -/
theorem dropNeighbours {positions : List Nat} (h : positions.Pairwise (· ≤ ·)) :
    let once := positions.foldr (fun p rest => if rest.head? = some p then rest else p :: rest) []
    Ascending once ∧ ∀ p, p ∈ once ↔ p ∈ positions := by
  induction positions with
  | nil => simp
  | cons p rest ih =>
      obtain ⟨hp, hrest⟩ := List.pairwise_cons.mp h
      obtain ⟨hasc, hmem⟩ := ih hrest
      simp only [List.foldr_cons]
      generalize rest.foldr (fun p rest => if rest.head? = some p then rest else p :: rest) [] = once
        at hasc hmem
      split
      · next hhead =>
          have hin : p ∈ once := List.mem_of_mem_head? (by rw [hhead]; rfl)
          refine ⟨hasc, fun q => ?_⟩
          rw [hmem q, List.mem_cons]
          constructor
          · exact Or.inr
          · rintro (rfl | hq)
            · exact (hmem _).mp hin
            · exact hq
      · next hhead =>
          refine ⟨List.pairwise_cons.mpr ⟨?_, hasc⟩, fun q => by simp [hmem]⟩
          intro q hq
          have hle : p ≤ q := hp q ((hmem q).mp hq)
          -- `p` itself could only be the head of what follows, which it is not.
          rcases Nat.lt_or_eq_of_le hle with hlt | rfl
          · exact hlt
          · exfalso
            cases once with
            | nil => simp at hq
            | cons r once =>
                have hr : p ≠ r := by simpa [eq_comm] using hhead
                rcases List.mem_cons.mp hq with heq | hq
                · exact hr heq
                · have hrp : r < p := (List.pairwise_cons.mp hasc).1 p hq
                  have hpr : p ≤ r := hp r ((hmem r).mp (by simp))
                  omega

theorem pairwise_mergeSort_le (positions : List Nat) :
    (positions.mergeSort (· ≤ ·)).Pairwise (· ≤ ·) := by
  have h : (positions.mergeSort (· ≤ ·)).Pairwise fun a b => decide (a ≤ b) = true := by
    apply List.pairwise_mergeSort
    · intro a b c hab hbc
      simp only [decide_eq_true_eq] at *
      exact Nat.le_trans hab hbc
    · intro a b
      simp only [Bool.or_eq_true, decide_eq_true_eq]
      exact Nat.le_total a b
  exact h.imp of_decide_eq_true

theorem ascending_ascending (positions : List Nat) : Ascending (ascending positions) :=
  (dropNeighbours (pairwise_mergeSort_le positions)).1

@[simp] theorem mem_ascending {p : Nat} {positions : List Nat} :
    p ∈ ascending positions ↔ p ∈ positions := by
  rw [ascending, (dropNeighbours (pairwise_mergeSort_le positions)).2, List.mem_mergeSort]

/-! ## What a tree holds -/

namespace IndexTree

@[simp] theorem at_empty (key : IndexKey) : empty.at_ key = [] := by
  simp [at_, empty]

theorem at_insert (t : IndexTree) (key k : IndexKey) (position : Nat) :
    (t.insert key position).at_ k =
      if key = k then insertPosition position (t.at_ k) else t.at_ k := by
  by_cases h : key = k
  · subst h
    simp [insert, at_]
  · have hne : compare key k ≠ .eq := fun heq => h (Std.LawfulEqOrd.eq_of_compare heq)
    simp [insert, at_, Std.TreeMap.getElem?_insert, hne, h]

/-- **Inserting** puts one position under one key. -/
theorem mem_at_insert {t : IndexTree} {key k : IndexKey} {position p : Nat} :
    p ∈ (t.insert key position).at_ k ↔ (k, p) = (key, position) ∨ p ∈ t.at_ k := by
  rw [at_insert]
  by_cases h : key = k
  · simp [h]
  · simp [h, Ne.symm h]

/-- All positions of a tree are ascending. -/
def Ordered (t : IndexTree) : Prop := ∀ key, Ascending (t.at_ key)

theorem ordered_empty : empty.Ordered := fun key => by simp

theorem Ordered.insert {t : IndexTree} (h : t.Ordered) (key : IndexKey) (position : Nat) :
    (t.insert key position).Ordered := by
  intro k
  rw [at_insert]
  split
  · exact (h k).insertPosition position
  · exact h k

theorem mem_atAny {t : IndexTree} {keys : List IndexKey} {p : Nat} :
    p ∈ t.atAny keys ↔ ∃ key ∈ keys, p ∈ t.at_ key := by
  simp [atAny]

theorem mem_toList {t : IndexTree} {key : IndexKey} {positions : List Nat} :
    (key, positions) ∈ t.positions.toList ↔ t.positions[key]? = some positions :=
  Std.TreeMap.mem_toList_iff_getElem?_eq_some

/-- **A range** gives the positions under all keys that both of its ends allow. The guard against
ends that leave no room drops nothing. -/
theorem mem_between {t : IndexTree} {low high : Bound} {p : Nat} :
    p ∈ t.between low high ↔ ∃ key, low.allowsFrom key ∧ high.allowsTo key ∧ p ∈ t.at_ key := by
  constructor
  · intro hp
    unfold between at hp
    split at hp
    · rw [mem_ascending, List.mem_flatMap] at hp
      obtain ⟨⟨key, positions⟩, hspan, hp⟩ := hp
      obtain ⟨hmem, hallowed⟩ := List.mem_filter.mp hspan
      rw [Bool.and_eq_true] at hallowed
      refine ⟨key, hallowed.1, hallowed.2, ?_⟩
      rw [at_, mem_toList.mp hmem]
      exact hp
    · simp at hp
  · rintro ⟨key, hlow, hhigh, hp⟩
    have hroom := Bound.crossed_eq_false hlow hhigh
    rw [between, dif_pos hroom, mem_ascending, List.mem_flatMap]
    cases hkey : t.positions[key]? with
    | none => simp [at_, hkey] at hp
    | some positions =>
        refine ⟨(key, positions), ?_, by simpa [at_, hkey] using hp⟩
        exact List.mem_filter.mpr ⟨mem_toList.mpr hkey, by simp [hlow, hhigh]⟩

theorem ascending_between (t : IndexTree) (low high : Bound) : Ascending (t.between low high) := by
  unfold between
  split
  · exact ascending_ascending _
  · exact List.Pairwise.nil

end IndexTree

/-! ## What ascending lists have in common -/

/-- A position before the first one is none of them. -/
theorem Ascending.not_mem_of_lt {a b : Nat} {positions : List Nat} (h : Ascending (b :: positions))
    (hlt : a < b) : a ∉ b :: positions := by
  intro hmem
  rcases List.mem_cons.mp hmem with rfl | hmem
  · exact Nat.lt_irrefl _ hlt
  · exact Nat.lt_asymm hlt ((List.pairwise_cons.mp h).1 a hmem)

namespace Run

theorem mem_common {as bs : List Nat} {p : Nat} (has : Ascending as) (hbs : Ascending bs) :
    p ∈ common as bs ↔ p ∈ as ∧ p ∈ bs := by
  fun_induction common as bs with
  | case1 => simp
  | case2 => simp
  | case3 a as b bs hlt ih =>
      obtain ⟨ha, has'⟩ := List.pairwise_cons.mp has
      rw [ih has' hbs]
      -- `a` comes before all of the second list, and so is not in it.
      have hnot : a ∉ b :: bs := hbs.not_mem_of_lt hlt
      constructor
      · exact fun ⟨hpa, hpb⟩ => ⟨List.mem_cons_of_mem _ hpa, hpb⟩
      · rintro ⟨hpa, hpb⟩
        rcases List.mem_cons.mp hpa with rfl | hpa
        · exact absurd hpb hnot
        · exact ⟨hpa, hpb⟩
  | case4 a as b bs hge hlt ih =>
      obtain ⟨hb, hbs'⟩ := List.pairwise_cons.mp hbs
      rw [ih has hbs']
      have hnot : b ∉ a :: as := has.not_mem_of_lt hlt
      constructor
      · exact fun ⟨hpa, hpb⟩ => ⟨hpa, List.mem_cons_of_mem _ hpb⟩
      · rintro ⟨hpa, hpb⟩
        rcases List.mem_cons.mp hpb with rfl | hpb
        · exact absurd hpa hnot
        · exact ⟨hpa, hpb⟩
  | case5 a as b bs hge hle ih =>
      obtain rfl : a = b := by omega
      obtain ⟨ha, has'⟩ := List.pairwise_cons.mp has
      obtain ⟨hb, hbs'⟩ := List.pairwise_cons.mp hbs
      rw [List.mem_cons, ih has' hbs', List.mem_cons, List.mem_cons]
      constructor
      · rintro (rfl | ⟨hpa, hpb⟩)
        · exact ⟨Or.inl rfl, Or.inl rfl⟩
        · exact ⟨Or.inr hpa, Or.inr hpb⟩
      · rintro ⟨rfl | hpa, hpb⟩
        · exact Or.inl rfl
        · rcases hpb with rfl | hpb
          · exact Or.inl rfl
          · exact Or.inr ⟨hpa, hpb⟩

theorem sublist_common (as bs : List Nat) : (common as bs).Sublist as := by
  fun_induction common as bs with
  | case1 => exact List.Sublist.refl _
  | case2 => exact List.nil_sublist _
  | case3 a as b bs _ ih => exact ih.cons a
  | case4 a as b bs _ _ ih => exact ih
  | case5 a as b bs _ _ ih => exact ih.cons_cons a

theorem ascending_common {as bs : List Nat} (h : Ascending as) : Ascending (common as bs) :=
  h.sublist (sublist_common as bs)

/-- What several ascending lists have in common with a first one. -/
theorem mem_foldl_common {first : List Nat} {rest : List (List Nat)} (hfirst : Ascending first)
    (hrest : ∀ l ∈ rest, Ascending l) {p : Nat} :
    p ∈ rest.foldl common first ↔ ∀ l ∈ first :: rest, p ∈ l := by
  induction rest generalizing first with
  | nil => simp
  | cons l rest ih =>
      have hl : Ascending l := hrest l (by simp)
      rw [List.foldl_cons, ih (ascending_common hfirst) fun k hk => hrest k (by simp [hk])]
      simp only [List.forall_mem_cons, mem_common hfirst hl]
      exact and_assoc

theorem ascending_foldl_common {first : List Nat} {rest : List (List Nat)}
    (hfirst : Ascending first) : Ascending (rest.foldl common first) := by
  induction rest generalizing first with
  | nil => exact hfirst
  | cons l rest ih => exact ih (ascending_common hfirst)

end Run

end ContentQuery
