import ContentQuery.Proofs.Json.Order
import ContentQuery.Query.Sorting
import Mathlib.Data.List.Sort

/-!
# Sorting is stable

A sort puts nodes in an order that is total on all bodies, and leaves nodes that no key tells apart as
they were. There is one such list, and no more (**`StablySorted.unique`**), so that sorting by several
keys is sorting by the last one first, then by the one before it, and so on (`StablySorted.lex`).

* **`SortSpec.sorts_stably`** says all of this of a sort.
-/

namespace ContentQuery

/-! ## Stably sorted lists -/

/-- The elements that compare alike with an element. -/
def alike {α : Type} (cmp : α → α → Ordering) (a b : α) : Bool := cmp a b == .eq

@[simp] theorem alike_iff {α : Type} {cmp : α → α → Ordering} {a b : α} :
    alike cmp a b ↔ cmp a b = .eq := beq_iff_eq

/-- The second list is the first one, stably sorted: it has the same elements, in order, and those that
compare alike follow each other as in the first. -/
structure StablySorted {α : Type} (cmp : α → α → Ordering) (before after : List α) : Prop where
  perm : after.Perm before
  ordered : after.Pairwise fun a b => (cmp a b).isLE
  ties : ∀ a, after.filter (alike cmp a) = before.filter (alike cmp a)

section Stable

variable {α : Type} {cmp : α → α → Ordering} [Std.TransCmp cmp] {before after after' : List α}

theorem alike_self (a : α) : alike cmp a a := alike_iff.mpr Std.ReflCmp.compare_self

/-- The first of some elements in order comes before all of them. -/
theorem isLE_head {a b : α} {as : List α} (h : (a :: as).Pairwise fun a b => (cmp a b).isLE)
    (hb : b ∈ a :: as) : (cmp a b).isLE := by
  rcases List.mem_cons.mp hb with rfl | hb
  · exact Std.ReflCmp.isLE_rfl
  · exact (List.pairwise_cons.mp h).1 b hb

/-- Lists in which the same elements compare alike have the same elements. -/
theorem mem_of_ties {l l' : List α} (h : ∀ a, l.filter (alike cmp a) = l'.filter (alike cmp a))
    {a : α} (ha : a ∈ l) : a ∈ l' := by
  have hmem : a ∈ l.filter (alike cmp a) := List.mem_filter.mpr ⟨ha, alike_self a⟩
  rw [h a] at hmem
  exact (List.mem_filter.mp hmem).1

/-- Elements in order, of which those that compare alike are related in another way, too. -/
theorem pairwise_of_ties {R : α → α → Prop} {l : List α}
    (h : l.Pairwise fun a b => (cmp a b).isLE)
    (hties : ∀ a, (l.filter (alike cmp a)).Pairwise R) :
    l.Pairwise fun a b => cmp a b = .lt ∨ cmp a b = .eq ∧ R a b := by
  induction l with
  | nil => exact .nil
  | cons a as ih =>
      obtain ⟨ha, has⟩ := List.pairwise_cons.mp h
      refine List.pairwise_cons.mpr ⟨?_, ih has ?_⟩
      · intro b hb
        rcases Ordering.isLE_iff_eq_lt_or_eq_eq.mp (ha b hb) with hlt | heq
        · exact .inl hlt
        · have hfirst := hties a
          rw [List.filter_cons_of_pos (alike_self a)] at hfirst
          have hmem : b ∈ as.filter (alike cmp a) := List.mem_filter.mpr ⟨hb, alike_iff.mpr heq⟩
          exact .inr ⟨heq, (List.pairwise_cons.mp hfirst).1 b hmem⟩
      · intro b
        exact (hties b).sublist ((List.sublist_cons_self a as).filter _)

/-- Chosen elements that keep their order in a rearrangement are chosen there in this order. -/
theorem filter_eq_of_sublist {l l' : List α} (hperm : l'.Perm l) {p : α → Bool}
    (hsub : (l.filter p).Sublist l') : l'.filter p = l.filter p := by
  have hfilter : (l.filter p).Sublist (l'.filter p) := by simpa using hsub.filter p
  exact (hfilter.eq_of_length (hperm.filter p).length_eq.symm).symm

namespace StablySorted

/-- **A merge sort** sorts stably. -/
theorem mergeSort (l : List α) : StablySorted cmp l (l.mergeSort fun a b => cmp a b != .gt) := by
  have htrans : ∀ a b c, cmp a b != .gt → cmp b c != .gt → cmp a c != .gt := by
    intro a b c hab hbc
    simp only [bne_iff_ne, Ordering.ne_gt_iff_isLE] at *
    exact Std.TransCmp.isLE_trans hab hbc
  have htotal : ∀ a b, (cmp a b != .gt || cmp b a != .gt) := by
    intro a b
    have hswap : cmp a b = (cmp b a).swap := Std.OrientedCmp.eq_swap
    rw [hswap]
    cases cmp b a <;> rfl
  have hperm := l.mergeSort_perm fun a b => cmp a b != .gt
  constructor
  · exact hperm
  · refine (List.pairwise_mergeSort htrans htotal l).imp ?_
    intro a b hab
    simpa [Ordering.ne_gt_iff_isLE] using hab
  · intro a
    -- Elements that compare alike are in order as they are.
    have htied : (l.filter (alike cmp a)).Pairwise fun x y => cmp x y != .gt := by
      apply List.pairwise_of_forall_mem_list
      intro x hx y hy
      have hax : cmp a x = .eq := alike_iff.mp (List.mem_filter.mp hx).2
      have hay : cmp a y = .eq := alike_iff.mp (List.mem_filter.mp hy).2
      simp [Std.TransCmp.eq_trans (Std.OrientedCmp.eq_symm hax) hay]
    apply filter_eq_of_sublist hperm
    exact List.sublist_mergeSort htrans htotal htied List.filter_sublist

theorem eq_of_ties (h : after.Pairwise fun a b => (cmp a b).isLE)
    (h' : after'.Pairwise fun a b => (cmp a b).isLE)
    (hties : ∀ a, after.filter (alike cmp a) = after'.filter (alike cmp a)) : after = after' := by
  induction after generalizing after' with
  | nil =>
      cases after' with
      | nil => rfl
      | cons b bs => exact absurd (mem_of_ties (fun c => (hties c).symm) (a := b) (by simp)) (by simp)
  | cons a as ih =>
      cases after' with
      | nil => exact absurd (mem_of_ties hties (a := a) (by simp)) (by simp)
      | cons b bs =>
          -- Each first element is in the other list as well, so the two compare alike.
          have hab : (cmp a b).isLE := isLE_head h (mem_of_ties (fun c => (hties c).symm) (by simp))
          have hba : (cmp b a).isLE := isLE_head h' (mem_of_ties hties (by simp))
          have halike : alike cmp a b := alike_iff.mpr (Std.OrientedCmp.isLE_antisymm hab hba)
          have hfirst := hties a
          rw [List.filter_cons_of_pos (alike_self a), List.filter_cons_of_pos halike] at hfirst
          obtain ⟨rfl, -⟩ := List.cons.inj hfirst
          rw [ih (List.pairwise_cons.mp h).2 (List.pairwise_cons.mp h').2]
          intro c
          have hc := hties c
          simp only [List.filter_cons] at hc
          split at hc
          · exact (List.cons.inj hc).2
          · exact hc

/-- **There is one way** to sort a list stably. -/
theorem unique (h : StablySorted cmp before after) (h' : StablySorted cmp before after') :
    after = after' :=
  eq_of_ties h.ordered h'.ordered fun a => (h.ties a).trans (h'.ties a).symm

/-- **The weightier key last.** A list that was stably sorted in one way and then in another is stably
sorted by the latter first and by the former among ties. -/
theorem lex {cmp' : α → α → Ordering} {middle : List α} (h' : StablySorted cmp' before middle)
    (h : StablySorted cmp middle after) : StablySorted (compareLex cmp cmp') before after where
  perm := h.perm.trans h'.perm
  ordered := by
    have hties : ∀ a, (after.filter (alike cmp a)).Pairwise fun x y => (cmp' x y).isLE := by
      intro a
      rw [h.ties a]
      exact h'.ordered.sublist List.filter_sublist
    refine (pairwise_of_ties h.ordered hties).imp ?_
    intro a b hab
    exact Ordering.isLE_then_iff_or.mpr hab
  ties := by
    intro a
    have hboth : ∀ l : List α, l.filter (alike (compareLex cmp cmp') a) =
        (l.filter (alike cmp a)).filter (alike cmp' a) := by
      intro l
      rw [List.filter_filter]
      apply List.filter_congr
      intro b _
      rw [Bool.eq_iff_iff]
      simp [compareLex, and_comm]
    rw [hboth, hboth, h.ties a, List.filter_comm, h'.ties a, List.filter_comm]

end StablySorted

end Stable

/-! ## The order of bodies -/

namespace Slot

theorem rank_of_present? {slot : Slot} {v : Json} (h : slot.present? = some v) : slot.rank = 0 := by
  rcases slot with (_ | _) | _ | _ <;> first | rfl | cases h

theorem rank_pos {slot : Slot} (h : slot.present? = none) : 0 < slot.rank := by
  rcases slot with (_ | _) | _ | _ <;> first | decide | cases h

/-- Slots are ordered by what they are, and values among themselves. -/
theorem order_eq (a b : Slot) : a.order b = (compare a.rank b.rank).then
    (Json.order (a.present?.getD .null) (b.present?.getD .null)) := by
  unfold order
  cases ha : a.present? with
  | some v =>
      rw [rank_of_present? ha]
      cases hb : b.present? with
      | some w => rw [rank_of_present? hb]; rfl
      | none => simp [Nat.compare_eq_lt.mpr (rank_pos hb)]
  | none =>
      cases hb : b.present? with
      | some w => simp [rank_of_present? hb, Nat.compare_eq_gt.mpr (rank_pos ha)]
      | none =>
          have hnull : Json.order .null .null = .eq := rfl
          simp [hnull]

instance : Std.TransCmp order := by
  have hlex : order = compareLex (compareOn rank)
      (Ordering.byKey (fun slot => slot.present?.getD .null) Json.order) := by
    funext a b
    exact order_eq a b
  rw [hlex]
  infer_instance

/-- Values come before nulls, and nulls before what is not there. -/
theorem rank_le_of_isLE {a b : Slot} (h : (a.order b).isLE) : a.rank ≤ b.rank := by
  rw [order_eq] at h
  exact Nat.isLE_compare.mp (Ordering.isLE_left_of_isLE_then h)

end Slot

instance (key : SortKey) : Std.TransCmp key.order := by
  have hkey : key.order = match key.direction with
      | .ascending => Ordering.byKey (Path.resolve · key.path) Slot.order
      | .descending => flip (Ordering.byKey (Path.resolve · key.path) Slot.order) := by
    funext a b
    rw [SortKey.order]
    cases key.direction with
    | ascending => rfl
    | descending => exact Std.OrientedCmp.eq_swap.symm
  rw [hkey]
  cases key.direction <;> infer_instance

namespace SortSpec

instance (s : SortSpec) : Std.TransCmp s.order := by
  induction s with
  | nil => exact { eq_swap := rfl, isLE_trans := fun _ _ => rfl }
  | cons key rest ih => exact inferInstanceAs (Std.TransCmp (compareLex key.order (order rest)))

/-- The order of two nodes. -/
def compareNodes (s : SortSpec) (n m : Node) : Ordering := s.order n.body m.body

instance (s : SortSpec) : Std.TransCmp s.compareNodes :=
  inferInstanceAs (Std.TransCmp (Ordering.byKey Node.body s.order))

theorem stablySorted_sort (s : SortSpec) (nodes : List Node) :
    StablySorted s.compareNodes nodes (s.sort nodes) := .mergeSort nodes

/-- **One key more.** The first key is the one to sort by last. -/
theorem sort_cons (key : SortKey) (rest : SortSpec) (nodes : List Node) :
    sort (key :: rest) nodes = sort [key] (sort rest nodes) := by
  have hone : compareLex (compareNodes [key]) (compareNodes rest) = compareNodes (key :: rest) := by
    funext n m
    simp [compareLex, compareNodes, order]
  have hlex := (stablySorted_sort rest nodes).lex (stablySorted_sort [key] (sort rest nodes))
  rw [hone] at hlex
  exact (stablySorted_sort (key :: rest) nodes).unique hlex

theorem sort_eq_foldr (s : SortSpec) (nodes : List Node) :
    s.sort nodes = s.foldr (fun key sorted => sort [key] sorted) nodes := by
  induction s with
  | nil =>
      -- Without a key all nodes compare alike, and none moves.
      apply List.mergeSort_of_pairwise
      exact List.pairwise_of_forall fun _ _ => rfl
  | cons key rest ih => rw [sort_cons, ih, List.foldr_cons]

/-- Sorted nodes are in the order of the first key. -/
theorem pairwise_first (key : SortKey) (rest : SortSpec) (nodes : List Node) :
    (sort (key :: rest) nodes).Pairwise fun n m => (key.order n.body m.body).isLE :=
  (stablySorted_sort (key :: rest) nodes).ordered.imp Ordering.isLE_left_of_isLE_then

end SortSpec

end ContentQuery
