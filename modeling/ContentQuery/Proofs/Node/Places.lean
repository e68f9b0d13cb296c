import ContentQuery.Node.Store
import Mathlib.Data.List.Basic

/-!
# Nodes stand at their places

A store finds a node by the position that its table keeps for the id. Storing nodes and taking them
out keeps the table right (**`NodeStore.Placed`**), so that the node of an id is the only one with
it (`NodeStore.Placed.node?_eq_some_iff`).
-/

namespace ContentQuery

namespace NodeStore

/-- The table leads from each id to the one position at which a node with the id stands. -/
def Placed (s : NodeStore) : Prop :=
  ∀ (id : String) (i : Nat),
    s.positions[id]? = some i ↔ ∃ node, s.nodes[i]? = some node ∧ node.id = id

variable {s : NodeStore}

namespace Placed

/-- The position of a node is that of its id. -/
theorem position (h : s.Placed) {i : Nat} {node : Node} (hnode : s.nodes[i]? = some node) :
    s.positions[node.id]? = some i :=
  (h node.id i).mpr ⟨node, hnode, rfl⟩

/-- No id stands at two positions. -/
theorem eq_of_id (h : s.Placed) {i j : Nat} {a b : Node} (ha : s.nodes[i]? = some a)
    (hb : s.nodes[j]? = some b) (hid : a.id = b.id) : i = j := by
  have hi := h.position ha
  rw [hid, h.position hb] at hi
  exact (Option.some.inj hi).symm

/-- **The node of an id** is the one in the store that has it. -/
theorem node?_eq_some_iff (h : s.Placed) {id : String} {node : Node} :
    s.node? id = some node ↔ node ∈ s.nodes.toList ∧ node.id = id := by
  rw [node?, Option.bind_eq_some_iff, Array.mem_toList_iff, Array.mem_iff_getElem?]
  constructor
  · rintro ⟨i, hi, hnode⟩
    obtain ⟨other, hother, hid⟩ := (h id i).mp hi
    obtain rfl := Option.some.inj (hother.symm.trans hnode)
    exact ⟨⟨i, hnode⟩, hid⟩
  · rintro ⟨⟨i, hnode⟩, rfl⟩
    exact ⟨i, h.position hnode, hnode⟩

/-- Two nodes of a store with one id are the same node. -/
theorem eq_of_mem (h : s.Placed) {a b : Node} (ha : a ∈ s.nodes.toList) (hb : b ∈ s.nodes.toList)
    (hid : a.id = b.id) : a = b := by
  have hfound : s.node? b.id = some a := h.node?_eq_some_iff.mpr ⟨ha, hid⟩
  rw [h.node?_eq_some_iff.mpr ⟨hb, rfl⟩] at hfound
  exact (Option.some.inj hfound).symm

end Placed

theorem placed_empty : empty.Placed := by
  intro id i
  simp [empty]

/-! ## Stamps -/

theorem nextStamp_upsert (s : NodeStore) (node : Node) :
    (s.upsert node).nextStamp = s.nextStamp + 1 := by
  unfold upsert
  dsimp only
  split <;> rfl

theorem nextStamp_remove (s : NodeStore) (id : String) : (s.remove id).1.nextStamp = s.nextStamp := by
  unfold remove
  split <;> rfl

/-! ## Storing -/

theorem Placed.upsert (h : s.Placed) (node : Node) : (s.upsert node).Placed := by
  intro id i
  unfold NodeStore.upsert
  dsimp only
  split
  · -- The node takes the place of the one with its id.
    rename_i place hplace
    obtain ⟨old, hold, hid⟩ := (h node.id place).mp hplace
    have hlt : place < s.nodes.size := (Array.getElem?_eq_some_iff.mp hold).1
    rw [Array.getElem?_setIfInBounds, h id i]
    by_cases hi : place = i
    · subst hi
      rw [if_pos rfl, if_pos hlt, hold]
      simp [hid]
    · rw [if_neg hi]
  · -- The id is new, and so is the position.
    rename_i hnew
    have hunused : ∀ (j : Nat) (other : Node), s.nodes[j]? = some other → other.id ≠ node.id := by
      intro j other hother heq
      rw [← heq, h.position hother] at hnew
      cases hnew
    rw [Std.HashMap.getElem?_insert, Array.getElem?_push]
    by_cases hi : i = s.nodes.size
    · subst hi
      simp only [if_true]
      by_cases hid : node.id = id
      · simp [hid]
      · simp [hid, h id s.nodes.size]
    · rw [if_neg hi]
      by_cases hid : node.id = id
      · subst hid
        simp only [beq_self_eq_true, if_true, Option.some.injEq, Ne.symm hi, false_iff]
        rintro ⟨other, hother, heq⟩
        exact hunused i other hother heq
      · simp [hid, h id i]

/-- A node that is stored is in the store, with the next stamp. -/
theorem Placed.mem_upsert_self (h : s.Placed) (node : Node) :
    { node with stamp := s.nextStamp } ∈ (s.upsert node).nodes.toList := by
  unfold NodeStore.upsert
  dsimp only
  split
  · rename_i place hplace
    obtain ⟨old, hold, -⟩ := (h node.id place).mp hplace
    have hlt : place < s.nodes.size := (Array.getElem?_eq_some_iff.mp hold).1
    rw [Array.mem_toList_iff, Array.mem_iff_getElem?]
    exact ⟨place, by rw [Array.getElem?_setIfInBounds_self_of_lt hlt]⟩
  · simp

/-- A store has the node that it was last given for an id. -/
theorem Placed.node?_upsert (h : s.Placed) (node : Node) :
    (s.upsert node).node? node.id = some { node with stamp := s.nextStamp } :=
  (h.upsert node).node?_eq_some_iff.mpr ⟨h.mem_upsert_self node, rfl⟩

theorem placed_ofList (nodes : List Node) : (ofList nodes).Placed := by
  have hfold : ∀ s : NodeStore, s.Placed → (nodes.foldl NodeStore.upsert s).Placed := by
    induction nodes with
    | nil => exact fun s h => h
    | cons node rest ih => exact fun s h => ih _ (h.upsert node)
  exact hfold empty placed_empty

/-! ## Taking out -/

theorem mem_drop_zipIdx {α : Type} {as : List α} {a : α} {i n : Nat} :
    (a, i) ∈ as.zipIdx.drop n ↔ n ≤ i ∧ as[i]? = some a := by
  rw [List.mem_iff_getElem?]
  simp only [List.getElem?_drop, List.getElem?_zipIdx, Option.map_eq_some_iff, Prod.mk.injEq,
    Nat.zero_add]
  constructor
  · rintro ⟨j, b, hb, rfl, rfl⟩
    exact ⟨Nat.le_add_right n j, hb⟩
  · rintro ⟨hle, ha⟩
    obtain ⟨j, rfl⟩ := Nat.exists_eq_add_of_le hle
    exact ⟨j, a, ha, rfl, rfl⟩

/-- Giving some nodes new positions changes the positions of their ids only. -/
theorem getElem?_foldl_insert (moved : List (Node × Nat)) (table : Std.HashMap String Nat)
    (id : String) :
    ((moved.foldl (fun table (node, i) => table.insert node.id i) table)[id]? = table[id]? ∧
        ∀ entry ∈ moved, entry.1.id ≠ id) ∨
      ∃ entry ∈ moved, entry.1.id = id ∧
        (moved.foldl (fun table (node, i) => table.insert node.id i) table)[id]? =
          some entry.2 := by
  induction moved generalizing table with
  | nil => exact .inl ⟨rfl, by simp⟩
  | cons first rest ih =>
      rcases ih (table.insert first.1.id first.2) with ⟨hrest, hnone⟩ | ⟨entry, hmem, hid, hentry⟩
      · rw [Std.HashMap.getElem?_insert] at hrest
        by_cases hfirst : first.1.id = id
        · exact .inr ⟨first, by simp, hfirst, by simpa [hfirst] using hrest⟩
        · exact .inl ⟨by simpa [hfirst] using hrest, by simpa [hfirst] using hnone⟩
      · exact .inr ⟨entry, List.mem_cons_of_mem _ hmem, hid, hentry⟩

theorem getElem?_erased (nodes : Array Node) (place i : Nat) :
    (nodes.eraseIdxIfInBounds place)[i]? = if i < place then nodes[i]? else nodes[i + 1]? := by
  rw [← Array.getElem?_toList, Array.toList_eraseIdxIfInBounds, List.getElem?_eraseIdx]
  simp

/-- Those that move up are the ones after the place. -/
theorem mem_moved_iff {nodes : Array Node} {place i : Nat} {node : Node} :
    (node, i) ∈ (nodes.eraseIdxIfInBounds place).toList.zipIdx.drop place ↔
      place ≤ i ∧ nodes[i + 1]? = some node := by
  rw [mem_drop_zipIdx, Array.getElem?_toList, getElem?_erased]
  constructor <;> rintro ⟨hle, hnode⟩ <;> simpa [hle, Nat.not_lt.mpr hle] using hnode

/-- An id that does not move stands before the place, if it stands anywhere. -/
theorem Placed.erase (h : s.Placed) {place : Nat} {gone : Node}
    (hgone : s.nodes[place]? = some gone) {id : String}
    (hstays : ∀ (j : Nat) (node : Node), place ≤ j → s.nodes[j + 1]? = some node → node.id ≠ id)
    (i : Nat) :
    (s.positions.erase gone.id)[id]? = some i ↔
      ∃ node, (if i < place then s.nodes[i]? else s.nodes[i + 1]?) = some node ∧ node.id = id := by
  rw [Std.HashMap.getElem?_erase]
  by_cases hid : gone.id = id
  · subst hid
    simp only [beq_self_eq_true, if_true, reduceCtorEq, false_iff]
    rintro ⟨node, hnode, hid⟩
    split at hnode
    · rename_i hlt
      exact absurd (h.eq_of_id hnode hgone hid) (Nat.ne_of_lt hlt)
    · rename_i hge
      exact hstays i node (Nat.le_of_not_lt hge) hnode hid
  · rw [if_neg (by simpa using hid), h id i]
    by_cases hlt : i < place
    · rw [if_pos hlt]
    · rw [if_neg hlt]
      refine iff_of_false ?_ ?_
      · rintro ⟨node, hnode, heq⟩
        rcases Nat.lt_or_eq_of_le (Nat.le_of_not_lt hlt) with hgt | rfl
        · obtain ⟨j, rfl⟩ := Nat.exists_eq_add_of_lt hgt
          exact hstays (place + j) node (Nat.le_add_right _ _) hnode heq
        · exact hid (Option.some.inj (hgone.symm.trans hnode) ▸ heq)
      · rintro ⟨node, hnode, heq⟩
        exact hstays i node (Nat.le_of_not_lt hlt) hnode heq

theorem Placed.remove (h : s.Placed) (id : String) : (s.remove id).1.Placed := by
  unfold NodeStore.remove
  split
  · exact h
  · rename_i place hplace
    obtain ⟨gone, hgone, rfl⟩ := (h id place).mp hplace
    intro id i
    dsimp only
    rw [getElem?_erased]
    rcases getElem?_foldl_insert ((s.nodes.eraseIdxIfInBounds place).toList.zipIdx.drop place)
      (s.positions.erase gone.id) id with ⟨hsame, hnone⟩ | ⟨⟨node, j⟩, hmem, rfl, hfound⟩
    · rw [hsame]
      exact h.erase hgone
        (fun j node hle hnode => hnone (node, j) (mem_moved_iff.mpr ⟨hle, hnode⟩)) i
    · obtain ⟨hle, hnode⟩ := mem_moved_iff.mp hmem
      rw [hfound]
      constructor
      · rintro ⟨⟩
        exact ⟨node, by rw [if_neg (Nat.not_lt.mpr hle)]; exact hnode, rfl⟩
      · rintro ⟨other, hother, hid⟩
        split at hother
        · -- A node before the place has another id.
          rename_i hlt
          have heq := h.eq_of_id hother hnode hid
          omega
        · have heq := h.eq_of_id hother hnode hid
          rw [Nat.succ.inj heq]

end NodeStore

end ContentQuery
