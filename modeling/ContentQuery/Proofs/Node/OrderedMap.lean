import ContentQuery.Proofs.Node.Places
import Mathlib.Data.List.InsertIdx

/-!
# A store is an ordered map

Nodes are changed by storing them and by taking them out. Seen from outside, a store is a map from ids
to nodes that keeps the order in which the ids came (`NodeMap`): a node takes the place of the one with
its id or goes to the end, and taking one out leaves the others in their order. The store does the same
with an array and a table of positions, and no sequence of changes tells the two apart
(**`NodeStore.after_refines`**).
-/

namespace ContentQuery

/-! ## Maps in order of arrival -/

/-- Values under keys, in the order in which the keys came. -/
abbrev OrderedMap (α : Type) := List (String × α)

namespace OrderedMap

variable {α : Type}

def keys (m : OrderedMap α) : List String := m.map (·.1)

def values (m : OrderedMap α) : List α := m.map (·.2)

def get? (m : OrderedMap α) (key : String) : Option α := m.lookup key

/-- Puts a value under a key: where the key stands, or else at the end. -/
def put (m : OrderedMap α) (key : String) (value : α) : OrderedMap α :=
  if key ∈ m.keys then m.map fun entry => if entry.1 = key then (key, value) else entry
  else m ++ [(key, value)]

/-- Takes a key out. -/
def erase (m : OrderedMap α) (key : String) : OrderedMap α := m.filter (·.1 != key)

end OrderedMap

/-! ## Changes -/

/-- A change of a store. -/
inductive Change where
  | upsert (node : Node)
  | remove (id : String)

/-- What the one who makes a change is told. -/
inductive Outcome where
  | signal (signal : Signal)
  | removed (node : Option Node)

/-- Makes changes one after the other. -/
def makeChanges {σ : Type} (make : σ → Change → σ × Outcome) (s : σ) : List Change → σ × List Outcome
  | [] => (s, [])
  | change :: rest =>
    let (s, outcome) := make s change
    let (s, outcomes) := makeChanges make s rest
    (s, outcome :: outcomes)

/-! ## Lists with one place that is changed -/

section OnePlace

variable {α : Type} {as : List α} {place : Nat} {p : α → Prop} [DecidablePred p]

/-- Setting the one place at which `p` holds. -/
theorem set_eq_map (h : ∀ i a, as[i]? = some a → (p a ↔ i = place)) (b : α) :
    as.set place b = as.map fun a => if p a then b else a := by
  apply List.ext_getElem?
  intro i
  rw [List.getElem?_map, List.getElem?_set']
  cases ha : as[i]? with
  | none => split <;> rfl
  | some a => by_cases hplace : place = i <;> simp [h i a ha, hplace, eq_comm]

/-- Erasing the one place at which `p` holds. -/
theorem eraseIdx_eq_filter (h : ∀ i a, as[i]? = some a → (p a ↔ i = place)) :
    as.eraseIdx place = as.filter fun a => !p a := by
  induction as generalizing place with
  | nil => rfl
  | cons first rest ih =>
      have hfirst : p first ↔ 0 = place := h 0 first rfl
      have hrest : ∀ i a, rest[i]? = some a → (p a ↔ i + 1 = place) := fun i => h (i + 1)
      cases place with
      | zero =>
          have hothers : rest.filter (fun a => !p a) = rest := by
            apply List.filter_eq_self.mpr
            intro a ha
            obtain ⟨i, hi⟩ := List.mem_iff_getElem?.mp ha
            simp [hrest i a hi]
          rw [List.eraseIdx_cons_zero, List.filter_cons_of_neg (by simp [hfirst]), hothers]
      | succ place =>
          rw [List.eraseIdx_cons_succ, List.filter_cons_of_pos (by simp [hfirst])]
          rw [ih fun i a hi => by simpa using hrest i a hi]

end OnePlace

/-- What a store stands for: its nodes under their ids, and how many nodes were stored in all. The
nodes are numbered as they are stored. -/
structure NodeMap where
  nodes : OrderedMap Node
  stored : Nat

namespace NodeMap

def empty : NodeMap := ⟨[], 0⟩

def make (m : NodeMap) : Change → NodeMap × Outcome
  | .upsert node =>
    (⟨m.nodes.put node.id { node with stamp := m.stored }, m.stored + 1⟩,
      .signal (.nodeChanged node.id node.digest))
  | .remove id => (⟨m.nodes.erase id, m.stored⟩, .removed (m.nodes.get? id))

def after (changes : List Change) : NodeMap × List Outcome := makeChanges make empty changes

end NodeMap

namespace NodeStore

def make (s : NodeStore) : Change → NodeStore × Outcome
  | .upsert node => (s.upsert node, .signal (upsertSignal node))
  | .remove id => ((s.remove id).1, .removed (s.remove id).2)

def after (changes : List Change) : NodeStore × List Outcome := makeChanges make empty changes

/-- The nodes of a store under their ids. -/
def entries (s : NodeStore) : OrderedMap Node := s.nodes.toList.map fun node => (node.id, node)

/-- The store stands for the map. -/
structure StandsFor (s : NodeStore) (m : NodeMap) : Prop where
  placed : s.Placed
  entries : s.entries = m.nodes
  stored : s.nextStamp = m.stored

variable {s : NodeStore} {m : NodeMap}

@[simp] theorem keys_entries (s : NodeStore) : s.entries.keys = s.nodes.toList.map (·.id) := by
  simp [entries, OrderedMap.keys]

@[simp] theorem values_entries (s : NodeStore) : s.entries.values = s.nodes.toList := by
  rw [entries, OrderedMap.values, List.map_map]
  exact List.map_id _

theorem getElem?_entries (s : NodeStore) (i : Nat) :
    s.entries[i]? = (s.nodes[i]?).map fun node => (node.id, node) := by
  rw [entries, List.getElem?_map, Array.getElem?_toList]

namespace Placed

/-- No two nodes of a store have one id. -/
theorem nodup_ids (h : s.Placed) : (s.nodes.toList.map (·.id)).Nodup := by
  apply List.pairwise_iff_getElem.mpr
  intro i j hi hj hlt hid
  simp only [List.getElem_map, Array.getElem_toList] at hid
  have heq : i = j := h.eq_of_id (Array.getElem?_eq_getElem _) (Array.getElem?_eq_getElem _) hid
  omega

/-- An id stands at its position and nowhere else. -/
theorem entry_iff (h : s.Placed) {id : String} {place : Nat} (hplace : s.positions[id]? = some place)
    (i : Nat) (entry : String × Node) (hentry : s.entries[i]? = some entry) :
    entry.1 = id ↔ i = place := by
  rw [getElem?_entries, Option.map_eq_some_iff] at hentry
  obtain ⟨node, hnode, rfl⟩ := hentry
  obtain ⟨old, hold, rfl⟩ := (h id place).mp hplace
  constructor
  · intro hid
    exact h.eq_of_id hnode hold hid
  · rintro rfl
    rw [hold] at hnode
    rw [Option.some.inj hnode]

theorem mem_keys_iff (h : s.Placed) {id : String} :
    id ∈ s.entries.keys ↔ (s.positions[id]?).isSome := by
  rw [keys_entries, List.mem_map, Option.isSome_iff_exists]
  constructor
  · rintro ⟨node, hmem, rfl⟩
    obtain ⟨i, hi⟩ := List.mem_iff_getElem?.mp hmem
    exact ⟨i, h.position (by rwa [Array.getElem?_toList] at hi)⟩
  · rintro ⟨i, hi⟩
    obtain ⟨node, hnode, hid⟩ := (h id i).mp hi
    exact ⟨node, Array.mem_toList_iff.mpr (Array.mem_of_getElem? hnode), hid⟩

/-- **A look-up** finds what stands under the id. -/
theorem get?_entries (h : s.Placed) (id : String) : s.entries.get? id = s.node? id := by
  have hlookup : s.entries.get? id = s.nodes.toList.find? (·.id == id) := by
    rw [OrderedMap.get?, entries]
    induction s.nodes.toList with
    | nil => rfl
    | cons node rest ih =>
        rw [List.map_cons, List.lookup_cons, List.find?_cons, ih, BEq.comm]
  rw [hlookup]
  apply Option.ext
  intro node
  rw [h.node?_eq_some_iff]
  constructor
  · intro hfound
    exact ⟨List.mem_of_find?_eq_some hfound, by simpa using List.find?_some hfound⟩
  · rintro ⟨hmem, rfl⟩
    cases hfound : s.nodes.toList.find? (·.id == node.id) with
    | none => simpa using List.find?_eq_none.mp hfound node hmem
    | some other =>
        have hid : other.id = node.id := by simpa using List.find?_some hfound
        rw [h.eq_of_mem (List.mem_of_find?_eq_some hfound) hmem hid]

/-- **Storing** puts the node under its id. -/
theorem entries_upsert (h : s.Placed) (node : Node) :
    (s.upsert node).entries = s.entries.put node.id { node with stamp := s.nextStamp } := by
  unfold NodeStore.upsert
  dsimp only
  split
  · rename_i place hplace
    have hkey : node.id ∈ s.entries.keys := h.mem_keys_iff.mpr (by rw [hplace]; rfl)
    rw [OrderedMap.put, if_pos hkey, ← set_eq_map (h.entry_iff hplace)]
    simp [NodeStore.entries, List.map_set]
  · rename_i hnew
    have hkey : node.id ∉ s.entries.keys := by
      rw [h.mem_keys_iff, hnew]
      exact Bool.false_ne_true
    rw [OrderedMap.put, if_neg hkey]
    simp [NodeStore.entries]

/-- **Taking out** takes the id out. -/
theorem entries_remove (h : s.Placed) (id : String) :
    (s.remove id).1.entries = s.entries.erase id := by
  unfold NodeStore.remove
  split
  · rename_i hnone
    have hkey : id ∉ s.entries.keys := by
      rw [h.mem_keys_iff, hnone]
      exact Bool.false_ne_true
    refine (List.filter_eq_self.mpr ?_).symm
    intro entry hentry
    have hne : entry.1 ≠ id := fun heq => hkey (heq ▸ List.mem_map_of_mem hentry)
    simpa using hne
  · rename_i place hplace
    calc ((s.nodes.eraseIdxIfInBounds place).toList.map fun node => (node.id, node))
      _ = s.entries.eraseIdx place := by
        rw [Array.toList_eraseIdxIfInBounds, NodeStore.entries, List.eraseIdx_map]
      _ = s.entries.filter fun entry => !decide (entry.1 = id) :=
        eraseIdx_eq_filter (h.entry_iff hplace)
      _ = s.entries.erase id := by
        simp [OrderedMap.erase, bne, beq_eq_decide]

end Placed

theorem remove_snd (s : NodeStore) (id : String) : (s.remove id).2 = s.node? id := by
  unfold remove node?
  cases s.positions[id]? <;> rfl

/-! ## Every change is told and made alike -/

/-- **One change** of the store is the change of the map. -/
theorem StandsFor.make (h : s.StandsFor m) (change : Change) :
    (s.make change).1.StandsFor (m.make change).1 ∧ (s.make change).2 = (m.make change).2 := by
  cases change with
  | upsert node =>
      refine ⟨⟨h.placed.upsert node, ?_, ?_⟩, rfl⟩
      · show (s.upsert node).entries = m.nodes.put node.id { node with stamp := m.stored }
        rw [h.placed.entries_upsert, h.entries, h.stored]
      · show (s.upsert node).nextStamp = m.stored + 1
        rw [nextStamp_upsert, h.stored]
  | remove id =>
      refine ⟨⟨h.placed.remove id, ?_, ?_⟩, ?_⟩
      · show (s.remove id).1.entries = m.nodes.erase id
        rw [h.placed.entries_remove, h.entries]
      · show (s.remove id).1.nextStamp = m.stored
        rw [nextStamp_remove, h.stored]
      · show Outcome.removed (s.remove id).2 = .removed (m.nodes.get? id)
        rw [remove_snd, ← h.placed.get?_entries, h.entries]

/-- **A run of changes** of the store is the run of the map. -/
theorem StandsFor.makeChanges (h : s.StandsFor m) (changes : List Change) :
    (makeChanges NodeStore.make s changes).1.StandsFor (makeChanges NodeMap.make m changes).1 ∧
      (makeChanges NodeStore.make s changes).2 = (makeChanges NodeMap.make m changes).2 := by
  induction changes generalizing s m with
  | nil => exact ⟨h, rfl⟩
  | cons change rest ih =>
      obtain ⟨hnext, htold⟩ := h.make change
      obtain ⟨hafter, hrest⟩ := ih hnext
      refine ⟨hafter, ?_⟩
      simp only [ContentQuery.makeChanges]
      rw [htold, hrest]

theorem standsFor_empty : empty.StandsFor .empty := ⟨placed_empty, rfl, rfl⟩

/-! ## Single changes -/

namespace Placed

/-- A node with an id that is stored takes the place of the one with it. -/
theorem toList_upsert_of_mem (h : s.Placed) {node old : Node} (hold : s.node? node.id = some old) :
    (s.upsert node).nodes.toList = s.nodes.toList.map fun other =>
      if other.id = node.id then { node with stamp := s.nextStamp } else other := by
  obtain ⟨hmem, hid⟩ := h.node?_eq_some_iff.mp hold
  have hkey : node.id ∈ s.entries.keys := by
    rw [keys_entries, ← hid]
    exact List.mem_map_of_mem hmem
  rw [← values_entries, h.entries_upsert, OrderedMap.put, if_pos hkey, NodeStore.entries,
    OrderedMap.values, List.map_map, List.map_map]
  apply List.map_congr_left
  intro other _
  dsimp only [Function.comp]
  split <;> rfl

/-- A node with an id that was taken out goes to the end. -/
theorem toList_upsert_remove (h : s.Placed) (node : Node) :
    ((s.remove node.id).1.upsert node).nodes.toList =
      s.nodes.toList.filter (·.id != node.id) ++ [{ node with stamp := s.nextStamp }] := by
  have hremoved := h.remove node.id
  have hleft : (s.remove node.id).1.entries.values = s.nodes.toList.filter (·.id != node.id) := by
    rw [h.entries_remove, OrderedMap.values, OrderedMap.erase, NodeStore.entries, List.filter_map,
      List.map_map]
    exact List.map_id _
  have hkey : node.id ∉ (s.remove node.id).1.entries.keys := by
    rw [keys_entries, ← values_entries, hleft]
    simp
  rw [← values_entries, hremoved.entries_upsert, OrderedMap.put, if_neg hkey, OrderedMap.values,
    List.map_append, ← OrderedMap.values, hleft, nextStamp_remove]
  rfl

end Placed

/-- **A store is an ordered map**, whatever the changes. Those who make them are told the same, and
the same nodes are found, by id and by type, in the same order; no id stands twice, and the table
leads from each stored id to the place of its node and from no other id anywhere. In the order of the
store, a node takes the place of the one with its id, whatever their types, and goes to the end if
that one was taken out before. -/
theorem after_refines (changes : List Change) :
    let s := (after changes).1
    let m := (NodeMap.after changes).1
    (after changes).2 = (NodeMap.after changes).2 ∧
      s.nodes.toList = m.nodes.values ∧
      (∀ id, s.node? id = m.nodes.get? id) ∧
      (∀ typeName, s.ofType typeName = m.nodes.values.filter (·.typeName == typeName)) ∧
      s.size = m.nodes.length ∧
      (s.nodes.toList.map (·.id)).Nodup ∧
      (∀ id i, s.positions[id]? = some i ↔ ∃ h : i < s.nodes.size, s.nodes[i].id = id) ∧
      (∀ node old typeName, s.node? node.id = some old → (s.upsert node).ofType typeName =
        (s.nodes.toList.map fun other =>
          if other.id = node.id then { node with stamp := s.nextStamp } else other).filter
            (·.typeName == typeName)) ∧
      ∀ node, ((s.remove node.id).1.upsert node).nodes.toList =
        s.nodes.toList.filter (·.id != node.id) ++ [{ node with stamp := s.nextStamp }] := by
  intro s m
  obtain ⟨hstands, htold⟩ := standsFor_empty.makeChanges changes
  have hplaced : s.Placed := hstands.placed
  have hentries : s.entries = m.nodes := hstands.entries
  have hnodes : s.nodes.toList = m.nodes.values := by rw [← hentries, values_entries]
  refine ⟨htold, hnodes, ?_, ?_, ?_, hplaced.nodup_ids, ?_, ?_, hplaced.toList_upsert_remove⟩
  · intro id
    rw [← hentries, hplaced.get?_entries]
  · intro typeName
    rw [ofType, hnodes]
  · rw [← hentries, entries, List.length_map, Array.length_toList]
    rfl
  · intro id i
    rw [hplaced id i]
    simp [Array.getElem?_eq_some_iff]
  · intro node old typeName hold
    rw [ofType, hplaced.toList_upsert_of_mem hold]

example :
    (NodeMap.after [.upsert ⟨"a", "Post", "1", [], 0⟩, .upsert ⟨"b", "Post", "1", [], 0⟩,
      .upsert ⟨"a", "Draft", "2", [], 0⟩, .remove "a", .upsert ⟨"a", "Post", "3", [], 0⟩]).1.nodes.keys =
        ["b", "a"] := by decide

end NodeStore

end ContentQuery
