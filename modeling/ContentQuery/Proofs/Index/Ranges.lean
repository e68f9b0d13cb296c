import ContentQuery.Proofs.Index.Positions
import Mathlib.Data.List.Dedup
import Mathlib.Data.List.DropRight

/-!
# Ranges of an index

An ordered map refuses some ranges, and an index is cautious not to ask it for one of these
(**`IndexTree.between?_eq_some`**). What it gives instead is what was put in: an index holds the entries
that were inserted since it was last cleared, each of them once (`IndexTree.Holds`), whatever happened to
it in whatever order (**`IndexTree.holds_run`**).

* **`IndexTree.ranges_exact`**: a range gives the positions inserted under the keys that both ends allow,
  and entries and keys are counted without repetition.
-/

namespace ContentQuery

/-! ## Ranges that are refused -/

namespace Bound

/-- An ordered map refuses a range whose ends lie the wrong way round, or meet with neither of them
belonging to the range. -/
def refused : Bound → Bound → Bool
  | .closed low, .closed high | .closed low, .opened high | .opened low, .closed high =>
    compare low high == .gt
  | .opened low, .opened high => compare low high != .lt
  | .none, _ | _, .none => false

/-- Ends that leave room are never refused. -/
theorem refused_eq_false {low high : Bound} (h : crossed low high = false) :
    refused low high = false := by
  cases low with
  | none => rfl
  | closed low =>
      cases high with
      | none => rfl
      | closed high => exact h
      | opened high => simp_all [crossed, refused]
  | opened low =>
      cases high with
      | none => rfl
      | closed high => simp_all [crossed, refused]
      | opened high => exact h

end Bound

namespace IndexTree

/-- Entries with keys in a range, as an ordered map gives them unless it refuses the range. -/
def range? (t : IndexTree) (low high : Bound) : Option (List (IndexKey × List Nat)) :=
  if Bound.refused low high then none
  else some (t.positions.toList.filter fun (key, _) => low.allowsFrom key && high.allowsTo key)

/-- Positions in a range. The map is only asked for a range with room. -/
def between? (t : IndexTree) (low high : Bound) : Option (List Nat) :=
  if Bound.crossed low high then some []
  else (t.range? low high).map fun entries => ascending (entries.flatMap Prod.snd)

/-- **No range is refused** that an index asks for. -/
theorem between?_eq_some (t : IndexTree) (low high : Bound) :
    t.between? low high = some (t.between low high) := by
  by_cases hroom : Bound.crossed low high = false
  · rw [between?, between, dif_pos hroom, if_neg (by simp [hroom]), range?,
      if_neg (by simp [Bound.refused_eq_false hroom])]
    rfl
  · rw [between?, between, dif_neg hroom, if_pos (by simpa using hroom)]

/-! ## Entries -/

/-- Each entry of a tree: a key with one of its positions. -/
def pairs (t : IndexTree) : List (IndexKey × Nat) :=
  t.positions.toList.flatMap fun (key, positions) => positions.map (key, ·)

theorem mem_pairs {t : IndexTree} {key : IndexKey} {p : Nat} :
    (key, p) ∈ t.pairs ↔ p ∈ t.at_ key := by
  simp only [pairs, List.mem_flatMap, List.mem_map, Prod.mk.injEq]
  constructor
  · rintro ⟨⟨k, positions⟩, hmem, q, hq, rfl, rfl⟩
    rw [at_, mem_toList.mp hmem]
    exact hq
  · intro hp
    cases hkey : t.positions[key]? with
    | none => simp [at_, hkey] at hp
    | some positions =>
        exact ⟨(key, positions), mem_toList.mpr hkey, p, by simpa [at_, hkey] using hp, rfl, rfl⟩

theorem Ordered.nodup_pairs {t : IndexTree} (h : t.Ordered) : t.pairs.Nodup := by
  refine List.nodup_flatMap.mpr ⟨?_, ?_⟩
  · rintro ⟨key, positions⟩ hmem
    have hat : t.at_ key = positions := by rw [at_, mem_toList.mp hmem, Option.getD_some]
    have hasc : Ascending positions := hat ▸ h key
    exact List.Nodup.map (fun _ _ heq => (Prod.mk.inj heq).2) (hasc.imp Nat.ne_of_lt)
  · -- Entries of the map differ in the key.
    refine t.positions.distinct_keys_toList.imp fun {a b} hkeys => ?_
    intro entry ha hb
    obtain ⟨p, _, rfl⟩ := List.mem_map.mp ha
    obtain ⟨q, _, heq⟩ := List.mem_map.mp hb
    have heq : b.1 = a.1 := (Prod.mk.inj heq).1
    exact hkeys (by rw [heq, Std.ReflOrd.compare_self])

theorem entryCount_eq (t : IndexTree) : t.entryCount = t.pairs.length := by
  have hsum : ∀ (entries : List (IndexKey × List Nat)) (n : Nat),
      entries.foldl (fun n entry => n + entry.2.length) n =
        n + (entries.flatMap fun (key, positions) => positions.map (key, ·)).length := by
    intro entries
    induction entries with
    | nil => intro n; rfl
    | cons entry rest ih =>
        intro n
        rw [List.foldl_cons, ih, List.flatMap_cons, List.length_append, List.length_map,
          Nat.add_assoc]
  rw [entryCount, Std.TreeMap.foldl_eq_foldl_toList, hsum, Nat.zero_add]
  rfl

/-- **The invariant**: a tree holds some entries, and no key without one. -/
structure Holds (t : IndexTree) (entries : List (IndexKey × Nat)) : Prop where
  ordered : t.Ordered
  mem_at : ∀ key p, p ∈ t.at_ key ↔ (key, p) ∈ entries
  mem_keys : ∀ key, key ∈ t.positions ↔ ∃ p, (key, p) ∈ entries

namespace Holds

variable {t : IndexTree} {entries : List (IndexKey × Nat)}

theorem empty : IndexTree.empty.Holds [] where
  ordered := ordered_empty
  mem_at := by simp
  mem_keys := by simp [IndexTree.empty]

theorem insert (h : t.Holds entries) (key : IndexKey) (position : Nat) :
    (t.insert key position).Holds (entries ++ [(key, position)]) where
  ordered := h.ordered.insert key position
  mem_at k p := by
    rw [mem_at_insert, h.mem_at, List.mem_append, List.mem_singleton, or_comm]
  mem_keys k := by
    simp only [IndexTree.insert, Std.TreeMap.mem_insert, h.mem_keys, List.mem_append,
      List.mem_singleton, Prod.mk.injEq, exists_or, Std.LawfulEqOrd.compare_eq_iff_eq]
    rw [or_comm]
    simp [eq_comm]

theorem mem_between (h : t.Holds entries) {low high : Bound} {p : Nat} :
    p ∈ t.between low high ↔
      ∃ key, (key, p) ∈ entries ∧ low.allowsFrom key ∧ high.allowsTo key := by
  rw [IndexTree.mem_between]
  refine exists_congr fun key => ?_
  rw [h.mem_at, ← and_assoc, and_comm]

/-- Entries are counted without repetition. -/
theorem entryCount_eq (h : t.Holds entries) : t.entryCount = entries.dedup.length := by
  rw [IndexTree.entryCount_eq]
  refine ((List.perm_ext_iff_of_nodup h.ordered.nodup_pairs entries.nodup_dedup).mpr ?_).length_eq
  rintro ⟨key, p⟩
  rw [mem_pairs, h.mem_at, List.mem_dedup]

/-- Keys are counted without repetition. -/
theorem keyCount_eq (h : t.Holds entries) :
    t.keyCount = (entries.map Prod.fst).dedup.length := by
  have hnodup : t.positions.keys.Nodup := by
    refine t.positions.distinct_keys.imp fun {a b} hne heq => hne ?_
    rw [heq, Std.ReflOrd.compare_self]
  rw [keyCount, ← Std.TreeMap.length_keys]
  refine ((List.perm_ext_iff_of_nodup hnodup (List.nodup_dedup _)).mpr ?_).length_eq
  intro key
  rw [Std.TreeMap.mem_keys, h.mem_keys, List.mem_dedup, List.mem_map]
  simp

end Holds

/-! ## Anything in any order -/

/-- What may happen to an index. -/
inductive Event where
  | insert (key : IndexKey) (position : Nat)
  | clear

/-- The entry that an event puts in. -/
def Event.added? : Event → Option (IndexKey × Nat)
  | .insert key position => some (key, position)
  | .clear => none

def step (t : IndexTree) : Event → IndexTree
  | .insert key position => t.insert key position
  | .clear => t.clear

/-- The index after some events. -/
def run (events : List Event) : IndexTree := events.foldl step empty

/-- The entries put in since the index was last cleared. -/
def inserted (events : List Event) : List (IndexKey × Nat) :=
  (events.rtakeWhile fun event => event.added?.isSome).filterMap Event.added?

/-- **An index holds what was inserted** since it was last cleared. -/
theorem holds_run (events : List Event) : (run events).Holds (inserted events) := by
  -- The induction is on the end of the run, where the last event is.
  induction events using List.reverseRecOn with
  | nil => exact Holds.empty
  | append_singleton events event ih =>
      rw [run, List.foldl_append, List.foldl_cons, List.foldl_nil, ← run, inserted,
        List.rtakeWhile_concat]
      cases event with
      | clear => exact Holds.empty
      | insert key position =>
          have hputs : (Event.insert key position).added?.isSome := rfl
          rw [if_pos hputs, List.filterMap_append]
          exact ih.insert key position

/-- **Ranges are exact.** Whatever was inserted into an index and whenever it was cleared,

* a range, wherever its ends lie, is one that is not refused, and gives in ascending order, each once,
  the positions inserted under the keys that both ends allow;
* the numbers of its entries and of its keys are those of the different entries and keys inserted. -/
theorem ranges_exact (events : List Event) :
    let t := run events
    let entries := inserted events
    (∀ low high,
      t.between? low high = some (t.between low high) ∧
      Ascending (t.between low high) ∧
      ∀ p, p ∈ t.between low high ↔
        ∃ key, (key, p) ∈ entries ∧ low.allowsFrom key ∧ high.allowsTo key) ∧
    t.entryCount = entries.dedup.length ∧
    t.keyCount = (entries.map Prod.fst).dedup.length := by
  intro t entries
  have h : t.Holds entries := holds_run events
  refine ⟨fun low high => ⟨t.between?_eq_some low high, t.ascending_between low high, ?_⟩,
    h.entryCount_eq, h.keyCount_eq⟩
  intro p
  exact h.mem_between

end IndexTree

end ContentQuery
