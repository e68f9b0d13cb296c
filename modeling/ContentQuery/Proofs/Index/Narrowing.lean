import ContentQuery.Index.Usage
import ContentQuery.Proofs.Index.Positions
import ContentQuery.Proofs.Node.Walks
import Mathlib.Data.List.Sort

/-!
# Indexes change cost, never answers

An index narrows a scan to the positions where a test can pass, and drops none of them
(`mem_of_narrow`): what a test demands of a value, the keys of that value meet. So a run over a
collection with indexes and a run over its nodes alone give the same answer
(`run_eq_run_plain`), whatever happened to the collection before.

The invariant is `NodeCollection.WellIndexed`: every index of a collection holds exactly the keys that
the nodes have now (`IndexTree.Indexes`). Each change of a collection keeps it
(`Reachable.wellIndexed`).
-/

namespace ContentQuery

/-! ## What an index holds -/

/-- The tree is the index of a path over some nodes: a position stands under a key exactly when the
node there has the key. -/
structure IndexTree.Indexes (t : IndexTree) (nodes : Array Node) (path : String) : Prop where
  ordered : t.Ordered
  mem_at : ∀ key p, p ∈ t.at_ key ↔ ∃ node, nodes[p]? = some node ∧ key ∈ node.keysAt path

namespace IndexTree.Indexes

variable {t : IndexTree} {nodes : Array Node} {path : String}

theorem lt_size (h : t.Indexes nodes path) {key : IndexKey} {p : Nat} (hp : p ∈ t.at_ key) :
    p < nodes.size := by
  obtain ⟨node, hnode, _⟩ := (h.mem_at key p).mp hp
  exact (Array.getElem?_eq_some_iff.mp hnode).1

end IndexTree.Indexes

theorem mem_keyedPositions {nodes : Array Node} {path : String} {key : IndexKey} {p : Nat} :
    (key, p) ∈ keyedPositions nodes path ↔
      ∃ node, nodes[p]? = some node ∧ key ∈ node.keysAt path := by
  simp only [keyedPositions, List.mem_flatMap, List.mem_map, Prod.mk.injEq]
  constructor
  · rintro ⟨⟨node, i⟩, hmem, k, hk, rfl, rfl⟩
    exact ⟨node, by simpa using List.mem_zipIdx_iff_getElem?.mp hmem, hk⟩
  · rintro ⟨node, hnode, hkey⟩
    exact ⟨(node, p), List.mem_zipIdx_iff_getElem?.mpr (by simpa using hnode), key, hkey, rfl, rfl⟩

/-- Inserting entries one by one puts each position under its key. -/
theorem IndexTree.foldl_insert (entries : List (IndexKey × Nat)) {t : IndexTree} (ht : t.Ordered) :
    let built := entries.foldl (fun tree (key, position) => tree.insert key position) t
    built.Ordered ∧ ∀ key p, p ∈ built.at_ key ↔ p ∈ t.at_ key ∨ (key, p) ∈ entries := by
  induction entries generalizing t with
  | nil => simpa using ht
  | cons entry rest ih =>
      obtain ⟨k, q⟩ := entry
      obtain ⟨hordered, hmem⟩ := ih (ht.insert k q)
      refine ⟨hordered, fun key p => ?_⟩
      rw [List.foldl_cons, hmem, IndexTree.mem_at_insert, List.mem_cons, or_assoc]
      exact or_left_comm

/-- **Building** an index yields the index of the path. -/
theorem NodeCollection.indexes_of_build {c : NodeCollection} {path : String} {tree : IndexTree}
    (h : c.build path = .ok tree) : tree.Indexes c.nodes path := by
  simp only [build] at h
  split at h
  · cases h
  · obtain rfl := Except.ok.inj h
    obtain ⟨hordered, hmem⟩ :=
      IndexTree.foldl_insert (keyedPositions c.nodes path) IndexTree.ordered_empty
    refine ⟨hordered, fun key p => ?_⟩
    rw [hmem, mem_keyedPositions]
    simp

/-! ## What a test demands of the keys -/

theorem exists_mem_of_mapM {α β : Type} {f : α → Option β} {as : List α} {bs : List β}
    (h : as.mapM f = some bs) {a : α} (ha : a ∈ as) : ∃ b, f a = some b ∧ b ∈ bs := by
  induction as generalizing bs with
  | nil => simp at ha
  | cons x rest ih =>
      rw [List.mapM_cons] at h
      obtain ⟨y, hy, h⟩ := Option.bind_eq_some_iff.mp h
      obtain ⟨ys, hys, h⟩ := Option.bind_eq_some_iff.mp h
      obtain rfl := Option.some.inj h
      rcases List.mem_cons.mp ha with rfl | ha
      · exact ⟨y, hy, by simp⟩
      · obtain ⟨b, hb, hmem⟩ := ih hys ha
        exact ⟨b, hb, by simp [hmem]⟩

theorem Json.items_of_ofJson? {v : Json} {key : IndexKey} (h : IndexKey.ofJson? v = some key) :
    v.items = [v] := by
  cases v <;> first | rfl | simp [IndexKey.ofJson?] at h

/-- A node has the keys of all elements that the path reaches. -/
theorem Node.mem_keysAt {n : Node} {path : String} {key : IndexKey} : key ∈ n.keysAt path ↔
    ∃ v, Path.Element n.body path v ∧ IndexKey.ofJson? v = some key := by
  rw [keysAt, List.mem_flatMap]
  constructor
  · rintro ⟨slot, hslot, hkey⟩
    cases slot with
    | value w =>
        obtain ⟨v, hv, hkey⟩ := List.mem_filterMap.mp hkey
        exact ⟨v, ⟨w, hslot, hv⟩, hkey⟩
    | absent => cases hkey
    | unreachable => cases hkey
  · rintro ⟨v, ⟨w, hw, hv⟩, hkey⟩
    exact ⟨.value w, hw, List.mem_filterMap.mpr ⟨v, hv, hkey⟩⟩

/-- The positions that a narrowed test leaves include every node on which the test passes. -/
theorem NodeCollection.mem_of_narrow {tree : IndexTree} {nodes : Array Node} {path : String}
    (ht : tree.Indexes nodes path) {test : Test} {positions : List Nat}
    (hnarrow : narrow tree test = some positions) {p : Nat} {n : Node} (hn : nodes[p]? = some n)
    {slot : Slot} (hslot : slot ∈ Path.lookup n.body path) (hpass : test.passes slot) :
    p ∈ positions := by
  -- Tests that an index narrows pass only on values that are there.
  cases slot with
  | absent => cases test <;> first | exact Bool.noConfusion hpass | simp [narrow] at hnarrow
  | unreachable => cases test <;> first | exact Bool.noConfusion hpass | simp [narrow] at hnarrow
  | value v =>
      have hat : ∀ {item key}, item ∈ v.items → IndexKey.ofJson? item = some key →
          p ∈ tree.at_ key := fun hitem hkey =>
        (ht.mem_at _ p).mpr ⟨n, hn, Node.mem_keysAt.mpr ⟨_, ⟨v, hslot, hitem⟩, hkey⟩⟩
      -- A value with a key is its own only item.
      have hself : ∀ {key}, IndexKey.ofJson? v = some key → p ∈ tree.at_ key := fun hkey =>
        hat (by simp [Json.items_of_ofJson? hkey]) hkey
      have hrange : ∀ {op bound key}, op ∈ Operator.comparisons → IndexKey.ofJson? bound = some key →
          op.meets bound v → p ∈ tree.between (op.low key) (op.high key) := by
        intro op bound key hop hbound hmeets
        obtain ⟨a, ha, hlow, hhigh⟩ := (Operator.meets_iff hop hbound).mp hmeets
        exact IndexTree.mem_between.mpr ⟨a, hlow, hhigh, hself ha⟩
      cases test <;> simp only [narrow, Option.map_eq_some_iff, reduceCtorEq] at hnarrow <;>
        obtain ⟨keys, hkeys, rfl⟩ := hnarrow
      case eq w => exact hself (by rw [IndexKey.ofJson?_eq_of_equals hpass, hkeys])
      case contains w =>
        obtain ⟨item, hitem, heq⟩ := List.any_eq_true.mp hpass
        exact hat hitem (by rw [IndexKey.ofJson?_eq_of_equals heq, hkeys])
      case oneOf vs =>
        obtain ⟨w, hw, heq⟩ := List.any_eq_true.mp hpass
        obtain ⟨key, hkey, hmem⟩ := exists_mem_of_mapM hkeys hw
        rw [IndexKey.ofJson?_eq_of_equals heq] at hkey
        exact IndexTree.mem_atAny.mpr ⟨key, hmem, hself hkey⟩
      case containsAny vs =>
        obtain ⟨item, hitem, hamong⟩ := List.any_eq_true.mp hpass
        obtain ⟨w, hw, heq⟩ := List.any_eq_true.mp hamong
        obtain ⟨key, hkey, hmem⟩ := exists_mem_of_mapM hkeys hw
        rw [IndexKey.ofJson?_eq_of_equals heq] at hkey
        exact IndexTree.mem_atAny.mpr ⟨key, hmem, hat hitem hkey⟩
      case lt bound =>
        obtain ⟨heq, -⟩ := Test.passesOn_eq_meets bound v
        exact @hrange .lt bound keys (by decide) hkeys (heq ▸ hpass)
      case lte bound =>
        obtain ⟨-, heq, -⟩ := Test.passesOn_eq_meets bound v
        exact @hrange .lte bound keys (by decide) hkeys (heq ▸ hpass)
      case gt bound =>
        obtain ⟨-, -, heq, -⟩ := Test.passesOn_eq_meets bound v
        exact @hrange .gt bound keys (by decide) hkeys (heq ▸ hpass)
      case gte bound =>
        obtain ⟨-, -, -, heq⟩ := Test.passesOn_eq_meets bound v
        exact @hrange .gte bound keys (by decide) hkeys (heq ▸ hpass)

/-- The positions that a narrowed test leaves are ascending positions of nodes. -/
theorem NodeCollection.ascending_of_narrow {tree : IndexTree} {nodes : Array Node} {path : String}
    (ht : tree.Indexes nodes path) {test : Test} {positions : List Nat}
    (hnarrow : narrow tree test = some positions) :
    Ascending positions ∧ ∀ p ∈ positions, p < nodes.size := by
  have hat (key : IndexKey) : Ascending (tree.at_ key) ∧ ∀ p ∈ tree.at_ key, p < nodes.size :=
    ⟨ht.ordered key, fun p => ht.lt_size⟩
  have hany (keys : List IndexKey) :
      Ascending (tree.atAny keys) ∧ ∀ p ∈ tree.atAny keys, p < nodes.size := by
    refine ⟨ascending_ascending _, fun p hp => ?_⟩
    obtain ⟨key, _, hp⟩ := IndexTree.mem_atAny.mp hp
    exact ht.lt_size hp
  have hbetween (low high : Bound) :
      Ascending (tree.between low high) ∧ ∀ p ∈ tree.between low high, p < nodes.size := by
    refine ⟨tree.ascending_between low high, fun p hp => ?_⟩
    obtain ⟨key, _, _, hp⟩ := IndexTree.mem_between.mp hp
    exact ht.lt_size hp
  cases test <;> simp only [narrow, Option.map_eq_some_iff, reduceCtorEq] at hnarrow <;>
    obtain ⟨keys, _, rfl⟩ := hnarrow <;> first | exact hat _ | exact hany _ | exact hbetween _ _

/-! ## Collections -/

namespace NodeCollection

/-- **The invariant**: every index of a collection belongs to the nodes it has now. -/
def WellIndexed (c : NodeCollection) : Prop :=
  ∀ path tree, (path, tree) ∈ c.indexes → tree.Indexes c.nodes path

/-- Collections that come about: one starts with some nodes and without indexes, is brought up to
date, and gets indexes one by one, by use, or for a sort. -/
inductive Reachable : NodeCollection → Prop
  | start (typeName : String) (maxEntries : Nat) (nodes : List Node) :
      Reachable ((empty typeName maxEntries).withNodes nodes)
  | sync {c : NodeCollection} (nodes : List Node) : Reachable c → Reachable (c.sync nodes).1
  | ensureIndex {c : NodeCollection} (path : String) :
      Reachable c → Reachable (c.ensureIndex path).1
  | record {c : NodeCollection} (usage : Usage) (p : Predicate) :
      Reachable c → Reachable (usage.record c p).2.1
  | indexSort {c : NodeCollection} (usage : Usage) (sort : SortSpec) :
      Reachable c → Reachable (usage.indexSort c sort).2

theorem WellIndexed.sync {c : NodeCollection} (h : c.WellIndexed) (nodes : List Node) :
    (c.sync nodes).1.WellIndexed := by
  unfold NodeCollection.sync
  split
  · exact h
  · intro path tree hmem
    simp only [List.mem_filterMap, List.mem_map] at hmem
    obtain ⟨⟨q, built⟩, ⟨⟨q', _⟩, _, heq⟩, hbuilt⟩ := hmem
    simp only [Prod.mk.injEq] at heq
    obtain ⟨rfl, rfl⟩ := heq
    cases hb : (c.withNodes nodes).build q' with
    | error e => simp [hb, Except.toOption] at hbuilt
    | ok built =>
        simp only [hb, Except.toOption, Option.map_some, Option.some.injEq, Prod.mk.injEq] at hbuilt
        obtain ⟨rfl, rfl⟩ := hbuilt
        exact indexes_of_build hb

theorem WellIndexed.ensureIndex {c : NodeCollection} (h : c.WellIndexed) (path : String) :
    (c.ensureIndex path).1.WellIndexed := by
  unfold NodeCollection.ensureIndex
  split
  · exact h
  · split
    · next tree hbuild =>
        intro q t hmem
        rcases List.mem_append.mp hmem with hmem | hmem
        · exact h q t hmem
        · obtain ⟨rfl, rfl⟩ := Prod.mk.inj (List.mem_singleton.mp hmem)
          exact indexes_of_build hbuild
    · exact h

/-- What the indexing of one path keeps, that of several keeps. -/
theorem of_ensureAll {P : NodeCollection → Prop}
    (hensure : ∀ c path, P c → P (c.ensureIndex path).1) (paths : List String) {c : NodeCollection}
    (h : P c) (usage : Usage) : P (usage.ensureAll c paths).2.1 := by
  induction paths generalizing c usage with
  | nil => exact h
  | cons path rest ih =>
      have hfirst : P (usage.ensure c path).2.1 := by
        have hindexed := hensure c path h
        unfold Usage.ensure
        split <;> rename_i heq <;> rw [heq] at hindexed <;> exact hindexed
      exact ih hfirst _

theorem WellIndexed.ensureAll (paths : List String) {c : NodeCollection} (h : c.WellIndexed)
    (usage : Usage) : (usage.ensureAll c paths).2.1.WellIndexed :=
  of_ensureAll (fun _ path hc => hc.ensureIndex path) paths h usage

theorem Reachable.wellIndexed {c : NodeCollection} (h : c.Reachable) : c.WellIndexed := by
  induction h with
  | start => intro path tree hmem; cases hmem
  | sync nodes _ ih => exact ih.sync nodes
  | ensureIndex path _ ih => exact ih.ensureIndex path
  | record usage p _ ih => exact ih.ensureAll _ _
  | indexSort usage sort _ ih => exact ih.ensureAll _ _

end NodeCollection

/-! ## Runs -/

/-- What a source offers for a test: ascending positions of its nodes that include every node on
which the test passes. -/
structure NodeSource.Offers (source : NodeSource) (path : String) (test : Test)
    (positions : List Nat) : Prop where
  ascending : Ascending positions
  lt_size : ∀ p ∈ positions, p < source.nodes.size
  complete : ∀ p node, source.nodes[p]? = some node →
    (∃ slot ∈ Path.lookup node.body path, test.passes slot) → p ∈ positions

/-- A source keeps its word about candidates. -/
def NodeSource.Sound (source : NodeSource) : Prop :=
  ∀ path test positions, source.candidates path test = some positions →
    source.Offers path test positions

@[simp] theorem NodeSource.nodes_plain (nodes : List Node) :
    (NodeSource.plain nodes).nodes = nodes.toArray := rfl

theorem NodeSource.sound_plain (nodes : List Node) : (NodeSource.plain nodes).Sound :=
  fun _ _ _ h => nomatch h

/-- **Indexes keep their word.** -/
theorem NodeCollection.WellIndexed.sound {c : NodeCollection} (h : c.WellIndexed) :
    c.source.Sound := by
  intro path test positions hc
  obtain ⟨tree, hlookup, hnarrow⟩ := Option.bind_eq_some_iff.mp hc
  obtain ⟨before, after, heq, _⟩ := List.lookup_eq_some_iff.mp hlookup
  have ht : tree.Indexes c.nodes path := h path tree (by simp [heq])
  obtain ⟨hasc, hlt⟩ := ascending_of_narrow ht hnarrow
  exact ⟨hasc, hlt, fun p node hn ⟨slot, hslot, hpass⟩ => mem_of_narrow ht hnarrow hn hslot hpass⟩

namespace Run

/-- Every list of candidates is offered for a test of the predicate. -/
theorem exists_of_mem_candidateLists {source : NodeSource} {p : Predicate} {l : List Nat}
    (h : l ∈ candidateLists source p) :
    ∃ path ts test, Condition.tests path ts ∈ p ∧ test ∈ ts ∧
      source.candidates path test = some l := by
  obtain ⟨condition, hcondition, hl⟩ := List.mem_flatMap.mp h
  cases condition with
  | tests path ts =>
      obtain ⟨test, htest, hl⟩ := List.mem_filterMap.mp hl
      exact ⟨path, ts, test, hcondition, htest, hl⟩
  | elements path inner => simp at hl

end Run

/-- A body that satisfies a predicate satisfies each of its conditions. -/
theorem Predicate.holdsCondition_of_mem {body : Json.Object} {p : Predicate} {c : Condition}
    (h : holds body p) (hc : c ∈ p) : holdsCondition body c := by
  induction p with
  | nil => cases hc
  | cons first rest ih =>
      rw [holds, Bool.and_eq_true] at h
      rcases List.mem_cons.mp hc with rfl | hc
      · exact h.1
      · exact ih h.2 hc

namespace Run

/-- The positions to look at are ascending positions of nodes, and include every node that satisfies
the predicate. -/
theorem of_candidates? {source : NodeSource} (hs : source.Sound) {p : Predicate}
    {positions : List Nat} (h : candidates? source p = some positions) :
    Ascending positions ∧ (∀ i ∈ positions, i < source.nodes.size) ∧
      ∀ i node, source.nodes[i]? = some node → p.holds node.body → i ∈ positions := by
  unfold candidates? at h
  have hoffer : ∀ l ∈ candidateLists source p, Ascending l ∧ (∀ i ∈ l, i < source.nodes.size) ∧
      ∀ i node, source.nodes[i]? = some node → p.holds node.body → i ∈ l := by
    intro l hl
    obtain ⟨path, ts, test, hcondition, htest, hcandidates⟩ := exists_of_mem_candidateLists hl
    have offer := hs path test l hcandidates
    refine ⟨offer.ascending, offer.lt_size, ?_⟩
    intro i node hnode hholds
    apply offer.complete i node hnode
    have hcond := Predicate.holdsCondition_of_mem hholds hcondition
    rw [Predicate.holdsCondition] at hcond
    exact List.any_eq_true.mp (List.all_eq_true.mp hcond test htest)
  cases hlists : candidateLists source p with
  | nil => simp [hlists] at h
  | cons first rest =>
      rw [hlists] at h hoffer
      obtain rfl := Option.some.inj h
      have hfirst := hoffer first (by simp)
      have hrest : ∀ l ∈ rest, Ascending l := fun l hl => (hoffer l (by simp [hl])).1
      refine ⟨ascending_foldl_common hfirst.1, ?_, ?_⟩
      · intro i hi
        rw [mem_foldl_common hfirst.1 hrest] at hi
        exact hfirst.2.1 i (hi first (by simp))
      · intro i node hnode hholds
        rw [mem_foldl_common hfirst.1 hrest]
        intro l hl
        exact (hoffer l hl).2.2 i node hnode hholds

theorem filterMap_getElem?_range {α : Type} (l : List α) :
    (List.range l.length).filterMap (l[·]?) = l := by
  induction l with
  | nil => rfl
  | cons a rest ih =>
      rw [List.length_cons, List.range_succ_eq_map, List.filterMap_cons, List.filterMap_map]
      simpa [Function.comp_def] using ih

/-- Looking only at some positions finds all that looking everywhere finds, in the same order, if
what is looked for stands nowhere else. -/
theorem filter_scan {nodes : Array Node} {positions : List Nat} (hasc : Ascending positions)
    (hlt : ∀ i ∈ positions, i < nodes.size) {q : Node → Bool}
    (hall : ∀ i node, nodes[i]? = some node → q node → i ∈ positions) :
    (positions.filterMap (nodes[·]?)).filter q = nodes.toList.filter q := by
  have heverywhere : nodes.toList = (List.range nodes.size).filterMap (nodes[·]?) := by
    simpa using (filterMap_getElem?_range nodes.toList).symm
  -- Both sides become filters of all positions, which can be compared one by one.
  have hpositions : positions = (List.range nodes.size).filter (positions.contains ·) := by
    refine hasc.eq_of_mem_iff (List.pairwise_lt_range.filter _) fun i => ?_
    simp only [List.mem_filter, List.mem_range, List.contains_iff_mem]
    exact ⟨fun hi => ⟨hlt i hi, hi⟩, fun hi => hi.2⟩
  rw [heverywhere, hpositions, List.filterMap_filter, List.filter_filterMap, List.filter_filterMap]
  apply List.filterMap_congr
  intro i _
  cases hnode : nodes[i]? with
  | none => simp
  | some node =>
      by_cases hq : q node
      · have hi : i ∈ positions := hall i node hnode hq
        simp [hi]
      · by_cases hi : i ∈ positions <;> simp [hi, hq, Option.filter]

/-- The nodes that satisfy the predicate are found whatever the source offers. -/
theorem filter_scan_candidates? {source : NodeSource} (hs : source.Sound) (p : Predicate) :
    (scan source (candidates? source p)).filter (fun n => p.holds n.body) =
      source.nodes.toList.filter fun n => p.holds n.body := by
  cases h : candidates? source p with
  | none => rfl
  | some positions =>
      obtain ⟨hasc, hlt, hall⟩ := of_candidates? hs h
      exact filter_scan hasc hlt hall

end Run

/-- Running a sound source gives the answer of its nodes alone. -/
theorem NodeSource.Sound.map_answer_run {source : NodeSource} (hs : source.Sound) (p : Predicate)
    (sort : Option SortSpec) (firstOnly : Bool) :
    (source.run p sort firstOnly).map Run.answer =
      ((NodeSource.plain source.nodes.toList).run p sort firstOnly).map Run.answer := by
  have hfound := Run.filter_scan_candidates? hs p
  have hplain := Run.filter_scan_candidates? (NodeSource.sound_plain source.nodes.toList) p
  unfold run
  cases p.unknown? with
  | some operator => rfl
  | none => simp [Except.map, hfound, hplain]

/-- Running a sound source evaluates the predicate on no more nodes than there are. -/
theorem NodeSource.Sound.scanned_le {source : NodeSource} (hs : source.Sound) {p : Predicate}
    {sort : Option SortSpec} {firstOnly : Bool} {r : Run}
    (h : source.run p sort firstOnly = .ok r) : r.scanned ≤ source.nodes.size := by
  unfold run at h
  cases hu : p.unknown? with
  | some operator => simp [hu] at h
  | none =>
      simp only [hu, Except.ok.injEq] at h
      subst h
      cases hpositions : Run.candidates? source p with
      | none => exact Nat.le_refl _
      | some positions =>
          obtain ⟨hasc, hlt, _⟩ := Run.of_candidates? hs hpositions
          exact hasc.length_le hlt

/-- **Indexes change cost, never answers.** Whatever happened to a collection, running a predicate
over it gives the answer, or the error, of running it over the nodes alone, and looks at no more
nodes than there are. -/
theorem NodeCollection.run_eq_run_plain {c : NodeCollection} (h : c.Reachable) (p : Predicate)
    (sort : Option SortSpec) (firstOnly : Bool) :
    (c.source.run p sort firstOnly).map Run.answer =
        ((NodeSource.plain c.nodes.toList).run p sort firstOnly).map Run.answer ∧
      ∀ r, c.source.run p sort firstOnly = .ok r → r.scanned ≤ c.nodes.size :=
  have hs : c.source.Sound := h.wellIndexed.sound
  ⟨hs.map_answer_run p sort firstOnly, fun _ hr => hs.scanned_le hr⟩

/-- Three nodes that came one after the other, two of them with a zero, under an index on `n`. -/
def NodeCollection.counted : NodeCollection :=
  let node (id : String) (n : Number) (stamp : Nat) : Node :=
    { id, typeName := "Count", digest := "", body := [("n", .number n)], stamp }
  let first := node "a" (.int 3) 0
  let start := ((empty "Count" 10).withNodes [first]).ensureIndex "n"
  (start.1.sync [first, node "b" (.float (.zero true)) 1, node "c" (.int 0) 2]).1

/-- Both zeros stand under the key of `0`, and the run that only looks at them finds what a run over
all nodes finds. -/
theorem NodeCollection.run_counted_eq_run_plain :
    counted.candidates "n" (.eq (.number (.int 0))) = some [1, 2] ∧
      (counted.source.run [.tests "n" [.eq (.number (.int 0))]] none false).map Run.answer =
          ((NodeSource.plain counted.nodes.toList).run
            [.tests "n" [.eq (.number (.int 0))]] none false).map Run.answer ∧
        ∀ r, counted.source.run [.tests "n" [.eq (.number (.int 0))]] none false = .ok r →
          r.scanned ≤ counted.nodes.size :=
  ⟨by decide, run_eq_run_plain (.sync _ (.ensureIndex "n" (.start "Count" 10 _))) _ _ _⟩

end ContentQuery
