import ContentQuery.Proofs.Index.KeyOrder
import ContentQuery.Proofs.Node.Walks
import ContentQuery.Proofs.Query.Sorting
import ContentQuery.Query.Projection

/-!
# Values and groups agree

The different values at a path are sorted in one order and told apart by another equality: `1` and
`1.0` are equal, and so are the two zeros, of which one comes before the other. Both are visible in
index keys (**`Json.equals_iff`**, **`Json.isLE_key`**), in which equal values lie next to each other.

Groups are found one value at a time, before they are sorted. What one node adds to them is said by
the keys of the groups and the nodes of each key (**`Group.keys_addNode`**, **`Group.nodesOf_addNode`**).

* **`distinct_and_groups`**: values and groups have the same keys in the same order, nothing is lost,
  and each group has exactly the nodes with its value.
-/

namespace ContentQuery

open IndexKey (ofJson?)

/-! ## Keys in order -/

/-- A key comes before another one. -/
def Ascends (a b : Option IndexKey) : Prop := compare a b = .lt

namespace Ascends

variable {a b c : Option IndexKey}

theorem trans (hab : Ascends a b) (hbc : Ascends b c) : Ascends a c :=
  Std.TransCmp.lt_trans hab hbc

theorem of_ne (hle : (compare a b).isLE) (hne : a ≠ b) : Ascends a b := by
  rcases Ordering.isLE_iff_eq_lt_or_eq_eq.mp hle with hlt | heq
  · exact hlt
  · exact absurd (Std.LawfulEqOrd.eq_of_compare heq) hne

instance : Std.Irrefl Ascends where
  irrefl a h := by simp [Ascends] at h

instance : Std.Antisymm Ascends where
  antisymm a _ hab hba := absurd (hab.trans hba) (Std.Irrefl.irrefl a)

end Ascends

/-! ## Scalars and their keys -/

theorem Binary64.totalKey_lt {x y : Binary64} (h : x.valueKey < y.valueKey) :
    x.totalKey < y.totalKey := by
  cases hx : x.negative <;> cases hy : y.negative <;> simp [valueKey, totalKey, hx, hy] at h ⊢ <;> omega

namespace Json

variable {a b v : Json}

/-- Scalars with different keys come in the order of their keys. -/
theorem order_eq_lt (ha : a.isScalar) (hb : b.isScalar)
    (h : Ascends (ofJson? a) (ofJson? b)) : order a b = .lt := by
  cases a <;> cases b
  case number.number x y =>
    have hword : compare x.toBinary64.orderWord y.toBinary64.orderWord = .lt := h
    rw [Binary64.compare_orderWord, Int.compare_eq_lt] at hword
    exact Int.compare_eq_lt.mpr (Binary64.totalKey_lt hword)
  case bool.bool x y => exact h
  case string.string x y => exact h
  -- Kinds come in one order, and nulls, lists and objects are no scalars.
  all_goals first
    | rfl
    | exact Bool.noConfusion ha
    | exact Bool.noConfusion hb
    | exact Ordering.noConfusion h

/-- **Values in order** have their keys in order. -/
theorem isLE_key (ha : a.isScalar) (hb : b.isScalar) (h : (order a b).isLE) :
    (compare (ofJson? a) (ofJson? b)).isLE := by
  rw [← Ordering.ne_gt_iff_isLE]
  intro hgt
  have hlt : order b a = .lt := order_eq_lt hb ha (Std.OrientedCmp.lt_of_gt hgt)
  rw [order_swap, hlt] at h
  cases h

/-- A value with the key of a scalar is one. -/
theorem isScalar_of_mem_keys {vs : List Json} (hscalar : ∀ v ∈ vs, v.isScalar)
    (h : ofJson? a ∈ vs.map ofJson?) : a.isScalar := by
  obtain ⟨v, hv, hkey⟩ := List.mem_map.mp h
  rw [isScalar_iff, ← hkey, ← isScalar_iff]
  exact hscalar v hv

theorem mem_scalars {w : Json} : v ∈ w.scalars ↔ v ∈ w.items ∧ v.isScalar := by
  cases w <;> exact List.mem_filter

end Json

/-! ## Values without repetition -/

namespace Json

variable {vs : List Json}

theorem dropRepeats_sublist (vs : List Json) : (dropRepeats vs).Sublist vs := by
  induction vs with
  | nil => exact List.Sublist.refl []
  | cons v rest ih =>
      rw [dropRepeats]
      split
      · exact (List.nil_sublist rest).cons_cons v
      · next w more hrest =>
        rw [hrest] at ih
        split
        · exact ((List.sublist_cons_self w more).trans ih).cons_cons v
        · exact ih.cons_cons v

theorem mem_keys_dropRepeats {key : Option IndexKey} :
    key ∈ (dropRepeats vs).map ofJson? ↔ key ∈ vs.map ofJson? := by
  induction vs with
  | nil => rfl
  | cons v rest ih =>
      rw [List.map_cons, List.mem_cons, ← ih, dropRepeats]
      split
      · next hrest => simp [hrest]
      · next w more hrest =>
        rw [hrest]
        split
        · next heq => simp [IndexKey.ofJson?_eq_of_equals heq]
        · simp

/-- The keys of sorted scalars without repetition ascend. -/
theorem pairwise_dropRepeats (hscalar : ∀ v ∈ vs, v.isScalar)
    (h : vs.Pairwise fun a b => (order a b).isLE) :
    (dropRepeats vs).Pairwise fun a b => Ascends (ofJson? a) (ofJson? b) := by
  induction vs with
  | nil => exact .nil
  | cons v rest ih =>
      obtain ⟨hv, hrest⟩ := List.forall_mem_cons.mp hscalar
      obtain ⟨hle, htail⟩ := List.pairwise_cons.mp h
      have hkept := ih hrest htail
      rw [dropRepeats]
      split
      · exact List.pairwise_singleton _ v
      · next w more heq =>
        rw [heq] at hkept
        obtain ⟨hmore, hlast⟩ := List.pairwise_cons.mp hkept
        have hw : w ∈ rest := (dropRepeats_sublist rest).subset (by simp [heq])
        split
        · next hrepeat =>
          rw [IndexKey.ofJson?_eq_of_equals hrepeat] at hmore
          exact List.pairwise_cons.mpr ⟨hmore, hlast⟩
        · next hnew =>
          -- The value differs from the next one kept, and comes before it.
          have hne : ofJson? v ≠ ofJson? w := fun hkey => hnew ((equals_iff hv).mpr hkey.symm)
          have hvw := Ascends.of_ne (isLE_key hv (hrest w hw) (hle w hw)) hne
          refine List.pairwise_cons.mpr ⟨?_, hkept⟩
          intro u hu
          rcases List.mem_cons.mp hu with rfl | hu
          · exact hvw
          · exact hvw.trans (hmore u hu)

end Json

/-! ## Scalars of a node -/

namespace Node

variable {n : Node} {path : String} {v : Json}

/-- A node has the scalars among the elements that the path reaches. -/
theorem mem_scalarsAt : v ∈ n.scalarsAt path ↔ Path.Element n.body path v ∧ v.isScalar := by
  rw [scalarsAt, List.mem_flatMap]
  constructor
  · rintro ⟨slot, hslot, hv⟩
    cases slot with
    | value w =>
        obtain ⟨hv, hscalar⟩ := Json.mem_scalars.mp hv
        exact ⟨⟨w, hslot, hv⟩, hscalar⟩
    | absent => cases hv
    | unreachable => cases hv
  · rintro ⟨⟨w, hw, hv⟩, hscalar⟩
    exact ⟨.value w, hw, Json.mem_scalars.mpr ⟨hv, hscalar⟩⟩

theorem isScalar_of_mem_scalarsAt (h : v ∈ n.scalarsAt path) : v.isScalar := (mem_scalarsAt.mp h).2

/-- Keys of the scalars at a path. -/
def scalarKeysAt (n : Node) (path : String) : List (Option IndexKey) :=
  (n.scalarsAt path).map ofJson?

theorem any_equals_iff (hv : v.isScalar) :
    (n.scalarsAt path).any (·.equals v) ↔ ofJson? v ∈ n.scalarKeysAt path := by
  simp [scalarKeysAt, Json.equals_iff hv]

end Node

/-! ## Keys noted one by one -/

/-- Notes an element that was not noted before. -/
def note {α : Type} [DecidableEq α] (noted : List α) (a : α) : List α :=
  if a ∈ noted then noted else noted ++ [a]

section Note

variable {α : Type} [DecidableEq α] {noted : List α}

theorem mem_foldl_note {as : List α} {b : α} : b ∈ as.foldl note noted ↔ b ∈ noted ∨ b ∈ as := by
  induction as generalizing noted with
  | nil => simp
  | cons a as ih =>
      rw [List.foldl_cons, ih, note]
      split <;> grind

theorem nodup_foldl_note {as : List α} (h : noted.Nodup) : (as.foldl note noted).Nodup := by
  induction as generalizing noted with
  | nil => exact h
  | cons a as ih =>
      apply ih
      rw [note]
      split
      · exact h
      · next hnew => exact h.append (List.nodup_singleton a) (by simpa using hnew)

/-- What notes the keys of scalars step by step notes those of all of them. -/
theorem foldl_note {β : Type} {keys : β → List (Option IndexKey)} {step : β → Json → β}
    (hstep : ∀ b v, v.isScalar → keys (step b v) = note (keys b) (ofJson? v)) {vs : List Json}
    (hscalar : ∀ v ∈ vs, v.isScalar) (b : β) :
    keys (vs.foldl step b) = (vs.map ofJson?).foldl note (keys b) := by
  induction vs generalizing b with
  | nil => rfl
  | cons v vs ih =>
      obtain ⟨hv, hvs⟩ := List.forall_mem_cons.mp hscalar
      rw [List.foldl_cons, ih hvs, hstep b v hv]
      rfl

end Note

/-! ## Groups -/

namespace Group

variable {key : Option IndexKey} {groups : List Group} {n : Node} {path : String} {v : Json}

/-- Keys of the groups' values. -/
def keys (groups : List Group) : List (Option IndexKey) := groups.map fun g => ofJson? g.value

/-- Nodes in the first group of a key. -/
def nodesOf (key : Option IndexKey) : List Group → List Node
  | [] => []
  | g :: rest => if ofJson? g.value = key then g.nodes else nodesOf key rest

/-- Where each key has one group, its nodes are the nodes of the key. -/
theorem nodesOf_of_mem (h : (keys groups).Nodup) {g : Group} (hg : g ∈ groups) :
    nodesOf (ofJson? g.value) groups = g.nodes := by
  induction groups with
  | nil => cases hg
  | cons first rest ih =>
      obtain ⟨hfirst, hrest⟩ := List.nodup_cons.mp h
      rcases List.mem_cons.mp hg with rfl | hg
      · exact if_pos rfl
      · -- Otherwise the first group would have the key of `g`, which comes later.
        have hne : ofJson? first.value ≠ ofJson? g.value := by
          intro heq
          exact hfirst (List.mem_map.mpr ⟨g, hg, heq.symm⟩)
        rw [nodesOf, if_neg hne]
        exact ih hrest hg

/-! ### One value -/

theorem keys_add (hv : v.isScalar) : keys (add v n groups) = note (keys groups) (ofJson? v) := by
  induction groups with
  | nil => rfl
  | cons g rest ih =>
      simp only [add, Json.equals_iff hv]
      split
      · next heq => simp [note, keys, heq]
      · next hne =>
        change ofJson? g.value :: keys (add v n rest) = note (ofJson? g.value :: keys rest) _
        have hiff : ofJson? v ∈ ofJson? g.value :: keys rest ↔ ofJson? v ∈ keys rest := by
          simp [Ne.symm hne]
        simp only [ih, note, hiff]
        split <;> rfl

theorem nodesOf_add (hv : v.isScalar) : nodesOf key (add v n groups) =
    if key = ofJson? v then nodesOf key groups ++ [n] else nodesOf key groups := by
  induction groups with
  | nil => simp [add, nodesOf, eq_comm]
  | cons g rest ih =>
      simp only [add, Json.equals_iff hv]
      split <;> grind [nodesOf]

theorem nodesOf_foldl_add {vs : List Json} (hscalar : ∀ v ∈ vs, v.isScalar)
    (hnodup : (vs.map ofJson?).Nodup) :
    nodesOf key (vs.foldl (fun groups v => add v n groups) groups) =
      if key ∈ vs.map ofJson? then nodesOf key groups ++ [n] else nodesOf key groups := by
  induction vs generalizing groups with
  | nil => rfl
  | cons v vs ih =>
      obtain ⟨hv, hvs⟩ := List.forall_mem_cons.mp hscalar
      obtain ⟨hnew, hrest⟩ := List.nodup_cons.mp hnodup
      -- The key of `v` does not come again, so the node is added to its group once.
      rw [List.foldl_cons, ih hvs hrest, nodesOf_add hv, List.map_cons]
      grind

/-! ### One node -/

/-- Adds a value to those seen in a node, unless it is one of them. -/
def see (seen : List Json) (v : Json) : List Json :=
  if seen.any (·.equals v) then seen else seen ++ [v]

theorem keys_see (seen : List Json) (v : Json) (hv : v.isScalar) :
    (see seen v).map ofJson? = note (seen.map ofJson?) (ofJson? v) := by
  have hiff : seen.any (·.equals v) ↔ ofJson? v ∈ seen.map ofJson? := by
    simp [Json.equals_iff hv]
  rw [see, note, if_congr hiff rfl rfl]
  split
  · rfl
  · exact List.map_append

/-- The values of a node by which it is put into groups. -/
def valuesAt (n : Node) (path : String) : List Json := (n.scalarsAt path).foldl see []

theorem keys_valuesAt (n : Node) (path : String) :
    (valuesAt n path).map ofJson? = (n.scalarKeysAt path).foldl note [] :=
  foldl_note keys_see (fun _ => Node.isScalar_of_mem_scalarsAt) []

theorem mem_keys_valuesAt : key ∈ (valuesAt n path).map ofJson? ↔ key ∈ n.scalarKeysAt path := by
  simp [keys_valuesAt, mem_foldl_note]

theorem isScalar_of_mem_valuesAt (h : v ∈ valuesAt n path) : v.isScalar :=
  Json.isScalar_of_mem_keys (fun _ => Node.isScalar_of_mem_scalarsAt)
    (mem_keys_valuesAt.mp (List.mem_map_of_mem h))

theorem addNode_eq : addNode path groups n =
    (valuesAt n path).foldl (fun groups v => add v n groups) groups := rfl

/-- **One more node** opens a group for each of its keys that has none. -/
theorem keys_addNode : keys (addNode path groups n) =
    ((valuesAt n path).map ofJson?).foldl note (keys groups) :=
  foldl_note (fun _ _ => keys_add) (fun _ => isScalar_of_mem_valuesAt) groups

/-- **One more node** goes to the end of the group of each of its keys, and of no other. -/
theorem nodesOf_addNode : nodesOf key (addNode path groups n) =
    if key ∈ n.scalarKeysAt path then nodesOf key groups ++ [n] else nodesOf key groups := by
  have hnodup : ((valuesAt n path).map ofJson?).Nodup := by
    rw [keys_valuesAt]
    exact nodup_foldl_note .nil
  rw [addNode_eq, nodesOf_foldl_add (fun _ => isScalar_of_mem_valuesAt) hnodup,
    if_congr mem_keys_valuesAt rfl rfl]

/-! ### All nodes -/

variable {nodes : List Node}

theorem nodup_foldl_addNode (h : (keys groups).Nodup) :
    (keys (nodes.foldl (addNode path) groups)).Nodup := by
  induction nodes generalizing groups with
  | nil => exact h
  | cons n nodes ih =>
      apply ih
      rw [keys_addNode]
      exact nodup_foldl_note h

/-- Grouping opens one group for each key. -/
theorem nodup_keys : (keys (nodes.foldl (addNode path) [])).Nodup := nodup_foldl_addNode List.nodup_nil

theorem mem_keys_foldl_addNode : key ∈ keys (nodes.foldl (addNode path) groups) ↔
    key ∈ keys groups ∨ ∃ n ∈ nodes, key ∈ n.scalarKeysAt path := by
  induction nodes generalizing groups with
  | nil => simp
  | cons n nodes ih =>
      rw [List.foldl_cons, ih, keys_addNode, mem_foldl_note, mem_keys_valuesAt, List.exists_mem_cons_iff,
        or_assoc]

theorem nodesOf_foldl_addNode : nodesOf key (nodes.foldl (addNode path) groups) =
    nodesOf key groups ++ nodes.filter fun n => key ∈ n.scalarKeysAt path := by
  induction nodes generalizing groups with
  | nil => simp
  | cons n nodes ih =>
      rw [List.foldl_cons, ih, nodesOf_addNode, List.filter_cons]
      split <;> simp_all

end Group

/-! ## Values and groups -/

variable (nodes : List Node) (path : String)

/-! ### Values -/

theorem sorted_scalars : StablySorted Json.order (nodes.flatMap (·.scalarsAt path))
    ((nodes.flatMap (·.scalarsAt path)).mergeSort Json.notAfter) := .mergeSort _

theorem mem_scalars_of_mem_distinctValues {v : Json} (h : v ∈ distinctValues nodes path) :
    ∃ n ∈ nodes, v ∈ n.scalarsAt path := by
  have hmem := (Json.dropRepeats_sublist _).subset h
  exact List.mem_flatMap.mp ((sorted_scalars nodes path).perm.mem_iff.mp hmem)

theorem isScalar_of_mem_distinctValues {v : Json} (h : v ∈ distinctValues nodes path) :
    v.isScalar := by
  obtain ⟨n, -, hv⟩ := mem_scalars_of_mem_distinctValues nodes path h
  exact Node.isScalar_of_mem_scalarsAt hv

theorem mem_keys_distinctValues {key : Option IndexKey} :
    key ∈ (distinctValues nodes path).map ofJson? ↔ ∃ n ∈ nodes, key ∈ n.scalarKeysAt path := by
  rw [distinctValues, Json.mem_keys_dropRepeats, ((sorted_scalars nodes path).perm.map _).mem_iff]
  simp [Node.scalarKeysAt, List.map_flatMap]

theorem ascends_distinctValues :
    (distinctValues nodes path).Pairwise fun a b => Ascends (ofJson? a) (ofJson? b) := by
  apply Json.pairwise_dropRepeats
  · intro v hv
    have hmem := (sorted_scalars nodes path).perm.mem_iff.mp hv
    obtain ⟨n, -, hn⟩ := List.mem_flatMap.mp hmem
    exact Node.isScalar_of_mem_scalarsAt hn
  · exact (sorted_scalars nodes path).ordered

/-! ### Groups -/

theorem sorted_groups : StablySorted (Ordering.byKey Group.value Json.order)
    (nodes.foldl (Group.addNode path) []) (groupNodes nodes path) := .mergeSort _

theorem nodup_keys_groupNodes : (Group.keys (groupNodes nodes path)).Nodup :=
  ((sorted_groups nodes path).perm.map _).nodup_iff.mpr Group.nodup_keys

theorem mem_keys_groupNodes {key : Option IndexKey} :
    key ∈ Group.keys (groupNodes nodes path) ↔ ∃ n ∈ nodes, key ∈ n.scalarKeysAt path := by
  rw [Group.keys, ((sorted_groups nodes path).perm.map _).mem_iff, ← Group.keys,
    Group.mem_keys_foldl_addNode]
  simp [Group.keys]

theorem isScalar_of_mem_groupNodes {g : Group} (h : g ∈ groupNodes nodes path) :
    g.value.isScalar := by
  obtain ⟨n, -, hn⟩ := (mem_keys_groupNodes nodes path).mp (List.mem_map_of_mem h)
  exact Json.isScalar_of_mem_keys (fun _ => Node.isScalar_of_mem_scalarsAt) hn

/-- The keys of groups ascend: their values are in order, and no two have one key. -/
theorem ascends_groupNodes :
    (groupNodes nodes path).Pairwise fun g h => Ascends (ofJson? g.value) (ofJson? h.value) := by
  have hordered := (sorted_groups nodes path).ordered
  have hnodup := List.pairwise_map.mp (nodup_keys_groupNodes nodes path)
  -- Sorting allows groups of one key side by side, which grouping never makes.
  refine (hordered.and hnodup).imp_of_mem ?_
  intro g h hg hh hboth
  obtain ⟨hle, hne⟩ := hboth
  apply Ascends.of_ne
  · apply Json.isLE_key
    · exact isScalar_of_mem_groupNodes nodes path hg
    · exact isScalar_of_mem_groupNodes nodes path hh
    · exact hle
  · exact hne

/-- **Groups and values have the same keys**, in the same order. -/
theorem keys_groupNodes :
    Group.keys (groupNodes nodes path) = (distinctValues nodes path).map ofJson? := by
  apply List.Pairwise.eq_of_mem_iff (r := Ascends)
  · exact List.pairwise_map.mpr (ascends_groupNodes nodes path)
  · exact List.pairwise_map.mpr (ascends_distinctValues nodes path)
  · intro key
    rw [mem_keys_groupNodes, mem_keys_distinctValues]

theorem nodes_of_mem_groupNodes {g : Group} (hg : g ∈ groupNodes nodes path) :
    g.nodes = nodes.filter fun n => (n.scalarsAt path).any (·.equals g.value) := by
  have hbefore : g ∈ nodes.foldl (Group.addNode path) [] :=
    (sorted_groups nodes path).perm.mem_iff.mp hg
  rw [← Group.nodesOf_of_mem Group.nodup_keys hbefore, Group.nodesOf_foldl_addNode]
  apply List.filter_congr
  intro n _
  rw [Bool.eq_iff_iff, Node.any_equals_iff (isScalar_of_mem_groupNodes nodes path hg)]
  exact decide_eq_true_iff

/-- Every scalar is equal to one of the values, and to one only. -/
theorem countP_equals {n : Node} (hn : n ∈ nodes) {v : Json} (hv : v ∈ n.scalarsAt path) :
    (distinctValues nodes path).countP v.equals = 1 := by
  have hnodup : ((distinctValues nodes path).map ofJson?).Nodup := by
    rw [← keys_groupNodes]
    exact nodup_keys_groupNodes nodes path
  have hmem : ofJson? v ∈ (distinctValues nodes path).map ofJson? :=
    (mem_keys_distinctValues nodes path).mpr ⟨n, hn, List.mem_map_of_mem hv⟩
  -- Counting the values that equal `v` is counting the keys that are the key of `v`.
  rw [← List.count_eq_one_of_mem hnodup hmem, List.count, List.countP_map]
  apply List.countP_congr
  intro w hw
  rw [Json.equals_iff (isScalar_of_mem_distinctValues nodes path hw), Function.comp, beq_iff_eq]
  exact eq_comm

/-- **Values and groups.** What is found in a node are the scalars among the elements at the path. The
different values are found in some node, ascend strictly, and no two are equal; every scalar found is
equal to exactly one of them. The groups have the same values, one by one, and each has the nodes in
which its value is found, in their order. -/
theorem distinct_and_groups :
    (∀ (n : Node) (v : Json), v ∈ n.scalarsAt path ↔ Path.Element n.body path v ∧ v.isScalar) ∧
      (∀ v ∈ distinctValues nodes path, ∃ n ∈ nodes, v ∈ n.scalarsAt path) ∧
      (distinctValues nodes path).Pairwise (fun a b => Json.order a b = .lt ∧ ¬ a.equals b) ∧
      (∀ n ∈ nodes, ∀ v ∈ n.scalarsAt path, (distinctValues nodes path).countP v.equals = 1) ∧
      List.Forall₂ (fun g v => g.value.equals v) (groupNodes nodes path) (distinctValues nodes path) ∧
      ∀ g ∈ groupNodes nodes path, g.size = g.nodes.length ∧
        g.nodes = nodes.filter fun n => (n.scalarsAt path).any (·.equals g.value) := by
  refine ⟨?_, ?_, ?_, ?_, ?_, ?_⟩
  · intro n v
    exact Node.mem_scalarsAt
  · intro v hv
    exact mem_scalars_of_mem_distinctValues nodes path hv
  · refine (ascends_distinctValues nodes path).imp_of_mem ?_
    intro a b ha hb hab
    have hascalar := isScalar_of_mem_distinctValues nodes path ha
    have hbscalar := isScalar_of_mem_distinctValues nodes path hb
    refine ⟨Json.order_eq_lt hascalar hbscalar hab, ?_⟩
    rw [Json.equals_iff hbscalar]
    exact ne_of_irrefl hab
  · intro n hn v hv
    exact countP_equals nodes path hn hv
  · have hkeys := keys_groupNodes nodes path
    rw [← List.forall₂_eq_eq_eq, Group.keys, List.forall₂_map_left_iff, List.forall₂_map_right_iff]
      at hkeys
    have hscalar : ∀ g ∈ groupNodes nodes path, g.value.isScalar :=
      fun _ => isScalar_of_mem_groupNodes nodes path
    refine ((List.forall₂_and_left _ _).mpr ⟨hscalar, hkeys⟩).imp ?_
    intro g v h
    obtain ⟨hg, hkey⟩ := h
    have hv : v.isScalar := by rwa [Json.isScalar_iff, ← hkey, ← Json.isScalar_iff]
    exact (Json.equals_iff hv).mpr hkey
  · intro g hg
    exact ⟨rfl, nodes_of_mem_groupNodes nodes path hg⟩

end ContentQuery
