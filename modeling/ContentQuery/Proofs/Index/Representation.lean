import ContentQuery.Proofs.Index.KeyOrder
import ContentQuery.Proofs.Index.Narrowing
import ContentQuery.Proofs.Index.Usage
import Mathlib.Algebra.GroupWithZero.Nat

/-!
# What the indexes of a collection stand for

A collection keeps nodes, indexes on some paths, and the paths whose index was given up. Bringing the
nodes up to date builds every index anew or gives it up, and a path is indexed on its own only where it
is neither. What holds all along is `NodeCollection.Represents`.

* **`NodeCollection.build_cases`**: an index can be built unless a path reaches more scalars than there may be
  entries.
* **`NodeCollection.represents_nodes`**: whatever happened to a collection, its indexes tell exactly where
  its nodes have which keys, and no path is both indexed and given up.
-/

namespace ContentQuery

open IndexKey (ofJson?)

/-! ## Scalars that an index has to hold -/

/-- How many scalars a path reaches in some nodes, each counted as often as it is met. -/
def scalarCount (nodes : Array Node) (path : String) : Nat :=
  (nodes.toList.map fun node => (node.scalarsAt path).length).sum

theorem Node.length_keysAt (n : Node) (path : String) :
    (n.keysAt path).length = (n.scalarsAt path).length := by
  rw [keysAt, scalarsAt, List.length_flatMap, List.length_flatMap]
  refine congrArg List.sum (List.map_congr_left fun slot _ => ?_)
  cases slot with
  | value v =>
      have hkeyed : (fun item => (ofJson? item).isSome) = Json.isScalar :=
        funext fun item => Bool.eq_iff_iff.mpr Json.isScalar_iff.symm
      have hscalars : v.scalars = v.items.filter Json.isScalar := by cases v <;> rfl
      calc (v.items.filterMap ofJson?).length
          = (v.items.filter Json.isScalar).length := by
            rw [List.length_filterMap_eq_countP, hkeyed, List.countP_eq_length_filter]
        _ = v.scalars.length := by rw [hscalars]
  | absent | unreachable => rfl

theorem length_keyedPositions (nodes : Array Node) (path : String) :
    (keyedPositions nodes path).length = scalarCount nodes path := by
  have hnodes : nodes.toList = nodes.toList.zipIdx.map Prod.fst := by simp
  rw [keyedPositions, List.length_flatMap, scalarCount]
  conv_rhs => rw [hnodes, List.map_map]
  refine congrArg List.sum (List.map_congr_left fun entry _ => ?_)
  rw [Function.comp_apply, List.length_map, Node.length_keysAt]

namespace NodeCollection

variable {c : NodeCollection} {path : String}

/-- **An index can be built** unless it would have to hold too many scalars. -/
theorem build_cases (c : NodeCollection) (path : String) :
    (scalarCount c.nodes path ≤ c.maxEntries ∧ ∃ tree, c.build path = .ok tree) ∨
      (c.maxEntries < scalarCount c.nodes path ∧ c.build path = .error ⟨path, c.maxEntries⟩) := by
  rw [← length_keyedPositions]
  rcases Nat.lt_or_ge c.maxEntries (keyedPositions c.nodes path).length with hgt | hle
  · exact .inr ⟨hgt, if_pos hgt⟩
  · exact .inl ⟨hle, _, if_neg (Nat.not_lt.mpr hle)⟩

theorem builds_iff : c.builds path ↔ scalarCount c.nodes path ≤ c.maxEntries := by
  rw [builds]
  rcases c.build_cases path with ⟨hle, tree, hbuild⟩ | ⟨hgt, hbuild⟩
  · simp [hbuild, hle, Except.toOption]
  · simp [hbuild, hgt, Except.toOption]

theorem hasIndex_iff : c.hasIndex path ↔ path ∈ c.indexes.map Prod.fst := by
  simp [hasIndex]

/-! ## Bringing the nodes up to date -/

/-- **Nodes that changed** leave the indexes that can be built over the new ones. The others are given
up, and they alone. -/
theorem sync_of_changed {nodes : List Node} (h : (c.sync nodes).2 = true) :
    let c' := (c.sync nodes).1
    c'.nodes = nodes.toArray ∧
      c'.indexes.map Prod.fst = (c.indexes.map Prod.fst).filter (c.withNodes nodes).builds ∧
      c'.failed = (c.indexes.map Prod.fst).filter fun path => !(c.withNodes nodes).builds path := by
  unfold sync at h ⊢
  split
  · rename_i hsame
    simp [hsame] at h
  · -- Each index on its own is kept or given up.
    refine ⟨rfl, ?_, ?_⟩ <;> dsimp only
    · rw [List.map_filterMap, List.filterMap_map, ← List.filterMap_eq_filter, List.filterMap_map]
      refine List.filterMap_congr fun index _ => ?_
      cases hbuild : (c.withNodes nodes).build index.1 <;>
        simp [builds, hbuild, Except.toOption, Option.guard]
    · rw [List.filterMap_map, ← List.filterMap_eq_filter, List.filterMap_map]
      refine List.filterMap_congr fun index _ => ?_
      cases hbuild : (c.withNodes nodes).build index.1 <;>
        simp [builds, hbuild, Except.toOption, Option.guard]

/-- A path that is tried gets its index, or is given up where there would be too many entries. -/
theorem ensureIndex_cases (h : ¬c.Settled path) :
    (scalarCount c.nodes path ≤ c.maxEntries ∧ ∃ tree,
      c.ensureIndex path = ({ c with indexes := c.indexes ++ [(path, tree)] }, .ok true)) ∨
    (c.maxEntries < scalarCount c.nodes path ∧
      c.ensureIndex path =
        ({ c with failed := c.failed ++ [path] }, .error ⟨path, c.maxEntries⟩)) := by
  rcases ensureIndex_of_not_settled h with ⟨tree, hbuild, heq⟩ | ⟨e, hbuild, heq⟩ <;>
    rcases c.build_cases path with ⟨hle, other, hother⟩ | ⟨hgt, hother⟩ <;>
    rw [hbuild] at hother
  · exact .inl ⟨hle, tree, heq⟩
  · cases hother
  · cases hother
  · obtain rfl := Except.error.inj hother
    exact .inr ⟨hgt, heq⟩

/-! ## What holds all along -/

/-- **The invariant**: a path has at most one index, has none if it was given up, and its index is that
of the nodes which the collection has now. -/
structure Represents (c : NodeCollection) : Prop where
  nodup : (c.indexes.map Prod.fst).Nodup
  apart : ∀ path, c.hasIndex path → path ∉ c.failed
  wellIndexed : c.WellIndexed

namespace Represents

theorem start (typeName : String) (maxEntries : Nat) (nodes : List Node) :
    ((empty typeName maxEntries).withNodes nodes).Represents where
  nodup := List.nodup_nil
  apart _ _ := List.not_mem_nil
  wellIndexed _ _ h := absurd h List.not_mem_nil

theorem sync (h : c.Represents) (nodes : List Node) : (c.sync nodes).1.Represents := by
  cases hchanged : (c.sync nodes).2 with
  | false => rwa [sync_of_unchanged hchanged]
  | true =>
      obtain ⟨-, hindexes, hfailed⟩ := sync_of_changed hchanged
      refine ⟨?_, fun path hindex hpath => ?_, h.wellIndexed.sync nodes⟩
      · rw [hindexes]
        exact h.nodup.filter _
      · rw [hasIndex_iff, hindexes, List.mem_filter] at hindex
        rw [hfailed, List.mem_filter, hindex.2] at hpath
        exact Bool.noConfusion hpath.2

theorem ensureIndex (h : c.Represents) (path : String) : (c.ensureIndex path).1.Represents := by
  by_cases hsettled : c.Settled path
  · rwa [ensureIndex_of_settled hsettled]
  · obtain ⟨hindex, hfailed⟩ := not_or.mp hsettled
    have hwell := h.wellIndexed.ensureIndex path
    rcases ensureIndex_of_not_settled hsettled with ⟨tree, -, heq⟩ | ⟨e, -, heq⟩
    · rw [heq] at hwell ⊢
      refine ⟨?_, fun other hother => ?_, hwell⟩
      · rw [List.map_append]
        refine List.nodup_append.mpr ⟨h.nodup, List.nodup_singleton _, ?_⟩
        rintro other hother _ hpath rfl
        rw [List.mem_singleton.mp hpath, ← hasIndex_iff] at hother
        exact hindex hother
      · rw [hasIndex_iff, List.map_append, List.mem_append, ← hasIndex_iff] at hother
        rcases hother with hother | hother
        · exact h.apart other hother
        · rwa [List.mem_singleton.mp hother]
    · rw [heq] at hwell ⊢
      refine ⟨h.nodup, fun other hother hmem => ?_, hwell⟩
      rcases List.mem_append.mp hmem with hmem | hmem
      · exact h.apart other hother hmem
      · exact hindex (List.mem_singleton.mp hmem ▸ hother)

end Represents

theorem Reachable.represents (h : c.Reachable) : c.Represents := by
  induction h with
  | start typeName maxEntries nodes => exact .start typeName maxEntries nodes
  | sync nodes _ ih => exact ih.sync nodes
  | ensureIndex path _ ih => exact ih.ensureIndex path
  | record usage p _ ih => exact of_ensureAll (fun _ path hc => hc.ensureIndex path) _ ih _
  | indexSort usage sort _ ih => exact of_ensureAll (fun _ path hc => hc.ensureIndex path) _ ih _

/-- **Indexes represent the nodes.** Whatever happened to a collection,

* no path has two indexes, and none is both indexed and given up;
* a key of an index leads to just the positions, in ascending order, of the nodes in which the path
  reaches an element with that key;
* where an index is wanted that is neither there nor given up, it is built, unless the path reaches more
  scalars than there may be entries: then there is an error and no index. The nodes stay the same;
* where other nodes come, they are the nodes from then on, and of the indexes those remain whose paths
  reach no more scalars in them than there may be entries. The others are given up. -/
theorem represents_nodes (h : c.Reachable) :
    (c.indexes.map Prod.fst).Nodup ∧
    (∀ path, ¬(c.hasIndex path ∧ path ∈ c.failed)) ∧
    (∀ path tree, (path, tree) ∈ c.indexes → ∀ key,
      Ascending (tree.at_ key) ∧
      ∀ p, p ∈ tree.at_ key ↔ ∃ node, c.nodes[p]? = some node ∧
        ∃ v, Path.Element node.body path v ∧ ofJson? v = some key) ∧
    (∀ path, ¬c.Settled path →
      let c' := (c.ensureIndex path).1
      c'.nodes = c.nodes ∧
      (scalarCount c.nodes path ≤ c.maxEntries →
        (c.ensureIndex path).2 = .ok true ∧ c'.hasIndex path) ∧
      (c.maxEntries < scalarCount c.nodes path →
        (c.ensureIndex path).2 = .error ⟨path, c.maxEntries⟩ ∧ ¬c'.hasIndex path)) ∧
    ∀ nodes, (c.sync nodes).2 = true →
      let c' := (c.sync nodes).1
      c'.nodes = nodes.toArray ∧
      ∀ path,
        (c'.hasIndex path ↔ c.hasIndex path ∧ scalarCount nodes.toArray path ≤ c.maxEntries) ∧
        (path ∈ c'.failed ↔ c.hasIndex path ∧ c.maxEntries < scalarCount nodes.toArray path) := by
  have hrepresents := h.represents
  refine ⟨hrepresents.nodup, fun path hboth => hrepresents.apart path hboth.1 hboth.2,
    fun path tree htree key => ?_, fun path hfresh => ?_, fun nodes hchanged => ?_⟩
  · have hindexes := hrepresents.wellIndexed path tree htree
    refine ⟨hindexes.ordered key, fun p => ?_⟩
    rw [hindexes.mem_at]
    simp only [Node.mem_keysAt]
  · rcases ensureIndex_cases hfresh with ⟨hle, tree, heq⟩ | ⟨hgt, heq⟩ <;> rw [heq]
    · exact ⟨rfl, fun _ => ⟨rfl, by simp [hasIndex]⟩, fun hgt => absurd hle (Nat.not_le.mpr hgt)⟩
    · exact ⟨rfl, fun hle => absurd hle (Nat.not_le.mpr hgt),
        fun _ => ⟨rfl, fun hindex => hfresh (.inl hindex)⟩⟩
  · obtain ⟨hnodes, hindexes, hfailed⟩ := sync_of_changed hchanged
    have hbuilds (path : String) :
        (c.withNodes nodes).builds path ↔ scalarCount nodes.toArray path ≤ c.maxEntries := builds_iff
    refine ⟨hnodes, fun path => ⟨?_, ?_⟩⟩
    · rw [hasIndex_iff, hindexes, List.mem_filter, ← hasIndex_iff, hbuilds]
    · rw [hfailed, List.mem_filter, ← hasIndex_iff, ← Nat.not_le, ← hbuilds]
      simp

/-- Over a post with three words there is no room for the index of words, while that of titles stays
when the words are gone. -/
theorem represents_nodes_posts :
    let c := (Indexing.posts.ensureIndex "title").1
    let wordless : List Node := c.nodes.toList.map fun node =>
      { node with body := [("title", .string "hi")], stamp := 1 }
    ¬c.Settled "words" ∧ (c.ensureIndex "words").1.nodes = c.nodes ∧
      (c.ensureIndex "words").2 = .error ⟨"words", 2⟩ ∧
      (c.sync wordless).2 = true ∧ (c.sync wordless).1.hasIndex "title" := by
  intro c wordless
  obtain ⟨-, -, -, hensure, hsync⟩ := represents_nodes (.ensureIndex "title" (.start "Post" 2 _))
  have hfresh : ¬c.Settled "words" := by decide +kernel
  have hcount : 2 < scalarCount c.nodes "words" := by decide +kernel
  have hchanged : (c.sync wordless).2 = true := by decide +kernel
  obtain ⟨hnodes, -, hwords⟩ := hensure "words" hfresh
  have htitle : c.hasIndex "title" ∧ scalarCount wordless.toArray "title" ≤ 2 := by decide +kernel
  exact ⟨hfresh, hnodes, (hwords hcount).1, hchanged,
    ((hsync wordless hchanged).2 "title").1.mpr htitle⟩

end NodeCollection

end ContentQuery
