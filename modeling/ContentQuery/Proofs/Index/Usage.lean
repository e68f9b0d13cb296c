import ContentQuery.Index.Usage
import Mathlib.Data.List.DropRight

/-!
# Indexing by use keeps its promise

Counts belong to a counter of uses, indexes and given up paths to a collection, and both are set back
at different times: counts by a reset, given up paths when the nodes change. An `Indexing` is a counter
with the one collection that it sees to, and anything may happen to it in any order.

Main results:

* **`Indexing.count_run`**: a path is counted once for each predicate that has it, since the last
  reset.
* **`Usage.built_record`**: a predicate gives the paths that are due, were not settled, and whose index
  can be built.
* **`Indexing.nodup_attempted`**: as long as the nodes stay the same, no index is tried twice.
-/

namespace ContentQuery

/-! ## Paths of a predicate -/

namespace Predicate

/-- What was seen stays, and each path of the conditions is added unless it was seen. -/
theorem foldl_paths (p : Predicate) {seen : List String} (hseen : seen.Nodup) :
    let paths := p.foldl (fun acc c => if acc.contains c.path then acc else acc ++ [c.path]) seen
    paths.Nodup ∧ ∀ path, path ∈ paths ↔ path ∈ seen ∨ ∃ c ∈ p, c.path = path := by
  induction p generalizing seen with
  | nil => simpa using hseen
  | cons c rest ih =>
      rw [List.foldl_cons]
      split
      · rename_i hmem
        have hmem : c.path ∈ seen := by simpa using hmem
        obtain ⟨hnodup, hpaths⟩ := ih hseen
        refine ⟨hnodup, fun path => ?_⟩
        rw [hpaths, List.exists_mem_cons_iff, ← or_assoc]
        refine or_congr_left ⟨.inl, ?_⟩
        rintro (hpath | rfl)
        · exact hpath
        · exact hmem
      · rename_i hmem
        have hmem : c.path ∉ seen := by simpa using hmem
        have hmore : (seen ++ [c.path]).Nodup := by
          refine List.nodup_append.mpr ⟨hseen, by simp, fun path hpath other hother => ?_⟩
          rintro rfl
          exact hmem (List.mem_singleton.mp hother ▸ hpath)
        obtain ⟨hnodup, hpaths⟩ := ih hmore
        refine ⟨hnodup, fun path => ?_⟩
        rw [hpaths, List.exists_mem_cons_iff, List.mem_append, List.mem_singleton, or_assoc,
          eq_comm (a := path)]

/-- However many conditions are on a path, it is counted once. -/
theorem nodup_paths (p : Predicate) : p.paths.Nodup := (p.foldl_paths List.nodup_nil).1

/-- The paths are those of the conditions, but not those of conditions on elements. -/
theorem mem_paths {p : Predicate} {path : String} : path ∈ p.paths ↔ ∃ c ∈ p, c.path = path := by
  rw [paths, (p.foldl_paths List.nodup_nil).2]
  simp

end Predicate

/-! ## Seeing to one index -/

namespace NodeCollection

/-- The path has an index, or its index was given up. -/
def Settled (c : NodeCollection) (path : String) : Prop := c.hasIndex path ∨ path ∈ c.failed

instance (c : NodeCollection) (path : String) : Decidable (c.Settled path) :=
  inferInstanceAs (Decidable (_ ∨ _))

/-- The index of a path can be built over the nodes. -/
def builds (c : NodeCollection) (path : String) : Bool := (c.build path).toOption.isSome

/-- What becomes of a collection when some paths are seen to. -/
def ensureEach (c : NodeCollection) (paths : List String) : NodeCollection :=
  paths.foldl (fun c path => (c.ensureIndex path).1) c

/-- The index of a path is tried when it is seen to: it is built then, or there is an error. -/
def tries (c : NodeCollection) (path : String) : Bool :=
  match (c.ensureIndex path).2 with
  | .ok false => false
  | .ok true | .error _ => true

/-- The paths that are tried when some paths are seen to. -/
def attempts (c : NodeCollection) : List String → List String
  | [] => []
  | path :: rest =>
    let more := attempts (c.ensureIndex path).1 rest
    if c.tries path then path :: more else more

variable {c : NodeCollection} {path : String}

theorem ensureIndex_of_settled (h : c.Settled path) : c.ensureIndex path = (c, .ok false) := by
  rw [ensureIndex, if_pos]
  simpa [Settled] using h

/-- Trying to index a path leaves an index, or the path is given up. -/
theorem ensureIndex_of_not_settled (h : ¬c.Settled path) :
    (∃ tree, c.build path = .ok tree ∧
      c.ensureIndex path = ({ c with indexes := c.indexes ++ [(path, tree)] }, .ok true)) ∨
    ∃ e, c.build path = .error e ∧
      c.ensureIndex path = ({ c with failed := c.failed ++ [path] }, .error e) := by
  have hnot : ¬(c.hasIndex path || c.failed.contains path) = true := by
    simpa [Settled] using h
  rw [ensureIndex, if_neg hnot]
  cases hbuild : c.build path with
  | ok tree => exact .inl ⟨tree, rfl, rfl⟩
  | error e => exact .inr ⟨e, rfl, rfl⟩

/-- All that keeps a path from being tried is that it is settled. -/
theorem tries_iff : c.tries path ↔ ¬c.Settled path := by
  by_cases h : c.Settled path
  · simp [tries, ensureIndex_of_settled h, h]
  · rcases ensureIndex_of_not_settled h with ⟨_, -, heq⟩ | ⟨_, -, heq⟩ <;> simp [tries, heq, h]

theorem attempts_cons (rest : List String) :
    c.attempts (path :: rest) =
      if c.Settled path then c.attempts rest
      else path :: (c.ensureIndex path).1.attempts rest := by
  rw [attempts]
  by_cases h : c.Settled path
  · have hnot : ¬c.tries path := fun htries => tries_iff.mp htries h
    rw [if_neg hnot, if_pos h, ensureIndex_of_settled h]
  · rw [if_pos (tries_iff.mpr h), if_neg h]

@[simp]
theorem typeName_ensureIndex : (c.ensureIndex path).1.typeName = c.typeName := by
  by_cases h : c.Settled path
  · rw [ensureIndex_of_settled h]
  · rcases ensureIndex_of_not_settled h with ⟨_, -, heq⟩ | ⟨_, -, heq⟩ <;> rw [heq]

@[simp]
theorem builds_ensureIndex (other : String) :
    (c.ensureIndex path).1.builds other = c.builds other := by
  by_cases h : c.Settled path
  · rw [ensureIndex_of_settled h]
  · rcases ensureIndex_of_not_settled h with ⟨_, -, heq⟩ | ⟨_, -, heq⟩ <;> rw [heq] <;> rfl

@[simp]
theorem settled_ensureIndex (other : String) :
    (c.ensureIndex path).1.Settled other ↔ c.Settled other ∨ other = path := by
  by_cases h : c.Settled path
  · rw [ensureIndex_of_settled h]
    refine ⟨.inl, ?_⟩
    rintro (hother | rfl)
    · exact hother
    · exact h
  · rcases ensureIndex_of_not_settled h with ⟨_, -, heq⟩ | ⟨_, -, heq⟩ <;> rw [heq]
    · simp only [Settled, hasIndex, List.any_append, List.any_cons, List.any_nil, Bool.or_false,
        Bool.or_eq_true, beq_iff_eq, eq_comm (a := path)]
      exact or_right_comm
    · simp [Settled, hasIndex, or_assoc]

section ensureEach

variable (paths : List String)

theorem typeName_ensureEach (c : NodeCollection) : (c.ensureEach paths).typeName = c.typeName := by
  induction paths generalizing c with
  | nil => rfl
  | cons path rest ih => exact (ih _).trans typeName_ensureIndex

/-- Afterwards every path that was seen to is settled, and no other is that was not. -/
theorem settled_ensureEach (c : NodeCollection) (path : String) :
    (c.ensureEach paths).Settled path ↔ c.Settled path ∨ path ∈ paths := by
  induction paths generalizing c with
  | nil => simp [ensureEach]
  | cons first rest ih =>
      show ((c.ensureIndex first).1.ensureEach rest).Settled path ↔ _
      rw [ih, settled_ensureIndex, List.mem_cons, or_assoc]

/-- What is tried was not settled, and is settled once it was tried. So it is not tried again. -/
theorem mem_attempts (c : NodeCollection) (path : String) :
    path ∈ c.attempts paths ↔ path ∈ paths ∧ ¬c.Settled path := by
  induction paths generalizing c with
  | nil => simp [attempts]
  | cons first rest ih =>
      rw [attempts_cons]
      split
      · rename_i hsettled
        rw [ih, List.mem_cons, or_and_right]
        refine ⟨.inr, ?_⟩
        rintro (⟨rfl, hpath⟩ | hpath)
        · exact absurd hsettled hpath
        · exact hpath
      · rename_i hfresh
        rw [List.mem_cons, ih, settled_ensureIndex, List.mem_cons]
        by_cases hpath : path = first
        · simp [hpath, hfresh]
        · simp [hpath]

theorem nodup_attempts (c : NodeCollection) : (c.attempts paths).Nodup := by
  induction paths generalizing c with
  | nil => exact List.nodup_nil
  | cons first rest ih =>
      rw [attempts_cons]
      split
      · exact ih c
      · refine List.nodup_cons.mpr ⟨fun hmem => ?_, ih _⟩
        rw [mem_attempts, settled_ensureIndex] at hmem
        exact hmem.2 (.inr rfl)

/-- Of different paths, those are tried that are not settled. -/
theorem attempts_of_nodup {paths : List String} (h : paths.Nodup) (c : NodeCollection) :
    c.attempts paths = paths.filter fun path => ¬c.Settled path := by
  induction paths generalizing c with
  | nil => rfl
  | cons first rest ih =>
      obtain ⟨hfirst, hrest⟩ := List.nodup_cons.mp h
      rw [attempts_cons]
      split
      · rename_i hsettled
        rw [ih hrest, List.filter_cons_of_neg (by simpa using hsettled)]
      · rename_i hfresh
        rw [ih hrest, List.filter_cons_of_pos (by simpa using hfresh)]
        refine congrArg (first :: ·) (List.filter_congr fun path hpath => ?_)
        have hne : path ≠ first := fun heq => hfirst (heq ▸ hpath)
        simp [hne]

end ensureEach

/-- Nodes that are the same ones change nothing. -/
theorem sync_of_unchanged {nodes : List Node} (h : (c.sync nodes).2 = false) :
    (c.sync nodes).1 = c := by
  unfold sync at h ⊢
  split
  · rfl
  · rename_i hchanged
    simp [hchanged] at h

theorem typeName_sync (nodes : List Node) : (c.sync nodes).1.typeName = c.typeName := by
  unfold sync
  split <;> rfl

end NodeCollection

/-! ## Counting and building -/

namespace Usage

/-! ### Counts -/

theorem lookup_bump (key other : String × String) (counts : List ((String × String) × Nat)) :
    (bump key counts).lookup other =
      if other = key then some ((counts.lookup key).getD 0 + 1) else counts.lookup other := by
  induction counts with
  | nil =>
      rw [bump, List.lookup_cons]
      by_cases h : other = key
      · simp [h]
      · simp [h, beq_false_of_ne h]
  | cons entry rest ih =>
      obtain ⟨k, n⟩ := entry
      rw [bump]
      by_cases hk : k = key
      · subst hk
        rw [if_pos rfl, List.lookup_cons, List.lookup_cons, List.lookup_cons]
        by_cases h : other = k
        · simp [h]
        · simp [h, beq_false_of_ne h]
      · rw [if_neg hk, List.lookup_cons, List.lookup_cons, List.lookup_cons, ih,
          beq_false_of_ne (Ne.symm hk)]
        by_cases h : other = k
        · simp [h, hk]
        · simp [beq_false_of_ne h]

theorem count_use (u : Usage) (typeName path otherType other : String) :
    (u.use typeName path).count otherType other =
      u.count otherType other + if otherType = typeName ∧ other = path then 1 else 0 := by
  unfold count use
  rw [lookup_bump]
  by_cases h : otherType = typeName ∧ other = path
  · simp [h]
  · simp [h]

/-- Different paths are counted once each. -/
theorem count_foldl_use {paths : List String} (h : paths.Nodup) (u : Usage)
    (typeName otherType other : String) :
    (paths.foldl (fun u path => u.use typeName path) u).count otherType other =
      u.count otherType other + if otherType = typeName ∧ other ∈ paths then 1 else 0 := by
  induction paths generalizing u with
  | nil => simp
  | cons path rest ih =>
      obtain ⟨hpath, hrest⟩ := List.nodup_cons.mp h
      rw [List.foldl_cons, ih hrest, count_use, Nat.add_assoc]
      congr 1
      by_cases hother : other = path
      · subst hother
        simp [hpath]
      · simp [hother]

/-- Uses are all that changes. -/
theorem foldl_use_frame (paths : List String) (u : Usage) (typeName : String) :
    let used := paths.foldl (fun u path => u.use typeName path) u
    used.threshold = u.threshold ∧ used.built = u.built ∧ used.failures = u.failures := by
  induction paths generalizing u with
  | nil => exact ⟨rfl, rfl, rfl⟩
  | cons path rest ih => exact ih _

/-! ### Indexes -/

variable {u : Usage} {c : NodeCollection} {path : String}

theorem ensure_of_settled (h : c.Settled path) : u.ensure c path = (u, c, false) := by
  rw [ensure, NodeCollection.ensureIndex_of_settled h]

/-- A path that is tried has an index from now on, or one failure more is counted. -/
theorem ensure_of_not_settled (h : ¬c.Settled path) :
    u.ensure c path =
      if c.builds path then ({ u with built := u.built + 1 }, (c.ensureIndex path).1, true)
      else ({ u with failures := u.failures + 1 }, (c.ensureIndex path).1, false) := by
  rcases NodeCollection.ensureIndex_of_not_settled h with ⟨_, hbuild, heq⟩ | ⟨_, hbuild, heq⟩
  · simp [ensure, heq, NodeCollection.builds, hbuild, Except.toOption]
  · simp [ensure, heq, NodeCollection.builds, hbuild, Except.toOption]

/-- What comes of seeing to some paths. -/
structure Sees (u : Usage) (c : NodeCollection) (paths : List String)
    (seen : Usage × NodeCollection × List String) : Prop where
  collection : seen.2.1 = c.ensureEach paths
  counts : seen.1.counts = u.counts
  threshold : seen.1.threshold = u.threshold
  built : seen.2.2 = (c.attempts paths).filter c.builds
  tally : seen.1.built + seen.1.failures = u.built + u.failures + (c.attempts paths).length

theorem sees_ensureAll (u : Usage) (c : NodeCollection) (paths : List String) :
    u.Sees c paths (u.ensureAll c paths) := by
  induction paths generalizing u c with
  | nil => exact ⟨rfl, rfl, rfl, rfl, rfl⟩
  | cons path rest ih =>
      by_cases hsettled : c.Settled path
      · have hsame : (c.ensureIndex path).1 = c := by
          rw [NodeCollection.ensureIndex_of_settled hsettled]
        have hrest := ih u c
        simp only [ensureAll, ensure_of_settled hsettled]
        refine ⟨?_, hrest.counts, hrest.threshold, ?_, ?_⟩
        · rw [hrest.collection, NodeCollection.ensureEach, NodeCollection.ensureEach,
            List.foldl_cons, hsame]
        · simpa [NodeCollection.attempts_cons, hsettled] using hrest.built
        · simpa [NodeCollection.attempts_cons, hsettled] using hrest.tally
      · have hbuilds : (c.ensureIndex path).1.builds = c.builds :=
          funext NodeCollection.builds_ensureIndex
        by_cases hbuild : c.builds path
        · have hrest := ih { u with built := u.built + 1 } (c.ensureIndex path).1
          simp only [ensureAll, ensure_of_not_settled hsettled, if_pos hbuild]
          refine ⟨hrest.collection, hrest.counts, hrest.threshold, ?_, ?_⟩
          · rw [hrest.built, NodeCollection.attempts_cons, if_neg hsettled, hbuilds,
              List.filter_cons_of_pos hbuild]
            rfl
          · rw [hrest.tally, NodeCollection.attempts_cons, if_neg hsettled, List.length_cons]
            dsimp only
            omega
        · have hrest := ih { u with failures := u.failures + 1 } (c.ensureIndex path).1
          simp only [ensureAll, ensure_of_not_settled hsettled, if_neg hbuild]
          refine ⟨hrest.collection, hrest.counts, hrest.threshold, ?_, ?_⟩
          · rw [hrest.built, NodeCollection.attempts_cons, if_neg hsettled, hbuilds,
              List.filter_cons_of_neg hbuild]
            rfl
          · rw [hrest.tally, NodeCollection.attempts_cons, if_neg hsettled, List.length_cons]
            dsimp only
            omega

/-! ### Predicates and sorts -/

/-- The paths of a predicate that are due once they are counted. -/
def due (u : Usage) (c : NodeCollection) (p : Predicate) : List String :=
  let used := p.paths.foldl (fun u path => u.use c.typeName path) u
  p.paths.filter fun path => u.threshold ≤ used.count c.typeName path

theorem sees_record (u : Usage) (c : NodeCollection) (p : Predicate) :
    (p.paths.foldl (fun u path => u.use c.typeName path) u).Sees c (u.due c p) (u.record c p) :=
  sees_ensureAll _ _ _

theorem collection_record (u : Usage) (c : NodeCollection) (p : Predicate) :
    (u.record c p).2.1 = c.ensureEach (u.due c p) := (u.sees_record c p).collection

theorem collection_indexSort (u : Usage) (c : NodeCollection) (sort : SortSpec) :
    (u.indexSort c sort).2 = c.ensureEach sort.paths := (u.sees_ensureAll c sort.paths).collection

/-- A sort is no use of its paths. -/
theorem count_indexSort (u : Usage) (c : NodeCollection) (sort : SortSpec)
    (typeName path : String) :
    (u.indexSort c sort).1.count typeName path = u.count typeName path := by
  have hcounts : (u.indexSort c sort).1.counts = u.counts := (u.sees_ensureAll c sort.paths).counts
  rw [count, hcounts, ← count]

/-- A predicate is one use more of each of its paths. -/
theorem count_record (u : Usage) (c : NodeCollection) (p : Predicate) (typeName path : String) :
    (u.record c p).1.count typeName path =
      u.count typeName path + if typeName = c.typeName ∧ path ∈ p.paths then 1 else 0 := by
  rw [count, (u.sees_record c p).counts]
  exact count_foldl_use p.nodup_paths u c.typeName typeName path

theorem mem_due {p : Predicate} :
    path ∈ u.due c p ↔
      path ∈ p.paths ∧ u.threshold ≤ (u.record c p).1.count c.typeName path := by
  rw [due, List.mem_filter, decide_eq_true_iff, count, count, (u.sees_record c p).counts]

/-- A predicate gives those of its paths that are due, were not settled, and whose index can be
built. -/
theorem built_record (u : Usage) (c : NodeCollection) (p : Predicate) :
    (u.record c p).2.2 = p.paths.filter fun path =>
      u.threshold ≤ (u.record c p).1.count c.typeName path ∧ ¬c.Settled path ∧ c.builds path := by
  have hdue : (u.due c p).Nodup := p.nodup_paths.filter _
  rw [(u.sees_record c p).built, NodeCollection.attempts_of_nodup hdue, List.filter_filter, due,
    List.filter_filter]
  refine List.filter_congr fun path _ => ?_
  rw [count, count, (u.sees_record c p).counts]
  simp [Bool.and_comm]

/-- Afterwards every path that is due is settled. -/
theorem settled_record {p : Predicate} (hpath : path ∈ p.paths)
    (hdue : u.threshold ≤ (u.record c p).1.count c.typeName path) :
    (u.record c p).2.1.Settled path := by
  rw [collection_record, NodeCollection.settled_ensureEach]
  exact .inr (mem_due.mpr ⟨hpath, hdue⟩)

end Usage

/-! ## Anything in any order -/

/-- A counter of uses with the collection that it sees to. -/
structure Indexing where
  usage : Usage
  collection : NodeCollection

namespace Indexing

/-- What may happen to counts and indexes. -/
inductive Event where
  | record (p : Predicate)
  | indexSort (sort : SortSpec)
  | reset
  | sync (nodes : List Node)

namespace Event

def isReset : Event → Bool
  | .reset => true
  | _ => false

/-- The event is a use of the path. -/
def uses (path : String) : Event → Bool
  | .record p => p.any (·.path == path)
  | _ => false

end Event

/-- A collection of which no use was counted yet. -/
def start (threshold : Nat) (c : NodeCollection) : Indexing := ⟨.ofThreshold threshold, c⟩

def step (s : Indexing) : Event → Indexing
  | .record p =>
    let (usage, collection, _) := s.usage.record s.collection p
    { usage, collection }
  | .indexSort sort =>
    let (usage, collection) := s.usage.indexSort s.collection sort
    { usage, collection }
  | .reset => { s with usage := s.usage.reset }
  | .sync nodes => { s with collection := (s.collection.sync nodes).1 }

def run (s : Indexing) (events : List Event) : Indexing := events.foldl step s

/-- The paths whose index an event tries to build. -/
def attempts (s : Indexing) : Event → List String
  | .record p => s.collection.attempts (s.usage.due s.collection p)
  | .indexSort sort => s.collection.attempts sort.paths
  | .reset | .sync _ => []

def attempted (s : Indexing) : List Event → List String
  | [] => []
  | event :: rest => s.attempts event ++ (s.step event).attempted rest

/-- The event replaces the nodes by others. -/
def changes (s : Indexing) : Event → Bool
  | .sync nodes => (s.collection.sync nodes).2
  | _ => false

/-- The nodes stay the same ones. -/
def Steady (s : Indexing) : List Event → Prop
  | [] => True
  | event :: rest => s.changes event = false ∧ (s.step event).Steady rest

instance decidableSteady (s : Indexing) : (events : List Event) → Decidable (s.Steady events)
  | [] => .isTrue trivial
  | event :: rest =>
    have := (s.step event).decidableSteady rest
    inferInstanceAs (Decidable (s.changes event = false ∧ (s.step event).Steady rest))

/-! ### What an event keeps -/

variable (s : Indexing) (event : Event)

theorem threshold_step : (s.step event).usage.threshold = s.usage.threshold := by
  cases event with
  | record p =>
      exact (s.usage.sees_record s.collection p).threshold.trans (Usage.foldl_use_frame ..).1
  | indexSort sort => exact (s.usage.sees_ensureAll s.collection sort.paths).threshold
  | reset | sync nodes => rfl

theorem typeName_step : (s.step event).collection.typeName = s.collection.typeName := by
  cases event with
  | record p =>
      simp only [step, Usage.collection_record, NodeCollection.typeName_ensureEach]
  | indexSort sort =>
      simp only [step, Usage.collection_indexSort, NodeCollection.typeName_ensureEach]
  | reset => rfl
  | sync nodes => exact NodeCollection.typeName_sync nodes

/-- Only predicates are counted, and only a reset forgets. -/
theorem count_step (typeName path : String) :
    (s.step event).usage.count typeName path =
      if event.isReset then 0
      else s.usage.count typeName path +
        if typeName = s.collection.typeName ∧ event.uses path then 1 else 0 := by
  cases event with
  | record p =>
      have huses : (Event.record p).uses path ↔ path ∈ p.paths := by
        simp [Event.uses, Predicate.mem_paths]
      simp only [step, Usage.count_record, Event.isReset, huses]
      rfl
  | indexSort sort =>
      simp [step, Usage.count_indexSort, Event.isReset, Event.uses]
  | reset => rfl
  | sync nodes => simp [step, Event.isReset, Event.uses]

/-- As long as the nodes stay the same, what is settled stays so, and what is tried becomes so. -/
theorem settled_step {event : Event} (hsteady : s.changes event = false) {path : String}
    (h : s.collection.Settled path ∨ path ∈ s.attempts event) :
    (s.step event).collection.Settled path := by
  cases event with
  | record p =>
      simp only [step, Usage.collection_record, NodeCollection.settled_ensureEach]
      exact h.imp_right fun hmem => ((NodeCollection.mem_attempts _ _ _).mp hmem).1
  | indexSort sort =>
      simp only [step, Usage.collection_indexSort, NodeCollection.settled_ensureEach]
      exact h.imp_right fun hmem => ((NodeCollection.mem_attempts _ _ _).mp hmem).1
  | reset => exact h.resolve_right List.not_mem_nil
  | sync nodes =>
      show NodeCollection.Settled (s.collection.sync nodes).1 path
      rw [NodeCollection.sync_of_unchanged hsteady]
      exact h.resolve_right List.not_mem_nil

/-- Only what is not settled is tried, and no path twice. -/
theorem nodup_attempts_event :
    (s.attempts event).Nodup ∧ ∀ path ∈ s.attempts event, ¬s.collection.Settled path := by
  cases event with
  | record p =>
      exact ⟨NodeCollection.nodup_attempts _ _,
        fun path hpath => ((NodeCollection.mem_attempts _ _ _).mp hpath).2⟩
  | indexSort sort =>
      exact ⟨NodeCollection.nodup_attempts _ _,
        fun path hpath => ((NodeCollection.mem_attempts _ _ _).mp hpath).2⟩
  | reset | sync nodes => exact ⟨List.nodup_nil, fun path hpath => (List.not_mem_nil hpath).elim⟩

/-- Every try is an index built or a failure. -/
theorem tally_step :
    (s.step event).usage.built + (s.step event).usage.failures =
      s.usage.built + s.usage.failures + (s.attempts event).length := by
  cases event with
  | record p =>
      obtain ⟨-, hbuilt, hfailures⟩ := Usage.foldl_use_frame p.paths s.usage s.collection.typeName
      have htally := (s.usage.sees_record s.collection p).tally
      rw [hbuilt, hfailures] at htally
      exact htally
  | indexSort sort => exact (s.usage.sees_ensureAll s.collection sort.paths).tally
  | reset | sync nodes => rfl

/-! ### What holds all along -/

theorem run_frame (events : List Event) :
    (s.run events).usage.threshold = s.usage.threshold ∧
      (s.run events).collection.typeName = s.collection.typeName := by
  induction events generalizing s with
  | nil => exact ⟨rfl, rfl⟩
  | cons event rest ih =>
      obtain ⟨hthreshold, htype⟩ := ih (s.step event)
      exact ⟨hthreshold.trans (s.threshold_step event), htype.trans (s.typeName_step event)⟩

/-- A path is counted once for each predicate that has it, since the last reset. -/
theorem count_run (threshold : Nat) (c : NodeCollection) (events : List Event)
    (typeName path : String) :
    ((start threshold c).run events).usage.count typeName path =
      if typeName = c.typeName then
        (events.rtakeWhile fun event => !event.isReset).countP (Event.uses path)
      else 0 := by
  -- The induction is on the end of the run, where the last event is.
  induction events using List.reverseRecOn with
  | nil => simp [run, start, Usage.ofThreshold, Usage.count]
  | append_singleton events event ih =>
      have htype := ((start threshold c).run_frame events).2
      rw [run, List.foldl_append, List.foldl_cons, List.foldl_nil, ← run, count_step, ih,
        List.rtakeWhile_concat, htype]
      cases hreset : event.isReset with
      | true => simp
      | false =>
          by_cases heq : typeName = c.typeName
          · simp [heq, start, List.countP_append, List.countP_singleton]
          · simp [heq, start]

/-- As long as the nodes stay the same, only what is not settled is tried, and no path twice. -/
theorem nodup_attempted {events : List Event} (h : s.Steady events) :
    (s.attempted events).Nodup ∧ ∀ path ∈ s.attempted events, ¬s.collection.Settled path := by
  induction events generalizing s with
  | nil => exact ⟨List.nodup_nil, fun path hpath => (List.not_mem_nil hpath).elim⟩
  | cons event rest ih =>
      obtain ⟨hevent, hsteady⟩ := h
      obtain ⟨hnodup, hfresh⟩ := s.nodup_attempts_event event
      obtain ⟨hnodupRest, hfreshRest⟩ := ih _ hsteady
      refine ⟨List.nodup_append.mpr ⟨hnodup, hnodupRest, ?_⟩, fun path hpath => ?_⟩
      · rintro path hpath other hother rfl
        exact hfreshRest path hother (s.settled_step hevent (.inr hpath))
      · rcases List.mem_append.mp hpath with hpath | hpath
        · exact hfresh path hpath
        · exact fun hsettled => hfreshRest path hpath (s.settled_step hevent (.inl hsettled))

theorem tally_run (events : List Event) :
    (s.run events).usage.built + (s.run events).usage.failures =
      s.usage.built + s.usage.failures + (s.attempted events).length := by
  induction events generalizing s with
  | nil => rfl
  | cons event rest ih =>
      rw [attempted, List.length_append, ← Nat.add_assoc, ← s.tally_step event]
      exact ih (s.step event)

/-- **Indexing by use keeps its promise.** Whatever happened to a collection since no use was
counted,

* the count of a path is the number of predicates since the last reset that have a condition on it;
* a predicate gives those of its paths that are due, have no index, were not given up, and whose
  index can be built; afterwards every path that is due has an index or is given up;
* so has, at once, every path of a sort, and nothing is counted for it;
* as long as the nodes stay the same, no index is tried twice, nor one that is there or was given up,
  and every try counts as an index built or as a failure. -/
theorem indexes_as_promised (threshold : Nat) (c : NodeCollection) (events : List Event) :
    let s := (start threshold c).run events
    (∀ typeName path, s.usage.count typeName path =
      if typeName = c.typeName then
        (events.rtakeWhile fun event => !event.isReset).countP (Event.uses path)
      else 0) ∧
    (∀ p,
      let s' := s.step (.record p)
      (s.usage.record s.collection p).2.2 = p.paths.filter (fun path =>
        threshold ≤ s'.usage.count c.typeName path ∧ ¬s.collection.Settled path ∧
          s.collection.builds path) ∧
      ∀ path ∈ p.paths, threshold ≤ s'.usage.count c.typeName path →
        s'.collection.Settled path) ∧
    (∀ sort,
      let s' := s.step (.indexSort sort)
      (∀ path ∈ sort.paths, s'.collection.Settled path) ∧
      ∀ typeName path, s'.usage.count typeName path = s.usage.count typeName path) ∧
    ∀ more, s.Steady more →
      (s.attempted more).Nodup ∧
      (∀ path ∈ s.attempted more, ¬s.collection.Settled path) ∧
      (s.run more).usage.built + (s.run more).usage.failures =
        s.usage.built + s.usage.failures + (s.attempted more).length := by
  intro s
  obtain ⟨hthreshold, htype⟩ := (start threshold c).run_frame events
  have hthreshold : s.usage.threshold = threshold := hthreshold
  have htype : s.collection.typeName = c.typeName := htype
  refine ⟨count_run threshold c events, fun p => ?_, fun sort => ?_, fun more hsteady => ?_⟩
  · rw [← hthreshold, ← htype]
    exact ⟨s.usage.built_record s.collection p, fun path hpath hdue =>
      Usage.settled_record hpath hdue⟩
  · refine ⟨fun path hpath => ?_, fun typeName path => ?_⟩
    · simp only [step, Usage.collection_indexSort, NodeCollection.settled_ensureEach]
      exact .inr hpath
    · exact s.usage.count_indexSort s.collection sort typeName path
  · obtain ⟨hnodup, hfresh⟩ := s.nodup_attempted hsteady
    exact ⟨hnodup, hfresh, s.tally_run more⟩

/-! ### A post with a title and some words -/

/-- A collection with room for the index of titles, but not for that of words. -/
def posts : NodeCollection :=
  (NodeCollection.empty "Post" 2).withNodes [{
    id := "a"
    typeName := "Post"
    digest := "1"
    body := [("title", .string "hi"), ("words", .array [.ofNat 1, .ofNat 2, .ofNat 3])]
    stamp := 0 }]

/-- Two conditions on the title, and one on the elements of words. -/
def titleAndWords : Predicate :=
  [.tests "title" [.present], .elements "words" [.tests "title" [.present]],
    .tests "title" [.missing]]

/-- Once used. -/
def usedOnce : Indexing := (start 2 posts).run [.record titleAndWords]

/-- Used again and again, with the same nodes all along. -/
def usedAgain : List Event :=
  [.record titleAndWords, .sync posts.nodes.toList, .reset, .record titleAndWords,
    .indexSort [⟨"words", .ascending⟩], .record titleAndWords]

/-- The second use makes both indexes due. One is built, the other is given up, and neither is tried
again. -/
theorem indexes_as_promised_posts :
    usedOnce.Steady usedAgain ∧ usedOnce.attempted usedAgain = ["title", "words"] ∧
      (usedOnce.attempted usedAgain).Nodup ∧
      (usedOnce.run usedAgain).usage.built + (usedOnce.run usedAgain).usage.failures = 2 := by
  have hsteady : usedOnce.Steady usedAgain := by
    decide +kernel
  have hattempted : usedOnce.attempted usedAgain = ["title", "words"] := by
    decide +kernel
  have hbefore : usedOnce.usage.built + usedOnce.usage.failures = 0 := by
    decide +kernel
  have htries := (indexes_as_promised 2 posts [.record titleAndWords]).2.2.2 usedAgain hsteady
  have htally : (usedOnce.run usedAgain).usage.built + (usedOnce.run usedAgain).usage.failures =
      0 + ["title", "words"].length := by
    rw [← hbefore, ← hattempted]
    exact htries.2.2
  exact ⟨hsteady, hattempted, htries.1, htally⟩

end Indexing

end ContentQuery
