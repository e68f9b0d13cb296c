import ContentQuery.Proofs.Snapshot.Requests

/-!
# When entries are made

Entries of snapshots are made where the tasks of a batch are set up, which happens in its first
poll: what a poll enters belongs to nodes of a batch that nobody has polled before
(**`Materializer.OrderlyBut.poll`**). If every request is polled as soon as it is made, then these
are the nodes of the request at hand (`Materializer.Orderly`), and what was begun before never
enters anything again, whatever becomes of it. An entry of a batch is made together with its
promise, so later entries lead to later promises.
-/

namespace ContentQuery

/-- The nodes of a batch whose tasks are not set up yet. -/
def Batch.awaited : Batch → List Node
  | .fresh _ nodes _ => nodes
  | _ => []

/-- A batch in the making has its tasks. -/
def Promise.Begun : Promise Batch (List Node) → Prop
  | .pending batch => batch.awaited = []
  | .kept _ => True

/-- The request that is left of one that was polled. -/
def Promise.rest? {σ α : Type} : Promise σ α → Option σ
  | .pending state => some state
  | .kept _ => none

namespace SnapshotRequest

/-- A batch of the request's own has its tasks. -/
def Begun : SnapshotRequest → Prop
  | .own batch => batch.awaited = []
  | .shared _ _ => True

/-- The promise that the request waits for together with others. -/
def promise? : SnapshotRequest → Option Nat
  | .own _ => none
  | .shared _ promise => some promise

end SnapshotRequest

theorem Batch.Polled.begun {tasks : List Task} {state : Promise Batch (List Node)}
    (h : Batch.Polled tasks state) : state.Begun := by
  cases h <;> first | rfl | trivial

namespace Materializer

variable {m m' : Materializer}

/-! ## Entries of snapshots -/

/-- The snapshots entered were entered before, or are of these nodes as they are. The cache of
batches is left alone. -/
structure Admits (m m' : Materializer) (nodes : List Node) : Prop where
  entries : ∀ key promise, (key, promise) ∈ m'.nodeEntries → (key, promise) ∈ m.nodeEntries ∨
    ∃ node ∈ nodes, key.id = node.id ∧ key.version = node.digest
  batches : m'.batchCache = m.batchCache
  registry : m'.registry = m.registry

namespace Admits

variable {nodes : List Node}

theorem of_sublist (hentries : List.Sublist m'.nodeEntries m.nodeEntries)
    (hbatches : m'.batchCache = m.batchCache) (hregistry : m'.registry = m.registry) :
    m.Admits m' nodes where
  entries _ _ hmem := .inl (hentries.mem hmem)
  batches := hbatches
  registry := hregistry

theorem refl (m : Materializer) : m.Admits m nodes := .of_sublist (.refl _) rfl rfl

theorem trans {m'' : Materializer} (h : m.Admits m' nodes) (h' : m'.Admits m'' nodes) :
    m.Admits m'' nodes where
  entries := by
    intro key promise hmem
    rcases h'.entries key promise hmem with hmem | hnode
    · exact h.entries key promise hmem
    · exact .inr hnode
  batches := h'.batches.trans h.batches
  registry := h'.registry.trans h.registry

theorem mono {more : List Node} (h : m.Admits m' nodes) (hnodes : nodes ⊆ more) :
    m.Admits m' more where
  entries := by
    intro key promise hmem
    refine (h.entries key promise hmem).imp_right ?_
    rintro ⟨node, hnode, hkey⟩
    exact ⟨node, hnodes hnode, hkey⟩
  batches := h.batches
  registry := h.registry

theorem pollTask (store : NodeStore) (waker : Waker) (task : Task) (m : Materializer) :
    m.Admits (Materializer.pollTask store waker task m).1 nodes := by
  have hwork : ∀ (m₁ : Materializer) (waker : Waker) (copy : Node) (work : Work),
      m₁.Admits (m₁.pollWork store waker copy work).1 nodes := by
    intro m₁ waker copy work
    obtain ⟨s, stamp, heq⟩ := pollWork_eq m₁ store waker copy work
    rw [heq]
    exact .of_sublist (.refl _) rfl rfl
  cases task with
  | finished snapshot => exact .refl m
  | failed e => exact .refl m
  | own copy work =>
      have hpolled := hwork m waker copy work
      rw [Materializer.pollTask]
      split <;> rename_i heq <;> rw [heq] at hpolled <;> exact hpolled
  | shared key promise =>
      cases hpromise : m.nodePromises[promise]? with
      | none =>
          simp only [Materializer.pollTask, hpromise]
          exact .refl m
      | some shared =>
          obtain ⟨bell, state⟩ := shared
          obtain ⟨m₁, agenda, state', hpolls, hpolled⟩ := pollTask_shared store waker key hpromise
          obtain ⟨s, stamp, rfl⟩ := hpolls.eq
          rw [hpolled]
          exact .of_sublist (Cache.sublist_advance _ _ _ _ _) rfl rfl

/-- Polls of tasks enter nothing. -/
theorem of_progress {store : NodeStore} {tasks tasks' : List Task}
    (h : (crowdRule store).Progress m tasks m' tasks') : m.Admits m' nodes := by
  induction h with
  | refl => exact .refl m
  | agenda agenda _ ih => exact ih.trans (.of_sublist (.refl _) rfl rfl)
  | @poll m' tasks' waker index task _ _ ih => exact ih.trans (.pollTask store waker task m')

theorem task (m : Materializer) (t : ObjectType) (fields : RequiredFields) {node : Node}
    (hnode : node ∈ nodes) : m.Admits (m.task t fields node).1 nodes := by
  unfold Materializer.task
  dsimp only
  split
  · exact .refl m
  · split
    · exact .of_sublist (.refl _) rfl rfl
    · refine ⟨fun key promise hmem => ?_, rfl, rfl⟩
      rcases List.mem_append.mp hmem with hmem | hmem
      · exact .inl hmem
      · obtain ⟨rfl, -⟩ := Prod.mk.inj (List.mem_singleton.mp hmem)
        exact .inr ⟨node, hnode, rfl, rfl⟩

theorem tasks (t : ObjectType) (fields : RequiredFields) (some : List Node) (m : Materializer)
    (h : some ⊆ nodes) : m.Admits (m.tasks t fields some).1 nodes := by
  induction some generalizing m with
  | nil => exact .refl m
  | cons node rest ih =>
      have hfirst : m.Admits (m.task t fields node).1 nodes := .task m t fields (h (by simp))
      exact hfirst.trans (ih _ fun other hother => h (List.mem_cons_of_mem _ hother))

/-- A poll of a batch enters nodes whose tasks were not set up. -/
theorem pollBatch (m : Materializer) (store : NodeStore) (waker : Waker) (batch : Batch) :
    m.Admits (m.pollBatch store waker batch).1 batch.awaited ∧
      (m.pollBatch store waker batch).2.Begun := by
  rcases pollBatch_progress store m waker batch with
    ⟨typeName, nodes, fields, -, -, hpolled⟩ | ⟨m₁, tasks, tasks', hsetUp, hprogress, hpolled⟩
  · rw [hpolled]
    exact ⟨.refl m, trivial⟩
  · refine ⟨?_, hpolled.begun⟩
    cases hsetUp with
    | running => exact .of_progress hprogress
    | crowd => exact .of_progress hprogress
    | @fresh typeName nodes fields t _ =>
        have hset : m.Admits (m.tasks t fields nodes).1 nodes :=
          .tasks t fields nodes m (List.Subset.refl _)
        exact hset.trans (.of_progress hprogress)

end Admits

/-- Polling a request leaves the registry as it is. -/
theorem registry_poll (m : Materializer) (store : NodeStore) (waker : Waker)
    (request : SnapshotRequest) : (m.poll store waker request).1.registry = m.registry := by
  cases request with
  | own batch =>
      rw [poll_own]
      exact (Admits.pollBatch m store waker batch).1.registry
  | shared key promise =>
      cases hpromise : m.batchPromises[promise]? with
      | none => simp only [Materializer.poll, hpromise]
      | some shared =>
          obtain ⟨bell, state⟩ := shared
          obtain ⟨m₁, agenda, state', hpolls, hpolled⟩ := poll_shared store waker key hpromise
          rw [hpolled]
          cases hpolls with
          | kept result => rfl
          | pending agenda' waker' batch =>
              exact (Admits.pollBatch { m with agenda := agenda' } store waker' batch).1.registry

theorem registry_request (m : Materializer) (typeName : String) (nodes : List Node)
    (fields : RequiredFields) : (m.request typeName nodes fields).1.registry = m.registry := by
  unfold Materializer.request
  dsimp only
  split
  · rfl
  · split <;> rfl

/-! ## Entries of batches -/

/-- Entries lead to promises that were made, and batches that were promised have their tasks, but
perhaps for one. -/
structure OrderlyBut (m : Materializer) (exempt : Option Nat) : Prop where
  entries : ∀ key promise, (key, promise) ∈ m.batchEntries → promise < m.batchPromises.size
  begun : ∀ (promise bell : Nat) (state : Promise Batch (List Node)),
    m.batchPromises[promise]? = some ⟨bell, state⟩ → exempt ≠ some promise → state.Begun

/-- Entries lead to promises that were made, and batches that were promised have their tasks. -/
abbrev Orderly (m : Materializer) : Prop := m.OrderlyBut none

theorem OrderlyBut.mono (h : m.Orderly) (exempt : Option Nat) : m.OrderlyBut exempt where
  entries := h.entries
  begun promise bell state hstate _ := h.begun promise bell state hstate nofun

/-- Entries go, and nothing else happens to the caches. -/
structure Drops (m m' : Materializer) : Prop where
  registry : m'.registry = m.registry
  nodeEntries : List.Sublist m'.nodeEntries m.nodeEntries
  batchEntries : List.Sublist m'.batchEntries m.batchEntries
  nodePromises : m'.nodePromises = m.nodePromises
  batchPromises : m'.batchPromises = m.batchPromises

theorem drops_invalidate (m : Materializer) (id version : String) :
    m.Drops (m.invalidate id version).1 :=
  ⟨rfl, List.filter_sublist, List.nil_sublist _, rfl, rfl⟩

theorem drops_clear (m : Materializer) : m.Drops m.clear :=
  ⟨rfl, List.nil_sublist _, List.nil_sublist _, rfl, rfl⟩

theorem drops_finishBootstrap (m : Materializer) : m.Drops m.finishBootstrap :=
  ⟨rfl, .refl _, .refl _, rfl, rfl⟩

theorem drops_agenda (m : Materializer) (agenda : Agenda) : m.Drops { m with agenda } :=
  ⟨rfl, .refl _, .refl _, rfl, rfl⟩

/-- Dropping entries keeps the order. -/
theorem OrderlyBut.of_sublist {exempt : Option Nat} (h : m.OrderlyBut exempt)
    (hentries : List.Sublist m'.batchEntries m.batchEntries)
    (hpromises : m'.batchPromises = m.batchPromises) : m'.OrderlyBut exempt where
  entries key promise hmem := hpromises ▸ h.entries key promise (hentries.mem hmem)
  begun := hpromises ▸ h.begun

theorem OrderlyBut.drops {exempt : Option Nat} (h : m.OrderlyBut exempt) (hdrops : m.Drops m') :
    m'.OrderlyBut exempt := h.of_sublist hdrops.batchEntries hdrops.batchPromises

/-- The batch of a request, if it has not come to anything yet. -/
def InRequest (m : Materializer) (batch : Batch) : SnapshotRequest → Prop
  | .own own => batch = own
  | .shared _ promise => ∃ bell, m.batchPromises[promise]? = some ⟨bell, .pending batch⟩

/-- What requests and their polls make of the caches. Snapshots that are entered are of these nodes
as they are, and batches that are entered lead to new promises. -/
structure Enters (m m' : Materializer) (nodes : List Node) : Prop where
  snapshots : ∀ key promise, (key, promise) ∈ m'.nodeEntries → (key, promise) ∈ m.nodeEntries ∨
    ∃ node ∈ nodes, key.id = node.id ∧ key.version = node.digest
  batches : ∀ key promise, (key, promise) ∈ m'.batchEntries → (key, promise) ∈ m.batchEntries ∨
    m.batchPromises.size ≤ promise
  size : m.batchPromises.size ≤ m'.batchPromises.size

variable {nodes : List Node}

theorem Enters.refl (m : Materializer) : m.Enters m nodes where
  snapshots _ _ hmem := .inl hmem
  batches _ _ hmem := .inl hmem
  size := Nat.le_refl _

theorem Enters.trans {m'' : Materializer} (h : m.Enters m' nodes) (h' : m'.Enters m'' nodes) :
    m.Enters m'' nodes where
  snapshots := by
    intro key promise hmem
    rcases h'.snapshots key promise hmem with hmem | hnode
    · exact h.snapshots key promise hmem
    · exact .inr hnode
  batches := by
    intro key promise hmem
    rcases h'.batches key promise hmem with hmem | hnew
    · exact h.batches key promise hmem
    · exact .inr (Nat.le_trans h.size hnew)
  size := Nat.le_trans h.size h'.size

theorem Enters.mono {more : List Node} (h : m.Enters m' nodes) (hnodes : nodes ⊆ more) :
    m.Enters m' more where
  snapshots := by
    intro key promise hmem
    refine (h.snapshots key promise hmem).imp_right ?_
    rintro ⟨node, hnode, hkey⟩
    exact ⟨node, hnodes hnode, hkey⟩
  batches := h.batches
  size := h.size

theorem Admits.enters (h : m.Admits m' nodes) : m.Enters m' nodes where
  snapshots := h.entries
  batches key promise hmem := by
    have hentries : m'.batchEntries = m.batchEntries := congrArg Cache.entries h.batches
    exact .inl (hentries ▸ hmem)
  size := by
    have hpromises : m'.batchPromises = m.batchPromises := congrArg Cache.promises h.batches
    exact Nat.le_of_eq (congrArg Array.size hpromises.symm)

theorem OrderlyBut.of_admits {exempt : Option Nat} (h : m.OrderlyBut exempt)
    (hadmits : m.Admits m' nodes) : m'.OrderlyBut exempt := by
  have hentries : m'.batchEntries = m.batchEntries := congrArg Cache.entries hadmits.batches
  exact h.of_sublist (hentries ▸ .refl _) (congrArg Cache.promises hadmits.batches)

/-- The promise of a batch goes on, and then none is left to be begun. -/
theorem OrderlyBut.advance {promise bell : Nat} (h : m.OrderlyBut (some promise))
    {before state : Promise Batch (List Node)} (key : BatchKey)
    (hbefore : m.batchPromises[promise]? = some ⟨bell, before⟩) (hbegun : state.Begun)
    (agenda : Agenda) :
    (m.withBatchCache agenda (m.batchCache.advance key promise bell state)).Orderly ∧
      m.Enters (m.withBatchCache agenda (m.batchCache.advance key promise bell state)) nodes := by
  have hsublist := Cache.sublist_advance m.batchCache key promise bell state
  have hsize := Cache.size_advance m.batchCache key promise bell state
  refine ⟨⟨fun key promise hmem => ?_, fun other bell' state' hstate _ => ?_⟩,
    ⟨fun _ _ hmem => .inl hmem, fun key promise hmem => .inl (hsublist.mem hmem),
      Nat.le_of_eq hsize.symm⟩⟩
  · exact Nat.lt_of_lt_of_eq (h.entries key promise (hsublist.mem hmem)) hsize.symm
  · have hset : (m.batchCache.advance key promise bell state).promises[other]? =
        some ⟨bell', state'⟩ := hstate
    rw [Cache.promises_advance, Cache.getElem?_set hbefore] at hset
    split at hset
    · obtain ⟨-, rfl⟩ := SharedPromise.mk.inj (Option.some.inj hset)
      exact hbegun
    · rename_i hne
      exact h.begun other bell' state' hset fun heq => hne (Option.some.inj heq).symm

/-- One poll of a shared batch admits its nodes only, and leaves it begun. -/
theorem Admits.pollsTo {store : NodeStore} {state state' : Promise Batch (List Node)}
    (hpolls : BatchPollsTo store m state m' state')
    (hnodes : ∀ batch, state = .pending batch → batch.awaited ⊆ nodes) :
    m.Admits m' nodes ∧ state'.Begun := by
  cases hpolls with
  | kept result => exact ⟨.refl m, trivial⟩
  | pending agenda waker batch =>
      obtain ⟨hadmits, hbegun⟩ := Admits.pollBatch { m with agenda } store waker batch
      have hagenda : m.Admits { m with agenda } batch.awaited := .of_sublist (.refl _) rfl rfl
      exact ⟨(hagenda.trans hadmits).mono (hnodes batch rfl), hbegun⟩

/-- **One poll of a request** enters nodes of its batch only, and leaves none to be begun. -/
theorem OrderlyBut.poll {request : SnapshotRequest} (h : m.OrderlyBut request.promise?)
    (store : NodeStore) (waker : Waker)
    (hnodes : ∀ batch, m.InRequest batch request → batch.awaited ⊆ nodes) :
    (m.poll store waker request).1.Orderly ∧ m.Enters (m.poll store waker request).1 nodes ∧
      ∀ rest ∈ (m.poll store waker request).2.rest?, rest.Begun := by
  cases request with
  | own batch =>
      obtain ⟨hadmits, hbegun⟩ := Admits.pollBatch m store waker batch
      rw [poll_own]
      refine ⟨h.of_admits hadmits, (hadmits.mono (hnodes batch rfl)).enters, ?_⟩
      generalize (m.pollBatch store waker batch).2 = state at hbegun
      cases state with
      | pending batch' =>
          rintro rest ⟨⟩
          exact hbegun
      | kept result => rintro rest ⟨⟩
  | shared key promise =>
      cases hpromise : m.batchPromises[promise]? with
      | none =>
          -- There is no such promise, so it is no exception either.
          have horderly : m.Orderly := by
            refine ⟨h.entries, fun other bell state hstate _ => ?_⟩
            refine h.begun other bell state hstate fun heq => ?_
            obtain rfl : promise = other := Option.some.inj heq
            rw [hpromise] at hstate
            cases hstate
          simp only [Materializer.poll, hpromise]
          refine ⟨horderly, .refl m, ?_⟩
          rintro rest ⟨⟩
          trivial
      | some shared =>
          obtain ⟨bell, state⟩ := shared
          obtain ⟨m₁, agenda, state', hpolls, hpolled⟩ := poll_shared store waker key hpromise
          obtain ⟨hadmits, hbegun⟩ : m.Admits m₁ nodes ∧ state'.Begun := by
            refine Admits.pollsTo hpolls ?_
            rintro batch rfl
            exact hnodes batch ⟨bell, hpromise⟩
          have hpromises : m₁.batchPromises = m.batchPromises :=
            congrArg Cache.promises hadmits.batches
          obtain ⟨horderly, henters⟩ :=
            (h.of_admits hadmits).advance key (hpromises ▸ hpromise) hbegun agenda
          rw [hpolled]
          refine ⟨horderly, hadmits.enters.trans henters, ?_⟩
          cases state' with
          | pending batch =>
              rintro rest ⟨⟩
              trivial
          | kept result => rintro rest ⟨⟩

/-- **A request** is for a batch that was begun before, or for one of its own nodes. Nothing is
entered but the batch, with a new promise. -/
theorem OrderlyBut.request (h : m.Orderly) (typeName : String) (nodes : List Node)
    (fields : RequiredFields) :
    (m.request typeName nodes fields).1.OrderlyBut (m.request typeName nodes fields).2.promise? ∧
      m.Enters (m.request typeName nodes fields).1 nodes ∧
      (∀ batch, (m.request typeName nodes fields).1.InRequest batch
        (m.request typeName nodes fields).2 → batch.awaited ⊆ nodes) ∧
      ∀ promise ∈ (m.request typeName nodes fields).2.promise?,
        (∃ key, (key, promise) ∈ m.batchEntries) ∨ m.batchPromises.size ≤ promise := by
  unfold Materializer.request
  dsimp only
  split
  · refine ⟨h, .refl m, ?_, nofun⟩
    rintro batch rfl
    exact List.Subset.refl _
  · split
    · rename_i promise hlookup
      obtain ⟨before, after, hentries, _⟩ := List.lookup_eq_some_iff.mp hlookup
      refine ⟨⟨h.entries, fun other bell state hstate _ => h.begun other bell state hstate nofun⟩,
        ⟨fun _ _ hmem => .inl hmem, fun _ _ hmem => .inl hmem, Nat.le_refl _⟩, ?_, ?_⟩
      · rintro batch ⟨bell, hpromise⟩
        have hbegun : batch.awaited = [] := h.begun _ _ _ hpromise nofun
        rw [hbegun]
        exact List.nil_subset _
      · rintro _ ⟨⟩
        exact .inl ⟨⟨typeName, nodes.length, fields⟩, by simp [hentries]⟩
    · refine ⟨⟨?_, ?_⟩, ⟨fun _ _ hmem => .inl hmem, ?_, ?_⟩, ?_, ?_⟩
      · intro key promise hmem
        rw [Array.size_push]
        rcases List.mem_append.mp hmem with hmem | hmem
        · exact Nat.lt_succ_of_lt (h.entries key promise hmem)
        · obtain ⟨-, rfl⟩ := Prod.mk.inj (List.mem_singleton.mp hmem)
          exact Nat.lt_succ_self _
      · intro other bell state hstate hother
        rw [Array.getElem?_push, if_neg fun heq => hother (congrArg some heq.symm)] at hstate
        exact h.begun other bell state hstate nofun
      · intro key promise hmem
        rcases List.mem_append.mp hmem with hmem | hmem
        · exact .inl hmem
        · obtain ⟨-, rfl⟩ := Prod.mk.inj (List.mem_singleton.mp hmem)
          exact .inr (Nat.le_refl _)
      · rw [Array.size_push]
        exact Nat.le_succ _
      · rintro batch ⟨bell, hpromise⟩
        rw [Array.getElem?_push_size] at hpromise
        obtain ⟨-, hstate⟩ := SharedPromise.mk.inj (Option.some.inj hpromise)
        obtain rfl := Promise.pending.inj hstate
        exact List.Subset.refl _
      · rintro _ ⟨⟩
        exact .inr (Nat.le_refl _)

end Materializer

end ContentQuery
