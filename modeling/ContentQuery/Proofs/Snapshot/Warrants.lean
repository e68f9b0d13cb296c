import ContentQuery.Proofs.Snapshot.Arrivals
import ContentQuery.Proofs.Snapshot.Failures

/-!
# Whose failures are shared

Promises of snapshots are shared by key, and the key does not say for which type a promise was made.
A `Warrant` says of which keys it can be relied on that all fields were declared. Where requests
keep to it, a request whose fields are declared fails only if a resolver does, whoever else asked
for the same snapshots (**`Warrant.Holds.poll_sincere`**, **`Warrant.Holds.request_sincere`**).
-/

namespace ContentQuery

theorem Promise.Sincere.rest {σ α : Type} {sincere : σ → Prop} {state : Promise σ α}
    (h : state.Sincere sincere) : ∀ rest ∈ state.rest?, sincere rest := by
  cases state with
  | pending rest =>
      rintro _ ⟨⟩
      exact h
  | kept result => exact nofun

/-! ## Promises and tasks -/

namespace Materializer

/-- The promise of a snapshot is sincere. -/
def Sincere (m : Materializer) (promise : Nat) : Prop :=
  ∃ bell state, m.nodePromises[promise]? = some ⟨bell, state⟩ ∧
    state.Sincere fun pending => pending.2.Sincere

theorem Sincere.state {m : Materializer} {promise bell : Nat}
    {state : Promise (Node × Work) Node} (h : m.Sincere promise)
    (hstate : m.nodePromises[promise]? = some ⟨bell, state⟩) :
    state.Sincere fun pending => pending.2.Sincere := by
  obtain ⟨_, state', hstate', hsincere⟩ := h
  rw [hstate] at hstate'
  obtain ⟨-, rfl⟩ := SharedPromise.mk.inj (Option.some.inj hstate')
  exact hsincere

theorem PollsTo.sincere {store : NodeStore} {m m₁ : Materializer}
    {state state' : Promise (Node × Work) Node} (h : PollsTo store m state m₁ state')
    (hstate : state.Sincere fun pending => pending.2.Sincere) :
    state'.Sincere fun pending => pending.2.Sincere := by
  cases h with
  | kept result => exact hstate
  | pending agenda waker copy work => exact Work.Sincere.pollWork hstate _ store waker copy

end Materializer

/-- A task fails only if a resolver does. -/
def Task.Sincere (m : Materializer) : Task → Prop
  | .own _ work => work.Sincere
  | .shared _ promise => m.Sincere promise
  | .finished _ => True
  | .failed e => e.OfResolver

theorem Task.Sincere.mono {m m' : Materializer}
    (h : ∀ promise, m.Sincere promise → m'.Sincere promise) {task : Task}
    (htask : task.Sincere m) : task.Sincere m' := by
  cases task with
  | shared key promise => exact h promise htask
  | _ => exact htask

/-- What may be relied on of the keys of snapshots. -/
structure Warrant where
  registry : Registry
  /-- Whatever is entered under the key was asked for where all its fields are declared. -/
  vouched : NodeKey → Prop

namespace Warrant

variable (W : Warrant)

/-- Nodes may be asked for so: their keys are vouched for exactly if all fields are declared. -/
def Allows (typeName : String) (nodes : List Node) (fields : RequiredFields) : Prop :=
  ∀ node ∈ nodes, W.vouched (.ofNode node fields) ↔ W.registry.Accepts typeName fields

/-- A batch that was not begun yet asks for nodes that may be asked for so. -/
def AllowsBatch : Batch → Prop
  | .fresh typeName nodes fields => W.Allows typeName nodes fields
  | _ => True

/-- Snapshots entered under keys that are vouched for are sincere. -/
def Snapshots (m : Materializer) : Prop :=
  ∀ key promise, (key, promise) ∈ m.nodeEntries → W.vouched key → m.Sincere promise

/-- What does not concern batches may change only so. -/
structure Keeps (m m' : Materializer) : Prop where
  registry : m'.registry = m.registry
  batches : m'.batchCache = m.batchCache
  sincere : ∀ promise, m.Sincere promise → m'.Sincere promise
  snapshots : W.Snapshots m → W.Snapshots m'

variable {W} {m m' : Materializer}

namespace Keeps

/-- A change that adds no entry, and after which sincere promises are sincere. -/
theorem of_sublist (hregistry : m'.registry = m.registry) (hbatches : m'.batchCache = m.batchCache)
    (hentries : List.Sublist m'.nodeEntries m.nodeEntries)
    (hsincere : ∀ promise, m.Sincere promise → m'.Sincere promise) : W.Keeps m m' where
  registry := hregistry
  batches := hbatches
  sincere := hsincere
  snapshots h key promise hmem hkey := hsincere promise (h key promise (hentries.mem hmem) hkey)

theorem refl (m : Materializer) : W.Keeps m m := .of_sublist rfl rfl (.refl _) fun _ h => h

theorem agenda (m : Materializer) (agenda : Agenda) : W.Keeps m { m with agenda } :=
  .of_sublist rfl rfl (.refl _) fun _ h => h

theorem trans {m'' : Materializer} (h : W.Keeps m m') (h' : W.Keeps m' m'') : W.Keeps m m'' where
  registry := h'.registry.trans h.registry
  batches := h'.batches.trans h.batches
  sincere promise hp := h'.sincere promise (h.sincere promise hp)
  snapshots hm := h'.snapshots (h.snapshots hm)

theorem pollWork (m : Materializer) (store : NodeStore) (waker : Waker) (copy : Node)
    (work : Work) :
    W.Keeps m (m.pollWork store waker copy work).1 := by
  obtain ⟨s, stamp, heq⟩ := Materializer.pollWork_eq m store waker copy work
  rw [heq]
  exact .of_sublist rfl rfl (.refl _) fun _ h => h

/-- A promise goes on, and stays sincere if it was. -/
theorem advance {promise bell : Nat} {before after : Promise (Node × Work) Node}
    (hbefore : m.nodePromises[promise]? = some ⟨bell, before⟩)
    (hsincere : (before.Sincere fun pending => pending.2.Sincere) →
      after.Sincere fun pending => pending.2.Sincere) (agenda : Agenda) (key : NodeKey) :
    W.Keeps m (m.withNodeCache agenda (m.nodeCache.advance key promise bell after)) := by
  refine .of_sublist rfl rfl (Cache.sublist_advance _ _ _ _ _) ?_
  rintro other ⟨bell', state, hstate, hother⟩
  have hset : (m.nodeCache.advance key promise bell after).promises[other]? =
      if other = promise then some ⟨bell, after⟩ else m.nodePromises[other]? := by
    rw [Cache.promises_advance]
    exact Cache.getElem?_set hbefore other
  by_cases heq : other = promise
  · subst heq
    rw [if_pos rfl] at hset
    obtain ⟨-, rfl⟩ := SharedPromise.mk.inj (Option.some.inj (hstate.symm.trans hbefore))
    exact ⟨bell, after, hset, hsincere hother⟩
  · rw [if_neg heq] at hset
    exact ⟨bell', state, hset.trans hstate, hother⟩

/-- **One poll of a task** leaves what is sincere sincere, the task included. -/
theorem pollTask (store : NodeStore) (waker : Waker) (task : Task) (m : Materializer) :
    W.Keeps m (Materializer.pollTask store waker task m).1 ∧
      (task.Sincere m → (Materializer.pollTask store waker task m).2.Sincere
        (Materializer.pollTask store waker task m).1) := by
  cases task with
  | finished snapshot => exact ⟨.refl m, fun h => h⟩
  | failed e => exact ⟨.refl m, fun h => h⟩
  | own copy work =>
      have hkeeps : W.Keeps m (m.pollWork store waker copy work).1 :=
        .pollWork m store waker copy work
      have hsincere : work.Sincere →
          (m.pollWork store waker copy work).2.Sincere fun pending => pending.2.Sincere :=
        fun h => h.pollWork m store waker copy
      rw [Materializer.pollTask]
      split <;> rename_i heq <;> rw [heq] at hkeeps hsincere <;> exact ⟨hkeeps, hsincere⟩
  | shared key promise =>
      cases hpromise : m.nodePromises[promise]? with
      | none =>
          simp only [Materializer.pollTask, hpromise]
          exact ⟨.refl m, fun h => h⟩
      | some shared =>
          obtain ⟨bell, state⟩ := shared
          obtain ⟨m₁, agenda, state', hpolls, hpolled⟩ :=
            Materializer.pollTask_shared store waker key hpromise
          have hsincere := hpolls.sincere
          obtain ⟨s, stamp, rfl⟩ := hpolls.eq
          let polled : Materializer := { m with toPollState := s, nextStamp := stamp }
          have hkeeps : W.Keeps m polled := .of_sublist rfl rfl (.refl _) fun _ h => h
          have hadvance := hkeeps.trans (.advance (m := polled) hpromise hsincere agenda key)
          rw [hpolled]
          refine ⟨hadvance, fun h => ?_⟩
          have hstate := hsincere (h.state hpromise)
          rcases state' with pending | e | snapshot
          · exact hadvance.sincere promise h
          · exact hstate
          · trivial

theorem of_progress {store : NodeStore} {tasks tasks' : List Task}
    (h : (Materializer.crowdRule store).Progress m tasks m' tasks') :
    W.Keeps m m' ∧
      ((∀ task ∈ tasks, task.Sincere m) → ∀ task ∈ tasks', task.Sincere m') := by
  induction h with
  | refl => exact ⟨.refl m, fun h => h⟩
  | agenda agenda _ ih => exact ⟨ih.1.trans (.agenda _ agenda), ih.2⟩
  | @poll m' tasks' waker index task _ hpart ih =>
      obtain ⟨hkeeps, hsincere⟩ := pollTask (W := W) store waker task m'
      refine ⟨ih.1.trans hkeeps, fun h other hother => ?_⟩
      rcases List.mem_or_eq_of_mem_set hother with hmem | rfl
      · exact (ih.2 h other hmem).mono hkeeps.sincere
      · exact hsincere (ih.2 h task (List.mem_of_getElem? hpart))

/-- A task that is set up under a key that is vouched for is sincere. -/
theorem task (m : Materializer) {t : ObjectType} {fields : RequiredFields} {node : Node}
    (h : W.vouched (.ofNode node fields) → m.registry.DeclaresAll t fields) :
    W.Keeps m (m.task t fields node).1 ∧
      (W.Snapshots m → W.vouched (.ofNode node fields) →
        (m.task t fields node).2.Sincere (m.task t fields node).1) := by
  have hwork : W.vouched (.ofNode node fields) →
      (node.completion m.registry m.path t fields).Sincere := by
    intro hkey e he
    exact Completion.ofResolver_of_ends _ t fields (h hkey) node.body he
  unfold Materializer.task
  dsimp only
  split
  · exact ⟨.refl m, fun _ => hwork⟩
  · split
    · rename_i promise hlookup
      obtain ⟨before, after, hentries, _⟩ := List.lookup_eq_some_iff.mp hlookup
      have hmem : (NodeKey.ofNode node fields, promise) ∈ m.nodeEntries := by simp [hentries]
      exact ⟨.of_sublist rfl rfl (.refl _) fun _ h => h, fun hm hkey => hm _ promise hmem hkey⟩
    · have hold : ∀ promise, m.Sincere promise → Materializer.Sincere { m with
          agenda := m.agenda.newBell.1
          nodePromises := m.nodePromises.push
            ⟨m.agenda.newBell.2, .pending (node, node.completion m.registry m.path t fields)⟩
          nodeEntries := m.nodeEntries ++ [(NodeKey.ofNode node fields, m.nodePromises.size)]
          nodeMisses := m.nodeMisses + 1 } promise := by
        rintro promise ⟨bell, state, hstate, hsincere⟩
        exact ⟨bell, state, SharedPromise.getElem?_push_of_some hstate, hsincere⟩
      refine ⟨⟨rfl, rfl, hold, fun hm key promise hmem hkey => ?_⟩, fun _ hkey => ?_⟩
      · rcases List.mem_append.mp hmem with hmem | hmem
        · exact hold promise (hm key promise hmem hkey)
        · obtain ⟨rfl, rfl⟩ := Prod.mk.inj (List.mem_singleton.mp hmem)
          exact ⟨_, _, Array.getElem?_push_size, hwork hkey⟩
      · exact ⟨_, _, Array.getElem?_push_size, hwork hkey⟩

theorem tasks {t : ObjectType} {fields : RequiredFields} (nodes : List Node) (m : Materializer)
    (h : ∀ node ∈ nodes, W.vouched (.ofNode node fields) → m.registry.DeclaresAll t fields) :
    W.Keeps m (m.tasks t fields nodes).1 ∧
      (W.Snapshots m → (∀ node ∈ nodes, W.vouched (.ofNode node fields)) →
        ∀ task ∈ (m.tasks t fields nodes).2, task.Sincere (m.tasks t fields nodes).1) := by
  induction nodes generalizing m with
  | nil => exact ⟨.refl m, fun _ _ _ hmem => (List.not_mem_nil hmem).elim⟩
  | cons node rest ih =>
      obtain ⟨hfirst, hsincere⟩ := task m (h node (by simp))
      obtain ⟨hrest, hsincere'⟩ := ih (m.task t fields node).1 fun other hother =>
        hfirst.registry ▸ h other (by simp [hother])
      refine ⟨hfirst.trans hrest, fun hm hkeys => List.forall_mem_cons.mpr ⟨?_, ?_⟩⟩
      · exact (hsincere hm (hkeys node (by simp))).mono hrest.sincere
      · exact hsincere' (hfirst.snapshots hm) fun other hother => hkeys other (by simp [hother])

end Keeps

/-! ## Batches -/

variable (W)

/-- A batch fails only if a resolver does. -/
def SincereBatch (m : Materializer) : Batch → Prop
  | .fresh typeName _ fields => W.registry.Accepts typeName fields
  | .running tasks | .crowd _ tasks => ∀ task ∈ tasks, task.Sincere m

/-- The promise of a batch is sincere. -/
def SincerePromise (m : Materializer) (promise : Nat) : Prop :=
  ∃ bell state, m.batchPromises[promise]? = some ⟨bell, state⟩ ∧
    state.Sincere (W.SincereBatch m)

/-- A request fails only if a resolver does. -/
def SincereRequest (m : Materializer) : SnapshotRequest → Prop
  | .own batch => W.SincereBatch m batch
  | .shared _ promise => W.SincerePromise m promise

variable {W}

theorem SincereBatch.mono (h : ∀ promise, m.Sincere promise → m'.Sincere promise) {batch : Batch}
    (hbatch : W.SincereBatch m batch) : W.SincereBatch m' batch := by
  cases batch with
  | fresh typeName nodes fields => exact hbatch
  | running tasks => exact fun task htask => (hbatch task htask).mono h
  | crowd number tasks => exact fun task htask => (hbatch task htask).mono h

theorem sincereState_mono (h : ∀ promise, m.Sincere promise → m'.Sincere promise)
    {state : Promise Batch (List Node)} (hstate : state.Sincere (W.SincereBatch m)) :
    state.Sincere (W.SincereBatch m') := by
  rcases state with batch | e | snapshots
  · exact SincereBatch.mono h hstate
  · exact hstate
  · trivial

theorem SincerePromise.state {promise bell : Nat} {state : Promise Batch (List Node)}
    (h : W.SincerePromise m promise) (hstate : m.batchPromises[promise]? = some ⟨bell, state⟩) :
    state.Sincere (W.SincereBatch m) := by
  obtain ⟨_, state', hstate', hsincere⟩ := h
  rw [hstate] at hstate'
  obtain ⟨-, rfl⟩ := SharedPromise.mk.inj (Option.some.inj hstate')
  exact hsincere

/-- What becomes of a batch fails only as its tasks do. -/
theorem sincere_of_polled {tasks : List Task} (htasks : ∀ task ∈ tasks, task.Sincere m)
    {state : Promise Batch (List Node)} (h : Batch.Polled tasks state) :
    state.Sincere (W.SincereBatch m) := by
  cases h with
  | running => exact htasks
  | crowd number => exact htasks
  | kept _ => trivial
  | failed hmem => exact htasks _ hmem

theorem allows_of_polled {tasks : List Task} {batch : Batch}
    (h : Batch.Polled tasks (.pending batch)) : W.AllowsBatch batch := by
  cases h <;> trivial

/-- **One poll of a batch** leaves what is sincere sincere, the batch included. -/
theorem pollBatch_keeps (store : NodeStore) (waker : Waker) (hregistry : m.registry = W.registry)
    {batch : Batch} (hallows : W.AllowsBatch batch) :
    W.Keeps m (m.pollBatch store waker batch).1 ∧
      (∀ batch', (m.pollBatch store waker batch).2 = .pending batch' → W.AllowsBatch batch') ∧
      (W.Snapshots m → W.SincereBatch m batch →
        (m.pollBatch store waker batch).2.Sincere
          (W.SincereBatch (m.pollBatch store waker batch).1)) := by
  rcases Materializer.pollBatch_progress store m waker batch with
    ⟨typeName, nodes, fields, rfl, htype, hpolled⟩ | ⟨m', tasks, tasks', hsetUp, hprogress, hstate⟩
  · rw [hpolled]
    refine ⟨.refl m, fun _ heq => by (cases heq), ?_⟩
    rintro - ⟨t, ht, -⟩
    rw [hregistry, ht] at htype
    cases htype
  · have hbefore : W.Keeps m m' ∧ (W.Snapshots m → W.SincereBatch m batch →
        ∀ task ∈ tasks, task.Sincere m') := by
      cases hsetUp with
      | running => exact ⟨.refl m, fun _ h => h⟩
      | crowd number => exact ⟨.refl m, fun _ h => h⟩
      | @fresh typeName nodes fields t ht =>
          rw [hregistry] at ht
          have hdeclares : ∀ node ∈ nodes, W.vouched (.ofNode node fields) →
              m.registry.DeclaresAll t fields := by
            intro node hnode hkey
            obtain ⟨t', ht', hall⟩ := (hallows node hnode).mp hkey
            obtain rfl := Option.some.inj (ht.symm.trans ht')
            exact hregistry ▸ hall
          obtain ⟨hkeeps, hsincere⟩ := Keeps.tasks nodes m hdeclares
          exact ⟨hkeeps, fun hm haccepts =>
            hsincere hm fun node hnode => (hallows node hnode).mpr haccepts⟩
    obtain ⟨hkeeps, hsincere⟩ := Keeps.of_progress hprogress
    refine ⟨hbefore.1.trans hkeeps, ?_, fun hm h => ?_⟩
    · intro batch' heq
      rw [heq] at hstate
      exact allows_of_polled hstate
    · exact sincere_of_polled (hsincere (hbefore.2 hm h)) hstate

/-! ## Requests -/

variable (W)

/-- Whatever is entered where all fields are declared is sincere, and nothing was asked for but as
it may be. -/
structure Holds (m : Materializer) : Prop where
  registry : m.registry = W.registry
  snapshots : W.Snapshots m
  batches : ∀ key promise, (key, promise) ∈ m.batchEntries →
    W.registry.Accepts key.typeName key.fields → W.SincerePromise m promise
  allows : ∀ (promise bell : Nat) (batch : Batch),
    m.batchPromises[promise]? = some ⟨bell, .pending batch⟩ → W.AllowsBatch batch

/-- What is sincere stays so. -/
structure Leads (m m' : Materializer) : Prop where
  snapshots : ∀ promise, m.Sincere promise → m'.Sincere promise
  batches : ∀ promise, W.SincerePromise m promise → W.SincerePromise m' promise

/-- A batch of the request's own was asked for as it may be. -/
def AllowsRequest : SnapshotRequest → Prop
  | .own batch => W.AllowsBatch batch
  | .shared _ _ => True

variable {W}

theorem Leads.refl (m : Materializer) : W.Leads m m := ⟨fun _ hp => hp, fun _ hp => hp⟩

theorem Leads.trans {m'' : Materializer} (h : W.Leads m m') (h' : W.Leads m' m'') :
    W.Leads m m'' where
  snapshots promise hp := h'.snapshots promise (h.snapshots promise hp)
  batches promise hp := h'.batches promise (h.batches promise hp)

theorem SincereRequest.mono (h : W.Leads m m') {request : SnapshotRequest}
    (hrequest : W.SincereRequest m request) : W.SincereRequest m' request := by
  cases request with
  | own batch => exact SincereBatch.mono h.snapshots hrequest
  | shared key promise => exact h.batches promise hrequest

theorem Keeps.leads (h : W.Keeps m m') : W.Leads m m' where
  snapshots := h.sincere
  batches := by
    rintro promise ⟨bell, state, hstate, hsincere⟩
    have hpromises : m'.batchPromises = m.batchPromises := congrArg Cache.promises h.batches
    exact ⟨bell, state, hpromises ▸ hstate, sincereState_mono h.sincere hsincere⟩

theorem Holds.keeps (h : W.Holds m) (hkeeps : W.Keeps m m') : W.Holds m' where
  registry := hkeeps.registry.trans h.registry
  snapshots := hkeeps.snapshots h.snapshots
  batches := by
    have hentries : m'.batchEntries = m.batchEntries := congrArg Cache.entries hkeeps.batches
    intro key promise hmem haccepts
    exact hkeeps.leads.batches promise (h.batches key promise (hentries ▸ hmem) haccepts)
  allows := by
    have hpromises : m'.batchPromises = m.batchPromises := congrArg Cache.promises hkeeps.batches
    exact hpromises ▸ h.allows

/-- Dropping entries leaves what is sincere sincere. -/
theorem Holds.drops (h : W.Holds m) (hdrops : m.Drops m') : W.Holds m' ∧ W.Leads m m' := by
  have hsnapshots : ∀ promise, m.Sincere promise → m'.Sincere promise := by
    rintro promise ⟨bell, state, hstate, hsincere⟩
    exact ⟨bell, state, hdrops.nodePromises ▸ hstate, hsincere⟩
  have hleads : W.Leads m m' := by
    refine ⟨hsnapshots, ?_⟩
    rintro promise ⟨bell, state, hstate, hsincere⟩
    exact ⟨bell, state, hdrops.batchPromises ▸ hstate, sincereState_mono hsnapshots hsincere⟩
  refine ⟨⟨hdrops.registry.trans h.registry, fun key promise hmem hkey => ?_,
    fun key promise hmem haccepts => ?_, hdrops.batchPromises ▸ h.allows⟩, hleads⟩
  · exact hsnapshots promise (h.snapshots key promise (hdrops.nodeEntries.mem hmem) hkey)
  · exact hleads.batches promise (h.batches key promise (hdrops.batchEntries.mem hmem) haccepts)

/-- The promise of a batch goes on, and stays sincere if it was. -/
theorem Holds.advance (h : W.Holds m) (hkeeps : W.Keeps m m') {promise bell : Nat}
    {before after : Promise Batch (List Node)}
    (hbefore : m.batchPromises[promise]? = some ⟨bell, before⟩)
    (hallows : ∀ batch, after = .pending batch → W.AllowsBatch batch)
    (hsincere : before.Sincere (W.SincereBatch m) → after.Sincere (W.SincereBatch m'))
    (agenda : Agenda) (key : BatchKey) :
    W.Holds (m'.withBatchCache agenda (m'.batchCache.advance key promise bell after)) ∧
      W.Leads m (m'.withBatchCache agenda (m'.batchCache.advance key promise bell after)) := by
  rw [hkeeps.batches]
  have hset : ∀ other, (m.batchCache.advance key promise bell after).promises[other]? =
      if other = promise then some ⟨bell, after⟩ else m.batchPromises[other]? := by
    intro other
    rw [Cache.promises_advance]
    exact Cache.getElem?_set hbefore other
  have hleads : W.Leads m
      (m'.withBatchCache agenda (m.batchCache.advance key promise bell after)) := by
    refine ⟨hkeeps.sincere, ?_⟩
    rintro other ⟨bell', state, hstate, hother⟩
    by_cases heq : other = promise
    · subst heq
      obtain ⟨-, rfl⟩ := SharedPromise.mk.inj (Option.some.inj (hstate.symm.trans hbefore))
      refine ⟨bell, after, (hset other).trans (if_pos rfl), ?_⟩
      exact sincereState_mono (fun _ hp => hp) (hsincere hother)
    · refine ⟨bell', state, ((hset other).trans (if_neg heq)).trans hstate, ?_⟩
      exact sincereState_mono hkeeps.sincere hother
  refine ⟨⟨hkeeps.registry.trans h.registry, hkeeps.snapshots h.snapshots,
    fun key' other hmem haccepts => ?_, ?_⟩, hleads⟩
  · exact hleads.batches other
      (h.batches key' other ((Cache.sublist_advance _ _ _ _ _).mem hmem) haccepts)
  · intro other bell' batch hstate
    have hstate' := (hset other).symm.trans hstate
    split at hstate'
    · exact hallows batch (SharedPromise.mk.inj (Option.some.inj hstate')).2
    · exact h.allows other bell' batch hstate'

/-- One poll of a shared batch keeps to the warrant. -/
theorem Holds.pollsTo (h : W.Holds m) {store : NodeStore} {promise bell : Nat}
    {state state' : Promise Batch (List Node)}
    (hpromise : m.batchPromises[promise]? = some ⟨bell, state⟩)
    (hpolls : Materializer.BatchPollsTo store m state m' state') :
    W.Keeps m m' ∧ (∀ batch, state' = .pending batch → W.AllowsBatch batch) ∧
      (state.Sincere (W.SincereBatch m) → state'.Sincere (W.SincereBatch m')) := by
  cases hpolls with
  | kept result => exact ⟨.refl m, fun _ heq => by (cases heq), fun hstate => hstate⟩
  | pending agenda waker batch =>
      have hlistening : W.Keeps m { m with agenda } := .agenda m agenda
      obtain ⟨hkeeps, hrest, hsincere⟩ := pollBatch_keeps store waker
        (hlistening.registry.trans h.registry) (h.allows promise bell batch hpromise)
      exact ⟨hlistening.trans hkeeps, hrest, fun hstate =>
        hsincere (hlistening.snapshots h.snapshots) (SincereBatch.mono hlistening.sincere hstate)⟩

/-- **One poll of a request** fails only if a resolver does, where nothing else can come of it. -/
theorem Holds.poll_sincere (h : W.Holds m) (store : NodeStore) (waker : Waker)
    {request : SnapshotRequest} (hallows : W.AllowsRequest request) :
    W.Holds (m.poll store waker request).1 ∧ W.Leads m (m.poll store waker request).1 ∧
      (∀ rest ∈ (m.poll store waker request).2.rest?, W.AllowsRequest rest) ∧
      (W.SincereRequest m request → (m.poll store waker request).2.Sincere
        (W.SincereRequest (m.poll store waker request).1)) := by
  cases request with
  | own batch =>
      obtain ⟨hkeeps, hrest, hsincere⟩ := pollBatch_keeps store waker h.registry hallows
      rw [Materializer.poll_own]
      refine ⟨h.keeps hkeeps, hkeeps.leads, ?_, fun hbatch => ?_⟩
      · intro rest heq
        generalize (m.pollBatch store waker batch).2 = state at hrest heq
        cases state with
        | pending batch' =>
            obtain rfl := Option.some.inj heq
            exact hrest batch' rfl
        | kept result => cases heq
      · have hstate := hsincere h.snapshots hbatch
        generalize (m.pollBatch store waker batch).2 = state at hstate
        rcases state with batch' | e | snapshots <;> exact hstate
  | shared key promise =>
      cases hpromise : m.batchPromises[promise]? with
      | none =>
          simp only [Materializer.poll, hpromise]
          refine ⟨h, .refl m, ?_, fun hrequest => hrequest⟩
          rintro rest ⟨⟩
          trivial
      | some shared =>
          obtain ⟨bell, state⟩ := shared
          obtain ⟨m₁, agenda, state', hpolls, hpolled⟩ :=
            Materializer.poll_shared store waker key hpromise
          -- What the poll does to the batch, and then what that does to its promise.
          obtain ⟨hkeeps, hrest, hsincere⟩ := h.pollsTo hpromise hpolls
          obtain ⟨hholds, hleads⟩ := h.advance hkeeps hpromise hrest hsincere agenda key
          rw [hpolled]
          refine ⟨hholds, hleads, ?_, fun hrequest => ?_⟩
          · intro rest hpending
            cases state' with
            | pending batch =>
                obtain rfl := Option.some.inj hpending
                trivial
            | kept result => cases hpending
          · have hstate := hsincere (SincerePromise.state hrequest hpromise)
            rcases state' with batch | e | snapshots
            · exact hleads.batches promise hrequest
            · exact hstate
            · trivial

/-- **A request** is sincere where all fields are declared. -/
theorem Holds.request_sincere (h : W.Holds m) {typeName : String} {nodes : List Node}
    {fields : RequiredFields} (hallows : W.Allows typeName nodes fields) :
    W.Holds (m.request typeName nodes fields).1 ∧
      W.Leads m (m.request typeName nodes fields).1 ∧
      W.AllowsRequest (m.request typeName nodes fields).2 ∧
      (W.registry.Accepts typeName fields →
        W.SincereRequest (m.request typeName nodes fields).1
          (m.request typeName nodes fields).2) := by
  unfold Materializer.request
  dsimp only
  split
  · exact ⟨h, .refl m, hallows, fun haccepts => haccepts⟩
  · split
    · rename_i promise hlookup
      obtain ⟨before, after, hentries, _⟩ := List.lookup_eq_some_iff.mp hlookup
      have hmem : (⟨typeName, nodes.length, fields⟩, promise) ∈ m.batchEntries := by
        simp [hentries]
      have hhit : W.Holds { m with batchHits := m.batchHits + 1 } ∧
          W.Leads m { m with batchHits := m.batchHits + 1 } :=
        h.drops ⟨rfl, .refl _, .refl _, rfl, rfl⟩
      exact ⟨hhit.1, hhit.2, trivial, fun haccepts =>
        hhit.2.batches promise (h.batches _ _ hmem haccepts)⟩
    · let made : Materializer := { m with
        agenda := m.agenda.newBell.1
        batchPromises := m.batchPromises.push
          ⟨m.agenda.newBell.2, .pending (.fresh typeName nodes fields)⟩
        batchEntries := m.batchEntries ++ [(⟨typeName, nodes.length, fields⟩, m.batchPromises.size)]
        batchMisses := m.batchMisses + 1 }
      have hold : ∀ promise, W.SincerePromise m promise → W.SincerePromise made promise := by
        rintro promise ⟨bell, state, hstate, hsincere⟩
        exact ⟨bell, state, SharedPromise.getElem?_push_of_some hstate,
          sincereState_mono (fun _ hp => hp) hsincere⟩
      have hnew : W.registry.Accepts typeName fields →
          W.SincerePromise made m.batchPromises.size :=
        fun haccepts => ⟨_, _, Array.getElem?_push_size, haccepts⟩
      refine ⟨⟨h.registry, h.snapshots, fun key promise hmem haccepts => ?_, ?_⟩,
        ⟨fun _ hp => hp, hold⟩, trivial, hnew⟩
      · rcases List.mem_append.mp hmem with hmem | hmem
        · exact hold promise (h.batches key promise hmem haccepts)
        · obtain ⟨rfl, rfl⟩ := Prod.mk.inj (List.mem_singleton.mp hmem)
          exact hnew haccepts
      · intro promise bell batch hpromise
        rcases SharedPromise.eq_or_of_push hpromise with heq | hpromise
        · obtain rfl := Promise.pending.inj heq
          exact hallows
        · exact h.allows promise bell batch hpromise

end Warrant

end ContentQuery
