import ContentQuery.Proofs.Snapshot.Promises

/-!
# Requests for snapshots get what they ask for

A batch serves its nodes task by task, and the promise of a batch serves all who wait for it. A request
for snapshots ends with what its nodes resolve to, whoever else is polled meanwhile
(**`View.poll_serves`**), provided that it was made for these nodes (**`View.request_serves`**).
-/

namespace ContentQuery

namespace View

/-! ## Batches -/

variable (V : View)

/-- What became of the snapshots of some nodes: each node resolves to its snapshot, or some node
fails. -/
def MakesAll (fields : RequiredFields) (nodes : List Node) :
    Except SnapshotError (List Node) → Prop
  | .ok snapshots =>
    List.Forall₂ (fun snapshot node => V.Makes fields node (.ok snapshot)) snapshots nodes
  | .error e => ∃ node ∈ nodes, V.Makes fields node (.error e)

/-- A batch in the making serves the nodes. -/
def BatchFor (m : Materializer) (fields : RequiredFields) (nodes : List Node) : Batch → Prop
  | .fresh typeName nodes' fields' => nodes' = nodes ∧ fields' = fields ∧ V.Asks typeName nodes
  | .running tasks | .crowd _ tasks => V.TasksFor m fields tasks nodes

/-- A promise of a batch in this state serves the nodes. -/
def ServesAll (m : Materializer) (fields : RequiredFields) (nodes : List Node) :
    Promise Batch (List Node) → Prop
  | .pending batch => V.BatchFor m fields nodes batch
  | .kept result => V.MakesAll fields nodes result

def BatchPromiseFor (m : Materializer) (fields : RequiredFields) (nodes : List Node)
    (promise : Nat) : Prop :=
  ∃ bell state, m.batchPromises[promise]? = some ⟨bell, state⟩ ∧ V.ServesAll m fields nodes state

theorem BatchPromiseFor.servesAll {V : View} {m : Materializer} {fields : RequiredFields}
    {nodes : List Node} {promise bell : Nat} {state : Promise Batch (List Node)}
    (h : V.BatchPromiseFor m fields nodes promise)
    (hstate : m.batchPromises[promise]? = some ⟨bell, state⟩) : V.ServesAll m fields nodes state := by
  obtain ⟨_, state', hstate', hserves⟩ := h
  rw [hstate] at hstate'
  obtain ⟨rfl, rfl⟩ := SharedPromise.mk.inj (Option.some.inj hstate')
  exact hserves

/-- A request serves the nodes. -/
def RequestFor (m : Materializer) (fields : RequiredFields) (nodes : List Node) :
    SnapshotRequest → Prop
  | .own batch => V.BatchFor m fields nodes batch
  | .shared _ promise => V.BatchPromiseFor m fields nodes promise

variable {V} {fields : RequiredFields} {nodes : List Node}

theorem BatchFor.mono {m m' : Materializer} (h : V.Serving m m') {batch : Batch}
    (hbatch : V.BatchFor m fields nodes batch) : V.BatchFor m' fields nodes batch := by
  cases batch with
  | fresh typeName nodes' fields' => exact hbatch
  | running tasks => exact TasksFor.mono h hbatch
  | crowd number tasks => exact TasksFor.mono h hbatch

theorem ServesAll.mono {m m' : Materializer} (h : V.Serving m m')
    {state : Promise Batch (List Node)} (hstate : V.ServesAll m fields nodes state) :
    V.ServesAll m' fields nodes state := by
  cases state with
  | pending batch => exact BatchFor.mono h hstate
  | kept result => exact hstate

/-- What becomes of a batch serves the nodes of its tasks. -/
theorem ServesAll.of_polled {m : Materializer} {tasks : List Task}
    (htasks : V.TasksFor m fields tasks nodes) {state : Promise Batch (List Node)}
    (h : Batch.Polled tasks state) : V.ServesAll m fields nodes state := by
  cases h with
  | running => exact htasks
  | crowd number => exact htasks
  | @kept snapshots heq =>
      subst heq
      exact List.forall₂_map_left_iff.mp htasks
  | @failed e hmem =>
      -- The node that fails stands where the failed task stands.
      obtain ⟨i, hi⟩ := List.getElem?_of_mem hmem
      clear hmem
      induction htasks generalizing i with
      | nil => cases hi
      | @cons task node tasks nodes hhead _ ih =>
          cases i with
          | zero =>
              obtain rfl := Option.some.inj hi
              exact ⟨node, by simp, hhead⟩
          | succ i =>
              obtain ⟨other, hother, hmakes⟩ := ih i hi
              exact ⟨other, by simp [hother], hmakes⟩

theorem sourced_of_polled {tasks : List Task} {batch : Batch}
    (h : Batch.Polled tasks (.pending batch)) : V.Sourced batch := by
  cases h <;> trivial

/-- **One poll of a batch** leaves all promises with those they serve, and the batch with its nodes. -/
theorem pollBatch_keeps {store : NodeStore} (hS : ∀ key, V.stores key store) {m : Materializer}
    (hm : V.Holds m) (waker : Waker) {batch : Batch} (hbatch : V.Sourced batch) :
    V.Keeps m (m.pollBatch store waker batch).1 ∧
      (∀ batch', (m.pollBatch store waker batch).2 = .pending batch' → V.Sourced batch') ∧
      ∀ fields nodes, V.BatchFor m fields nodes batch →
        V.ServesAll (m.pollBatch store waker batch).1 fields nodes
          (m.pollBatch store waker batch).2 := by
  rcases Materializer.pollBatch_progress store m waker batch with
    ⟨typeName, nodes, fields, rfl, htype, _⟩ | ⟨m', tasks, tasks', hsetUp, hprogress, hstate⟩
  · rw [hm.registry] at htype
    rw [Sourced, Asks, htype] at hbatch
    exact absurd hbatch.1 (by simp)
  · have hbefore : V.Keeps m m' ∧ ∀ fields nodes, V.BatchFor m fields nodes batch →
        V.TasksFor m' fields tasks nodes := by
      cases hsetUp with
      | running => exact ⟨.refl m, fun _ _ h => h⟩
      | crowd number => exact ⟨.refl m, fun _ _ h => h⟩
      | @fresh typeName nodes fields t ht =>
          rw [hm.registry] at ht
          obtain ⟨hkeeps, htasks⟩ := tasks_keeps t fields nodes hm
            (fun node hnode => by rw [(hbatch.2 node hnode).2, ht])
            (fun node hnode => (hbatch.2 node hnode).1)
          refine ⟨hkeeps, ?_⟩
          rintro _ _ ⟨rfl, rfl, _⟩
          exact htasks
    obtain ⟨hkeeps, htasks⟩ := keeps_of_progress hS hprogress
    refine ⟨hbefore.1.trans hkeeps, ?_, ?_⟩
    · intro batch' heq
      rw [heq] at hstate
      exact sourced_of_polled hstate
    · intro fields nodes h
      exact .of_polled (htasks fields nodes (hbefore.2 fields nodes h)) hstate

/-! ## Requests -/

variable (V)

/-- What may change in all: promises go on serving whom they served. -/
structure Continues (m m' : Materializer) : Prop where
  holds : V.Holds m'
  batches : ∀ fields nodes promise,
    V.BatchPromiseFor m fields nodes promise → V.BatchPromiseFor m' fields nodes promise
  own : ∀ fields nodes batch, V.BatchFor m fields nodes batch → V.BatchFor m' fields nodes batch

/-- What a poll may change: besides, entries of batches may be dropped. -/
structure Stays (m m' : Materializer) : Prop extends V.Continues m m' where
  entries : ∀ entry ∈ m'.batchEntries, entry ∈ m.batchEntries

/-- A request that was not begun yet asks for nodes that may be asked for. -/
def SourcedRequest : SnapshotRequest → Prop
  | .own batch => V.Sourced batch
  | .shared _ _ => True

variable {V}

theorem Keeps.stays {m m' : Materializer} (h : V.Keeps m m') (hm : V.Holds m) : V.Stays m m' where
  holds := h.holds hm
  batches := by
    rintro fields nodes promise ⟨bell, state, hstate, hserves⟩
    exact ⟨bell, state, by rw [h.batchPromises, hstate], hserves.mono h.promises⟩
  own fields nodes batch hbatch := hbatch.mono h.promises
  entries := by simp [h.batchEntries]

theorem Continues.trans {m₁ m₂ m₃ : Materializer} (h : V.Continues m₁ m₂)
    (h' : V.Continues m₂ m₃) : V.Continues m₁ m₃ where
  holds := h'.holds
  batches fields nodes promise hp := h'.batches fields nodes promise (h.batches _ _ _ hp)
  own fields nodes batch hb := h'.own fields nodes batch (h.own _ _ _ hb)

theorem Stays.trans {m₁ m₂ m₃ : Materializer} (h : V.Stays m₁ m₂) (h' : V.Stays m₂ m₃) :
    V.Stays m₁ m₃ where
  toContinues := h.toContinues.trans h'.toContinues
  entries entry he := h.entries entry (h'.entries entry he)

/-- Dropping entries leaves the promises to those who wait for them. -/
theorem stays_of_entries {m m' : Materializer} (hm : V.Holds m)
    (hregistry : m'.registry = m.registry) (hpath : m'.path = m.path)
    (hnodePromises : m'.nodePromises = m.nodePromises)
    (hbatchPromises : m'.batchPromises = m.batchPromises)
    (hnodeEntries : ∀ entry ∈ m'.nodeEntries, entry ∈ m.nodeEntries)
    (hbatchEntries : ∀ entry ∈ m'.batchEntries, entry ∈ m.batchEntries) : V.Stays m m' := by
  have hserving : V.Serving m m' := by
    rintro fields node promise ⟨bell, state, hstate, hserves⟩
    exact ⟨bell, state, by rw [hnodePromises, hstate], hserves⟩
  refine ⟨⟨⟨hregistry.trans hm.registry, hpath.trans hm.path, hbatchPromises ▸ hm.batches, ?_⟩,
    ?_, ?_⟩, hbatchEntries⟩
  · exact fun key promise hmem node hnode hkey =>
      hserving _ _ _ (hm.entries key promise (hnodeEntries _ hmem) node hnode hkey)
  · rintro fields nodes promise ⟨bell, state, hstate, hserves⟩
    exact ⟨bell, state, by rw [hbatchPromises, hstate], hserves.mono hserving⟩
  · exact fun fields nodes batch hbatch => hbatch.mono hserving

theorem Stays.agenda {m m' : Materializer} (h : V.Stays m m') (agenda : Agenda) :
    V.Stays m { m' with agenda } := h.trans ((keeps_agenda m' agenda).stays h.holds)

theorem RequestFor.mono {m m' : Materializer} (h : V.Continues m m') {request : SnapshotRequest}
    (hrequest : V.RequestFor m fields nodes request) : V.RequestFor m' fields nodes request := by
  cases request with
  | own batch => exact h.own _ _ _ hrequest
  | shared key promise => exact h.batches _ _ _ hrequest

/-- The promise of a batch goes on, and serves whom it served before. -/
theorem stays_setPromise {m m' : Materializer} (h : V.Keeps m m') (hm : V.Holds m)
    {promise bell : Nat} {before after : Promise Batch (List Node)}
    (hbefore : m.batchPromises[promise]? = some ⟨bell, before⟩)
    (hsourced : ∀ batch, after = .pending batch → V.Sourced batch)
    (hserves : ∀ fields nodes, V.ServesAll m fields nodes before →
      V.ServesAll m' fields nodes after) :
    V.Stays m
      { m' with batchPromises := m'.batchPromises.setIfInBounds promise ⟨bell, after⟩ } := by
  have hm' := h.holds hm
  have hlt : promise < m.batchPromises.size := (Array.getElem?_eq_some_iff.mp hbefore).1
  have hself : (m'.batchPromises.setIfInBounds promise ⟨bell, after⟩)[promise]? =
      some ⟨bell, after⟩ := by
    simp [h.batchPromises, hlt]
  have hother : ∀ other, promise ≠ other →
      (m'.batchPromises.setIfInBounds promise ⟨bell, after⟩)[other]? = m.batchPromises[other]? := by
    intro other hne
    rw [Array.getElem?_setIfInBounds_ne hne, h.batchPromises]
  refine ⟨⟨⟨hm'.registry, hm'.path, ?_, hm'.entries⟩, ?_, ?_⟩, ?_⟩
  · intro other bell' batch hstate
    by_cases hne : promise = other
    · subst hne
      dsimp only at hstate
      rw [hself] at hstate
      exact hsourced batch (SharedPromise.mk.inj (Option.some.inj hstate)).2
    · exact hm.batches other bell' batch (hother other hne ▸ hstate)
  · rintro fields nodes other ⟨bell', state, hstate, hserved⟩
    by_cases hne : promise = other
    · subst hne
      rw [hbefore] at hstate
      obtain ⟨rfl, rfl⟩ := SharedPromise.mk.inj (Option.some.inj hstate)
      exact ⟨bell, after, hself, (hserves fields nodes hserved).mono fun _ _ _ h => h⟩
    · exact ⟨bell', state, (hother other hne).trans hstate, hserved.mono h.promises⟩
  · exact fun fields nodes batch hbatch => hbatch.mono h.promises
  · simp [h.batchEntries]

theorem settleBatch_stays {m : Materializer} (hm : V.Holds m) (key : BatchKey) (promise : Nat)
    (result : Except SnapshotError (List Node)) :
    V.Stays m (m.settleBatch key promise result).1 ∧
      (m.settleBatch key promise result).2 = .kept result := by
  cases result with
  | ok snapshots => exact ⟨(Keeps.refl m).stays hm, rfl⟩
  | error e =>
      refine ⟨⟨⟨⟨hm.registry, hm.path, hm.batches, hm.entries⟩, fun _ _ _ h => h,
        fun _ _ _ h => h⟩, fun _ h => List.mem_of_mem_filter h⟩, rfl⟩

/-- A request that goes on serves its nodes, and one that is kept gives what they resolve to. -/
def Answers (V : View) (m : Materializer) (fields : RequiredFields) (nodes : List Node) :
    Promise SnapshotRequest (List Node) → Prop
  | .pending request => V.RequestFor m fields nodes request
  | .kept result => V.MakesAll fields nodes result

/-- **One poll of a request** leaves all requests with the nodes they serve, its own included. -/
theorem poll_serves {store : NodeStore} (hS : ∀ key, V.stores key store) {m : Materializer}
    (hm : V.Holds m) (waker : Waker) {request : SnapshotRequest} (hrequest : V.SourcedRequest request) :
    V.Stays m (m.poll store waker request).1 ∧
      (∀ request', (m.poll store waker request).2 = .pending request' →
        V.SourcedRequest request') ∧
      ∀ fields nodes, V.RequestFor m fields nodes request →
        V.Answers (m.poll store waker request).1 fields nodes (m.poll store waker request).2 := by
  cases request with
  | own batch =>
      obtain ⟨hkeeps, hsourced, hserves⟩ := pollBatch_keeps hS hm waker hrequest
      rw [Materializer.poll]
      split <;> rename_i heq <;> rw [heq] at hkeeps hsourced hserves
      · refine ⟨hkeeps.stays hm, ?_, hserves⟩
        rintro _ ⟨⟩
        exact hsourced _ rfl
      · exact ⟨hkeeps.stays hm, fun _ h => by (cases h), hserves⟩
  | shared key promise =>
      rw [Materializer.poll]
      split
      · rename_i bell result hpromise
        obtain ⟨hstays, hkept⟩ := settleBatch_stays hm key promise result
        refine ⟨hstays, ?_, ?_⟩
        · intro request' h
          rw [hkept] at h
          cases h
        · intro fields nodes h
          rw [hkept]
          exact h.servesAll hpromise
      · rename_i bell batch hpromise
        -- As with a single task: the one who polls listens, and the batch of all goes on.
        let listening : Materializer := { m with agenda := m.agenda.listen bell waker }
        have hlistening : V.Keeps m listening := keeps_agenda m _
        have hbatch : V.Sourced batch := hm.batches promise bell batch hpromise
        obtain ⟨hpolled, hsourced, hserves⟩ :=
          pollBatch_keeps hS (hlistening.holds hm) (.bell bell) hbatch
        have hserves' : ∀ fields nodes, V.BatchFor m fields nodes batch →
            V.ServesAll (listening.pollBatch store (.bell bell) batch).1 fields nodes
              (listening.pollBatch store (.bell bell) batch).2 := fun fields nodes h =>
          hserves fields nodes (h.mono hlistening.promises)
        have hset := stays_setPromise (hlistening.trans hpolled) hm hpromise hsourced hserves'
        dsimp only
        split
        · refine ⟨hset, fun _ h => by (cases h; trivial), fun fields nodes h => ?_⟩
          exact hset.batches fields nodes promise h
        · rename_i result hresult
          have hrung := hset.agenda
            ((listening.pollBatch store (.bell bell) batch).1.agenda.ring bell)
          obtain ⟨hstays, hkept⟩ := settleBatch_stays hrung.holds key promise result
          refine ⟨hrung.trans hstays, ?_, ?_⟩
          · intro request' h
            rw [hkept] at h
            cases h
          · intro fields nodes h
            rw [hkept]
            have hserved := hserves' fields nodes (h.servesAll hpromise)
            rw [hresult] at hserved
            exact hserved
      · exact ⟨(Keeps.refl m).stays hm, fun _ h => by (cases h; trivial), fun _ _ h => h⟩

/-- **A request** that is made while the entry of its batch, if there is one, serves as many nodes or
more, serves the nodes it is made for. -/
theorem request_serves (fields : RequiredFields) {m : Materializer} (hm : V.Holds m)
    {typeName : String}
    (hasks : V.Asks typeName nodes)
    (hentries : ∀ promise, (⟨typeName, nodes.length, fields⟩, promise) ∈ m.batchEntries →
      V.watchedBatches ⟨typeName, nodes.length, fields⟩ → V.BatchPromiseFor m fields nodes promise) :
    V.Continues m (m.request typeName nodes fields).1 ∧
      V.SourcedRequest (m.request typeName nodes fields).2 ∧
      (V.watchedBatches ⟨typeName, nodes.length, fields⟩ →
        V.RequestFor (m.request typeName nodes fields).1 fields nodes
          (m.request typeName nodes fields).2) ∧
      ∀ key promise, (key, promise) ∈ (m.request typeName nodes fields).1.batchEntries →
        (key, promise) ∈ m.batchEntries ∨ key = ⟨typeName, nodes.length, fields⟩ ∧
          V.BatchPromiseFor (m.request typeName nodes fields).1 fields nodes promise := by
  unfold Materializer.request
  dsimp only
  split
  · exact ⟨((Keeps.refl m).stays hm).toContinues, hasks, fun _ => ⟨rfl, rfl, hasks⟩,
      fun _ _ h => .inl h⟩
  · split
    · rename_i promise hlookup
      obtain ⟨before, after, heq, _⟩ := List.lookup_eq_some_iff.mp hlookup
      refine ⟨⟨⟨hm.registry, hm.path, hm.batches, hm.entries⟩, fun _ _ _ h => h, fun _ _ _ h => h⟩,
        trivial, fun hwatched => ?_, fun _ _ h => .inl h⟩
      exact hentries promise (by simp [heq]) hwatched
    · -- A new promise is put at the end, and leaves the others where they are.
      have hnew : V.BatchPromiseFor { m with
          agenda := m.agenda.newBell.1
          batchPromises := m.batchPromises.push
            ⟨m.agenda.newBell.2, .pending (.fresh typeName nodes fields)⟩
          batchEntries := m.batchEntries ++
            [(⟨typeName, nodes.length, fields⟩, m.batchPromises.size)]
          batchMisses := m.batchMisses + 1 } fields nodes m.batchPromises.size :=
        ⟨_, _, Array.getElem?_push_size, rfl, rfl, hasks⟩
      refine ⟨⟨⟨hm.registry, hm.path, ?_, hm.entries⟩, ?_, fun _ _ _ h => h⟩, trivial,
        fun _ => hnew, ?_⟩
      · intro promise bell batch hpromise
        rcases SharedPromise.eq_or_of_push hpromise with heq | hpromise
        · obtain rfl := Promise.pending.inj heq
          exact hasks
        · exact hm.batches promise bell batch hpromise
      · rintro fields' nodes' promise ⟨bell, state, hstate, hserves⟩
        exact ⟨bell, state, SharedPromise.getElem?_push_of_some hstate,
          hserves.mono fun _ _ _ h => h⟩
      · intro key promise hmem
        rcases List.mem_append.mp hmem with hmem | hmem
        · exact .inl hmem
        · obtain ⟨rfl, rfl⟩ := Prod.mk.inj (List.mem_singleton.mp hmem)
          exact .inr ⟨rfl, hnew⟩

end View

end ContentQuery
