import ContentQuery.Proofs.Engine.Session
import ContentQuery.Proofs.Query.Declared
import ContentQuery.Proofs.Snapshot.Batches

/-!
# What the queries of a session come to

A query that is answered was answered from snapshots of the nodes that the store held when it was
first polled, whatever happened since and whoever else was answered meanwhile (`Query.Comes`). The
invariant is `Session.Serves`: all that is under way serves the nodes it was asked for, and the entry
of a batch stands for nodes of which those in the store now are a part. Entries tell batches apart by
the number of their nodes only; that is enough since every node that comes drops all of them, so that
between two signals a batch can only shrink.

Main result: **`Session.Serves.run`**, for sessions seen through any `View`.
-/

namespace ContentQuery

/-- What a query may come to that was first polled when the store was as given: what it selects from
what the nodes of its type may resolve to. An error says that the query is not valid, that a node
cannot be resolved, or that the predicate cannot be evaluated. -/
def Query.Comes (V : View) (q : Query) (store : NodeStore) (result : Except EngineError Answer) :
    Prop :=
  match Engine.check V.registry q with
  | .error _ => result.toOption = none
  | .ok p =>
    ∃ made, V.MakesAll q.required (store.ofType q.typeName) made ∧
      result.toOption = made.toOption.bind (q.select p)

/-- The key of the batch that a query asks for when it is first polled. -/
def Query.batchKey (q : Query) (store : NodeStore) : BatchKey :=
  ⟨q.typeName, (store.ofType q.typeName).length, q.required⟩

/-- A query under way waits for what it was asked for; one that is finished came to it. This is known
of queries whose batches are watched. -/
def Call.Serves (V : View) (m : Materializer) (q : Query) (store : Option NodeStore) : Call → Prop
  | .fresh => store = none
  | .waiting p fields request =>
    fields = q.required ∧ Engine.check V.registry q = .ok p ∧
      ∃ first, store = some first ∧ (V.watchedBatches (q.batchKey first) →
        V.RequestFor m q.required (first.ofType q.typeName) request)
  | .finished result =>
    ∃ first, store = some first ∧ (V.watchedBatches (q.batchKey first) → q.Comes V first result)

/-- The request of a query under way was begun, or asks for nodes that may be asked for. -/
def Call.Sourced (V : View) : Call → Prop
  | .waiting _ _ request => V.SourcedRequest request
  | _ => True

/-- What is known of an engine seen through a view. -/
structure Engine.Serves (V : View) (e : Engine) : Prop where
  registry : e.registry = V.registry
  holds : V.Holds e.materializer
  /-- Resolvers may answer from the store. -/
  store : ∀ key, V.stores key e.store
  nodes : ∀ node ∈ e.store.nodes.toList, V.nodes node
  /-- The entry of a batch stands for nodes of which those of the store are a part. -/
  entries : ∀ key promise, (key, promise) ∈ e.materializer.batchEntries → V.watchedBatches key →
    ∃ nodes, V.BatchPromiseFor e.materializer key.fields nodes promise ∧
      nodes.length = key.count ∧ (e.store.ofType key.typeName).Sublist nodes

theorem Call.Serves.mono {V : View} {m m' : Materializer} (h : V.Continues m m') {q : Query}
    {store : Option NodeStore} {call : Call} (hcall : call.Serves V m q store) :
    call.Serves V m' q store := by
  cases call with
  | waiting p fields request =>
      obtain ⟨hfields, hcheck, first, hfirst, hrequest⟩ := hcall
      exact ⟨hfields, hcheck, first, hfirst, fun hwatched => (hrequest hwatched).mono h⟩
  | _ => exact hcall

/-- Without resolvers, nodes are what they resolve to. -/
theorem View.makesAll_self {V : View} {q : Query} {p : Predicate}
    (hcheck : Engine.check V.registry q = .ok p)
    (hneeds : V.registry.needsResolution q.typeName q.required = .ok false) (store : NodeStore) :
    V.MakesAll q.required (store.ofType q.typeName) (.ok (store.ofType q.typeName)) := by
  obtain ⟨t, ht, _⟩ := Query.declares_required hcheck
  rw [Registry.needsResolution, ht] at hneeds
  refine List.forall₂_same.mpr fun node hnode => ?_
  have htype : node.typeName = q.typeName := by
    simpa using (List.mem_filter.mp hnode).2
  refine ⟨t, node.body, htype ▸ ht, ?_, rfl⟩
  exact (V.completion node).resolves_self t q.required hneeds node.body

namespace Engine

theorem answer_frame (e : Engine) (q : Query) (p : Predicate) (fields : Option RequiredFields)
    (nodes : List Node) :
    (e.answer q p fields nodes).1.registry = e.registry ∧
      (e.answer q p fields nodes).1.store = e.store ∧
      (e.answer q p fields nodes).1.materializer = e.materializer := by
  unfold answer
  dsimp only
  split <;> exact ⟨rfl, rfl, rfl⟩

theorem finish_frame (e : Engine) (result : Except EngineError Answer) :
    (finish (e, result)).1.registry = e.registry ∧ (finish (e, result)).1.store = e.store ∧
      (finish (e, result)).1.materializer = e.materializer ∧
      (finish (e, result)).2 = .finished result := by
  cases result <;> exact ⟨rfl, rfl, rfl, rfl⟩

theorem store_prepare {e e' : Engine} {q : Query} {prepared : Prepared}
    (h : e.prepare q = .ok (e', prepared)) : e'.store = e.store := by
  unfold prepare at h
  dsimp only at h
  split at h
  · obtain ⟨rfl, _⟩ := Prod.mk.inj (Except.ok.inj h)
    rfl
  · split at h
    · cases h
    · obtain ⟨rfl, _⟩ := Prod.mk.inj (Except.ok.inj h)
      rfl
    · obtain ⟨rfl, _⟩ := Prod.mk.inj (Except.ok.inj h)
      rfl

theorem store_pollWaiting (e : Engine) (waker : Waker) (q : Query) (p : Predicate)
    (fields : RequiredFields) (request : SnapshotRequest) :
    (e.pollWaiting waker q p fields request).1.store = e.store := by
  unfold pollWaiting pollSnapshots
  rcases e.materializer.poll e.store waker request with ⟨m, request' | cause | nodes⟩
  · rfl
  · rfl
  · exact (finish_frame _ _).2.1.trans (answer_frame _ _ _ _ _).2.1

/-- Polling a query leaves the store as it is. -/
theorem store_poll (e : Engine) (waker : Waker) (q : Query) (call : Call) :
    (e.poll waker q call).1.store = e.store := by
  cases call with
  | finished result => rfl
  | waiting p fields request => exact e.store_pollWaiting waker q p fields request
  | fresh =>
      rw [poll]
      split
      · rfl
      · split
        · rfl
        · rename_i e' nodes hprepare
          rw [(finish_frame _ _).2.1, (answer_frame _ _ _ _ _).2.1, store_prepare hprepare]
        · rename_i e' fields request hprepare
          rw [store_pollWaiting, store_prepare hprepare]

namespace Serves

variable {V : View} {e e' : Engine} {snapshots stored : List Node}

/-- Neither collections nor counts matter. -/
theorem of_eq (h : e.Serves V) (hregistry : e'.registry = e.registry) (hstore : e'.store = e.store)
    (hmaterializer : e'.materializer = e.materializer) : e'.Serves V where
  registry := hregistry.trans h.registry
  holds := hmaterializer ▸ h.holds
  store := hstore ▸ h.store
  nodes := hstore ▸ h.nodes
  entries := by
    rw [hmaterializer, hstore]
    exact h.entries

theorem of_stays (h : e.Serves V) {m : Materializer} (hm : V.Stays e.materializer m) :
    { e with materializer := m }.Serves V where
  registry := h.registry
  holds := hm.holds
  store := h.store
  nodes := h.nodes
  entries := by
    intro key promise hmem hwatched
    obtain ⟨nodes, hpromise, hlength, hsublist⟩ :=
      h.entries key promise (hm.entries _ hmem) hwatched
    exact ⟨nodes, hm.batches _ _ _ hpromise, hlength, hsublist⟩

/-- What one poll of a query changes: nothing for all others. -/
structure Polled (V : View) (e e' : Engine) (call : Call) : Prop where
  engine : e'.Serves V
  continues : V.Continues e.materializer e'.materializer
  sourced : call.Sourced V

theorem polled_finish (e : Engine) (h : e'.Serves V)
    (hcontinues : V.Continues e.materializer e'.materializer)
    (result : Except EngineError Answer) :
    Polled V e (finish (e', result)).1 (finish (e', result)).2 := by
  obtain ⟨hregistry, hstore, hmaterializer, hcall⟩ := finish_frame e' result
  refine ⟨h.of_eq hregistry hstore hmaterializer, ?_, ?_⟩
  · rw [hmaterializer]
    exact hcontinues
  · rw [hcall]
    trivial

/-- A query that is finished with what it may come to is served. -/
theorem serves_finish {q : Query} {first : NodeStore} {result : Except EngineError Answer}
    (m : Materializer) (hcomes : V.watchedBatches (q.batchKey first) → q.Comes V first result) :
    (finish (e, result)).2.Serves V m q (some first) := by
  rw [(finish_frame e result).2.2.2]
  exact ⟨first, rfl, hcomes⟩

/-- A query that waits for snapshots goes on to serve its nodes, and comes to what it selects from
what these resolve to. -/
theorem pollWaiting (h : e.Serves V) (hsound : e.Sound snapshots stored) (waker : Waker) (q : Query)
    (p : Predicate) (fields : RequiredFields) {request : SnapshotRequest}
    (hsourced : V.SourcedRequest request) (hstamped : request.Stamped snapshots) :
    Polled V e (e.pollWaiting waker q p fields request).1
        (e.pollWaiting waker q p fields request).2 ∧
      ∀ first, fields = q.required → Engine.check V.registry q = .ok p →
        (V.watchedBatches (q.batchKey first) →
          V.RequestFor e.materializer q.required (first.ofType q.typeName) request) →
        (e.pollWaiting waker q p fields request).2.Serves V
          (e.pollWaiting waker q p fields request).1.materializer q (some first) := by
  obtain ⟨more, hpolled, hstate⟩ := hsound.materializer.poll e.store waker hstamped
  obtain ⟨hstays, hsourced', hserves⟩ := View.poll_serves h.store h.holds waker hsourced
  have hs := hsound.append hpolled
  have he := h.of_stays hstays
  unfold Engine.pollWaiting Engine.pollSnapshots
  rcases heq : e.materializer.poll e.store waker request with ⟨m, request' | cause | nodes⟩ <;>
    rw [heq] at hs he hstate hstays hsourced' hserves
  · refine ⟨⟨he, hstays.toContinues, hsourced' request' rfl⟩, ?_⟩
    intro first hfields hcheck hrequest
    exact ⟨hfields, hcheck, first, rfl, fun hwatched => hserves _ _ (hrequest hwatched)⟩
  · refine ⟨polled_finish e he hstays.toContinues _, ?_⟩
    intro first hfields hcheck hrequest
    apply serves_finish
    intro hwatched
    rw [Query.Comes, hcheck]
    exact ⟨.error cause, hserves _ _ (hrequest hwatched), rfl⟩
  · obtain ⟨hregistry, hstore, hmaterializer⟩ :=
      answer_frame { e with materializer := m } q p (some fields) nodes
    have hanswer := (hs.answer q p (some fields) hstate).2
    have hcontinues : V.Continues e.materializer
        (({ e with materializer := m } : Engine).answer q p (some fields) nodes).1.materializer := by
      rw [hmaterializer]
      exact hstays.toContinues
    refine ⟨polled_finish e (he.of_eq hregistry hstore hmaterializer) hcontinues _, ?_⟩
    intro first hfields hcheck hrequest
    apply serves_finish
    intro hwatched
    rw [Query.Comes, hcheck]
    exact ⟨.ok nodes, hserves _ _ (hrequest hwatched), hanswer⟩

theorem asks_ofType (h : e.Serves V) {q : Query} {p : Predicate}
    (hcheck : Engine.check V.registry q = .ok p) :
    V.Asks q.typeName (e.store.ofType q.typeName) := by
  obtain ⟨t, ht, _⟩ := Query.declares_required hcheck
  refine ⟨by rw [ht]; rfl, fun node hnode => ?_⟩
  obtain ⟨hmem, htype⟩ := List.mem_filter.mp hnode
  exact ⟨h.nodes node hmem, by simpa using htype⟩

/-- The entry of a batch with as many nodes as the store has now stands for these nodes. -/
theorem batchPromiseFor_ofType (h : e.Serves V) (q : Query) {promise : Nat}
    (hmem : (q.batchKey e.store, promise) ∈ e.materializer.batchEntries)
    (hwatched : V.watchedBatches (q.batchKey e.store)) :
    V.BatchPromiseFor e.materializer q.required (e.store.ofType q.typeName) promise := by
  obtain ⟨nodes, hpromise, hlength, hsublist⟩ := h.entries _ promise hmem hwatched
  -- A part that is as long as the whole is the whole.
  obtain rfl : e.store.ofType q.typeName = nodes := hsublist.eq_of_length hlength.symm
  exact hpromise

/-- A query that asks for snapshots of the nodes in the store now is served these. -/
theorem request (h : e.Serves V) {q : Query} {p : Predicate}
    (hcheck : Engine.check V.registry q = .ok p) :
    let made := e.materializer.request q.typeName (e.store.ofType q.typeName) q.required
    { e with materializer := made.1 }.Serves V ∧ V.Continues e.materializer made.1 ∧
      V.SourcedRequest made.2 ∧ (V.watchedBatches (q.batchKey e.store) →
        V.RequestFor made.1 q.required (e.store.ofType q.typeName) made.2) := by
  obtain ⟨hcontinues, hsourced, hrequest, hentries⟩ :=
    View.request_serves q.required h.holds (h.asks_ofType hcheck)
      fun promise hmem hwatched => h.batchPromiseFor_ofType q hmem hwatched
  refine ⟨⟨h.registry, hcontinues.holds, h.store, h.nodes, ?_⟩, hcontinues, hsourced, hrequest⟩
  intro key promise hmem hwatched
  -- An entry is an old one, or the one that was made for just these nodes.
  rcases hentries key promise hmem with hold | ⟨rfl, hpromise⟩
  · obtain ⟨nodes, hpromise, hlength, hsublist⟩ := h.entries key promise hold hwatched
    exact ⟨nodes, hcontinues.batches _ _ _ hpromise, hlength, hsublist⟩
  · exact ⟨_, hpromise, rfl, .refl _⟩

/-- A query that needs no resolver runs over the nodes of the store. -/
theorem prepare_stored (h : e.Serves V) {q : Query}
    (hneeds : V.registry.needsResolution q.typeName q.required = .ok false) :
    e.prepare q = .ok (e, .stored (e.store.ofType q.typeName)) := by
  have hm : e.materializer.needsResolution q.typeName q.required = .ok false := by
    rw [Materializer.needsResolution, h.holds.registry, hneeds]
  unfold Engine.prepare
  dsimp only
  split
  · rfl
  · rw [hm]

/-- A checked query that needs resolvers asks for snapshots of these nodes. -/
theorem prepare_snapshots (h : e.Serves V) {q : Query} {p : Predicate}
    (hcheck : Engine.check V.registry q = .ok p)
    (hneeds : V.registry.needsResolution q.typeName q.required = .ok true) :
    let made := e.materializer.request q.typeName (e.store.ofType q.typeName) q.required
    e.prepare q = .ok ({ e with materializer := made.1 }, .snapshots q.required made.2) := by
  have hm : e.materializer.needsResolution q.typeName q.required = .ok true := by
    rw [Materializer.needsResolution, h.holds.registry, hneeds]
  -- Where no field is required, no resolver is.
  have hfields : ¬q.required.isEmpty := by
    intro hempty
    rw [List.isEmpty_iff.mp hempty] at hneeds
    obtain ⟨t, ht, _⟩ := Query.declares_required hcheck
    rw [Registry.needsResolution, ht] at hneeds
    simp [Registry.needsResolver] at hneeds
  unfold Engine.prepare
  dsimp only
  rw [if_neg hfields, hm]

/-- **One poll of a query** leaves all others with what they were asked for, and the query goes on
towards what it may come to. -/
theorem poll (h : e.Serves V) (hsound : e.Sound snapshots stored) (waker : Waker) (q : Query)
    {call : Call} (hsourced : call.Sourced V) (hstamped : call.Stamped snapshots) :
    Polled V e (e.poll waker q call).1 (e.poll waker q call).2 ∧
      ∀ store, call.Serves V e.materializer q store →
        (e.poll waker q call).2.Serves V (e.poll waker q call).1.materializer q
          (store <|> some e.store) := by
  have hself : V.Continues e.materializer e.materializer :=
    ((View.Keeps.refl e.materializer).stays h.holds).toContinues
  cases call with
  | finished result =>
      refine ⟨⟨h, hself, trivial⟩, ?_⟩
      rintro store ⟨first, rfl, hcomes⟩
      exact ⟨first, rfl, hcomes⟩
  | waiting p fields request =>
      obtain ⟨hpolled, hserves⟩ := h.pollWaiting hsound waker q p fields hsourced hstamped
      refine ⟨hpolled, ?_⟩
      rintro store ⟨hfields, hcheck, first, rfl, hrequest⟩
      exact hserves first hfields hcheck hrequest
  | fresh =>
      rw [Engine.poll, h.registry]
      cases hcheck : Engine.check V.registry q with
      | error cause =>
          refine ⟨polled_finish e h hself _, ?_⟩
          rintro store rfl
          apply serves_finish
          intro _
          rw [Query.Comes, hcheck]
          rfl
      | ok p =>
          -- What passed the check can only go one of two ways: whether resolvers are needed is known.
          obtain ⟨needs, hneeds⟩ := Query.needsResolution_ok hcheck
          dsimp only
          cases needs with
          | false =>
              -- The query runs over the nodes of the store, which are their own snapshots.
              have hnodes : ∀ node ∈ e.store.ofType q.typeName,
                  Stamped (logOf snapshots stored none) node := fun node hnode =>
                hsound.store.nodes node (List.mem_of_mem_filter hnode)
              obtain ⟨hregistry, hstore, hmaterializer⟩ :=
                answer_frame e q p none (e.store.ofType q.typeName)
              rw [h.prepare_stored hneeds]
              refine ⟨polled_finish e (h.of_eq hregistry hstore hmaterializer) ?_ _, ?_⟩
              · rw [hmaterializer]
                exact hself
              · rintro store rfl
                apply serves_finish
                intro _
                rw [Query.Comes, hcheck]
                exact ⟨.ok _, View.makesAll_self hcheck hneeds e.store,
                  (hsound.answer q p none hnodes).2⟩
          | true =>
              -- The query asks for snapshots and is polled on at once.
              have hprepare := h.prepare_snapshots hcheck hneeds
              obtain ⟨he, hcontinues, hmade, hrequest⟩ := h.request hcheck
              obtain ⟨hs, hstamped'⟩ := hsound.prepare hprepare
              obtain ⟨hpolled, hserves⟩ := he.pollWaiting hs waker q p q.required hmade hstamped'
              rw [hprepare]
              refine ⟨⟨hpolled.engine, hcontinues.trans hpolled.continues, hpolled.sourced⟩, ?_⟩
              rintro store rfl
              exact hserves e.store rfl hcheck hrequest

theorem stays_handle (h : e.Serves V) (signal : Signal) :
    V.Stays e.materializer (e.handle signal).materializer := by
  cases signal with
  | cacheCleared =>
      exact View.stays_of_entries h.holds rfl rfl rfl rfl (fun _ hmem => by cases hmem)
        (fun _ hmem => by cases hmem)
  | bootstrapFinished =>
      exact View.stays_of_entries h.holds rfl rfl rfl rfl (fun _ hmem => hmem) (fun _ hmem => hmem)
  | nodeChanged id version =>
      exact View.stays_of_entries h.holds rfl rfl rfl rfl (fun _ hmem => List.mem_of_mem_filter hmem)
        (fun _ hmem => by cases hmem)

theorem handle (h : e.Serves V) (signal : Signal) : (e.handle signal).Serves V := by
  have he := h.of_stays (h.stays_handle signal)
  cases signal <;> exact he.of_eq rfl rfl rfl

/-- Between two signals of new nodes a batch only shrinks. -/
theorem remove (h : e.Serves V) (id : String) (hstore : ∀ key, V.stores key (e.remove id).1.store) :
    (e.remove id).1.Serves V where
  registry := h.registry
  holds := h.holds
  store := hstore
  nodes node hnode := h.nodes node ((NodeStore.sublist_remove e.store id).mem hnode)
  entries := by
    intro key promise hmem hwatched
    obtain ⟨nodes, hpromise, hlength, hsublist⟩ := h.entries key promise hmem hwatched
    exact ⟨nodes, hpromise, hlength,
      ((NodeStore.sublist_remove e.store id).filter _).trans hsublist⟩

/-- A node that comes drops every batch, so that none is known of nodes it was not made for. -/
theorem upsert (h : e.Serves V) (node : Node) (hnode : ∀ stamp, V.nodes { node with stamp })
    (hstore : ∀ key, V.stores key (e.upsert node).1.store) :
    ((e.upsert node).1.handle (NodeStore.upsertSignal node)).Serves V where
  registry := h.registry
  holds := (h.stays_handle (NodeStore.upsertSignal node)).holds
  store := hstore
  nodes other hother := by
    rcases NodeStore.mem_upsert hother with hmem | rfl
    · exact h.nodes other hmem
    · exact hnode _
  entries key promise hmem := by cases hmem

end Serves

end Engine

namespace Session

/-- What is known of a session seen through a view: the engine is, and so are the late queries. -/
structure Serves (V : View) (late : Nat → Prop) (s : Session) : Prop where
  engine : s.engine.Serves V
  sourced : ∀ i ∈ s.inquiries, i.call.Sourced V
  inquiries : ∀ index i, late index → s.inquiries[index]? = some i →
    i.call.Serves V s.engine.materializer i.query i.store

namespace Serves

variable {V : View} {late : Nat → Prop} {s : Session}

/-- A change of the engine alone. -/
theorem of_engine (h : s.Serves V late) {e : Engine} (he : e.Serves V)
    (hcontinues : V.Continues s.engine.materializer e.materializer) :
    { s with engine := e }.Serves V late where
  engine := he
  sourced := h.sourced
  inquiries index i hlate hi := (h.inquiries index i hlate hi).mono hcontinues

/-- **One event** keeps what is known, if resolvers may answer from the store that it leaves behind
and snapshots may be asked for the node that it brings. -/
theorem step (h : s.Serves V late) (hsound : s.Sound) (event : Event)
    (hstore : ∀ key, V.stores key (s.step event).engine.store)
    (hnode : ∀ node, event = .upsert node → ∀ stamp, V.nodes { node with stamp }) :
    (s.step event).Serves V late := by
  obtain ⟨snapshots, stored, hs, hstamped⟩ := hsound
  cases event with
  | ask query =>
      refine ⟨h.engine, ?_, ?_⟩
      · intro i hi
        rcases List.mem_append.mp hi with hi | hi
        · exact h.sourced i hi
        · obtain rfl := List.mem_singleton.mp hi
          trivial
      · intro index i hlate hi
        simp only [Session.step] at hi
        rw [List.getElem?_append] at hi
        split at hi
        · exact h.inquiries index i hlate hi
        · obtain rfl := List.mem_singleton.mp (List.mem_of_getElem? hi)
          rfl
  | poll index waker =>
      rw [Session.step]
      split
      · exact h
      · rename_i i hi
        have hmem := List.mem_of_getElem? hi
        obtain ⟨hpolled, hserves⟩ :=
          h.engine.poll hs waker i.query (h.sourced i hmem) (hstamped i hmem)
        refine ⟨hpolled.engine, ?_, ?_⟩
        · intro j hj
          rcases List.mem_or_eq_of_mem_set hj with hj | rfl
          · exact h.sourced j hj
          · exact hpolled.sourced
        · intro other j hlate hj
          dsimp only at hj
          rw [List.getElem?_set] at hj
          split at hj
          · rename_i hindex
            subst hindex
            split at hj
            · obtain rfl := Option.some.inj hj
              exact hserves _ (h.inquiries index i hlate hi)
            · cases hj
          · exact (h.inquiries other j hlate hj).mono hpolled.continues
  | upsert node =>
      exact h.of_engine (h.engine.upsert node (hnode node rfl) hstore)
        (h.engine.stays_handle (NodeStore.upsertSignal node)).toContinues
  | remove id =>
      refine h.of_engine (h.engine.remove id hstore) ?_
      exact ((View.Keeps.refl _).stays h.engine.holds).toContinues
  | cacheCleared =>
      exact h.of_engine (h.engine.handle .cacheCleared)
        (h.engine.stays_handle .cacheCleared).toContinues
  | bootstrapFinished =>
      exact h.of_engine (h.engine.handle .bootstrapFinished)
        (h.engine.stays_handle .bootstrapFinished).toContinues
  | agenda agenda =>
      have hstays := (View.keeps_agenda s.engine.materializer agenda).stays h.engine.holds
      exact h.of_engine (h.engine.of_stays hstays) hstays.toContinues

/-- **Every query comes to what its nodes resolve to**: what is known of a session stays known as
long as resolvers may answer from the stores it goes through. -/
theorem run (h : s.Serves V late) (hsound : s.Sound) (events : List Event)
    (hstores : ∀ before after, events = before ++ after →
      ∀ key, V.stores key (s.run before).engine.store)
    (hnodes : ∀ node ∈ Event.nodes events, ∀ stamp, V.nodes { node with stamp }) :
    (s.run events).Serves V late := by
  induction events generalizing s with
  | nil => exact h
  | cons event rest ih =>
      have hnode : ∀ node, event = .upsert node → ∀ stamp, V.nodes { node with stamp } := by
        rintro node rfl
        exact hnodes node (by simp [Event.nodes])
      have hrest : ∀ node ∈ Event.nodes rest, node ∈ Event.nodes (event :: rest) := by
        intro node hmem
        cases event <;> simp [Event.nodes, hmem]
      apply ih (h.step hsound event (hstores [event] rest rfl) hnode) (hsound.step event)
      · intro before after heq
        exact hstores (event :: before) after (by rw [heq]; rfl)
      · exact fun node hmem => hnodes node (hrest node hmem)

end Serves

end Session

/-! ## Sessions from their start -/

/-- The version of a node says what the node is. -/
def Versioned (nodes : List Node) : Prop :=
  ∀ a ∈ nodes, ∀ b ∈ nodes, a.id = b.id → a.digest = b.digest → a.Alike b

namespace Session

/-- The view of a session that stores copies of some nodes. -/
def view (registry : Registry) (path : Option String) (stores : NodeKey → NodeStore → Prop)
    (batches : BatchKey → Prop) {nodes : List Node} (h : Versioned nodes) : View where
  registry
  path
  stores
  nodes n := ∃ m ∈ nodes, n.Alike m
  watchedBatches := batches
  determined := by
    rintro a b ⟨m, hm, ham⟩ ⟨n, hn, hbn⟩ hid hdigest
    have halike : m.Alike n := by
      refine h m hm n hn ?_ ?_
      · rw [← ham.id, ← hbn.id, hid]
      · rw [← ham.digest, ← hbn.digest, hdigest]
    exact ham.trans (halike.trans hbn.symm)

theorem alike_of_mem_ofList {nodes : List Node} {node : Node}
    (h : node ∈ (NodeStore.ofList nodes).nodes.toList) : ∃ m ∈ nodes, node.Alike m := by
  have hfold : ∀ (s : NodeStore), node ∈ (nodes.foldl NodeStore.upsert s).nodes.toList →
      node ∈ s.nodes.toList ∨ ∃ m ∈ nodes, node.Alike m := by
    clear h
    induction nodes with
    | nil => exact fun s h => .inl h
    | cons first rest ih =>
        intro s h
        rcases ih _ h with h | ⟨m, hm, halike⟩
        · rcases NodeStore.mem_upsert h with h | rfl
          · exact .inl h
          · exact .inr ⟨first, by simp, rfl⟩
        · exact .inr ⟨m, by simp [hm], halike⟩
  rcases hfold .empty h with h | h
  · simp [NodeStore.empty] at h
  · exact h

/-- A session that starts serves its queries: there are none. -/
theorem serves_start {V : View} {config : Config} {nodes : List Node} {late : Nat → Prop}
    (hstore : ∀ key, V.stores key (NodeStore.ofList nodes))
    (hnodes : ∀ node ∈ (NodeStore.ofList nodes).nodes.toList, V.nodes node) :
    (start V.registry config V.path nodes).Serves V late where
  engine := {
    registry := rfl
    holds := ⟨rfl, rfl, by simp [start, Engine.start], by simp [start, Engine.start]⟩
    store := hstore
    nodes := hnodes
    entries := by simp [start, Engine.start] }
  sourced := by simp [start]
  inquiries := by simp [start]

/-- From its start, a session serves its queries seen through any view of the nodes that it stores and
of the stores that it goes through. -/
theorem serves_run (registry : Registry) (config : Config) (path : Option String)
    (nodes : List Node) (events : List Event) (stores : NodeKey → NodeStore → Prop)
    (batches : BatchKey → Prop) {all : List Node} (h : Versioned all)
    (hnodes : ∀ node ∈ nodes ++ Event.nodes events, node ∈ all)
    (hstores : ∀ before after, events = before ++ after →
      ∀ key, stores key ((start registry config path nodes).run before).engine.store) :
    ((start registry config path nodes).run events).Serves (view registry path stores batches h)
      fun _ => True := by
  have hstart : (start registry config path nodes).Serves (view registry path stores batches h)
      fun _ => True := by
    have hfirst : ∀ key, stores key (NodeStore.ofList nodes) := hstores [] events rfl
    refine serves_start (V := view registry path stores batches h) hfirst fun node hnode => ?_
    obtain ⟨m, hm, halike⟩ := alike_of_mem_ofList hnode
    exact ⟨m, hnodes m (by simp [hm]), halike⟩
  apply hstart.run (sound_start registry config path nodes) events hstores
  exact fun node hmem stamp => ⟨node, hnodes node (by simp [hmem]), rfl⟩

end Session

end ContentQuery
