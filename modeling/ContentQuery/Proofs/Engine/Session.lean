import ContentQuery.Engine.Basic
import ContentQuery.Proofs.Index.Narrowing
import ContentQuery.Proofs.Node.Places
import ContentQuery.Proofs.Snapshot.Stamps

/-!
# Sessions

A session is an engine together with the queries that were put to it. Queries are polled in any order
and any number of times, nodes are stored and taken out in between, and signals come as the store
gives them. Who is woken when is up to whoever polls, so the agenda may change in any way.

In every session collections hold the nodes they were last given (`Session.Sound.run`): nodes of the
store and snapshots are told apart by their stamps, and indexes belong to the nodes at hand. So an
answer is what the predicate finds among the nodes of the query (`Engine.Sound.answer`).
-/

namespace ContentQuery

/-- A query that was put to an engine, with how far it has come. -/
structure Inquiry where
  query : Query
  call : Call := .fresh
  /-- The store as it was when the query was first polled. -/
  store : Option NodeStore := none

/-- An engine and the queries that were put to it. -/
structure Session where
  engine : Engine
  inquiries : List Inquiry := []

/-- What may happen in a session. -/
inductive Event where
  /-- A query is put to the engine. -/
  | ask (query : Query)
  | poll (index : Nat) (waker : Waker)
  /-- A node is stored, and the engine is given the signal of the change. -/
  | upsert (node : Node)
  /-- A node is taken out of the store, of which there is no signal. -/
  | remove (id : String)
  | cacheCleared
  | bootstrapFinished
  /-- Someone is woken, or asks to be. -/
  | agenda (agenda : Agenda)

namespace Session

def start (registry : Registry) (config : Config) (path : Option String) (nodes : List Node) :
    Session :=
  { engine := .start registry (.ofList nodes) config path }

def step (s : Session) : Event → Session
  | .ask query => { s with inquiries := s.inquiries ++ [{ query }] }
  | .poll index waker =>
    match s.inquiries[index]? with
    | none => s
    | some i =>
      let (engine, call) := s.engine.poll waker i.query i.call
      let store := i.store <|> some s.engine.store
      { engine, inquiries := s.inquiries.set index { i with call, store } }
  | .upsert node =>
    let (engine, signal) := s.engine.upsert node
    { s with engine := engine.handle signal }
  | .remove id => { s with engine := (s.engine.remove id).1 }
  | .cacheCleared => { s with engine := s.engine.handle .cacheCleared }
  | .bootstrapFinished => { s with engine := s.engine.handle .bootstrapFinished }
  | .agenda agenda =>
    { s with engine := { s.engine with
        materializer := { s.engine.materializer with agenda } } }

def run (s : Session) (events : List Event) : Session := events.foldl step s

theorem run_append (s : Session) (before after : List Event) :
    s.run (before ++ after) = (s.run before).run after := List.foldl_append

/-- A query that is polled as soon as it is put to the engine. -/
theorem run_ask_poll (s : Session) (query : Query) (waker : Waker) (index : Nat)
    (h : s.inquiries.length = index) :
    s.run [.ask query, .poll index waker] =
      { engine := (s.engine.poll waker query .fresh).1
        inquiries := s.inquiries ++
          [⟨query, (s.engine.poll waker query .fresh).2, some s.engine.store⟩] } := by
  subst h
  simp [run, step]

end Session

/-- The nodes that are stored in the course of some events. -/
def Event.nodes : List Event → List Node
  | [] => []
  | .upsert node :: rest => node :: nodes rest
  | _ :: rest => nodes rest

theorem Event.nodes_append (before after : List Event) :
    Event.nodes (before ++ after) = Event.nodes before ++ Event.nodes after := by
  induction before with
  | nil => rfl
  | cons event rest ih => cases event <;> simp [Event.nodes, ih]

/-! ## Nodes of the store -/

/-- All nodes that were stored stand in the list, each at the place of its stamp. -/
structure NodeStore.Stamps (s : NodeStore) (log : List Node) : Prop where
  length : log.length = s.nextStamp
  nodes : ∀ node ∈ s.nodes.toList, Stamped log node

namespace NodeStore

theorem mem_upsert {s : NodeStore} {node other : Node} (h : other ∈ (s.upsert node).nodes.toList) :
    other ∈ s.nodes.toList ∨ other = { node with stamp := s.nextStamp } := by
  unfold upsert at h
  dsimp only at h
  split at h
  · rw [Array.toList_setIfInBounds] at h
    exact List.mem_or_eq_of_mem_set h
  · simpa using h

/-- Taking a node out leaves the others in their order. -/
theorem sublist_remove (s : NodeStore) (id : String) :
    List.Sublist (s.remove id).1.nodes.toList s.nodes.toList := by
  unfold remove
  split
  · exact .refl _
  · simp only [Array.eraseIdxIfInBounds]
    split
    · simpa using List.eraseIdx_sublist _ _
    · exact .refl _

theorem Stamps.upsert {s : NodeStore} {log : List Node} (h : s.Stamps log) (node : Node) :
    (s.upsert node).Stamps (log ++ [{ node with stamp := s.nextStamp }]) where
  length := by rw [List.length_append, h.length, nextStamp_upsert]; rfl
  nodes := by
    intro other hother
    rcases mem_upsert hother with hmem | rfl
    · exact (h.nodes other hmem).append _
    · rw [Stamped, ← h.length]
      simp

theorem Stamps.remove {s : NodeStore} {log : List Node} (h : s.Stamps log) (id : String) :
    (s.remove id).1.Stamps log where
  length := by rw [nextStamp_remove, h.length]
  nodes := fun node hnode => h.nodes node ((sublist_remove s id).mem hnode)

theorem exists_stamps_ofList (nodes : List Node) : ∃ log, (ofList nodes).Stamps log := by
  have hfold : ∀ (s : NodeStore) (log : List Node), s.Stamps log →
      ∃ log, (nodes.foldl NodeStore.upsert s).Stamps log := by
    induction nodes with
    | nil => exact fun s log h => ⟨log, h⟩
    | cons node rest ih => exact fun s log h => ih _ _ (h.upsert node)
  exact hfold empty [] ⟨rfl, by simp [empty]⟩

end NodeStore

/-! ## Collections -/

namespace NodeCollection

theorem nodes_ensureIndex (c : NodeCollection) (path : String) :
    (c.ensureIndex path).1.nodes = c.nodes := by
  unfold ensureIndex
  split
  · rfl
  · split <;> rfl

theorem nodes_ensureAll (paths : List String) (c : NodeCollection) (usage : Usage) :
    (usage.ensureAll c paths).2.1.nodes = c.nodes :=
  of_ensureAll (fun c' path hc => (nodes_ensureIndex c' path).trans hc) paths rfl usage

/-- A collection that is brought up to date holds the nodes, if stamps tell its nodes apart from
these. -/
theorem nodes_sync {c : NodeCollection} {log : List Node} {nodes : List Node}
    (hc : ∀ node ∈ c.nodes.toList, Stamped log node) (hnodes : ∀ node ∈ nodes, Stamped log node) :
    (c.sync nodes).1.nodes.toList = nodes := by
  unfold sync
  split
  · rename_i hsame
    exact eq_of_stamps_eq hc hnodes (by simpa [sameNodes] using hsame)
  · simp [withNodes]

end NodeCollection

/-! ## Answers -/

/-- What a query selects from nodes that carry the fields it reads: those on which its predicate
holds, sorted, and of these the first or a page. Nothing if the predicate cannot be evaluated. -/
def Query.select (q : Query) (p : Predicate) (nodes : List Node) : Option Answer :=
  if p.unknown?.isSome then none
  else
    let found := nodes.filter fun n => p.holds n.body
    let sorted := (q.args.sort.getD []).sort found
    let answer : Answer := if q.firstOnly then .one sorted.head? else .many sorted
    some (answer.paginate q.args.skip q.args.limit)

/-- Running a query over a collection selects from its nodes, whatever its indexes. -/
theorem NodeCollection.WellIndexed.toOption_run {c : NodeCollection} (h : c.WellIndexed) (q : Query)
    (p : Predicate) :
    ((c.source.run p q.args.sort q.firstOnly).toOption.map fun run =>
      run.answer.paginate q.args.skip q.args.limit) = q.select p c.nodes.toList := by
  have hfound : (Run.scan c.source (Run.candidates? c.source p)).filter (fun n => p.holds n.body) =
      c.nodes.toList.filter fun n => p.holds n.body := Run.filter_scan_candidates? h.sound p
  unfold NodeSource.run Query.select
  cases p.unknown? with
  | some operator => rfl
  | none => simp [hfound, Except.toOption]

namespace Engine

/-- The list in which the nodes of a collection stand: that of the snapshots if they carry some
fields, and else that of the stored nodes. -/
def logOf (snapshots stored : List Node) (fields : Option RequiredFields) : List Node :=
  match fields with
  | some _ => snapshots
  | none => stored

/-- Snapshots and nodes of the store stand in two lists at the places of their stamps, and
collections hold nodes of one or the other. -/
structure Sound (e : Engine) (snapshots stored : List Node) : Prop where
  materializer : e.materializer.Stamps snapshots
  store : e.store.Stamps stored
  collections : ∀ key c, (key, c) ∈ e.collections → c.WellIndexed ∧
    ∀ node ∈ c.nodes.toList, Stamped (logOf snapshots stored key.2) node

theorem mem_keep {key : CollectionKey} {c : NodeCollection}
    {collections : List (CollectionKey × NodeCollection)} {entry : CollectionKey × NodeCollection}
    (h : entry ∈ keep key c collections) : entry ∈ collections ∨ entry = (key, c) := by
  induction collections with
  | nil => simpa [keep] using h
  | cons first rest ih =>
      obtain ⟨k, old⟩ := first
      rw [keep] at h
      split at h
      · rcases List.mem_cons.mp h with rfl | hmem
        · exact .inr rfl
        · exact .inl (List.mem_cons_of_mem _ hmem)
      · rcases List.mem_cons.mp h with rfl | hmem
        · exact .inl List.mem_cons_self
        · exact (ih hmem).imp_left (List.mem_cons_of_mem _)

namespace Sound

variable {e : Engine} {snapshots stored : List Node}

theorem collection (h : e.Sound snapshots stored) (key : CollectionKey) :
    (e.collection key).WellIndexed ∧
      ∀ node ∈ (e.collection key).nodes.toList,
        Stamped (logOf snapshots stored key.2) node := by
  unfold Engine.collection
  cases hlookup : e.collections.lookup key with
  | none =>
      refine ⟨fun path tree hmem => ?_, fun node hnode => ?_⟩
      · simp [NodeCollection.empty] at hmem
      · simp [NodeCollection.empty] at hnode
  | some c =>
      obtain ⟨before, after, hentries, _⟩ := List.lookup_eq_some_iff.mp hlookup
      exact h.collections key c (by simp [hentries])

/-- More snapshots leave everything in its place. -/
theorem append (h : e.Sound snapshots stored) {m : Materializer} {more : List Node}
    (hm : m.Stamps (snapshots ++ more)) :
    { e with materializer := m }.Sound (snapshots ++ more) stored where
  materializer := hm
  store := h.store
  collections := by
    intro key c hmem
    obtain ⟨hindexed, hnodes⟩ := h.collections key c hmem
    refine ⟨hindexed, fun node hnode => ?_⟩
    have hstamped := hnodes node hnode
    rcases key with ⟨typeName, _ | fields⟩
    · exact hstamped
    · exact hstamped.append more

/-- **An answer is what the query selects** from the nodes it runs over: neither the indexes nor the
nodes that its collection held before show in it. -/
theorem answer (h : e.Sound snapshots stored) (q : Query) (p : Predicate)
    (fields : Option RequiredFields) {nodes : List Node}
    (hnodes : ∀ node ∈ nodes, Stamped (logOf snapshots stored fields) node) :
    (e.answer q p fields nodes).1.Sound snapshots stored ∧
      (e.answer q p fields nodes).2.toOption = q.select p nodes := by
  obtain ⟨hindexed, hold⟩ := h.collection (q.typeName, fields)
  have hsync := NodeCollection.nodes_sync hold hnodes
  have hsynced : ((e.collection (q.typeName, fields)).sync nodes).1.WellIndexed := hindexed.sync nodes
  generalize hc : ((e.collection (q.typeName, fields)).sync nodes).1 = c at hsync hsynced
  -- Two rounds of new indexes follow, for the tests and for the sort. The nodes stay.
  let used := e.usage.record c p
  let indexed := used.1.indexSort used.2.1 (q.args.sort.getD [])
  have hindexedNow : indexed.2.WellIndexed := (hsynced.ensureAll _ _).ensureAll _ _
  have hnodesNow : indexed.2.nodes.toList = nodes := by
    rw [← hsync]
    exact congrArg _ ((NodeCollection.nodes_ensureAll _ _ _).trans
      (NodeCollection.nodes_ensureAll _ _ _))
  have hcollections : ∀ key c',
      (key, c') ∈ keep (q.typeName, fields) indexed.2 e.collections → c'.WellIndexed ∧
        ∀ node ∈ c'.nodes.toList, Stamped (logOf snapshots stored key.2) node := by
    intro key c' hmem
    rcases mem_keep hmem with hmem | heq
    · exact h.collections key c' hmem
    · obtain ⟨rfl, rfl⟩ := Prod.mk.inj heq
      exact ⟨hindexedNow, fun node hnode => hnodes node (hnodesNow ▸ hnode)⟩
  have hrun := hindexedNow.toOption_run q p
  rw [hnodesNow] at hrun
  unfold Engine.answer
  dsimp only
  rw [hc]
  split
  · rename_i run heq
    have hok : indexed.2.source.run p q.args.sort q.firstOnly = .ok run := heq
    rw [hok] at hrun
    exact ⟨⟨h.materializer, h.store, hcollections⟩, hrun⟩
  · rename_i cause heq
    have herror : indexed.2.source.run p q.args.sort q.firstOnly = .error cause := heq
    rw [herror] at hrun
    exact ⟨⟨h.materializer, h.store, hcollections⟩, hrun⟩

end Sound

end Engine

/-! ## Sessions are sound -/

/-- All snapshots that a query under way waits for are stamped. -/
def Call.Stamped (snapshots : List Node) : Call → Prop
  | .waiting _ _ request => request.Stamped snapshots
  | _ => True

theorem Call.Stamped.append {snapshots : List Node} {call : Call} (h : call.Stamped snapshots)
    (more : List Node) : call.Stamped (snapshots ++ more) := by
  cases call with
  | waiting p fields request => exact SnapshotRequest.Stamped.append h more
  | _ => trivial

namespace Engine.Sound

variable {e : Engine} {snapshots stored : List Node}

theorem finish (h : e.Sound snapshots stored) (result : Except EngineError Answer) :
    (Engine.finish (e, result)).1.Sound snapshots stored ∧
      (Engine.finish (e, result)).2 = .finished result := by
  cases result <;> exact ⟨⟨h.materializer, h.store, h.collections⟩, rfl⟩

/-- A query that needs snapshots stays sound, and ends with what it selects from these. -/
theorem pollWaiting (h : e.Sound snapshots stored) (waker : Waker) (q : Query) (p : Predicate)
    (fields : RequiredFields) {request : SnapshotRequest} (hrequest : request.Stamped snapshots) :
    ∃ more, (e.pollWaiting waker q p fields request).1.Sound (snapshots ++ more) stored ∧
      (e.pollWaiting waker q p fields request).2.Stamped (snapshots ++ more) := by
  obtain ⟨more, hpolled, hstate⟩ := h.materializer.poll e.store waker hrequest
  have he := h.append hpolled
  refine ⟨more, ?_⟩
  unfold Engine.pollWaiting Engine.pollSnapshots
  rcases heq : e.materializer.poll e.store waker request with ⟨m, request' | cause | nodes⟩
  · rw [heq] at he hstate
    exact ⟨he, hstate⟩
  · rw [heq] at he
    obtain ⟨hsound, hcall⟩ := he.finish (.error (.snapshot cause))
    exact ⟨hsound, by rw [hcall]; trivial⟩
  · rw [heq] at he hstate
    obtain ⟨hsound, hcall⟩ := ((he.answer q p (some fields) hstate).1).finish
      (({ e with materializer := m } : Engine).answer q p (some fields) nodes).2
    exact ⟨hsound, by rw [hcall]; trivial⟩

theorem prepare (h : e.Sound snapshots stored) {q : Query} {e' : Engine} {prepared : Prepared}
    (hprepare : e.prepare q = .ok (e', prepared)) : e'.Sound snapshots stored ∧
      match prepared with
      | .stored nodes => ∀ node ∈ nodes, Stamped stored node
      | .snapshots _ request => request.Stamped snapshots := by
  have hofType : ∀ node ∈ e.store.ofType q.typeName, Stamped stored node := fun node hnode =>
    h.store.nodes node (List.mem_of_mem_filter hnode)
  unfold Engine.prepare at hprepare
  dsimp only at hprepare
  split at hprepare
  · obtain ⟨rfl, rfl⟩ := Prod.mk.inj (Except.ok.inj hprepare)
    exact ⟨h, hofType⟩
  · split at hprepare
    · cases hprepare
    · obtain ⟨rfl, rfl⟩ := Prod.mk.inj (Except.ok.inj hprepare)
      exact ⟨h, hofType⟩
    · obtain ⟨rfl, rfl⟩ := Prod.mk.inj (Except.ok.inj hprepare)
      obtain ⟨hm, hrequest⟩ :=
        h.materializer.request q.typeName (e.store.ofType q.typeName) q.required
      exact ⟨⟨hm, h.store, h.collections⟩, hrequest⟩

theorem poll (h : e.Sound snapshots stored) (waker : Waker) (q : Query) {call : Call}
    (hcall : call.Stamped snapshots) :
    ∃ more, (e.poll waker q call).1.Sound (snapshots ++ more) stored ∧
      (e.poll waker q call).2.Stamped (snapshots ++ more) := by
  have hfinish : ∀ {e' : Engine} (result : Except EngineError Answer), e'.Sound snapshots stored →
      ∃ more, (Engine.finish (e', result)).1.Sound (snapshots ++ more) stored ∧
        (Engine.finish (e', result)).2.Stamped (snapshots ++ more) := by
    intro e' result he'
    obtain ⟨hsound, hfinished⟩ := he'.finish result
    refine ⟨[], ?_⟩
    rw [List.append_nil, hfinished]
    exact ⟨hsound, trivial⟩
  cases call with
  | finished result => exact ⟨[], by rw [List.append_nil]; exact ⟨h, trivial⟩⟩
  | waiting p fields request => exact h.pollWaiting waker q p fields hcall
  | fresh =>
      rw [Engine.poll]
      split
      · exact hfinish _ h
      · split
        · exact hfinish _ h
        · rename_i hprepare
          obtain ⟨he', hnodes⟩ := h.prepare hprepare
          exact hfinish _ (he'.answer q _ none hnodes).1
        · rename_i hprepare
          obtain ⟨he', hrequest⟩ := h.prepare hprepare
          exact he'.pollWaiting waker q _ _ hrequest

theorem handle (h : e.Sound snapshots stored) (signal : Signal) :
    (e.handle signal).Sound snapshots stored := by
  cases signal with
  | cacheCleared =>
      refine ⟨h.materializer.of_eq rfl rfl rfl, h.store, fun key c hmem => ?_⟩
      simp [Engine.handle, Engine.invalidateAll] at hmem
  | bootstrapFinished => exact ⟨h.materializer.of_eq rfl rfl rfl, h.store, h.collections⟩
  | nodeChanged id version => exact ⟨h.materializer.of_eq rfl rfl rfl, h.store, h.collections⟩

theorem upsert (h : e.Sound snapshots stored) (node : Node) :
    (e.upsert node).1.Sound snapshots
      (stored ++ [{ node with stamp := e.store.nextStamp }]) where
  materializer := h.materializer
  store := h.store.upsert node
  collections := by
    intro key c hmem
    obtain ⟨hindexed, hnodes⟩ := h.collections key c hmem
    refine ⟨hindexed, fun other hother => ?_⟩
    have hstamped := hnodes other hother
    rcases key with ⟨typeName, _ | fields⟩
    · exact hstamped.append _
    · exact hstamped

end Engine.Sound

namespace Session

/-- The engine of the session is sound, and so are the queries under way. -/
def Sound (s : Session) : Prop :=
  ∃ snapshots stored, s.engine.Sound snapshots stored ∧
    ∀ i ∈ s.inquiries, i.call.Stamped snapshots

theorem Sound.step {s : Session} (h : s.Sound) (event : Event) : (s.step event).Sound := by
  obtain ⟨snapshots, stored, he, hcalls⟩ := h
  cases event with
  | ask query =>
      refine ⟨snapshots, stored, he, ?_⟩
      intro i hi
      rcases List.mem_append.mp hi with hi | hi
      · exact hcalls i hi
      · obtain rfl := List.mem_singleton.mp hi
        trivial
  | poll index waker =>
      rw [Session.step]
      split
      · exact ⟨snapshots, stored, he, hcalls⟩
      · rename_i i hi
        obtain ⟨more, hpolled, hcall⟩ :=
          he.poll waker i.query (hcalls i (List.mem_of_getElem? hi))
        refine ⟨snapshots ++ more, stored, hpolled, ?_⟩
        intro j hj
        rcases List.mem_or_eq_of_mem_set hj with hj | rfl
        · exact (hcalls j hj).append more
        · exact hcall
  | upsert node =>
      exact ⟨snapshots, _, (he.upsert node).handle (NodeStore.upsertSignal node), hcalls⟩
  | remove id =>
      exact ⟨snapshots, stored, ⟨he.materializer, he.store.remove id, he.collections⟩, hcalls⟩
  | cacheCleared => exact ⟨snapshots, stored, he.handle .cacheCleared, hcalls⟩
  | bootstrapFinished => exact ⟨snapshots, stored, he.handle .bootstrapFinished, hcalls⟩
  | agenda agenda =>
      exact ⟨snapshots, stored, ⟨he.materializer.agenda agenda, he.store, he.collections⟩, hcalls⟩

theorem sound_start (registry : Registry) (config : Config) (path : Option String)
    (nodes : List Node) : (start registry config path nodes).Sound := by
  obtain ⟨log, hlog⟩ := NodeStore.exists_stamps_ofList nodes
  refine ⟨[], log, ⟨⟨rfl, ?_, ?_⟩, hlog, ?_⟩, ?_⟩ <;> simp [start, Engine.start]

/-- **Sessions stay sound**, whatever happens in them. -/
theorem Sound.run {s : Session} (h : s.Sound) (events : List Event) : (s.run events).Sound := by
  induction events generalizing s with
  | nil => exact h
  | cons event rest ih => exact ih (h.step event)

end Session

end ContentQuery
