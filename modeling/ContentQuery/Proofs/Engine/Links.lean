import ContentQuery.Proofs.Engine.Service

/-!
# How old a linked value may be

A link is followed when a snapshot is made, in the store as it is then, and the snapshot keeps a copy
of what was found. Its entry goes by the id, the version and the required fields of the node itself,
and a signal drops the entries of the node that changed. So a linked node may change while snapshots
that copied it are still served (`Session.kept_link`).

What does hold is that no value is older than the entry it came from: whatever was not cached at some
moment is resolved against a store that the session has had since (**`Session.snapshots_since`**).
-/

namespace ContentQuery

/-- The snapshot is the node with its required fields resolved, each resolver having answered from one
of the stores. -/
def Node.Snapshot (r : Registry) (path : Option String) (stores : NodeStore → Prop)
    (required : RequiredFields) (node snapshot : Node) : Prop :=
  ∃ t out, r.type? node.typeName = some t ∧
    Completion.Resolves ⟨r, path, node.id⟩ stores t required node.body (some out) ∧
    snapshot.Alike (node.withBody out 0)

/-! ## Answers are made of the nodes at hand -/

theorem Answer.mem_of_paginate {a : Answer} {skip limit : Option Nat} {node : Node}
    (h : node ∈ (a.paginate skip limit).nodes) : node ∈ a.nodes := by
  cases a with
  | one first => exact h
  | many nodes =>
      cases limit with
      | none => exact List.mem_of_mem_drop h
      | some limit => exact List.mem_of_mem_drop (List.mem_of_mem_take h)

/-- A query selects among the nodes that it is given. -/
theorem Query.mem_of_select {q : Query} {p : Predicate} {nodes : List Node} {a : Answer}
    (h : q.select p nodes = some a) {node : Node} (hnode : node ∈ a.nodes) : node ∈ nodes := by
  unfold select at h
  split at h
  · cases h
  · obtain rfl := Option.some.inj h
    have hsorted : ∀ {found : List Node}, node ∈ (q.args.sort.getD []).sort found → node ∈ found :=
      fun hmem => List.mem_mergeSort.mp hmem
    apply List.mem_of_mem_filter
    apply hsorted
    have hall := Answer.mem_of_paginate hnode
    split at hall
    · exact List.mem_of_mem_head? (Option.mem_toList.mp hall)
    · exact hall

namespace Session

/-! ## Moments of a session -/

/-- The store is one that the session has now or in the course of the events. -/
def HasStore (s : Session) (events : List Event) (store : NodeStore) : Prop :=
  ∃ before after, events = before ++ after ∧ (s.run before).engine.store = store

/-- The query has not begun. -/
def Awaits (s : Session) (index : Nat) : Prop :=
  ∀ i, s.inquiries[index]? = some i → i.call = .fresh

/-- No snapshot is cached under the key. -/
def Lacks (s : Session) (key : NodeKey) : Prop :=
  ∀ promise, (key, promise) ∉ s.engine.materializer.nodeEntries

/-- No batch is cached under the key. -/
def LacksBatch (s : Session) (key : BatchKey) : Prop :=
  ∀ promise, (key, promise) ∉ s.engine.materializer.batchEntries

theorem HasStore.append {s : Session} {before after : List Event} {store : NodeStore}
    (h : (s.run before).HasStore after store) : s.HasStore (before ++ after) store := by
  obtain ⟨more, rest, rfl, hstore⟩ := h
  refine ⟨before ++ more, rest, by rw [List.append_assoc], ?_⟩
  rw [run_append]
  exact hstore

/-- The stores from which the snapshot of a key may have been resolved: those of the session, and if
nothing was cached under the key at a moment, those that the session has had since. -/
def storesSince (s : Session) (before after : List Event) (key : NodeKey) (store : NodeStore) : Prop :=
  s.HasStore (before ++ after) store ∧
    ((s.run before).Lacks key → (s.run before).HasStore after store)

end Session

/-! ## What is cached at a moment -/

namespace View

/-- A promise serves a node in every view that allows the same stores for its key. -/
theorem PromiseFor.of_stores {V V' : View} {m : Materializer} {fields : RequiredFields} {node : Node}
    {promise : Nat} (h : V.PromiseFor m fields node promise) (hregistry : V'.registry = V.registry)
    (hpath : V'.path = V.path)
    (hstores : V'.stores (.ofNode node fields) = V.stores (.ofNode node fields)) :
    V'.PromiseFor m fields node promise := by
  obtain ⟨bell, state, hstate, hserves⟩ := h
  refine ⟨bell, state, hstate, ?_⟩
  cases state with
  | pending work =>
      unfold Serves at hserves ⊢
      rw [hregistry, hpath, hstores]
      exact hserves
  | kept result =>
      cases result <;>
        · unfold Serves Makes completion at hserves ⊢
          rw [hregistry, hpath, hstores]
          exact hserves

/-- Each snapshot was made of a node. -/
theorem MakesAll.exists_node {V : View} {fields : RequiredFields} {nodes snapshots : List Node}
    (h : V.MakesAll fields nodes (.ok snapshots)) {snapshot : Node} (hmem : snapshot ∈ snapshots) :
    ∃ node ∈ nodes, V.Makes fields node (.ok snapshot) := by
  induction h with
  | nil => cases hmem
  | @cons other node snapshots nodes hmakes _ ih =>
      rcases List.mem_cons.mp hmem with rfl | hmem
      · exact ⟨node, by simp, hmakes⟩
      · obtain ⟨node', hnode', hmakes'⟩ := ih hmem
        exact ⟨node', by simp [hnode'], hmakes'⟩

end View

namespace Session

section Moment

variable (registry : Registry) (config : Config) (path : Option String) (nodes : List Node)
  (before after : List Event)

/-- A moment of a session, seen through the view that knows what is cached by then. What is cached was
resolved against stores of the session, and what is not will be against stores that are still to
come. -/
theorem serves_moment (h : Versioned (nodes ++ Event.nodes (before ++ after))) :
    let first := start registry config path nodes
    (first.run before).Serves
      (view registry path (first.storesSince before after) (first.run before).LacksBatch h)
      (first.run before).Awaits := by
  intro first
  have hearlier : ∀ node ∈ nodes ++ Event.nodes before,
      node ∈ nodes ++ Event.nodes (before ++ after) := by
    intro node hnode
    rw [Event.nodes_append, ← List.append_assoc]
    exact List.mem_append_left _ hnode
  have hmoment : (first.run before).Serves
      (view registry path (fun _ => first.HasStore (before ++ after)) (fun _ => True) h)
      fun _ => True := by
    apply serves_run registry config path nodes before _ _ h hearlier
    rintro some more rfl key
    exact ⟨some, more ++ after, List.append_assoc _ _ _, rfl⟩
  refine ⟨⟨hmoment.engine.registry, ?_, ?_, hmoment.engine.nodes, ?_⟩, hmoment.sourced, ?_⟩
  · refine ⟨hmoment.engine.holds.registry, hmoment.engine.holds.path,
      hmoment.engine.holds.batches, ?_⟩
    intro key promise hmem node hnode hkey
    have hentry := hmoment.engine.holds.entries key promise hmem node hnode hkey
    -- The key has an entry, so that the view knows no more of it than that.
    refine hentry.of_stores rfl rfl ?_
    rw [hkey]
    funext store
    apply propext
    constructor
    · exact fun hstore => hstore.1
    · intro hstore
      exact ⟨hstore, fun hlacks => absurd hmem (hlacks promise)⟩
  · intro key
    have hstore : (first.run before).HasStore after (first.run before).engine.store :=
      ⟨[], after, rfl, rfl⟩
    exact ⟨hstore.append, fun _ => hstore⟩
  · intro key promise hmem hlacks
    exact absurd hmem (hlacks promise)
  · intro index i hawaits hi
    have hserves := hmoment.inquiries index i trivial hi
    rw [hawaits i hi] at hserves ⊢
    exact hserves

/-- From the moment on, the session serves the queries that begin later. -/
theorem serves_since (h : Versioned (nodes ++ Event.nodes (before ++ after))) :
    let first := start registry config path nodes
    (first.run (before ++ after)).Serves
      (view registry path (first.storesSince before after) (first.run before).LacksBatch h)
      (first.run before).Awaits := by
  intro first
  have hmoment := serves_moment registry config path nodes before after h
  have hsound : (first.run before).Sound := (sound_start registry config path nodes).run before
  rw [run_append]
  apply hmoment.run hsound after
  · rintro some more rfl key
    have hstore : (first.run before).HasStore (some ++ more)
        ((first.run before).run some).engine.store := ⟨some, more, rfl, rfl⟩
    exact ⟨hstore.append, fun _ => hstore⟩
  · intro node hmem stamp
    refine ⟨node, ?_, rfl⟩
    rw [Event.nodes_append]
    simp [hmem]

end Moment

/-- **No linked value is older than its entry.** Take any moment of a session and a query that begins
later. If its batch was not cached at the moment, each snapshot that it returns is one of a node of
the store as it was when the query was first polled. What resolvers and links gave was read from a
store of the session, and from one that the session has had since the moment if the snapshot was not
cached by then. -/
theorem snapshots_since (registry : Registry) (config : Config) (path : Option String)
    (nodes : List Node) (before after : List Event)
    (hversions : Versioned (nodes ++ Event.nodes (before ++ after))) {index : Nat} {i : Inquiry}
    (hlater : ((start registry config path nodes).run before).Awaits index)
    (hi : ((start registry config path nodes).run (before ++ after)).inquiries[index]? = some i)
    {answer : Answer} (hanswer : i.call = .finished (.ok answer)) :
    ∃ store, i.store = some store ∧
      (((start registry config path nodes).run before).LacksBatch (i.query.batchKey store) →
        ∀ snapshot ∈ answer.nodes, ∃ node ∈ store.ofType i.query.typeName,
          node.Snapshot registry path
            ((start registry config path nodes).storesSince before after
              (.ofNode node i.query.required))
            i.query.required snapshot) := by
  have hserves := serves_since registry config path nodes before after hversions
  have hcall := hserves.inquiries index i hlater hi
  rw [hanswer] at hcall
  obtain ⟨store, hstore, hcomes⟩ := hcall
  refine ⟨store, hstore, ?_⟩
  intro hlacks snapshot hsnapshot
  have hcome := hcomes hlacks
  unfold Query.Comes at hcome
  split at hcome
  · cases hcome
  · obtain ⟨made, hmade, hselect⟩ := hcome
    cases made with
    | error e => cases hselect
    | ok snapshots =>
        have hmem : snapshot ∈ snapshots := Query.mem_of_select hselect.symm hsnapshot
        obtain ⟨node, hnode, hmakes⟩ := hmade.exists_node hmem
        exact ⟨node, hnode, hmakes⟩

/-! ## A post and its author -/

/-- Posts name their author by a handle. -/
def authorLink : Link := .byField "handle" "Author"

def authorType : ObjectType where
  name := "Author"
  isNode := true
  fields := [⟨"name", "String", .leaf (.scalar .string), none, []⟩]

def postType : ObjectType where
  name := "Post"
  isNode := true
  fields := [⟨"author", "Author", .object "Author", some authorLink.resolver, []⟩]

def linkRegistry : Registry := ⟨[authorType, postType], []⟩

/-- An author whose version is the name. -/
def author (name : String) : Node where
  id := "ann"
  typeName := "Author"
  digest := name
  body := [("id", .string "ann"), ("handle", .string "ann"), ("name", .string name)]
  stamp := 0

def linkedPost : Node where
  id := "post"
  typeName := "Post"
  digest := "1"
  body := [("id", .string "post"), ("author", .string "ann")]
  stamp := 0

def authorNames : Query where
  typeName := "Post"
  projections := [.distinct "author.name"]

/-- The name of the author that a snapshot of a post shows. -/
def shownName (snapshot : Node) : Option String :=
  (Path.resolve snapshot.body "author.name").present?.bind Json.string?

def shownNames : Call → List (Option String)
  | .finished (.ok answer) => answer.nodes.map shownName
  | _ => []

def linkSession : Session := start linkRegistry {} none [author "Ann", linkedPost]

/-- A query is answered, and then the author is renamed. -/
def renamingAuthor : List Event := [.ask authorNames, .poll 0 .caller, .upsert (author "Anna")]

/-- Besides, the caches are cleared. -/
def clearing : List Event := renamingAuthor ++ [.cacheCleared]

def askingAgain : List Event := [.ask authorNames, .poll 1 .caller]

/-- The store with the author, under one name or the other, and the post. -/
def authorStore (name : String) (stamp nextStamp : Nat) : NodeStore where
  nodes := #[{ author name with stamp }, { linkedPost with stamp := 1 }]
  positions := ((∅ : Std.HashMap String Nat).insert "ann" 0).insert "post" 1
  nextStamp

/-- The session in which the first query is answered. -/
def answered : Session :=
  ({ engine := .start linkRegistry (authorStore "Ann" 0 2) {} none } : Session).run
    [.ask authorNames, .poll 0 .caller]

/-- The session in which the author is renamed. -/
def renamed : Session where
  engine := ({ answered.engine with store := authorStore "Anna" 2 3 } : Engine).handle
    (.nodeChanged "ann" "Anna")
  inquiries := answered.inquiries

theorem run_renamingAuthor : linkSession.run renamingAuthor = renamed := by
  have hstart : NodeStore.ofList [author "Ann", linkedPost] = authorStore "Ann" 0 2 := by
    simp [NodeStore.ofList, NodeStore.upsert, NodeStore.empty, author, linkedPost, authorStore]
  have hposition : (authorStore "Ann" 0 2).positions["ann"]? = some 0 := by
    rw [authorStore, Std.HashMap.getElem?_insert, Std.HashMap.getElem?_insert]
    rfl
  have hstore : answered.engine.store = authorStore "Ann" 0 2 := by
    rw [answered, run_ask_poll _ _ _ 0 rfl]
    exact Engine.store_poll ..
  have hupsert : answered.engine.store.upsert (author "Anna") = authorStore "Anna" 2 3 := by
    rw [hstore, NodeStore.upsert]
    simp only [author, hposition]
    rfl
  rw [renamed, ← hupsert, linkSession, start, hstart]
  rfl

theorem versioned_renamingAuthor (after : List Event) (hafter : Event.nodes after = []) :
    Versioned ([author "Ann", linkedPost] ++ Event.nodes (renamingAuthor ++ after)) := by
  intro n hn m hm hid hdigest
  rw [Event.nodes_append, hafter] at hn hm
  simp only [renamingAuthor, Event.nodes, List.cons_append, List.nil_append, List.append_nil,
    List.mem_cons, List.not_mem_nil, or_false] at hn hm
  rcases hn with rfl | rfl | rfl <;> rcases hm with rfl | rfl | rfl <;>
    first | rfl | exact absurd hid (by decide) | exact absurd hdigest (by decide)

/-- A snapshot whose links were followed in the store now shows the new name. -/
theorem shownName_of_snapshot {node snapshot : Node}
    (hnode : node ∈ (authorStore "Anna" 2 3).ofType "Post")
    (h : node.Snapshot linkRegistry none (· = authorStore "Anna" 2 3) authorNames.required snapshot) :
    shownName snapshot = some "Anna" := by
  obtain rfl : node = { linkedPost with stamp := 1 } := by
    simpa [NodeStore.ofType, authorStore, author, linkedPost] using hnode
  obtain ⟨t, out, ht, hresolves, halike⟩ := h
  obtain rfl : postType = t := Option.some.inj ht
  have hrequired : authorNames.required = [⟨"author", [⟨"name", []⟩]⟩] := by decide +kernel
  rw [hrequired, Completion.Resolves] at hresolves
  obtain ⟨attempt, store, rfl, hresolves⟩ := hresolves
  rcases hresolves with ⟨w, ⟨completed, hcompleted, hw⟩, hrest⟩ | ⟨_, hnone⟩
  · have hname : Completion.Resolves ⟨linkRegistry, none, "post"⟩ (· = authorStore "Anna" 2 3)
        authorType [⟨"name", []⟩] (author "Anna").body completed := hcompleted
    rw [Completion.Resolves] at hname
    rcases hname with ⟨name, hname, hdone⟩ | ⟨hnone, _⟩
    · obtain rfl := Option.some.inj hname
      rw [Completion.Resolves] at hdone hrest
      obtain rfl := hdone
      obtain rfl := Option.some.inj hw
      obtain rfl := Option.some.inj hrest
      rw [shownName, halike.body]
      rfl
    · cases hnone
  · cases hnone

theorem exists_answer {call : Call} {name : Option String} (h : shownNames call = [name]) :
    ∃ answer, call = .finished (.ok answer) ∧ answer.nodes.map shownName = [name] := by
  unfold shownNames at h
  split at h
  · exact ⟨_, rfl, h⟩
  · cases h

/-- **Links are not always fresh.** The post is queried, its author is renamed, and the post is queried
again: the snapshot that it was first shown by is still there, and no link that is followed in the
store as it is now gives it. -/
theorem kept_link :
    Versioned ([author "Ann", linkedPost] ++ Event.nodes (renamingAuthor ++ askingAgain)) ∧
    ∃ (i : Inquiry) (store : NodeStore) (answer : Answer),
      (linkSession.run (renamingAuthor ++ askingAgain)).inquiries[1]? = some i ∧
      i.store = some store ∧ i.call = .finished (.ok answer) ∧
      ¬∀ snapshot ∈ answer.nodes, ∃ node ∈ store.ofType i.query.typeName,
        node.Snapshot linkRegistry none (· = store) i.query.required snapshot := by
  refine ⟨versioned_renamingAuthor _ rfl, ?_⟩
  rw [run_append, run_renamingAuthor, askingAgain, run_ask_poll _ _ _ 1 rfl]
  have hnames : shownNames (renamed.engine.poll .caller authorNames .fresh).2 = [some "Ann"] := by
    decide +kernel
  obtain ⟨answer, hcall, hshown⟩ := exists_answer hnames
  refine ⟨_, _, answer, rfl, rfl, hcall, fun hfresh => ?_⟩
  obtain ⟨snapshot, hsnapshot, hold⟩ : ∃ snapshot ∈ answer.nodes, shownName snapshot = some "Ann" :=
    List.mem_map.mp (hshown ▸ List.mem_singleton_self _)
  obtain ⟨node, hnode, hresolved⟩ := hfresh snapshot hsnapshot
  have hnew := shownName_of_snapshot hnode hresolved
  rw [hold] at hnew
  exact absurd hnew (by decide)

/-- Once the caches were cleared, the post is shown with the new name, which the store has had since
then. -/
theorem snapshots_since_cleared :
    ∃ (i : Inquiry) (store : NodeStore) (answer : Answer),
      (linkSession.run (clearing ++ askingAgain)).inquiries[1]? = some i ∧
      i.store = some store ∧ i.call = .finished (.ok answer) ∧
      answer.nodes.map shownName = [some "Anna"] ∧
      ∀ snapshot ∈ answer.nodes, ∃ node ∈ store.ofType i.query.typeName,
        node.Snapshot linkRegistry none
          (linkSession.storesSince clearing askingAgain (.ofNode node i.query.required))
          i.query.required snapshot := by
  have hmoment : linkSession.run clearing = renamed.step .cacheCleared := by
    rw [clearing, run_append, run_renamingAuthor]
    rfl
  have hi : (linkSession.run (clearing ++ askingAgain)).inquiries[1]? =
      some ⟨authorNames, ((renamed.step .cacheCleared).engine.poll .caller authorNames .fresh).2,
        some (authorStore "Anna" 2 3)⟩ := by
    rw [run_append, hmoment, askingAgain, run_ask_poll _ _ _ 1 rfl]
    rfl
  have hnames : shownNames
      ((renamed.step .cacheCleared).engine.poll .caller authorNames .fresh).2 = [some "Anna"] := by
    decide +kernel
  obtain ⟨answer, hcall, hshown⟩ := exists_answer hnames
  have hversions : Versioned ([author "Ann", linkedPost] ++ Event.nodes (clearing ++ askingAgain)) := by
    rw [clearing, List.append_assoc]
    exact versioned_renamingAuthor _ rfl
  have hawaits : (linkSession.run clearing).Awaits 1 := by
    rw [hmoment]
    rintro i ⟨⟩
  have hlacks : ∀ key, (linkSession.run clearing).LacksBatch key := by
    rw [hmoment]
    rintro key promise ⟨⟩
  obtain ⟨store, hstore, hsince⟩ := snapshots_since linkRegistry {} none [author "Ann", linkedPost]
    clearing askingAgain hversions hawaits hi hcall
  exact ⟨_, store, answer, hi, hstore, hcall, hshown, hsince (hlacks _)⟩

end Session

end ContentQuery
