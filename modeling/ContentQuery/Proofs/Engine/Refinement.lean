import ContentQuery.Proofs.Engine.Service

/-!
# Caches change cost, never answers

An engine keeps snapshots, whole batches of snapshots, collections and indexes, and others may be
answered from all of these while a query waits. If the resolvers that a query needs depend on their
requests alone, and the version of a node says what the node is, none of this shows: the query comes to
its `Query.reference`, which resolves the nodes of the store afresh and looks at each of them
(**`Session.returns_reference`**).
-/

namespace ContentQuery

/-! ## The reference -/

/-- The node with its required fields resolved afresh, or nothing if that fails. -/
def Node.resolved (r : Registry) (path : Option String) (store : NodeStore)
    (required : RequiredFields) (node : Node) : Option Node := do
  let t ← r.type? node.typeName
  let body ← Completion.resolve ⟨r, path, node.id⟩ store t required node.body
  return { node with body }

/-- What a query comes to without caches and indexes: the nodes of its type, in the order of the
store and with the required fields resolved, among which it selects. Nothing stands for an error. -/
def Query.reference (q : Query) (r : Registry) (path : Option String) (store : NodeStore) :
    Option Answer :=
  match Engine.check r q with
  | .error _ => none
  | .ok p =>
    ((store.ofType q.typeName).mapM (Node.resolved r path store q.required)).bind (q.select p)

/-- All resolvers that the query needs depend on the request alone. -/
def Query.Pure (q : Query) (r : Registry) : Prop :=
  ∀ t, r.type? q.typeName = some t → r.PureFor t q.required

def Answer.unstamped : Answer → Answer
  | .many nodes => .many (nodes.map Node.unstamped)
  | .one node => .one (node.map Node.unstamped)

/-- What a query returns: nodes, the different values at a path, or groups of nodes. -/
inductive Returned where
  | nodes (answer : Answer)
  | values (values : List Json)
  | groups (groups : List Group)

/-- What a query returns for an answer. Copies of a node are not told apart. -/
def Query.returns (q : Query) (answer : Answer) : Returned :=
  match q.projections with
  | [.distinct path] => .values (distinctValues answer.unstamped.nodes path)
  | [.group path] => .groups (groupNodes answer.unstamped.nodes path)
  | _ => .nodes answer.unstamped

/-! ## Copies of nodes -/

@[simp] theorem Answer.unstamped_unstamped (answer : Answer) :
    answer.unstamped.unstamped = answer.unstamped := by
  cases answer with
  | many nodes => simp [unstamped, Node.unstamped]
  | one node => cases node <;> rfl

/-- What a query returns depends on the answer without its stamps. -/
theorem Query.returns_unstamped (q : Query) (answer : Answer) :
    q.returns answer.unstamped = q.returns answer := by
  simp only [returns, Answer.unstamped_unstamped]

/-- Selecting looks at the bodies of nodes only. -/
theorem Query.select_unstamped (q : Query) (p : Predicate) (nodes : List Node) :
    q.select p (nodes.map Node.unstamped) = (q.select p nodes).map Answer.unstamped := by
  unfold select
  split
  · rfl
  · have hfilter : (nodes.map Node.unstamped).filter (fun n => p.holds n.body) =
        (nodes.filter fun n => p.holds n.body).map Node.unstamped := by
      rw [List.filter_map]
      rfl
    -- Sorting only compares keys, which copies of a node share.
    have hsort : ∀ (spec : SortSpec) (found : List Node),
        spec.sort (found.map Node.unstamped) = (spec.sort found).map Node.unstamped := by
      intro spec found
      have hkeys : ∀ a ∈ found, ∀ b ∈ found,
          spec.notAfter a b = spec.notAfter a.unstamped b.unstamped := fun _ _ _ _ => rfl
      exact (List.map_mergeSort hkeys).symm
    rw [hfilter]
    dsimp only
    rw [hsort]
    generalize (q.args.sort.getD []).sort (nodes.filter fun n => p.holds n.body) = sorted
    by_cases hfirst : q.firstOnly
    · simp [hfirst, Answer.paginate, Answer.unstamped]
    · cases q.args.limit <;>
        simp [hfirst, Answer.paginate, Answer.unstamped, List.map_drop, List.map_take]

/-- Alike nodes are selected alike. -/
theorem Query.select_alike (q : Query) (p : Predicate) {nodes nodes' : List Node}
    (h : nodes.map Node.unstamped = nodes'.map Node.unstamped) :
    (q.select p nodes).map Answer.unstamped = (q.select p nodes').map Answer.unstamped := by
  rw [← select_unstamped, ← select_unstamped, h]

/-! ## What the reference makes of the nodes -/

/-- One element without a result leaves the whole list without one. -/
theorem mapM_eq_none {α β : Type} {f : α → Option β} {a : α} {as : List α} (ha : a ∈ as)
    (h : f a = none) : as.mapM f = none := by
  induction as with
  | nil => cases ha
  | cons first rest ih =>
      rw [List.mapM_cons]
      rcases List.mem_cons.mp ha with rfl | hrest
      · rw [h]
        rfl
      · rw [ih hrest]
        cases f first <;> rfl

namespace View

variable {V : View} {required : RequiredFields} (store : NodeStore)

/-- A node with pure resolvers makes one thing only: what resolving it afresh gives. -/
theorem Makes.resolved {node : Node} {result : Except SnapshotError Node}
    (hpure : ∀ t, V.registry.type? node.typeName = some t → V.registry.PureFor t required)
    (h : V.Makes required node result) :
    (node.resolved V.registry V.path store required).map Node.unstamped =
      result.toOption.map Node.unstamped := by
  cases result with
  | ok snapshot =>
      obtain ⟨t, out, ht, hresolves, hsnapshot⟩ := h
      have hout := (V.completion node).eq_resolve store t required (hpure t ht) node.body hresolves
      have hresolve : Completion.resolve ⟨V.registry, V.path, node.id⟩ store t required node.body =
          some out := hout.symm
      have halike : Node.unstamped { node with body := out } = snapshot.unstamped := hsnapshot.symm
      simp [Node.resolved, ht, hresolve, Except.toOption, halike]
  | error e =>
      obtain ⟨t, ht, hresolves⟩ := h
      have hout := (V.completion node).eq_resolve store t required (hpure t ht) node.body hresolves
      have hresolve : Completion.resolve ⟨V.registry, V.path, node.id⟩ store t required node.body =
          none := hout.symm
      simp [Node.resolved, ht, hresolve, Except.toOption]

/-- The same for all nodes of a query. -/
theorem MakesAll.resolved {nodes : List Node} {made : Except SnapshotError (List Node)}
    (hpure : ∀ node ∈ nodes, ∀ t, V.registry.type? node.typeName = some t →
      V.registry.PureFor t required)
    (h : V.MakesAll required nodes made) :
    (nodes.mapM (Node.resolved V.registry V.path store required)).map (·.map Node.unstamped) =
      made.toOption.map (·.map Node.unstamped) := by
  cases made with
  | ok snapshots =>
      induction h with
      | nil => rfl
      | @cons snapshot node snapshots nodes hmakes _ ih =>
          have hnode := hmakes.resolved store (hpure node (by simp))
          have hrest := ih fun other hother => hpure other (by simp [hother])
          obtain ⟨copy, hcopy, halike⟩ := Option.map_eq_some_iff.mp hnode
          obtain ⟨copies, hcopies, hmore⟩ := Option.map_eq_some_iff.mp hrest
          rw [List.mapM_cons, hcopy, hcopies]
          show some (copy.unstamped :: copies.map Node.unstamped) = _
          rw [halike, hmore]
          rfl
  | error e =>
      obtain ⟨node, hmem, hmakes⟩ := h
      have hnode := hmakes.resolved store (hpure node hmem)
      have hnone : node.resolved V.registry V.path store required = none :=
        Option.map_eq_none_iff.mp hnode
      have hmapM : nodes.mapM (Node.resolved V.registry V.path store required) = none :=
        mapM_eq_none hmem hnone
      rw [hmapM]
      rfl

end View

/-- A query that needs pure resolvers comes to its reference. -/
theorem Query.Comes.eq_reference {V : View} {q : Query} {store : NodeStore}
    {result : Except EngineError Answer}
    (hpure : q.Pure V.registry) (h : q.Comes V store result) :
    result.toOption.map Answer.unstamped =
      (q.reference V.registry V.path store).map Answer.unstamped := by
  unfold Comes at h
  unfold reference
  cases hcheck : Engine.check V.registry q with
  | error cause =>
      rw [hcheck] at h
      rw [show result.toOption = none from h]
  | ok p =>
      rw [hcheck] at h
      obtain ⟨made, hmade, hresult⟩ := h
      have hnodes : ∀ node ∈ store.ofType q.typeName, ∀ t,
          V.registry.type? node.typeName = some t → V.registry.PureFor t q.required := by
        intro node hnode t ht
        have htype : node.typeName = q.typeName := by
          simpa using (List.mem_filter.mp hnode).2
        exact hpure t (htype ▸ ht)
      have hresolved := hmade.resolved store hnodes
      rw [hresult]
      dsimp only
      cases hcopies : (store.ofType q.typeName).mapM
          (Node.resolved V.registry V.path store q.required) with
      | none =>
          rw [hcopies] at hresolved
          rw [Option.map_eq_none_iff.mp hresolved.symm]
      | some copies =>
          rw [hcopies] at hresolved
          obtain ⟨snapshots, hsnapshots, halike⟩ := Option.map_eq_some_iff.mp hresolved.symm
          rw [hsnapshots, Option.bind_some, Option.bind_some]
          exact q.select_alike p halike

/-! ## Sessions -/

namespace Session

/-- **The engine refines its reference.** In every session, a query that is finished returns what its
reference returns for the store as it was when the query was first polled, and an error exactly when
the reference fails, provided that the resolvers it needs depend on their requests alone and that the
version of a node says what the node is. -/
theorem returns_reference (registry : Registry) (config : Config) (path : Option String)
    (nodes : List Node) (events : List Event)
    (hversions : Versioned (nodes ++ Event.nodes events)) {i : Inquiry}
    (hi : i ∈ ((start registry config path nodes).run events).inquiries)
    {result : Except EngineError Answer} (hresult : i.call = .finished result)
    (hpure : i.query.Pure registry) :
    ∃ store, i.store = some store ∧
      result.toOption.map i.query.returns =
        (i.query.reference registry path store).map i.query.returns := by
  have hserves := serves_run registry config path nodes events (fun _ _ => True)
    (fun _ => True) hversions (fun _ hmem => hmem) (fun _ _ _ _ => trivial)
  obtain ⟨index, hindex⟩ := List.getElem?_of_mem hi
  have hcall := hserves.inquiries index i trivial hindex
  rw [hresult] at hcall
  obtain ⟨store, hstore, hcomes⟩ := hcall
  refine ⟨store, hstore, ?_⟩
  have heq := (hcomes trivial).eq_reference hpure
  have hmap : ∀ answer : Option Answer,
      answer.map i.query.returns = (answer.map Answer.unstamped).map i.query.returns := by
    intro answer
    rw [Option.map_map]
    congr 1
    funext answer
    exact (i.query.returns_unstamped answer).symm
  rw [hmap, heq, ← hmap]
  rfl

/-! ## A session with a resolver that pauses -/

/-- Posts with a shout, which takes a while. -/
def shoutRegistry : Registry where
  types := [{
    name := "Post"
    isNode := true
    fields := [
      ⟨"title", "String", .leaf (.scalar .string), none, []⟩,
      ⟨"shout", "String", .leaf (.scalar .string),
        some ⟨fun _ request => ⟨1, fun _ => .ok ((request.source.get? "title").getD .null)⟩⟩, []⟩] }]
  enums := []

/-- A post whose version is its title. -/
def titled (title : String) : Node where
  id := "post"
  typeName := "Post"
  digest := title
  body := [("id", .string "post"), ("title", .string title)]
  stamp := 0

def shouts : Query where
  typeName := "Post"
  projections := [.distinct "shout"]

/-- While the query waits, the post gets a new title. -/
def retitling : List Event :=
  [.ask shouts, .poll 0 .caller, .upsert (titled "new"), .poll 0 .caller]

/-- The store with the post, in one or the other version. -/
def postStore (title : String) (stamp : Nat) : NodeStore :=
  ⟨#[{ titled title with stamp }], (∅ : Std.HashMap String Nat).insert "post" 0, stamp + 1⟩

theorem ofList_titled (title : String) :
    NodeStore.ofList [titled title] = postStore title 0 := by
  simp [NodeStore.ofList, NodeStore.upsert, NodeStore.empty, titled, postStore]

/-- The session in which the query waits for the shout of the old title. -/
def waiting : Session :=
  ({ engine := .start shoutRegistry (postStore "old" 0) {} none } : Session).run
    [.ask shouts, .poll 0 .caller]

theorem run_retitling :
    (start shoutRegistry {} none [titled "old"]).run retitling =
      Session.step { waiting with
        engine := ({ waiting.engine with store := postStore "new" 1 } : Engine).handle
          (.nodeChanged "post" "new") } (.poll 0 .caller) := by
  have hstore : waiting.engine.store = postStore "old" 0 := by
    rw [waiting, run_ask_poll _ _ _ 0 rfl]
    exact Engine.store_poll ..
  have hupsert : waiting.engine.store.upsert (titled "new") = postStore "new" 1 := by
    rw [hstore]
    simp [NodeStore.upsert, titled, postStore]
  rw [← hupsert, start, ofList_titled]
  rfl

theorem shouts_pure : shouts.Pure shoutRegistry := by
  intro t ht
  obtain rfl := Option.some.inj ht
  have hrequired : shouts.required = [⟨"shout", []⟩] := by decide +kernel
  rw [hrequired, Registry.PureFor]
  refine ⟨fun field hfield => ?_, by rw [Registry.PureFor]; trivial⟩
  obtain rfl := Option.some.inj hfield
  refine ⟨?_, fun nested t' hnested => by cases hnested⟩
  rintro resolver ⟨⟩
  exact fun _ _ _ _ _ => rfl

/-- The query whose post is retitled while it waits is finished and returns the shout of the old title,
as its reference does for the store that it began with. -/
theorem returns_reference_retitling :
    ∃ i a store, i ∈ ((start shoutRegistry {} none [titled "old"]).run retitling).inquiries ∧
      i.query = shouts ∧ i.call = .finished (.ok a) ∧ shouts.returns a = .values [.string "old"] ∧
      i.store = some store ∧
      (shouts.reference shoutRegistry none store).map shouts.returns =
        some (.values [.string "old"]) := by
  have hfinished : ∃ i ∈ ((start shoutRegistry {} none [titled "old"]).run retitling).inquiries,
      i.query = shouts ∧ ∃ a, i.call = .finished (.ok a) ∧
        shouts.returns a = .values [.string "old"] := by
    rw [run_retitling]
    exact ⟨_, List.mem_cons_self, rfl, _, by with_unfolding_all rfl, by with_unfolding_all rfl⟩
  obtain ⟨i, hi, hquery, a, hcall, hreturns⟩ := hfinished
  have hversions : Versioned ([titled "old"] ++ Event.nodes retitling) := by
    intro n hn m hm hid hdigest
    simp only [retitling, Event.nodes, List.cons_append, List.nil_append, List.mem_cons,
      List.not_mem_nil, or_false] at hn hm
    rcases hn with rfl | rfl <;> rcases hm with rfl | rfl
    · rfl
    · simp [titled] at hdigest
    · simp [titled] at hdigest
    · rfl
  have hpure : i.query.Pure shoutRegistry := hquery ▸ shouts_pure
  obtain ⟨store, hstore, heq⟩ :=
    returns_reference shoutRegistry {} none [titled "old"] retitling hversions hi hcall hpure
  rw [hquery] at heq
  refine ⟨i, a, store, hi, hquery, hcall, hreturns, hstore, ?_⟩
  rw [← heq]
  exact congrArg some hreturns

end Session

end ContentQuery
