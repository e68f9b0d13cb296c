import ContentQuery.Proofs.Engine.Exchange
import ContentQuery.Proofs.Engine.Refinement
import ContentQuery.Proofs.Snapshot.Idle

/-!
# Queries that need no snapshots

If none of the fields that a query reads is computed by a resolver, the engine takes the nodes of
the store as they are. Snapshots would have been copies of these, made without calling anyone, so
the query returns what it would have returned for them (**`Exchange.skipping_sound`**). In a store an
id stands for one node; among other nodes, those with one id and one version share a snapshot, whatever
they are (**`Exchange.shared_by_version`**).
-/

namespace ContentQuery

/-! ## Copies -/

/-- Where the version of a node says what the node is, or nodes share no snapshots, each snapshot
shows its node. -/
theorem alike_of_copies {shared : Bool} {nodes snapshots : List Node}
    (hversions : shared = true → Versioned nodes)
    (h : List.Forall₂ (Node.Copies shared nodes) snapshots nodes) :
    List.Forall₂ Node.Alike snapshots nodes := by
  rw [List.forall₂_iff_get] at h ⊢
  obtain ⟨hlength, hcopies⟩ := h
  refine ⟨hlength, fun i hi hi' => ?_⟩
  obtain ⟨other, hmem, halike, rfl | ⟨hshared, hid, hdigest⟩⟩ := hcopies i hi hi'
  · exact halike
  · exact halike.trans (hversions hshared other hmem _ (List.get_mem ..) hid hdigest)

/-- In a store, an id stands for one node. -/
theorem NodeStore.Placed.versioned_ofType {s : NodeStore} (h : s.Placed) (typeName : String) :
    Versioned (s.ofType typeName) := by
  intro a ha b hb hid _
  obtain rfl := h.eq_of_mem (List.mem_of_mem_filter ha) (List.mem_of_mem_filter hb) hid
  rfl

/-! ## The longer way -/

namespace Engine

variable {e : Engine} {q : Query} {p : Predicate} {snapshots stored : List Node}

/-- Answers a query from snapshots of its nodes, whether or not one of the fields it reads needs a
resolver. No snapshots are cached when it begins. -/
def pollMaterializing (e : Engine) (waker : Waker) (q : Query) (p : Predicate) : Engine × Call :=
  let (materializer, request) :=
    e.materializer.clear.request q.typeName (e.store.ofType q.typeName) q.required
  { e with materializer }.pollWaiting waker q p q.required request

/-- A query that waited for snapshots is answered from them. -/
theorem pollWaiting_of_kept {m : Materializer} {waker : Waker} {request : SnapshotRequest}
    {nodes : List Node} (h : e.materializer.poll e.store waker request = (m, .kept (.ok nodes)))
    (q : Query) (p : Predicate) (fields : RequiredFields) :
    e.pollWaiting waker q p fields request =
      finish (({ e with materializer := m } : Engine).answer q p (some fields) nodes) := by
  simp only [pollWaiting, pollSnapshots, h]

/-- An answer fails only on account of the predicate. -/
theorem answer_error {fields : Option RequiredFields} {nodes : List Node} {cause : EngineError}
    (h : (e.answer q p fields nodes).2 = .error cause) :
    ∃ operator, p.unknown? = some operator ∧ cause = .unknownOperator ⟨operator⟩ := by
  unfold answer at h
  dsimp only at h
  split at h
  · cases h
  · rename_i unknown hrun
    unfold NodeSource.run at hrun
    split at hrun
    · rename_i operator hoperator
      obtain rfl := Except.error.inj hrun
      exact ⟨operator, hoperator, (Except.error.inj h).symm⟩
    · cases hrun

/-- The query is finished with what it selects from such nodes, or fails on account of its
predicate, and nobody was called for it. -/
structure Finishes (e : Engine) (q : Query) (p : Predicate) (nodes : List Node)
    (polled : Engine × Call) (result : Except EngineError Answer) : Prop where
  call : polled.2 = .finished result
  selects : result.toOption = q.select p nodes
  error : ∀ cause, result = .error cause →
    ∃ operator, p.unknown? = some operator ∧ cause = .unknownOperator ⟨operator⟩
  journal : polled.1.materializer.journal = e.materializer.journal

/-- Answering finishes a query. -/
theorem Sound.finishes_answer (h : e.Sound snapshots stored) (q : Query) (p : Predicate)
    (fields : Option RequiredFields) {nodes : List Node}
    (hnodes : ∀ node ∈ nodes, Stamped (logOf snapshots stored fields) node) :
    e.Finishes q p nodes (Engine.finish (e.answer q p fields nodes))
      (e.answer q p fields nodes).2 := by
  obtain ⟨-, -, hmaterializer, hcall⟩ :=
    finish_frame (e.answer q p fields nodes).1 (e.answer q p fields nodes).2
  have hframe := hmaterializer.trans (e.answer_frame q p fields nodes).2.2
  exact ⟨hcall, (h.answer q p fields hnodes).2, fun _ => answer_error, congrArg (·.journal) hframe⟩

/-- Without resolvers, the query selects from the nodes of the store. -/
theorem Sound.finishes_poll (h : e.Sound snapshots stored)
    (hcheck : check e.registry q = .ok p)
    (hneeds : e.materializer.needsResolution q.typeName q.required = .ok false) (waker : Waker) :
    ∃ result, e.Finishes q p (e.store.ofType q.typeName) (e.poll waker q .fresh) result := by
  have hnodes : ∀ node ∈ e.store.ofType q.typeName, Stamped (logOf snapshots stored none) node :=
    fun node hnode => h.store.nodes node (List.mem_of_mem_filter hnode)
  rw [poll_of_stored waker hcheck (prepare_of_needsResolution hneeds)]
  exact ⟨_, h.finishes_answer q p none hnodes⟩

/-- On the longer way, it selects from copies of these. -/
theorem Sound.finishes_pollMaterializing (h : e.Sound snapshots stored) (hplaced : e.store.Placed)
    (hneeds : e.materializer.needsResolution q.typeName q.required = .ok false) (waker : Waker)
    (p : Predicate) :
    ∃ copies result, List.Forall₂ Node.Alike copies (e.store.ofType q.typeName) ∧
      e.Finishes q p copies (e.pollMaterializing waker q p) result := by
  let cleared := e.materializer.clear
  obtain ⟨m, copies, hask, hjournal, hcopies⟩ :=
    cleared.ask_idle rfl rfl hneeds (e.store.ofType q.typeName) e.store waker
  have halike := alike_of_copies (fun _ => hplaced.versioned_ofType q.typeName) hcopies
  -- The copies are stamped as all snapshots are, so that their collection is brought up to date.
  have hcleared : cleared.Stamps snapshots := h.materializer.of_eq rfl rfl rfl
  obtain ⟨hrequest, hstamped⟩ :=
    hcleared.request q.typeName (e.store.ofType q.typeName) q.required
  obtain ⟨more, hpolled, hstate⟩ := hrequest.poll e.store waker hstamped
  have hpoll : (cleared.request q.typeName (e.store.ofType q.typeName) q.required).1.poll e.store
      waker (cleared.request q.typeName (e.store.ofType q.typeName) q.required).2 =
      (m, .kept (.ok copies)) := hask
  rw [hpoll] at hpolled hstate
  have hanswer := (h.append hpolled).finishes_answer q p (some q.required) hstate
  have hfinish : e.pollMaterializing waker q p =
      Engine.finish (({ e with materializer := m } : Engine).answer q p (some q.required) copies) :=
    pollWaiting_of_kept (e := { e with materializer := (cleared.request ..).1 }) hpoll ..
  rw [← hfinish] at hanswer
  exact ⟨copies, _, halike, hanswer.call, hanswer.selects, hanswer.error,
    hanswer.journal.trans hjournal⟩

/-- **What is selected from alike nodes** is returned alike, and failures are the same. -/
theorem Finishes.returns_eq {e' : Engine} {nodes copies : List Node}
    {polled polled' : Engine × Call} {result result' : Except EngineError Answer}
    (h : e.Finishes q p nodes polled result) (h' : e'.Finishes q p copies polled' result')
    (halike : List.Forall₂ Node.Alike copies nodes) :
    result.map q.returns = result'.map q.returns := by
  have hnodes : copies.map Node.unstamped = nodes.map Node.unstamped :=
    List.forall₂_eq_eq_eq ▸ List.forall₂_map_left_iff.mpr (List.forall₂_map_right_iff.mpr halike)
  have hselect := q.select_alike p hnodes
  rw [← h.selects, ← h'.selects] at hselect
  cases result with
  | error cause =>
      obtain ⟨operator, hoperator, rfl⟩ := h.error cause rfl
      cases result' with
      | error cause' =>
          obtain ⟨operator', hoperator', rfl⟩ := h'.error cause' rfl
          obtain rfl := Option.some.inj (hoperator.symm.trans hoperator')
          rfl
      | ok answer' => cases hselect
  | ok answer =>
      cases result' with
      | error cause' => cases hselect
      | ok answer' =>
          have hsame : answer'.unstamped = answer.unstamped := Option.some.inj hselect
          have hreturns : q.returns answer = q.returns answer' := by
            rw [← q.returns_unstamped answer, ← hsame, q.returns_unstamped]
          exact congrArg Except.ok hreturns

end Engine

namespace Exchange

/-- **Skipping snapshots shows nowhere.** Where required fields need no resolver, snapshots of any
nodes are made at once if none are cached, and nobody is called for them. In order, each shows its
node; only if versions do not say what nodes are, and nodes with one id and one version therefore
share a snapshot, it may show another of these. So, whatever happened before in an exchange, a query
that passes its check and needs no resolver returns what it would return on the longer way, over
snapshots. -/
theorem skipping_sound :
    (∀ (m : Materializer) (typeName : String) (fields : RequiredFields) (nodes : List Node)
        (store : NodeStore) (waker : Waker), m.nodeEntries = [] → m.batchEntries = [] →
      m.needsResolution typeName fields = .ok false →
        ∃ m' snapshots, m.ask store waker typeName nodes fields = (m', .kept (.ok snapshots)) ∧
          m'.journal = m.journal ∧
          List.Forall₂ (Node.Copies m.policy.nodes nodes) snapshots nodes ∧
          ((m.policy.nodes = true → Versioned nodes) → List.Forall₂ Node.Alike snapshots nodes)) ∧
    ∀ (registry : Registry) (config : Config) (path : Option String) (nodes : List Node)
        (events : List Event) (waker : Waker) (q : Query) (p : Predicate),
      Engine.check registry q = .ok p →
      registry.needsResolution q.typeName q.required = .ok false →
        let e := ((start registry config path nodes).run events).engine
        ∃ result result', (e.poll waker q .fresh).2 = .finished result ∧
          (e.pollMaterializing waker q p).2 = .finished result' ∧
          result.toOption = q.select p (e.store.ofType q.typeName) ∧
          result.map q.returns = result'.map q.returns ∧
          (e.poll waker q .fresh).1.materializer.journal = e.materializer.journal ∧
          (e.pollMaterializing waker q p).1.materializer.journal = e.materializer.journal := by
  refine ⟨fun m typeName fields nodes store waker hnodes hbatches hneeds => ?_, ?_⟩
  · obtain ⟨m', snapshots, hask, hjournal, hcopies⟩ :=
      m.ask_idle hnodes hbatches hneeds nodes store waker
    exact ⟨m', snapshots, hask, hjournal, hcopies,
      fun hversions => alike_of_copies hversions hcopies⟩
  · intro registry config path nodes events waker q p hcheck hneeds e
    obtain ⟨hregistry, hmaterializer, hplaced⟩ := frame_run registry config path nodes events
    obtain ⟨⟨snapshots, stored⟩, hsound, -⟩ := sound_run registry config path nodes events
    have hcheck' : Engine.check e.registry q = .ok p := hregistry.symm ▸ hcheck
    have hneeds' : e.materializer.needsResolution q.typeName q.required = .ok false := by
      rw [Materializer.needsResolution, hmaterializer, hneeds]
    obtain ⟨result, hskips⟩ := hsound.finishes_poll hcheck' hneeds' waker
    obtain ⟨copies, result', halike, hcopies⟩ :=
      hsound.finishes_pollMaterializing hplaced hneeds' waker p
    exact ⟨result, result', hskips.call, hcopies.call, hskips.selects,
      hskips.returns_eq hcopies halike, hskips.journal, hcopies.journal⟩

/-! ### Titles, which need no resolver -/

def titles : Query where
  typeName := "Post"
  projections := [.distinct "title"]

/-- Two versions of a post are copied, and the titles of the one in the store are the same either
way. -/
theorem skipping_sound_titles :
    let versions := [Session.titled "old", Session.titled "new"]
    let e := (start Session.shoutRegistry {} none [Session.titled "old"]).engine
    (∃ m' snapshots, e.materializer.ask e.store .caller "Post" versions titles.required =
        (m', .kept (.ok snapshots)) ∧ List.Forall₂ Node.Alike snapshots versions) ∧
    ∃ p result, (e.pollMaterializing .caller titles p).2 = .finished result ∧
      result.map titles.returns = .ok (.values [.string "old"]) := by
  intro versions e
  have hrequired : titles.required = [⟨"title", []⟩] := by decide +kernel
  have hneeds : Session.shoutRegistry.needsResolution "Post" titles.required = .ok false := by
    rw [hrequired]
    rfl
  have hversions : Versioned versions := by
    intro a ha b hb _ hdigest
    simp only [versions, List.mem_cons, List.not_mem_nil, or_false] at ha hb
    rcases ha with rfl | rfl <;> rcases hb with rfl | rfl
    · rfl
    · simp [Session.titled] at hdigest
    · simp [Session.titled] at hdigest
    · rfl
  obtain ⟨hcopies, hanswers⟩ := skipping_sound
  obtain ⟨m', snapshots, hask, -, -, halike⟩ :=
    hcopies e.materializer "Post" titles.required versions e.store .caller rfl rfl hneeds
  obtain ⟨p, hcheck⟩ : ∃ p, Engine.check Session.shoutRegistry titles = .ok p :=
    ⟨_, by with_unfolding_all rfl⟩
  obtain ⟨result, result', hcall, hcall', -, heq, -⟩ :=
    hanswers Session.shoutRegistry {} none [Session.titled "old"] [] .caller titles p hcheck hneeds
  refine ⟨⟨m', snapshots, hask, halike fun _ => hversions⟩, p, result', hcall', ?_⟩
  obtain ⟨answer, hanswer, hreturns⟩ : ∃ answer, (e.poll .caller titles .fresh).2 =
      .finished (.ok answer) ∧ titles.returns answer = .values [.string "old"] := by
    rw [show e = Engine.start _ (.ofList [Session.titled "old"]) _ _ from rfl,
      Session.ofList_titled]
    exact ⟨_, by with_unfolding_all rfl, by with_unfolding_all rfl⟩
  obtain rfl := Call.finished.inj (hcall.symm.trans hanswer)
  rw [← heq]
  exact congrArg Except.ok hreturns

/-- A post whose version does not tell its title. -/
def unversioned (title : String) : Node := { Session.titled title with digest := "1" }

/-- **Snapshots are shared by version.** Nothing is cached and titles need no resolver, and yet of two
posts with one id and one version both are shown with the title of the first: asked for in one request,
and also if the second comes after the first. -/
theorem shared_by_version :
    let m := (start Session.shoutRegistry {} none []).engine.materializer
    let old := unversioned "old"
    let new := unversioned "new"
    m.nodeEntries = [] ∧ m.batchEntries = [] ∧
      m.needsResolution "Post" titles.required = .ok false ∧ old.body ≠ new.body ∧
      (∃ m' snapshots, m.ask .empty .caller "Post" [old, new] titles.required =
          (m', .kept (.ok snapshots)) ∧
        snapshots.map (·.body) = [old.body, old.body] ∧
        ¬List.Forall₂ Node.Alike snapshots [old, new]) ∧
      ∃ m₁ m₂ first second,
        m.ask .empty .caller "Post" [old] titles.required = (m₁, .kept (.ok first)) ∧
        m₁.ask .empty .caller "Post" [new] titles.required = (m₂, .kept (.ok second)) ∧
        second.map (·.body) = [old.body] := by
  intro m old new
  have hrequired : titles.required = [⟨"title", []⟩] := by decide +kernel
  have hdiffer : old.body ≠ new.body := by simp [old, new, unversioned, Session.titled]
  have hboth : ∃ m' snapshots, m.ask .empty .caller "Post" [old, new] titles.required =
      (m', .kept (.ok snapshots)) ∧ snapshots.map (·.body) = [old.body, old.body] :=
    ⟨_, _, by with_unfolding_all rfl, by with_unfolding_all rfl⟩
  have hturns : ∃ m₁ m₂ first second,
      m.ask .empty .caller "Post" [old] titles.required = (m₁, .kept (.ok first)) ∧
      m₁.ask .empty .caller "Post" [new] titles.required = (m₂, .kept (.ok second)) ∧
      second.map (·.body) = [old.body] :=
    ⟨_, _, _, _, by with_unfolding_all rfl, by with_unfolding_all rfl, by with_unfolding_all rfl⟩
  obtain ⟨m', snapshots, hask, hbodies⟩ := hboth
  refine ⟨rfl, rfl, hrequired ▸ rfl, hdiffer, ⟨m', snapshots, hask, hbodies, fun halike => ?_⟩, hturns⟩
  have hnew : snapshots.map (·.body) = [old, new].map (·.body) :=
    List.forall₂_eq_eq_eq ▸ List.forall₂_map_left_iff.mpr (List.forall₂_map_right_iff.mpr
      (halike.imp fun _ _ hnode => hnode.body))
  rw [hbodies] at hnew
  exact hdiffer (List.cons.inj (List.cons.inj hnew).2).1

end Exchange

end ContentQuery
