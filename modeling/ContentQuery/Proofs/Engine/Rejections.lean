import ContentQuery.Proofs.Engine.Validation
import ContentQuery.Proofs.Engine.Skipping
import ContentQuery.Proofs.Filter.Unknown
import ContentQuery.Proofs.Index.Usage

/-!
# Queries that fail

A query may fail at its check, at the resolvers of the fields it reads, or when it runs. Only when its
nodes are there are its paths counted and its collection brought up to date, so a query that failed
before has left these as they were. What fails later is a predicate with an operator that nobody knows:
it was compiled, so it was counted like any other, and then it is refused.

Main results:

* **`Engine.polled_poll`**: all that a poll of a query comes to.
* **`Exchange.failed_leaves_indexing`**: a query that fails leaves counts and collections alone, unless
  it fails on an unknown operator.
* **`Exchange.known_of_answered`**: a filter with an unknown operator is never answered.
-/

namespace ContentQuery

namespace Engine

/-! ## What a poll of a query comes to -/

/-- What decides which indexes there are: the counts of uses, and the collections. -/
def indexing (e : Engine) : Usage × List (CollectionKey × NodeCollection) :=
  (e.usage, e.collections)

end Engine

/-- The fields of the snapshots that a query runs over, none if it runs over nodes of the store. -/
def Query.runsOver (r : Registry) (q : Query) : Option RequiredFields :=
  match r.needsResolution q.typeName q.required with
  | .ok true => some q.required
  | _ => none

/-- The fields of the snapshots that were asked for, if they were. -/
def Engine.Prepared.fields? : Engine.Prepared → Option RequiredFields
  | .stored _ => none
  | .snapshots fields _ => some fields

/-- The predicate that a query under way goes on with, and the fields of the snapshots that it runs
over, if it does. -/
def Call.Compiled (e : Engine) (q : Query) (p : Predicate) (fields : Option RequiredFields) :
    Call → Prop
  | .fresh => Engine.check e.registry q = .ok p ∧ q.runsOver e.materializer.registry = fields
  | .waiting p' fields' _ => p' = p ∧ some fields' = fields
  | .finished _ => False

namespace Engine

variable {e : Engine} {q : Query} {p : Predicate}

/-- What a poll of a query comes to. Counts and collections are touched by an answer only. -/
inductive Polled (e : Engine) (q : Query) (call : Call) : Engine × Call → Prop
  | still {result : Except EngineError Answer} :
      call = .finished result → Polled e q call (e, call)
  | waits {e' : Engine} {p : Predicate} {fields : RequiredFields} {request : SnapshotRequest} :
      call.Compiled e q p (some fields) → e'.indexing = e.indexing →
      Polled e q call (e', .waiting p fields request)
  | refused {e' : Engine} {cause : EngineError} :
      e'.indexing = e.indexing → cause.code ≠ "NQ_MALFORMED_QUERY" →
      Polled e q call (e', .finished (.error cause))
  | answers {e' : Engine} {p : Predicate} {fields : Option RequiredFields} {nodes : List Node} :
      call.Compiled e q p fields → e'.indexing = e.indexing →
      Polled e q call (finish (e'.answer q p fields nodes))

/-- No snapshots are asked for where nothing is required. -/
theorem runsOver_of_isEmpty (r : Registry) (h : q.required.isEmpty) : q.runsOver r = none := by
  rw [Query.runsOver, List.isEmpty_iff.mp h, Registry.needsResolution]
  cases r.type? q.typeName with
  | none => rfl
  | some t =>
      dsimp only
      rw [Registry.needsResolver]

/-- What a query is prepared for is what it runs over. -/
theorem runsOver_of_prepare {e' : Engine} {prepared : Prepared}
    (h : e.prepare q = .ok (e', prepared)) :
    q.runsOver e.materializer.registry = prepared.fields? := by
  unfold prepare at h
  dsimp only at h
  split at h
  · rename_i hnothing
    cases h
    exact runsOver_of_isEmpty _ hnothing
  · cases hneeds : e.materializer.needsResolution q.typeName q.required with
    | error cause =>
        rw [hneeds] at h
        cases h
    | ok needs =>
        rw [hneeds] at h
        rw [Query.runsOver, ← Materializer.needsResolution, hneeds]
        cases needs with
        | false | true =>
            cases h
            rfl

theorem polled_finish_error {e' : Engine} {call : Call} {cause : EngineError}
    (hindexing : e'.indexing = e.indexing) (hcode : cause.code ≠ "NQ_MALFORMED_QUERY") :
    e.Polled q call (finish (e', .error cause)) := .refused hindexing hcode

theorem code_rejected_ne (cause : Rejection) :
    (EngineError.rejected cause).code ≠ "NQ_MALFORMED_QUERY" := by
  cases cause <;> simp [EngineError.code, Rejection.code]

theorem code_snapshot_ne (cause : SnapshotError) :
    (EngineError.snapshot cause).code ≠ "NQ_MALFORMED_QUERY" := by
  cases cause <;> simp [EngineError.code, SnapshotError.code]

theorem polled_pollWaiting {e' : Engine} {call : Call} {fields : RequiredFields}
    (hcompiled : call.Compiled e q p (some fields)) (hindexing : e'.indexing = e.indexing)
    (waker : Waker) (request : SnapshotRequest) :
    e.Polled q call (e'.pollWaiting waker q p fields request) := by
  unfold pollWaiting pollSnapshots
  rcases e'.materializer.poll e'.store waker request with ⟨m, request' | cause | nodes⟩
  · exact .waits hcompiled hindexing
  · exact .refused hindexing (code_snapshot_ne cause)
  · exact .answers hcompiled hindexing

/-- **A poll of a query** finds it finished, lets it wait, refuses it, or answers it. -/
theorem polled_poll (e : Engine) (waker : Waker) (q : Query) (call : Call) :
    e.Polled q call (e.poll waker q call) := by
  cases call with
  | finished result => exact .still rfl
  | waiting p fields request =>
      have hcompiled : (Call.waiting p fields request).Compiled e q p (some fields) := ⟨rfl, rfl⟩
      exact polled_pollWaiting hcompiled rfl waker request
  | fresh =>
      cases hcheck : check e.registry q with
      | error cause =>
          rw [poll_of_check_error waker hcheck]
          exact polled_finish_error rfl (code_rejected_ne cause)
      | ok p =>
          rcases e.prepare_cases q with
            ⟨cause, -, hprepare⟩ | hprepare | ⟨m, request, -, hprepare⟩
          · rw [poll_of_prepare_error waker hcheck hprepare]
            exact polled_finish_error rfl (code_snapshot_ne cause)
          · rw [poll_of_stored waker hcheck hprepare]
            exact .answers ⟨hcheck, runsOver_of_prepare hprepare⟩ rfl
          · rw [poll_of_snapshots waker hcheck hprepare]
            have hcompiled : Call.fresh.Compiled e q p (some q.required) :=
              ⟨hcheck, runsOver_of_prepare hprepare⟩
            have hindexing : ({ e with materializer := m } : Engine).indexing = e.indexing := rfl
            exact polled_pollWaiting hcompiled hindexing waker request

/-! ## What an answer does to counts and collections -/

/-- Collections are filed under the type of their nodes. -/
def Filed (e : Engine) : Prop := ∀ key c, (key, c) ∈ e.collections → c.typeName = key.1

theorem Filed.collection (h : e.Filed) (key : CollectionKey) :
    (e.collection key).typeName = key.1 := by
  unfold Engine.collection
  cases hlookup : e.collections.lookup key with
  | none => rfl
  | some c =>
      obtain ⟨before, after, hentries, -⟩ := List.lookup_eq_some_iff.mp hlookup
      exact h key c (by simp [hentries])

/-- The collection that a query runs over, with the nodes it is to hold. -/
def collectionOver (e : Engine) (q : Query) (fields : Option RequiredFields) (nodes : List Node) :
    NodeCollection := ((e.collection (q.typeName, fields)).sync nodes).1

/-- Counts and the collection of a query, once its predicate and its sort are taken note of. -/
def indexed (e : Engine) (q : Query) (p : Predicate) (fields : Option RequiredFields)
    (nodes : List Node) : Usage × NodeCollection :=
  let (usage, c, _) := e.usage.record (e.collectionOver q fields nodes) p
  usage.indexSort c (q.args.sort.getD [])

theorem indexing_answer (e : Engine) (q : Query) (p : Predicate) (fields : Option RequiredFields)
    (nodes : List Node) :
    (e.answer q p fields nodes).1.indexing =
      ((e.indexed q p fields nodes).1,
        keep (q.typeName, fields) (e.indexed q p fields nodes).2 e.collections) := by
  unfold answer
  dsimp only
  split <;> rfl

theorem indexing_finish (answered : Engine × Except EngineError Answer) :
    (finish answered).1.indexing = answered.1.indexing := by
  obtain ⟨e, result⟩ := answered
  cases result <;> rfl

theorem lookup_keep_of_ne {key other : CollectionKey} (h : other ≠ key) (c : NodeCollection)
    (collections : List (CollectionKey × NodeCollection)) :
    (keep key c collections).lookup other = collections.lookup other := by
  induction collections with
  | nil => simp [keep, List.lookup_cons, beq_false_of_ne h]
  | cons first rest ih =>
      obtain ⟨k, old⟩ := first
      rw [keep]
      split
      · rename_i heq
        rw [List.lookup_cons, List.lookup_cons, heq, beq_false_of_ne h]
      · rw [List.lookup_cons, List.lookup_cons, ih]

theorem Filed.keep {collections : List (CollectionKey × NodeCollection)} {key : CollectionKey}
    {c : NodeCollection}
    (h : ∀ key c, (key, c) ∈ collections → c.typeName = key.1) (hc : c.typeName = key.1) :
    ∀ key' c', (key', c') ∈ Engine.keep key c collections → c'.typeName = key'.1 := by
  intro key' c' hmem
  rcases mem_keep hmem with hmem | heq
  · exact h key' c' hmem
  · obtain ⟨rfl, rfl⟩ := Prod.mk.inj heq
    exact hc

theorem Filed.typeName_indexed (h : e.Filed) (q : Query) (p : Predicate)
    (fields : Option RequiredFields) (nodes : List Node) :
    (e.collectionOver q fields nodes).typeName = q.typeName ∧
      (e.indexed q p fields nodes).2.typeName = q.typeName := by
  have hover : (e.collectionOver q fields nodes).typeName = q.typeName :=
    (NodeCollection.typeName_sync nodes).trans (h.collection _)
  refine ⟨hover, ?_⟩
  simp only [indexed, Usage.collection_indexSort, Usage.collection_record,
    NodeCollection.typeName_ensureEach, hover]

/-- An answer is one use more of each path of the predicate. -/
theorem Filed.count_indexed (h : e.Filed) (q : Query) (p : Predicate)
    (fields : Option RequiredFields) (nodes : List Node) (typeName path : String) :
    (e.indexed q p fields nodes).1.count typeName path =
      e.usage.count typeName path + if typeName = q.typeName ∧ path ∈ p.paths then 1 else 0 := by
  rw [indexed, Usage.count_indexSort, Usage.count_record, (h.typeName_indexed q p fields nodes).1]

theorem Filed.of_indexing {e' : Engine} (h : e.Filed) (hindexing : e'.indexing = e.indexing) :
    e'.Filed := by
  obtain ⟨-, hcollections⟩ := Prod.mk.inj hindexing
  intro key c hmem
  exact h key c (hcollections ▸ hmem)

theorem Filed.finish_answer (h : e.Filed) (q : Query) (p : Predicate)
    (fields : Option RequiredFields) (nodes : List Node) :
    (finish (e.answer q p fields nodes)).1.Filed := by
  have hindexing := (indexing_finish (e.answer q p fields nodes)).trans
    (e.indexing_answer q p fields nodes)
  obtain ⟨-, hcollections⟩ := Prod.mk.inj hindexing
  unfold Filed
  rw [hcollections]
  exact Filed.keep h (h.typeName_indexed q p fields nodes).2

theorem Filed.poll (h : e.Filed) (waker : Waker) (q : Query) (call : Call) :
    (e.poll waker q call).1.Filed := by
  have hpolled := e.polled_poll waker q call
  generalize e.poll waker q call = polled at hpolled ⊢
  cases hpolled with
  | still _ => exact h
  | waits _ hindexing => exact h.of_indexing hindexing
  | refused hindexing _ => exact h.of_indexing hindexing
  | answers _ hindexing => exact (h.of_indexing hindexing).finish_answer q _ _ _

/-- With an operator nobody knows there is no answer. -/
theorem answer_of_unknown? {operator : String} (h : p.unknown? = some operator) (e : Engine)
    (q : Query) (fields : Option RequiredFields) (nodes : List Node) :
    (e.answer q p fields nodes).2 = .error (.unknownOperator ⟨operator⟩) := by
  unfold answer
  simp only [NodeSource.run_eq_error _ p q.args.sort q.firstOnly h]

/-- What an answer does to counts and collections: each path of the predicate is used once more, and
the one collection that the query runs over is brought up to date. -/
structure Counted (e e' : Engine) (q : Query) (p : Predicate) : Prop where
  counts : ∀ typeName path, e'.usage.count typeName path =
    e.usage.count typeName path + if typeName = q.typeName ∧ path ∈ p.paths then 1 else 0
  others : ∀ key, key ≠ (q.typeName, q.runsOver e.registry) →
    e'.collections.lookup key = e.collections.lookup key

theorem Filed.counted {e' : Engine} {fields : Option RequiredFields} (h : e.Filed)
    (hindexing : e'.indexing = e.indexing) (hfields : q.runsOver e.registry = fields)
    (p : Predicate) (nodes : List Node) :
    e.Counted (finish (e'.answer q p fields nodes)).1 q p := by
  obtain ⟨hbefore, hbeforeCollections⟩ := Prod.mk.inj hindexing
  obtain ⟨husage, hcollections⟩ := Prod.mk.inj
    ((indexing_finish _).trans (e'.indexing_answer q p fields nodes))
  refine ⟨fun typeName path => ?_, fun key hkey => ?_⟩
  · rw [husage, (h.of_indexing hindexing).count_indexed, hbefore]
  · rw [hfields] at hkey
    rw [hcollections, lookup_keep_of_ne hkey, hbeforeCollections]

end Engine

/-! ## Demands that passed their check -/

/-- A query that waits passed its check and waits for what it runs over, and one that was answered has
no unknown operator. -/
def Demand.Checked (r : Registry) : Demand → Prop
  | .answer q (.waiting p fields _) => Engine.check r q = .ok p ∧ q.runsOver r = some fields
  | .answer q (.finished (.ok _)) => ∃ p, Engine.check r q = .ok p ∧ p.unknown? = none
  | _ => True

namespace Demand

variable {r : Registry} {e : Engine} {q : Query} {call : Call} {p : Predicate}

theorem Checked.compiled {fields : Option RequiredFields}
    (h : (Demand.answer q call).Checked e.registry)
    (hregistry : e.materializer.registry = e.registry) (hcompiled : call.Compiled e q p fields) :
    Engine.check e.registry q = .ok p ∧ q.runsOver e.registry = fields := by
  cases call with
  | fresh =>
      obtain ⟨hcheck, hfields⟩ := hcompiled
      exact ⟨hcheck, hregistry ▸ hfields⟩
  | waiting p' fields' request =>
      obtain ⟨rfl, rfl⟩ := hcompiled
      exact h
  | finished result => exact hcompiled.elim

theorem Checked.poll (h : (Demand.answer q call).Checked e.registry)
    (hregistry : e.materializer.registry = e.registry) (waker : Waker) :
    (Demand.answer q (e.poll waker q call).2).Checked e.registry := by
  have hpolled := e.polled_poll waker q call
  generalize e.poll waker q call = polled at hpolled ⊢
  cases hpolled with
  | still _ => exact h
  | waits hcompiled _ => exact h.compiled hregistry hcompiled
  | refused _ _ => trivial
  | @answers e' p fields nodes hcompiled _ =>
      rw [Engine.finish_call]
      cases hresult : (e'.answer q p fields nodes).2 with
      | error cause => trivial
      | ok a =>
          refine ⟨p, (h.compiled hregistry hcompiled).1, ?_⟩
          cases hunknown : p.unknown? with
          | none => rfl
          | some operator =>
              rw [Engine.answer_of_unknown? hunknown] at hresult
              cases hresult

end Demand

namespace Exchange

/-- The engine and its maker of snapshots have this registry, and collections are filed under their
types. -/
structure Tidy (r : Registry) (e : Engine) : Prop where
  registry : e.registry = r
  materializer : e.materializer.registry = r
  filed : e.Filed

/-- The engine is tidy, and what was asked of it was checked. -/
abbrev Ordered (r : Registry) (x : Exchange) : Prop :=
  x.Holds (G := Unit) (fun _ => Tidy r) fun _ => Demand.Checked r

theorem kept_ordered (r : Registry) : Kept (G := Unit) (fun _ => True) (fun _ => Tidy r)
    fun _ => Demand.Checked r where
  ask _ _ _ := trivial
  askNodes _ _ _ := trivial
  poll := by
    rintro g e d ⟨rfl, hmaterializer, hfiled⟩ hd waker
    obtain ⟨hregistry, -, hturn⟩ := d.poll_turn e waker
    refine ⟨g, ⟨hregistry, hturn.registry.trans hmaterializer, ?_⟩, ?_, fun _ h => h⟩
    · cases d with
      | answer q call => exact hfiled.poll waker q call
      | nodes q call =>
          show (e.pollNodes waker q call).1.Filed
          rw [e.pollNodes_fst waker q call]
          exact hfiled
    · cases d with
      | answer q call => exact hd.poll hmaterializer waker
      | nodes q call => trivial
  upsert he node _ := .self ⟨he.registry, he.materializer, he.filed⟩
  remove he id := .self ⟨he.registry, he.materializer, he.filed⟩
  signal := by
    intro g e he signal
    obtain ⟨hregistry, -, hdrops⟩ := e.drops_handle signal
    refine .self ⟨hregistry.trans he.registry, hdrops.registry.trans he.materializer, ?_⟩
    cases signal with
    | cacheCleared => exact fun _ _ hmem => (List.not_mem_nil hmem).elim
    | bootstrapFinished | nodeChanged id version => exact he.filed
  agenda he agenda := .self ⟨he.registry, he.materializer, he.filed⟩

theorem ordered_run (registry : Registry) (config : Config) (path : Option String)
    (nodes : List Node) (events : List Event) :
    ((start registry config path nodes).run events).Ordered registry := by
  have hstart : (start registry config path nodes).Ordered registry :=
    ⟨(), ⟨rfl, rfl, fun _ _ hmem => (List.not_mem_nil hmem).elim⟩,
      fun _ hmem => (List.not_mem_nil hmem).elim⟩
  exact hstart.run (kept_ordered registry) fun _ _ => trivial

/-! ## Operators nobody knows -/

/-- What was answered had a filter with known operators only. -/
theorem known_of_answered {registry : Registry} {config : Config} {path : Option String}
    {nodes : List Node} {events : List Event} {q : Query} {a : Answer}
    (h : .answer q (.finished (.ok a)) ∈ ((start registry config path nodes).run events).demands) :
    ∀ name ∈ Filter.operatorNames (q.args.filter.getD []), name ∈ Operator.names := by
  obtain ⟨_, -, hdemands⟩ := ordered_run registry config path nodes events
  obtain ⟨p, hcheck, hunknown⟩ := hdemands _ h
  obtain ⟨hcompile, -, -⟩ := Query.of_check hcheck
  rw [Predicate.unknown?_eq_none_iff, Filter.unknowns_eq_nil_of_compile hcompile] at hunknown
  exact Filter.unknowns_eq_nil_iff.mp hunknown

/-- **Operators nobody knows are never evaluated.** With one anywhere in it, a filter does not compile,
or every run of its predicate over whatever nodes and indexes fails on such an operator of the filter;
and no query with such a filter is ever answered. Without one, the predicate of a filter has none at
any depth, every run of it succeeds, and evaluation never needs its fallback. -/
theorem unknown_never_evaluated (r : Registry) (typeName : String) (filter : Filter) :
    ((∃ name ∈ filter.operatorNames, name ∉ Operator.names) →
      (∃ cause, Filter.compile r typeName filter = .error cause) ∨
      ∃ p operator, Filter.compile r typeName filter = .ok p ∧ p.unknown? = some operator ∧
        operator ∈ filter.operatorNames ∧ operator ∉ Operator.names ∧
        ∀ (source : NodeSource) sort firstOnly,
          ∃ e, source.run p sort firstOnly = .error e ∧ e.operator = operator ∧
            e.code = "NQ_MALFORMED_QUERY") ∧
    (∀ p, Filter.compile r typeName filter = .ok p →
      (∀ name ∈ filter.operatorNames, name ∈ Operator.names) →
        (∀ test ∈ p.allTests, test.unknown? = none) ∧
        (∀ (source : NodeSource) sort firstOnly, ∃ run, source.run p sort firstOnly = .ok run) ∧
        ∀ body, p.evaluate? body = some (p.holds body)) ∧
    ∀ config path nodes events (q : Query) a,
      .answer q (.finished (.ok a)) ∈ ((start r config path nodes).run events).demands →
        ∀ name ∈ Filter.operatorNames (q.args.filter.getD []), name ∈ Operator.names := by
  refine ⟨?_, ?_, fun config path nodes events q a => known_of_answered⟩
  · rintro ⟨name, hname, hunknown⟩
    cases hcompile : Filter.compile r typeName filter with
    | error cause => exact .inl ⟨cause, rfl⟩
    | ok p =>
        have hunknowns := Filter.compile_unknowns hcompile
        cases hfirst : p.unknown? with
        | none =>
            rw [Predicate.unknown?_eq_none_iff] at hfirst
            rw [hfirst] at hunknowns
            have hmem := Filter.mem_unknowns.mpr ⟨hname, hunknown⟩
            exact absurd (hunknowns.mem_iff.mpr hmem) List.not_mem_nil
        | some operator =>
            obtain ⟨hmem, hnot⟩ := Filter.mem_unknowns.mp
              (hunknowns.mem_iff.mp (Predicate.mem_unknowns_of_unknown? hfirst))
            exact .inr ⟨p, operator, rfl, hfirst, hmem, hnot, fun source sort firstOnly =>
              ⟨⟨operator⟩, source.run_eq_error p sort firstOnly hfirst, rfl, rfl⟩⟩
  · intro p hcompile hknown
    have hnone : p.unknowns = [] :=
      (Filter.unknowns_eq_nil_of_compile hcompile).mpr (Filter.unknowns_eq_nil_iff.mpr hknown)
    exact ⟨Predicate.unknowns_eq_nil_iff.mp hnone,
      fun source sort firstOnly =>
        source.exists_run_eq_ok p sort firstOnly (Predicate.unknown?_eq_none_iff.mpr hnone),
      Predicate.evaluate?_eq_some hnone⟩

/-- Marks near seven, in some section. -/
def nearMarks : Filter :=
  [.field "sections" [.elemMatch [.field "marks" [.operator "near" (.ofNat 7)]]]]

/-- The operator stands inside an element filter, and every run is refused for it. -/
theorem unknown_never_evaluated_near :
    ∃ p, Filter.compile Filter.articleTypes "Article" nearMarks = .ok p ∧
      p.unknown? = some "near" ∧
      ∀ (source : NodeSource) sort firstOnly, ∃ e, source.run p sort firstOnly = .error e ∧
        e.operator = "near" ∧ e.code = "NQ_MALFORMED_QUERY" := by
  have hnames : Filter.operatorNames nearMarks = ["near"] := by decide +kernel
  have hcompile : Filter.compile Filter.articleTypes "Article" nearMarks =
      .ok [.elements "sections" [.tests "marks" [.unknown "near" (.ofNat 7)]]] := by
    simp only [Filter.compile, Filter.compileObject, Filter.compileField, nearMarks]
    rfl
  have hunknown : ∃ name ∈ Filter.operatorNames nearMarks, name ∉ Operator.names :=
    ⟨"near", by simp [hnames], by decide⟩
  rcases (unknown_never_evaluated Filter.articleTypes "Article" nearMarks).1 hunknown with
    ⟨cause, herror⟩ | ⟨p, operator, hok, hfirst, hmem, -, hruns⟩
  · rw [hcompile] at herror
    cases herror
  · obtain rfl : operator = "near" := by simpa [hnames] using hmem
    exact ⟨p, hok, hfirst, hruns⟩

/-! ## One query among others -/

namespace Event

/-- The event is a poll of a demand. -/
def Polls (i : Nat) : Event → Prop
  | .poll j _ => j = i
  | _ => False

/-- The event neither polls another demand nor makes the engine forget. -/
def Undisturbed (i : Nat) : Event → Prop
  | .poll j _ => j = i
  | .signal .cacheCleared => False
  | _ => True

end Event

/-- Each poll of a demand leaves counts and collections as they are. -/
def Idle (i : Nat) : Exchange → List Event → Prop
  | _, [] => True
  | x, event :: rest =>
    (event.Polls i → (x.step event).engine.indexing = x.engine.indexing) ∧ Idle i (x.step event) rest

variable {x : Exchange} {i : Nat} {q : Query} {call : Call} {events : List Event}

theorem Idle.indexing (h : x.Idle i events) (hevents : ∀ event ∈ events, event.Undisturbed i) :
    (x.run events).engine.indexing = x.engine.indexing := by
  induction events generalizing x with
  | nil => rfl
  | cons event rest ih =>
      obtain ⟨hpoll, hrest⟩ := h
      have hevent : (x.step event).engine.indexing = x.engine.indexing := by
        have hundisturbed := hevents event List.mem_cons_self
        cases event with
        | poll j waker => exact hpoll hundisturbed
        | signal signal =>
            cases signal with
            | cacheCleared => exact hundisturbed.elim
            | bootstrapFinished | nodeChanged id version => rfl
        | _ => rfl
      exact (ih hrest fun e he => hevents e (List.mem_cons_of_mem _ he)).trans hevent

/-- A demand stays where it is, and goes on only when it is polled. -/
theorem demand_step {d : Demand} (h : x.demands[i]? = some d) (event : Event) :
    (∃ waker, event = .poll i waker ∧ (x.step event).engine = (d.poll x.engine waker).1 ∧
      (x.step event).demands[i]? = some (d.poll x.engine waker).2) ∨
    ¬event.Polls i ∧ (x.step event).demands[i]? = some d := by
  have hlt : i < x.demands.length := (List.getElem?_eq_some_iff.mp h).1
  cases event with
  | poll j waker =>
      by_cases hj : j = i
      · subst hj
        simp only [step, h]
        exact .inl ⟨waker, rfl, rfl, List.getElem?_set_self hlt⟩
      · refine .inr ⟨hj, ?_⟩
        rw [step]
        split
        · exact h
        · simpa [hj] using h
  | ask q | askNodes q =>
      refine .inr ⟨id, ?_⟩
      rw [step, List.getElem?_append_left hlt]
      exact h
  | _ => exact .inr ⟨id, h⟩

/-- A demand for an answer stays one for the answer to its query. -/
theorem answer_run (h : x.demands[i]? = some (.answer q call)) (events : List Event) :
    ∃ call', (x.run events).demands[i]? = some (.answer q call') := by
  induction events generalizing x call with
  | nil => exact ⟨call, h⟩
  | cons event rest ih =>
      rcases demand_step h event with ⟨waker, -, -, hpolled⟩ | ⟨-, hsame⟩
      · exact ih hpolled
      · exact ih hsame

/-- A finished query stays finished, and its polls do nothing. -/
theorem finished_run {result : Except EngineError Answer}
    (h : x.demands[i]? = some (.answer q (.finished result))) (events : List Event) :
    (x.run events).demands[i]? = some (.answer q (.finished result)) ∧ x.Idle i events := by
  induction events generalizing x with
  | nil => exact ⟨h, trivial⟩
  | cons event rest ih =>
      rcases demand_step h event with ⟨waker, rfl, hengine, hdemand⟩ | ⟨hother, hdemand⟩
      · obtain ⟨hrest, hidle⟩ := ih hdemand
        exact ⟨hrest, fun _ => congrArg Engine.indexing hengine, hidle⟩
      · obtain ⟨hrest, hidle⟩ := ih hdemand
        exact ⟨hrest, fun hpolls => absurd hpolls hother, hidle⟩

/-- Of all polls of a query, one counts its predicate. -/
structure CountedOnce (x : Exchange) (i : Nat) (events : List Event) (q : Query) (p : Predicate) :
    Prop where
  compiled : Engine.check x.engine.registry q = .ok p
  polls : ∃ before waker after, events = before ++ .poll i waker :: after ∧ x.Idle i before ∧
    (x.run before).engine.Counted (x.run (before ++ [.poll i waker])).engine q p ∧
    (x.run (before ++ [.poll i waker])).Idle i after

/-- How the counts and collections fared when a query failed. -/
inductive Failed (x : Exchange) (i : Nat) (events : List Event) (q : Query) : EngineError → Prop
  | early {cause : EngineError} :
      cause.code ≠ "NQ_MALFORMED_QUERY" → x.Idle i events → Failed x i events q cause
  | late {p : Predicate} {operator : String} :
      p.unknown? = some operator → x.CountedOnce i events q p →
      Failed x i events q (.unknownOperator ⟨operator⟩)

/-- A poll that touches nothing leaves it to the rest of the run. -/
theorem Failed.cons {event : Event} {cause : EngineError}
    (h : (x.step event).Failed i events q cause)
    (hregistry : (x.step event).engine.registry = x.engine.registry)
    (hevent : event.Polls i → (x.step event).engine.indexing = x.engine.indexing) :
    x.Failed i (event :: events) q cause := by
  cases h with
  | early hcode hidle => exact .early hcode ⟨hevent, hidle⟩
  | late hunknown hcounted =>
      obtain ⟨hcompiled, before, waker, after, rfl, hbefore, hcount, hafter⟩ := hcounted
      exact .late hunknown ⟨hregistry ▸ hcompiled, event :: before, waker, after, rfl,
        ⟨hevent, hbefore⟩, hcount, hafter⟩

theorem failed_of_error {r : Registry} (hx : x.Ordered r)
    (hdemand : x.demands[i]? = some (.answer q call)) (hcall : ∀ result, call ≠ .finished result)
    {cause : EngineError}
    (h : (x.run events).demands[i]? = some (.answer q (.finished (.error cause)))) :
    x.Failed i events q cause := by
  induction events generalizing x call with
  | nil =>
      cases hdemand.symm.trans h
      exact absurd rfl (hcall _)
  | cons event rest ih =>
      have hnext : (x.step event).Ordered r := hx.step (kept_ordered r) trivial
      obtain ⟨_, ⟨rfl, hmaterializer, hfiled⟩, hdemands⟩ := hx
      obtain ⟨_, ⟨hregistry, -, -⟩, -⟩ := id hnext
      rcases demand_step hdemand event with ⟨waker, rfl, hengine, hpolled⟩ | ⟨hother, hsame⟩
      · -- The poll finished the query with the error that it still has at the end of the run.
        have hfinished : ∀ result, (x.step (.poll i waker)).demands[i]? =
            some (.answer q (.finished result)) →
            result = .error cause ∧ (x.step (.poll i waker)).Idle i rest := by
          intro result hresult
          obtain ⟨hend, hidle⟩ := finished_run hresult rest
          cases hend.symm.trans h
          exact ⟨rfl, hidle⟩
        have hpoll := x.engine.polled_poll waker q call
        simp only [Demand.poll] at hengine hpolled
        generalize x.engine.poll waker q call = polled at hpoll hengine hpolled
        cases hpoll with
        | still hfinal => exact absurd hfinal (hcall _)
        | @waits e' p fields request _ hindexing =>
            have hwaits : ∀ result, Call.waiting p fields request ≠ .finished result := by
              intro result heq
              cases heq
            exact (ih hnext hpolled hwaits h).cons hregistry
              fun _ => (congrArg Engine.indexing hengine).trans hindexing
        | refused hindexing hcode =>
            obtain ⟨heq, hidle⟩ := hfinished _ hpolled
            cases heq
            exact .early hcode
              ⟨fun _ => (congrArg Engine.indexing hengine).trans hindexing, hidle⟩
        | @answers e' p fields nodes hcompiled hindexing =>
            rw [Engine.finish_call] at hpolled
            obtain ⟨heq, hidle⟩ := hfinished _ hpolled
            obtain ⟨operator, hunknown, rfl⟩ := Engine.answer_error heq
            obtain ⟨hchecked, hfields⟩ :=
              (hdemands _ (List.mem_of_getElem? hdemand)).compiled hmaterializer hcompiled
            have hcounted := hfiled.counted hindexing hfields p nodes
            rw [← hengine] at hcounted
            exact .late hunknown ⟨hchecked, [], waker, rest, rfl, trivial, hcounted, hidle⟩
      · exact (ih hnext hsame hcall h).cons hregistry fun hpolls => absurd hpolls hother

/-- **A query that fails leaves counts and collections alone**, whatever happened before and whatever
else happens until it fails. None of its polls touches them, so they are the same in the end if nobody
else touches them. The exception is a predicate with an operator nobody knows: it passed its check, so
one poll takes note of it as of any other, once, before it is refused. -/
theorem failed_leaves_indexing (registry : Registry) (config : Config) (path : Option String)
    (nodes : List Node) (history : List Event) (q : Query) (events : List Event)
    (cause : EngineError) :
    let x := (start registry config path nodes).run history
    let asked := x.step (.ask q)
    let i := x.demands.length
    (asked.run events).demands[i]? = some (.answer q (.finished (.error cause))) →
      (cause.code ≠ "NQ_MALFORMED_QUERY" →
        asked.Idle i events ∧
        ((∀ event ∈ events, event.Undisturbed i) →
          (asked.run events).engine.indexing = x.engine.indexing)) ∧
      (cause.code = "NQ_MALFORMED_QUERY" →
        ∃ p operator, cause = .unknownOperator ⟨operator⟩ ∧ p.unknown? = some operator ∧
          asked.CountedOnce i events q p) := by
  intro x asked i h
  have hordered : asked.Ordered registry :=
    (ordered_run registry config path nodes history).step (kept_ordered registry) trivial
  have hfresh : asked.demands[i]? = some (.answer q .fresh) := List.getElem?_concat_length
  cases failed_of_error hordered hfresh nofun h with
  | early hcode hidle => exact ⟨fun _ => ⟨hidle, hidle.indexing⟩, fun heq => absurd heq hcode⟩
  | late hunknown hcounted =>
      exact ⟨fun hcode => absurd rfl hcode, fun _ => ⟨_, _, rfl, hunknown, hcounted⟩⟩

/-- The code of the error that a demand for an answer ended with. -/
def demandErrorCode? : Demand → Option String
  | .answer _ call => errorCode? call
  | .nodes _ _ => none

/-- A query whose code tells that it failed. -/
theorem exists_run_error {code : String} (hdemand : x.demands[i]? = some (.answer q call))
    (h : (x.run events).demands[i]?.bind demandErrorCode? = some code) :
    ∃ cause, (x.run events).demands[i]? = some (.answer q (.finished (.error cause))) ∧
      cause.code = code := by
  obtain ⟨call', hcall'⟩ := answer_run hdemand events
  rw [hcall'] at h ⊢
  obtain ⟨cause, rfl, hcode⟩ := exists_of_errorCode? h
  exact ⟨cause, rfl, hcode⟩

/-! ### A shout that fails after a while -/

/-- A resolver that pauses before it fails. -/
def hesitant : Resolver := ⟨fun _ _ => ⟨1, fun _ => .error "no"⟩⟩

/-- The posts by an author, whose shout nobody asks for. -/
def byAuthor : Query where
  typeName := "Post"
  args := { filter := some [.field "author" [.operator "eq" (.string "Ann")]] }

/-- The exchange in which posts by the author were found already. -/
def foundByAuthor : Exchange :=
  run ⟨.start (pressRegistry hesitant) (paperStore "Post" 1 2) {} none, []⟩
    [.ask byAuthor, .poll 0 .caller]

theorem run_byAuthor :
    (start (pressRegistry hesitant) {} none [paper "a" "Draft", paper "b" "Post"]).run
      [.ask byAuthor, .poll 0 .caller] = foundByAuthor := by
  rw [start, ofList_papers, foundByAuthor]

/-- The query for shouts waits when it is first polled and fails when it is polled again. The author
stays counted once, and the collection of posts as it is. -/
theorem failed_leaves_indexing_hesitant :
    let x := (start (pressRegistry hesitant) {} none [paper "a" "Draft", paper "b" "Post"]).run
      [.ask byAuthor, .poll 0 .caller]
    let asked := x.step (.ask (bylines "Post"))
    x.engine.usage.count "Post" "author" = 1 ∧ x.engine.collections.length = 1 ∧
      (∃ p fields request, (asked.run [.poll 1 .caller]).demands[1]? =
        some (.answer (bylines "Post") (.waiting p fields request))) ∧
      ∃ cause, (asked.run [.poll 1 .caller, .poll 1 .caller, .poll 1 .caller]).demands[1]? =
          some (.answer (bylines "Post") (.finished (.error cause))) ∧
        cause.code = "NQ_RESOLUTION_FAILURE" ∧
        (asked.run [.poll 1 .caller, .poll 1 .caller, .poll 1 .caller]).engine.indexing =
          x.engine.indexing := by
  intro x asked
  have hx : x = foundByAuthor := run_byAuthor
  have hasked : asked = foundByAuthor.step (.ask (bylines "Post")) := hx ▸ rfl
  have hfresh : asked.demands[1]? = some (.answer (bylines "Post") .fresh) := by
    rw [hasked]
    rfl
  have hends : (asked.run [.poll 1 .caller, .poll 1 .caller, .poll 1 .caller]).demands[1]?.bind
      demandErrorCode? = some "NQ_RESOLUTION_FAILURE" := by
    rw [hasked]
    decide +kernel
  obtain ⟨cause, hdemand, hcode⟩ := exists_run_error hfresh hends
  have hwaits : ∃ p fields request, (asked.run [.poll 1 .caller]).demands[1]? =
      some (.answer (bylines "Post") (.waiting p fields request)) := by
    rw [hasked]
    exact ⟨_, _, _, by with_unfolding_all rfl⟩
  obtain ⟨hearly, -⟩ := failed_leaves_indexing (pressRegistry hesitant) {} none
    [paper "a" "Draft", paper "b" "Post"] [.ask byAuthor, .poll 0 .caller] (bylines "Post")
    [.poll 1 .caller, .poll 1 .caller, .poll 1 .caller] cause hdemand
  refine ⟨?_, ?_, hwaits, cause, hdemand, hcode, (hearly (by simp [hcode])).2 ?_⟩
  · rw [hx]
    decide +kernel
  · rw [hx]
    decide +kernel
  · intro event hevent
    simp only [List.mem_cons, List.not_mem_nil, or_false, or_self] at hevent
    obtain rfl := hevent
    rfl

/-! ### Titles near one -/

def nearOne : Query where
  typeName := "Post"
  args := { filter := some [.field "title" [.operator "near" (.ofNat 1)]] }

/-- **A refused query may count.** Nobody knows the operator, and yet the title was used. -/
theorem refused_nearOne_counted :
    let x := start Session.shoutRegistry {} none [Session.titled "old"]
    ∃ cause, (x.run [.ask nearOne, .poll 0 .caller]).demands[0]? =
        some (.answer nearOne (.finished (.error cause))) ∧
      cause.code = "NQ_MALFORMED_QUERY" ∧
      x.engine.usage.count "Post" "title" = 0 ∧
      (x.run [.ask nearOne, .poll 0 .caller]).engine.usage.count "Post" "title" = 1 := by
  intro x
  have hfresh : (x.step (.ask nearOne)).demands[0]? = some (.answer nearOne .fresh) := rfl
  have hends : ((x.step (.ask nearOne)).run [.poll 0 .caller]).demands[0]?.bind demandErrorCode? =
      some "NQ_MALFORMED_QUERY" := by
    decide +kernel
  obtain ⟨cause, hdemand, hcode⟩ := exists_run_error hfresh hends
  refine ⟨cause, hdemand, hcode, rfl, ?_⟩
  rw [run_ask_poll _ _ _ 0 rfl, show x = start _ _ _ _ from rfl, start, Session.ofList_titled]
  decide +kernel

end Exchange

end ContentQuery
