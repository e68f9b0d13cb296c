import ContentQuery.Proofs.Engine.Service
import ContentQuery.Proofs.Node.Places
import ContentQuery.Proofs.Snapshot.Arrivals

/-!
# Exchanges

An engine is asked for answers to queries and for the nodes that queries would run over. An exchange
is an engine with all that was asked of it. Everything may happen in it in any order: what was asked
for is polled as often as anyone likes, nodes are stored and taken out whether or not the engine is
told, any signal is given, and anyone may be woken.

What a poll does to the maker of snapshots is one of three things (`Demand.Turn`), and does not
depend on what was asked for. So what holds of engines and demands one by one is shown by what these
do (**`Exchange.Holds.run`**).
-/

namespace ContentQuery

/-! ## Nodes that a query would run over -/

/-- Nodes that were asked of an engine, with how far that has come. -/
inductive NodesCall where
  | fresh
  /-- Waits for snapshots. -/
  | waiting (request : SnapshotRequest)
  | finished (result : Except EngineError (List Node))

namespace Engine

/-- Goes on with nodes that are snapshots. -/
def pollNodesWaiting (e : Engine) (waker : Waker) (request : SnapshotRequest) :
    Engine × NodesCall :=
  match e.pollSnapshots waker request with
  | (e, .pending request) => (e, .waiting request)
  | (e, .kept result) => (e, .finished (result.mapError .snapshot))

/-- Goes on with nodes that a query would run over. -/
def pollNodes (e : Engine) (waker : Waker) (q : Query) : NodesCall → Engine × NodesCall
  | .fresh =>
    match e.nodesForQuery q with
    | .error cause => (e, .finished (.error cause))
    | .ok (e, .stored nodes) => (e, .finished (.ok nodes))
    | .ok (e, .snapshots _ request) => e.pollNodesWaiting waker request
  | .waiting request => e.pollNodesWaiting waker request
  | .finished result => (e, .finished result)

/-- Without a filter there is nothing to compile. -/
theorem nodesForQuery_eq_prepare {e : Engine} {q : Query} (h : q.args.filter = none) :
    e.nodesForQuery q = e.prepare q := by
  unfold nodesForQuery
  rw [h]

theorem nodesForQuery_of_compile {e : Engine} {q : Query} {filter : Filter} {p : Predicate}
    (hfilter : q.args.filter = some filter)
    (hcompile : Filter.compile e.registry q.typeName filter = .ok p) :
    e.nodesForQuery q = e.prepare q := by
  unfold nodesForQuery
  rw [hfilter]
  simp only [hcompile]
  rfl

theorem nodesForQuery_of_compile_error {e : Engine} {q : Query} {filter : Filter}
    {cause : Rejection} (hfilter : q.args.filter = some filter)
    (hcompile : Filter.compile e.registry q.typeName filter = .error cause) :
    e.nodesForQuery q = .error (.rejected cause) := by
  unfold nodesForQuery
  rw [hfilter]
  simp only [hcompile]
  rfl

/-- Asking for nodes begins as a query does, or the filter is rejected. -/
theorem nodesForQuery_cases (e : Engine) (q : Query) :
    e.nodesForQuery q = e.prepare q ∨
      ∃ cause, e.nodesForQuery q = .error (.rejected cause) := by
  cases hfilter : q.args.filter with
  | none => exact .inl (nodesForQuery_eq_prepare hfilter)
  | some filter =>
      cases hcompile : Filter.compile e.registry q.typeName filter with
      | ok p => exact .inl (nodesForQuery_of_compile hfilter hcompile)
      | error cause => exact .inr ⟨cause, nodesForQuery_of_compile_error hfilter hcompile⟩

end Engine

/-! ## What is asked of an engine -/

/-- What was asked of an engine, with how far it has come. -/
inductive Demand where
  /-- The answer to a query. -/
  | answer (query : Query) (call : Call)
  /-- The nodes that a query would run over. -/
  | nodes (query : Query) (call : NodesCall)

namespace Demand

/-- Goes on with what was asked for. -/
def poll (e : Engine) (waker : Waker) : Demand → Engine × Demand
  | .answer query call =>
    let (e, call) := e.poll waker query call
    (e, .answer query call)
  | .nodes query call =>
    let (e, call) := e.pollNodes waker query call
    (e, .nodes query call)

def query : Demand → Query
  | .answer query _ | .nodes query _ => query

/-- The request for snapshots that a demand waits for. -/
def request? : Demand → Option SnapshotRequest
  | .answer _ (.waiting _ _ request) | .nodes _ (.waiting request) => some request
  | _ => none

end Demand

/-- An engine and all that was asked of it. -/
structure Exchange where
  engine : Engine
  demands : List Demand := []

namespace Exchange

/-- What may happen in an exchange. -/
inductive Event where
  /-- A query is put to the engine. -/
  | ask (query : Query)
  /-- The engine is asked for the nodes that a query would run over. -/
  | askNodes (query : Query)
  | poll (index : Nat) (waker : Waker)
  /-- A node is stored. The engine is not told by that. -/
  | upsert (node : Node)
  | remove (id : String)
  /-- The engine is told of a change. -/
  | signal (signal : Signal)
  /-- Someone is woken, or asks to be. -/
  | agenda (agenda : Agenda)

def start (registry : Registry) (config : Config) (path : Option String) (nodes : List Node) :
    Exchange :=
  { engine := .start registry (.ofList nodes) config path }

def step (x : Exchange) : Event → Exchange
  | .ask query => { x with demands := x.demands ++ [.answer query .fresh] }
  | .askNodes query => { x with demands := x.demands ++ [.nodes query .fresh] }
  | .poll index waker =>
    match x.demands[index]? with
    | none => x
    | some demand =>
      let (engine, demand) := demand.poll x.engine waker
      { engine, demands := x.demands.set index demand }
  | .upsert node => { x with engine := (x.engine.upsert node).1 }
  | .remove id => { x with engine := (x.engine.remove id).1 }
  | .signal signal => { x with engine := x.engine.handle signal }
  | .agenda agenda =>
    { x with engine := { x.engine with
        materializer := { x.engine.materializer with agenda } } }

def run (x : Exchange) (events : List Event) : Exchange := events.foldl step x

theorem run_append (x : Exchange) (before after : List Event) :
    x.run (before ++ after) = (x.run before).run after := List.foldl_append

/-- A query that is polled as soon as it is put to the engine. -/
theorem run_ask_poll (x : Exchange) (q : Query) (waker : Waker) (index : Nat)
    (h : x.demands.length = index) :
    x.run [.ask q, .poll index waker] =
      { engine := (Demand.poll x.engine waker (.answer q .fresh)).1
        demands := x.demands ++ [(Demand.poll x.engine waker (.answer q .fresh)).2] } := by
  subst h
  simp [run, step]

/-- Nodes that are polled for as soon as they are asked for. -/
theorem run_askNodes_poll (x : Exchange) (q : Query) (waker : Waker) (index : Nat)
    (h : x.demands.length = index) :
    x.run [.askNodes q, .poll index waker] =
      { engine := (Demand.poll x.engine waker (.nodes q .fresh)).1
        demands := x.demands ++ [(Demand.poll x.engine waker (.nodes q .fresh)).2] } := by
  subst h
  simp [run, step]

end Exchange

/-! ## What a poll does -/

namespace Demand

/-- A query passed its check. Of nodes that are asked for nothing is known. -/
def Admitted (r : Registry) : Demand → Prop
  | .answer query _ => ∃ p, Engine.check r query = .ok p
  | .nodes _ _ => True

/-- What a poll of something asked for may do to the maker of snapshots, with the request that is
left: nothing, go on with the request that was waited for, or begin one for the nodes of a type. -/
inductive Turn (e : Engine) (waker : Waker) (d : Demand) :
    Materializer → Option SnapshotRequest → Prop
  | none : Turn e waker d e.materializer none
  | wait {request : SnapshotRequest} : d.request? = some request →
      Turn e waker d (e.materializer.poll e.store waker request).1
        (e.materializer.poll e.store waker request).2.rest?
  | begin {m : Materializer} {request : SnapshotRequest} : d.Admitted e.registry →
      e.materializer.request d.query.typeName (e.store.ofType d.query.typeName) d.query.required =
        (m, request) →
      Turn e waker d (m.poll e.store waker request).1 (m.poll e.store waker request).2.rest?

end Demand

namespace Engine

theorem finish_call (answered : Engine × Except EngineError Answer) :
    (finish answered).2 = .finished answered.2 := (finish_frame answered.1 answered.2).2.2.2

/-- What is left of a query that waited, and of its engine. -/
theorem pollWaiting_frame (e : Engine) (waker : Waker) (q : Query) (p : Predicate)
    (fields : RequiredFields) (request : SnapshotRequest) :
    (e.pollWaiting waker q p fields request).1.registry = e.registry ∧
      (e.pollWaiting waker q p fields request).1.store = e.store ∧
      (e.pollWaiting waker q p fields request).1.materializer =
        (e.materializer.poll e.store waker request).1 ∧
      (Demand.answer q (e.pollWaiting waker q p fields request).2).request? =
        (e.materializer.poll e.store waker request).2.rest? := by
  unfold pollWaiting pollSnapshots
  rcases e.materializer.poll e.store waker request with ⟨m, request' | cause | nodes⟩
  · exact ⟨rfl, rfl, rfl, rfl⟩
  · exact ⟨rfl, rfl, rfl, rfl⟩
  · obtain ⟨hregistry, hstore, hmaterializer, hcall⟩ :=
      finish_frame (({ e with materializer := m } : Engine).answer q p (some fields) nodes).1
        (({ e with materializer := m } : Engine).answer q p (some fields) nodes).2
    obtain ⟨hregistry', hstore', hmaterializer'⟩ :=
      answer_frame ({ e with materializer := m } : Engine) q p (some fields) nodes
    refine ⟨hregistry.trans hregistry', hstore.trans hstore',
      hmaterializer.trans hmaterializer', ?_⟩
    show (Demand.answer q (finish _).2).request? = _
    rw [finish_call]
    rfl

theorem pollNodesWaiting_frame (e : Engine) (waker : Waker) (q : Query)
    (request : SnapshotRequest) :
    (e.pollNodesWaiting waker request).1.registry = e.registry ∧
      (e.pollNodesWaiting waker request).1.store = e.store ∧
      (e.pollNodesWaiting waker request).1.materializer =
        (e.materializer.poll e.store waker request).1 ∧
      (Demand.nodes q (e.pollNodesWaiting waker request).2).request? =
        (e.materializer.poll e.store waker request).2.rest? := by
  unfold pollNodesWaiting pollSnapshots
  rcases e.materializer.poll e.store waker request with ⟨m, request' | result⟩ <;>
    exact ⟨rfl, rfl, rfl, rfl⟩

/-- Without resolvers, the nodes of the store will do. -/
theorem prepare_of_needsResolution {e : Engine} {q : Query}
    (h : e.materializer.needsResolution q.typeName q.required = .ok false) :
    e.prepare q = .ok (e, .stored (e.store.ofType q.typeName)) := by
  unfold prepare
  dsimp only
  rw [h]
  split <;> rfl

/-- What preparing a query comes to: an error, nodes of the store, or a request for snapshots. -/
theorem prepare_cases (e : Engine) (q : Query) :
    (∃ cause, e.materializer.needsResolution q.typeName q.required = .error cause ∧
        e.prepare q = .error (.snapshot cause)) ∨
      e.prepare q = .ok (e, .stored (e.store.ofType q.typeName)) ∨
      ∃ m request,
        e.materializer.request q.typeName (e.store.ofType q.typeName) q.required = (m, request) ∧
        e.prepare q = .ok ({ e with materializer := m }, .snapshots q.required request) := by
  unfold prepare
  dsimp only
  split
  · exact .inr (.inl rfl)
  · split
    · rename_i cause heq
      exact .inl ⟨cause, heq, rfl⟩
    · exact .inr (.inl rfl)
    · exact .inr (.inr ⟨_, _, rfl, rfl⟩)

end Engine

namespace Engine

variable {e : Engine} {q : Query} {p : Predicate}

theorem poll_of_check_error {cause : Rejection} (waker : Waker)
    (hcheck : check e.registry q = .error cause) :
    e.poll waker q .fresh = finish (e, .error (.rejected cause)) := by
  rw [poll, hcheck]

theorem poll_of_prepare_error {cause : EngineError} (waker : Waker)
    (hcheck : check e.registry q = .ok p) (hprepare : e.prepare q = .error cause) :
    e.poll waker q .fresh = finish (e, .error cause) := by
  rw [poll, hcheck]
  simp only [hprepare]

theorem poll_of_stored {e' : Engine} {nodes : List Node} (waker : Waker)
    (hcheck : check e.registry q = .ok p) (hprepare : e.prepare q = .ok (e', .stored nodes)) :
    e.poll waker q .fresh = finish (e'.answer q p none nodes) := by
  rw [poll, hcheck]
  simp only [hprepare]

theorem poll_of_snapshots {e' : Engine} {fields : RequiredFields} {request : SnapshotRequest}
    (waker : Waker) (hcheck : check e.registry q = .ok p)
    (hprepare : e.prepare q = .ok (e', .snapshots fields request)) :
    e.poll waker q .fresh = e'.pollWaiting waker q p fields request := by
  rw [poll, hcheck]
  simp only [hprepare]

theorem pollNodes_of_error {cause : EngineError} (waker : Waker)
    (h : e.nodesForQuery q = .error cause) :
    e.pollNodes waker q .fresh = (e, .finished (.error cause)) := by
  simp only [pollNodes, h]

theorem pollNodes_of_stored {e' : Engine} {nodes : List Node} (waker : Waker)
    (h : e.nodesForQuery q = .ok (e', .stored nodes)) :
    e.pollNodes waker q .fresh = (e', .finished (.ok nodes)) := by
  simp only [pollNodes, h]

theorem pollNodes_of_snapshots {e' : Engine} {fields : RequiredFields} {request : SnapshotRequest}
    (waker : Waker) (h : e.nodesForQuery q = .ok (e', .snapshots fields request)) :
    e.pollNodes waker q .fresh = e'.pollNodesWaiting waker request := by
  simp only [pollNodes, h]

end Engine

namespace Demand

variable {e e' : Engine} {waker : Waker} {q : Query}

theorem query_poll (d : Demand) (e : Engine) (waker : Waker) :
    (d.poll e waker).2.query = d.query := by
  cases d <;> rfl

theorem admitted_poll (d : Demand) (e : Engine) (waker : Waker) (r : Registry) :
    (d.poll e waker).2.Admitted r ↔ d.Admitted r := by
  cases d <;> rfl

/-- A query that is finished at once leaves the maker of snapshots as it is. -/
theorem turn_of_finish {result : Except EngineError Answer}
    (hpoll : e.poll waker q .fresh = Engine.finish (e', result))
    (hregistry : e'.registry = e.registry) (hstore : e'.store = e.store)
    (hmaterializer : e'.materializer = e.materializer) :
    (poll e waker (.answer q .fresh)).1.registry = e.registry ∧
      (poll e waker (.answer q .fresh)).1.store = e.store ∧
      Turn e waker (.answer q .fresh) (poll e waker (.answer q .fresh)).1.materializer
        (poll e waker (.answer q .fresh)).2.request? := by
  obtain ⟨hregistry', hstore', hmaterializer', hcall⟩ := Engine.finish_frame e' result
  simp only [poll, hpoll, hcall]
  refine ⟨hregistry'.trans hregistry, hstore'.trans hstore, ?_⟩
  rw [hmaterializer', hmaterializer]
  exact .none

/-- A query that is polled first is finished, or begins a request for the nodes of its type. -/
theorem turn_freshAnswer (e : Engine) (waker : Waker) (q : Query) :
    (poll e waker (.answer q .fresh)).1.registry = e.registry ∧
      (poll e waker (.answer q .fresh)).1.store = e.store ∧
      Turn e waker (.answer q .fresh) (poll e waker (.answer q .fresh)).1.materializer
        (poll e waker (.answer q .fresh)).2.request? := by
  cases hcheck : Engine.check e.registry q with
  | error cause => exact turn_of_finish (Engine.poll_of_check_error waker hcheck) rfl rfl rfl
  | ok p =>
      rcases e.prepare_cases q with
        ⟨cause, -, hprepare⟩ | hprepare | ⟨m, request, hrequest, hprepare⟩
      · exact turn_of_finish (Engine.poll_of_prepare_error waker hcheck hprepare) rfl rfl rfl
      · obtain ⟨hregistry, hstore, hmaterializer⟩ :=
          e.answer_frame q p none (e.store.ofType q.typeName)
        exact turn_of_finish (Engine.poll_of_stored waker hcheck hprepare) hregistry hstore
          hmaterializer
      · obtain ⟨hregistry, hstore, hmaterializer, hrest⟩ :=
          ({ e with materializer := m } : Engine).pollWaiting_frame waker q p q.required request
        rw [poll, Engine.poll_of_snapshots waker hcheck hprepare]
        refine ⟨hregistry, hstore, ?_⟩
        simp only [hmaterializer, hrest]
        exact .begin ⟨p, hcheck⟩ hrequest

/-- Nodes that are polled for first are given out, or such a request is begun. -/
theorem turn_freshNodes (e : Engine) (waker : Waker) (q : Query) :
    (poll e waker (.nodes q .fresh)).1.registry = e.registry ∧
      (poll e waker (.nodes q .fresh)).1.store = e.store ∧
      Turn e waker (.nodes q .fresh) (poll e waker (.nodes q .fresh)).1.materializer
        (poll e waker (.nodes q .fresh)).2.request? := by
  rcases e.nodesForQuery_cases q with heq | ⟨cause, heq⟩
  · rcases e.prepare_cases q with
      ⟨cause, -, hprepare⟩ | hprepare | ⟨m, request, hrequest, hprepare⟩ <;> rw [hprepare] at heq
    · rw [poll, Engine.pollNodes_of_error waker heq]
      exact ⟨rfl, rfl, .none⟩
    · rw [poll, Engine.pollNodes_of_stored waker heq]
      exact ⟨rfl, rfl, .none⟩
    · obtain ⟨hregistry, hstore, hmaterializer, hrest⟩ :=
        ({ e with materializer := m } : Engine).pollNodesWaiting_frame waker q request
      rw [poll, Engine.pollNodes_of_snapshots waker heq]
      refine ⟨hregistry, hstore, ?_⟩
      simp only [hmaterializer, hrest]
      exact .begin trivial hrequest
  · rw [poll, Engine.pollNodes_of_error waker heq]
    exact ⟨rfl, rfl, .none⟩

/-- **A poll** takes one turn at the maker of snapshots. Registry and store stay as they are. -/
theorem poll_turn (d : Demand) (e : Engine) (waker : Waker) :
    (d.poll e waker).1.registry = e.registry ∧ (d.poll e waker).1.store = e.store ∧
      Turn e waker d (d.poll e waker).1.materializer (d.poll e waker).2.request? := by
  cases d with
  | answer q call =>
      cases call with
      | fresh => exact turn_freshAnswer e waker q
      | finished result => exact ⟨rfl, rfl, .none⟩
      | waiting p fields request =>
          obtain ⟨hregistry, hstore, hmaterializer, hrest⟩ :=
            e.pollWaiting_frame waker q p fields request
          refine ⟨hregistry, hstore, ?_⟩
          simp only [poll, Engine.poll, hmaterializer, hrest]
          exact .wait rfl
  | nodes q call =>
      cases call with
      | fresh => exact turn_freshNodes e waker q
      | finished result => exact ⟨rfl, rfl, .none⟩
      | waiting request =>
          obtain ⟨hregistry, hstore, hmaterializer, hrest⟩ :=
            e.pollNodesWaiting_frame waker q request
          refine ⟨hregistry, hstore, ?_⟩
          simp only [poll, Engine.pollNodes, hmaterializer, hrest]
          exact .wait rfl

end Demand

/-- A turn leaves the registry as it is. -/
theorem Demand.Turn.registry {e : Engine} {waker : Waker} {d : Demand} {m : Materializer}
    {rest : Option SnapshotRequest} (h : d.Turn e waker m rest) :
    m.registry = e.materializer.registry := by
  cases h with
  | none => rfl
  | wait _ => exact Materializer.registry_poll ..
  | begin _ hrequest =>
      have hmade := e.materializer.registry_request d.query.typeName
        (e.store.ofType d.query.typeName) d.query.required
      rw [hrequest] at hmade
      exact (Materializer.registry_poll ..).trans hmade

/-! ## What holds all along -/

/-- A signal may make entries go, and leaves registry and store as they are. -/
theorem Engine.drops_handle (e : Engine) (signal : Signal) :
    (e.handle signal).registry = e.registry ∧ (e.handle signal).store = e.store ∧
      e.materializer.Drops (e.handle signal).materializer := by
  cases signal with
  | cacheCleared => exact ⟨rfl, rfl, e.materializer.drops_clear⟩
  | bootstrapFinished => exact ⟨rfl, rfl, e.materializer.drops_finishBootstrap⟩
  | nodeChanged id version => exact ⟨rfl, rfl, e.materializer.drops_invalidate id version⟩

namespace Exchange

variable {G : Type}

/-- With something known, the engine is as it should be, and so is all that was asked of it. -/
def Holds (P : G → Engine → Prop) (D : G → Demand → Prop) (x : Exchange) : Prop :=
  ∃ g, P g x.engine ∧ ∀ d ∈ x.demands, D g d

/-- An engine that goes on is as it should be, with something known by which all demands stay so. -/
def Goes (P : G → Engine → Prop) (D : G → Demand → Prop) (g : G) (e : Engine) : Prop :=
  ∃ g', P g' e ∧ ∀ d, D g d → D g' d

/-- Events of a kind leave engines and demands as they should be. -/
structure Kept (allowed : Event → Prop) (P : G → Engine → Prop) (D : G → Demand → Prop) : Prop where
  ask : ∀ g q, allowed (.ask q) → D g (.answer q .fresh)
  askNodes : ∀ g q, allowed (.askNodes q) → D g (.nodes q .fresh)
  poll : ∀ {g e d}, P g e → D g d → ∀ waker,
    ∃ g', P g' (d.poll e waker).1 ∧ D g' (d.poll e waker).2 ∧ ∀ other, D g other → D g' other
  upsert : ∀ {g e}, P g e → ∀ node, allowed (.upsert node) → Goes P D g (e.upsert node).1
  remove : ∀ {g e}, P g e → ∀ id, Goes P D g (e.remove id).1
  signal : ∀ {g e}, P g e → ∀ signal, Goes P D g (e.handle signal)
  agenda : ∀ {g e}, P g e → ∀ agenda,
    Goes P D g { e with materializer := { e.materializer with agenda } }

variable {allowed : Event → Prop} {P : G → Engine → Prop} {D : G → Demand → Prop} {x : Exchange}

theorem Goes.self {g : G} {e : Engine} (h : P g e) : Goes P D g e := ⟨g, h, fun _ hd => hd⟩

theorem Holds.step (h : x.Holds P D) (hkept : Kept allowed P D) {event : Event}
    (hevent : allowed event) : (x.step event).Holds P D := by
  obtain ⟨g, hengine, hdemands⟩ := h
  have hadd : ∀ d, D g d → ∀ d' ∈ x.demands ++ [d], D g d' := by
    intro d hd d' hd'
    rcases List.mem_append.mp hd' with hd' | hd'
    · exact hdemands d' hd'
    · exact List.mem_singleton.mp hd' ▸ hd
  have hgoes : ∀ e, Goes P D g e → Holds P D { x with engine := e } := by
    rintro e ⟨g', he, hmono⟩
    exact ⟨g', he, fun d hd => hmono d (hdemands d hd)⟩
  cases event with
  | ask q => exact ⟨g, hengine, hadd _ (hkept.ask g q hevent)⟩
  | askNodes q => exact ⟨g, hengine, hadd _ (hkept.askNodes g q hevent)⟩
  | poll index waker =>
      rw [Exchange.step]
      split
      · exact ⟨g, hengine, hdemands⟩
      · rename_i d hd
        obtain ⟨g', hengine', hdemand, hmono⟩ :=
          hkept.poll hengine (hdemands d (List.mem_of_getElem? hd)) waker
        refine ⟨g', hengine', fun d' hd' => ?_⟩
        rcases List.mem_or_eq_of_mem_set hd' with hd' | rfl
        · exact hmono d' (hdemands d' hd')
        · exact hdemand
  | upsert node => exact hgoes _ (hkept.upsert hengine node hevent)
  | remove id => exact hgoes _ (hkept.remove hengine id)
  | signal signal => exact hgoes _ (hkept.signal hengine signal)
  | agenda agenda => exact hgoes _ (hkept.agenda hengine agenda)

/-- **What each event keeps holds all along.** -/
theorem Holds.run (h : x.Holds P D) (hkept : Kept allowed P D) {events : List Event}
    (hevents : ∀ event ∈ events, allowed event) : (x.run events).Holds P D := by
  induction events generalizing x with
  | nil => exact h
  | cons event rest ih =>
      exact ih (h.step hkept (hevents event (by simp))) fun e he => hevents e (by simp [he])

/-- In every exchange, the engine and its maker of snapshots have one registry, and nodes stand at
their places in the store. -/
theorem frame_run (registry : Registry) (config : Config) (path : Option String)
    (nodes : List Node) (events : List Event) :
    ((start registry config path nodes).run events).engine.registry = registry ∧
      ((start registry config path nodes).run events).engine.materializer.registry = registry ∧
      ((start registry config path nodes).run events).engine.store.Placed := by
  let P : Unit → Engine → Prop := fun _ e =>
    e.registry = registry ∧ e.materializer.registry = registry ∧ e.store.Placed
  have hkept : Kept (fun _ => True) P fun _ _ => True := {
    ask := fun _ _ _ => trivial
    askNodes := fun _ _ _ => trivial
    poll := fun {g e d} he _ waker => by
      obtain ⟨hregistry, hstore, hturn⟩ := d.poll_turn e waker
      exact ⟨g, ⟨hregistry.trans he.1, hturn.registry.trans he.2.1, hstore ▸ he.2.2⟩, trivial,
        fun _ _ => trivial⟩
    upsert := fun he node _ => .self ⟨he.1, he.2.1, he.2.2.upsert node⟩
    remove := fun he id => .self ⟨he.1, he.2.1, he.2.2.remove id⟩
    signal := fun {g e} he signal => by
      obtain ⟨hregistry, hstore, hdrops⟩ := e.drops_handle signal
      exact .self ⟨hregistry.trans he.1, hdrops.registry.trans he.2.1, hstore ▸ he.2.2⟩
    agenda := fun he _ => .self he }
  have hstart : (start registry config path nodes).Holds P fun _ _ => True :=
    ⟨(), ⟨rfl, rfl, NodeStore.placed_ofList nodes⟩, fun _ _ => trivial⟩
  have hall : ∀ event ∈ events, True := fun _ _ => trivial
  obtain ⟨_, hframe, -⟩ := hstart.run hkept hall
  exact hframe

end Exchange

/-! ## Exchanges are sound -/

/-- The snapshots that a demand waits for are stamped. -/
def Demand.Stamped (snapshots : List Node) (d : Demand) : Prop :=
  ∀ request ∈ d.request?, request.Stamped snapshots

theorem Demand.Stamped.append {snapshots : List Node} {d : Demand} (h : d.Stamped snapshots)
    (more : List Node) : d.Stamped (snapshots ++ more) :=
  fun request hrequest => SnapshotRequest.Stamped.append (h request hrequest) more

theorem Call.Stamped.demand {snapshots : List Node} {call : Call} (h : call.Stamped snapshots)
    (q : Query) : (Demand.answer q call).Stamped snapshots := by
  intro request hrequest
  cases call with
  | waiting p fields request' =>
      obtain rfl := Option.some.inj hrequest
      exact h
  | _ => cases hrequest

theorem Demand.Stamped.call {snapshots : List Node} {q : Query} {call : Call}
    (h : (Demand.answer q call).Stamped snapshots) : call.Stamped snapshots := by
  cases call with
  | waiting p fields request => exact h request rfl
  | _ => trivial

namespace Engine

variable {e : Engine} {snapshots stored : List Node}

/-- Asking for nodes changes nothing but the maker of snapshots. -/
theorem pollNodes_fst (e : Engine) (waker : Waker) (q : Query) (call : NodesCall) :
    (e.pollNodes waker q call).1 =
      { e with materializer := (e.pollNodes waker q call).1.materializer } := by
  have hwaiting : ∀ (e : Engine) request, (e.pollNodesWaiting waker request).1 =
      { e with materializer := (e.pollNodesWaiting waker request).1.materializer } := by
    intro e request
    unfold pollNodesWaiting pollSnapshots
    rcases e.materializer.poll e.store waker request with ⟨m, request' | result⟩ <;> rfl
  cases call with
  | finished result => rfl
  | waiting request => exact hwaiting e request
  | fresh =>
      rcases e.nodesForQuery_cases q with heq | ⟨cause, heq⟩
      · rcases e.prepare_cases q with
          ⟨cause, -, hprepare⟩ | hprepare | ⟨m, request, -, hprepare⟩ <;> rw [hprepare] at heq
        · rw [pollNodes_of_error waker heq]
        · rw [pollNodes_of_stored waker heq]
        · rw [pollNodes_of_snapshots waker heq]
          exact hwaiting { e with materializer := m } request
      · rw [pollNodes_of_error waker heq]

/-- A turn at the maker of snapshots leaves all snapshots stamped. -/
theorem Sound.turn (h : e.Sound snapshots stored) {waker : Waker} {d : Demand} {m : Materializer}
    {rest : Option SnapshotRequest} (hd : d.Stamped snapshots) (hturn : d.Turn e waker m rest) :
    ∃ more, m.Stamps (snapshots ++ more) ∧
      ∀ request ∈ rest, request.Stamped (snapshots ++ more) := by
  have hrest : ∀ {m : Materializer} {snapshots : List Node} {request : SnapshotRequest},
      m.Stamps snapshots → request.Stamped snapshots →
      ∃ more, (m.poll e.store waker request).1.Stamps (snapshots ++ more) ∧
        ∀ request' ∈ (m.poll e.store waker request).2.rest?,
          request'.Stamped (snapshots ++ more) := by
    intro m snapshots request hm hrequest
    obtain ⟨more, hpolled, hstate⟩ := hm.poll e.store waker hrequest
    refine ⟨more, hpolled, fun request' heq => ?_⟩
    generalize (m.poll e.store waker request).2 = state at hstate heq
    cases state with
    | pending request'' =>
        obtain rfl := Option.some.inj heq
        exact hstate
    | kept result => cases heq
  cases hturn with
  | none =>
      refine ⟨[], ?_, fun _ hrequest => by cases hrequest⟩
      rw [List.append_nil]
      exact h.materializer
  | wait hrequest => exact hrest h.materializer (hd _ hrequest)
  | @begin made request _ hrequest =>
      obtain ⟨hmade, hstamped⟩ :=
        h.materializer.request d.query.typeName (e.store.ofType d.query.typeName) d.query.required
      rw [hrequest] at hmade hstamped
      exact hrest hmade hstamped

end Engine

namespace Exchange

/-- The engine is sound, and the snapshots that are waited for are stamped. -/
abbrev Sound (x : Exchange) : Prop :=
  x.Holds (G := List Node × List Node) (fun g e => e.Sound g.1 g.2) fun g => Demand.Stamped g.1

theorem kept_sound : Kept (G := List Node × List Node) (fun _ => True)
    (fun g e => e.Sound g.1 g.2) fun g => Demand.Stamped g.1 where
  ask _ _ _ := nofun
  askNodes _ _ _ := nofun
  poll := by
    rintro ⟨snapshots, stored⟩ e d he hd waker
    cases d with
    | answer q call =>
        obtain ⟨more, hsound, hcall⟩ := he.poll waker q hd.call
        exact ⟨(snapshots ++ more, stored), hsound, hcall.demand q, fun _ h => h.append more⟩
    | nodes q call =>
        obtain ⟨-, -, hturn⟩ := (Demand.nodes q call).poll_turn e waker
        obtain ⟨more, hmade, hrest⟩ := he.turn hd hturn
        refine ⟨(snapshots ++ more, stored), ?_, hrest, fun _ h => h.append more⟩
        show (e.pollNodes waker q call).1.Sound _ _
        rw [e.pollNodes_fst waker q call]
        exact he.append hmade
  upsert := by
    rintro ⟨snapshots, stored⟩ e he node -
    exact ⟨(snapshots, stored ++ [{ node with stamp := e.store.nextStamp }]), he.upsert node,
      fun _ h => h⟩
  remove he id := .self ⟨he.materializer, he.store.remove id, he.collections⟩
  signal he signal := .self (he.handle signal)
  agenda he agenda := .self ⟨he.materializer.agenda agenda, he.store, he.collections⟩

/-- **Exchanges are sound**, whatever happens in them. -/
theorem sound_run (registry : Registry) (config : Config) (path : Option String)
    (nodes : List Node) (events : List Event) :
    ((start registry config path nodes).run events).Sound := by
  obtain ⟨snapshots, stored, he, -⟩ := Session.sound_start registry config path nodes
  have hstart : (start registry config path nodes).Sound :=
    ⟨(snapshots, stored), he, fun _ hmem => (List.not_mem_nil hmem).elim⟩
  exact hstart.run kept_sound fun _ _ => trivial

end Exchange

end ContentQuery
