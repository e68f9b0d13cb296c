import ContentQuery.Proofs.Engine.Exchange
import ContentQuery.Proofs.Snapshot.Desk
import ContentQuery.Proofs.Snapshot.Warrants

/-!
# What passes the check fails only later

A query whose filter, sort and projections pass the check names declared fields only, so that
nothing can go wrong about types and fields when it is prepared. Snapshots are shared, though, with
whoever asked for the same fields of a node, and that may have been for another type. A `Regime`
says what is asked for and what is stored, so that this cannot happen. Under one, such a query fails
only because a resolver does, or because an operator cannot be evaluated (**`Query.fails_late`**).
-/

namespace ContentQuery

/-! ## Regimes -/

/-- The type of a node is told by its id and its version. -/
def TypesTold (nodes : Node → Prop) : Prop :=
  ∀ a b, nodes a → nodes b → a.id = b.id → a.digest = b.digest → a.typeName = b.typeName

/-- What may be asked for and what may be stored, so that everything is asked for as it may be. -/
structure Regime extends Warrant where
  /-- Queries whose nodes may be asked for. -/
  asks : Query → Prop
  stores : Node → Prop
  checked : ∀ q p, Engine.check registry q = .ok p → asks q
  allows : ∀ q nodes, asks q → (∀ node ∈ nodes, stores node ∧ node.typeName = q.typeName) →
    toWarrant.Allows q.typeName nodes q.required

/-- What a checked query requires is declared. -/
theorem Query.accepts {r : Registry} {q : Query} {p : Predicate} (h : Engine.check r q = .ok p) :
    r.Accepts q.typeName q.required := Query.declares_required h

namespace Warrant

/-- Everything is vouched for. -/
def all (r : Registry) : Warrant := ⟨r, fun _ => True⟩

/-- What is vouched for is the key of a node whose type declares the fields. -/
def typed (r : Registry) (nodes : Node → Prop) : Warrant where
  registry := r
  vouched key := ∃ node, nodes node ∧ node.id = key.id ∧ node.digest = key.version ∧
    r.Accepts node.typeName key.fields

theorem allows_all {r : Registry} {typeName : String} {fields : RequiredFields}
    (h : r.Accepts typeName fields) (nodes : List Node) : (all r).Allows typeName nodes fields :=
  fun _ _ => iff_of_true trivial h

theorem allows_typed {r : Registry} {known : Node → Prop} (htold : TypesTold known)
    {typeName : String} {nodes : List Node}
    (hnodes : ∀ node ∈ nodes, known node ∧ node.typeName = typeName) (fields : RequiredFields) :
    (typed r known).Allows typeName nodes fields := by
  intro node hnode
  obtain ⟨hknown, rfl⟩ := hnodes node hnode
  constructor
  · rintro ⟨other, hother, hid, hdigest, haccepts⟩
    rwa [htold other node hother hknown hid hdigest] at haccepts
  · exact fun haccepts => ⟨node, hknown, rfl, rfl, haccepts⟩

end Warrant

namespace Regime

/-- Only what passes the check is asked for. -/
def checkedOnly (r : Registry) : Regime where
  toWarrant := .all r
  asks q := ∃ p, Engine.check r q = .ok p
  stores _ := True
  checked _ p h := ⟨p, h⟩
  allows := by
    rintro q nodes ⟨p, h⟩ -
    exact Warrant.allows_all (Query.accepts h) nodes

/-- The types of all nodes are told. -/
def told (r : Registry) {nodes : Node → Prop} (h : TypesTold nodes) : Regime where
  toWarrant := .typed r nodes
  asks _ := True
  stores := nodes
  checked _ _ _ := trivial
  allows q _ _ hnodes := Warrant.allows_typed h hnodes q.required

end Regime

/-! ## Errors of checked queries -/

/-- Nothing has failed but a resolver, or the evaluation of an operator. -/
def EngineError.Late : EngineError → Prop
  | .snapshot e => e.OfResolver
  | .unknownOperator _ => True
  | _ => False

theorem EngineError.Late.code {cause : EngineError} (h : cause.Late) :
    cause.code = "NQ_RESOLUTION_FAILURE" ∨ cause.code = "NQ_MALFORMED_QUERY" := by
  rcases cause with e | e | e | e | e | e
  · exact h.elim
  · exact h.elim
  · exact .inr rfl
  · cases e with
    | failure => exact .inl rfl
    | _ => exact h.elim
  · exact h.elim
  · exact h.elim

namespace Engine

/-- A query fails on its nodes only because of an operator. -/
theorem late_of_answer {e : Engine} {q : Query} {p : Predicate} {fields : Option RequiredFields}
    {nodes : List Node} {cause : EngineError} (h : (e.answer q p fields nodes).2 = .error cause) :
    cause.Late := by
  unfold answer at h
  dsimp only at h
  split at h
  · cases h
  · obtain rfl := Except.error.inj h
    trivial

/-- A query that waits fails as its request does, or on the nodes it gets. -/
theorem late_of_pollWaiting {e : Engine} {waker : Waker} {q : Query} {p : Predicate}
    {fields : RequiredFields} {request : SnapshotRequest} {cause : EngineError}
    {sincere : SnapshotRequest → Prop}
    (hsincere : (e.materializer.poll e.store waker request).2.Sincere sincere)
    (h : (e.pollWaiting waker q p fields request).2 = .finished (.error cause)) : cause.Late := by
  unfold pollWaiting pollSnapshots at h
  generalize e.materializer.poll e.store waker request = polled at h hsincere
  rcases polled with ⟨m, request' | e' | nodes⟩
  · cases h
  · obtain rfl : EngineError.snapshot e' = cause := Except.error.inj (Call.finished.inj h)
    exact hsincere
  · exact late_of_answer (Call.finished.inj ((finish_call _).symm.trans h))

end Engine

/-! ## Exchanges under a regime -/

namespace Regime

variable (R : Regime)

/-- The engine has this maker of snapshots, which keeps to the regime, and so does the store. -/
structure Governs (m : Materializer) (e : Engine) : Prop where
  materializer : e.materializer = m
  registry : e.registry = R.registry
  holds : R.Holds m
  stores : ∀ node ∈ e.store.nodes.toList, R.stores node

/-- A demand keeps to the regime: it was made as it may be, and where it was checked only a resolver
or an operator makes it fail. -/
structure Heeds (m : Materializer) (d : Demand) : Prop where
  asks : d.Admitted R.registry → R.asks d.query
  allows : ∀ request ∈ d.request?, R.AllowsRequest request
  sincere : R.registry.Accepts d.query.typeName d.query.required →
    ∀ request ∈ d.request?, R.SincereRequest m request
  late : ∀ q p cause, d = .answer q (.finished (.error cause)) → Engine.check R.registry q = .ok p →
    cause.Late

/-- What may happen under the regime. -/
def AllowsEvent : Exchange.Event → Prop
  | .askNodes q => R.asks q
  | .upsert node => ∀ stamp, R.stores { node with stamp }
  | _ => True

variable {R} {m m' : Materializer} {e : Engine} {d : Demand}

theorem Heeds.mono (h : R.Heeds m d) (hleads : R.Leads m m') : R.Heeds m' d where
  asks := h.asks
  allows := h.allows
  sincere haccepts request hrequest := (h.sincere haccepts request hrequest).mono hleads
  late := h.late

theorem heeds_fresh (q : Query) : R.Heeds m (.answer q .fresh) where
  asks := by
    rintro ⟨p, hcheck⟩
    exact R.checked q p hcheck
  allows _ hrequest := by cases hrequest
  sincere _ _ hrequest := by cases hrequest
  late _ _ _ heq := by cases heq

theorem heeds_freshNodes {q : Query} (hasks : R.asks q) : R.Heeds m (.nodes q .fresh) where
  asks _ := hasks
  allows _ hrequest := by cases hrequest
  sincere _ _ hrequest := by cases hrequest
  late _ _ _ heq := by cases heq

/-- Nodes of the store are asked for as they may be. -/
theorem Governs.request (h : R.Governs m e) {q : Query} (hasks : R.asks q) {made : Materializer}
    {request : SnapshotRequest}
    (hrequest : e.materializer.request q.typeName (e.store.ofType q.typeName) q.required =
      (made, request)) :
    R.Holds made ∧ R.Leads m made ∧ R.AllowsRequest request ∧
      (R.registry.Accepts q.typeName q.required → R.SincereRequest made request) := by
  have hnodes : ∀ node ∈ e.store.ofType q.typeName,
      R.stores node ∧ node.typeName = q.typeName := by
    intro node hnode
    obtain ⟨hmem, htype⟩ := List.mem_filter.mp hnode
    exact ⟨h.stores node hmem, by simpa using htype⟩
  have hmade := h.holds.request_sincere (R.allows q _ hasks hnodes)
  rw [← h.materializer, hrequest] at hmade
  rw [← h.materializer]
  exact hmade

/-- **One turn** keeps to the regime. -/
theorem Governs.turn (h : R.Governs m e) {waker : Waker} (hd : R.Heeds m d)
    {rest : Option SnapshotRequest} (hturn : d.Turn e waker m' rest) :
    R.Holds m' ∧ R.Leads m m' ∧ (∀ request ∈ rest, R.AllowsRequest request) ∧
      (R.registry.Accepts d.query.typeName d.query.required →
        ∀ request ∈ rest, R.SincereRequest m' request) := by
  cases hturn with
  | none =>
      rw [h.materializer]
      exact ⟨h.holds, .refl m, nofun, fun _ => nofun⟩
  | @wait request hrequest =>
      rw [h.materializer]
      obtain ⟨hholds, hleads, hrest, hsincere⟩ :=
        h.holds.poll_sincere e.store waker (hd.allows request hrequest)
      exact ⟨hholds, hleads, hrest, fun haccepts =>
        (hsincere (hd.sincere haccepts request hrequest)).rest⟩
  | @begin made request hadmitted hrequest =>
      have hasks : R.asks d.query := hd.asks (h.registry ▸ hadmitted)
      obtain ⟨hmade, hleads, hallows, hsincere⟩ := h.request hasks hrequest
      obtain ⟨hholds, hleads', hrest, hsincere'⟩ := hmade.poll_sincere e.store waker hallows
      exact ⟨hholds, hleads.trans hleads', hrest, fun haccepts =>
        (hsincere' (hsincere haccepts)).rest⟩

/-- **A checked query fails late.** -/
theorem Governs.late_of_poll (h : R.Governs m e) (waker : Waker) {q : Query} {p : Predicate}
    (hcheck : Engine.check R.registry q = .ok p) {call : Call} (hd : R.Heeds m (.answer q call))
    {cause : EngineError} (hpoll : (e.poll waker q call).2 = .finished (.error cause)) :
    cause.Late := by
  have haccepts := Query.accepts hcheck
  cases call with
  | finished result => exact hd.late q p cause (congrArg (Demand.answer q) hpoll) hcheck
  | waiting p' fields request =>
      obtain ⟨-, -, -, hsincere⟩ := h.holds.poll_sincere e.store waker (hd.allows request rfl)
      have hstate := hsincere (hd.sincere haccepts request rfl)
      rw [← h.materializer] at hstate
      exact Engine.late_of_pollWaiting hstate hpoll
  | fresh =>
      rw [← h.registry] at hcheck
      rcases e.prepare_cases q with
        ⟨cause', hneeds, -⟩ | hprepare | ⟨made, request, hrequest, hprepare⟩
      · -- Whether resolvers are needed is known of what was checked.
        obtain ⟨needs, hok⟩ := Query.needsResolution_ok (h.registry ▸ hcheck)
        rw [Materializer.needsResolution, h.materializer, h.holds.registry, hok] at hneeds
        cases hneeds
      · rw [Engine.poll_of_stored waker hcheck hprepare, Engine.finish_call] at hpoll
        exact Engine.late_of_answer (Call.finished.inj hpoll)
      · obtain ⟨hmade, -, hallows, hsincere⟩ :=
          h.request (R.checked q p (h.registry ▸ hcheck)) hrequest
        obtain ⟨-, -, -, hsincere'⟩ := hmade.poll_sincere e.store waker hallows
        rw [Engine.poll_of_snapshots waker hcheck hprepare] at hpoll
        exact Engine.late_of_pollWaiting (e := { e with materializer := made })
          (hsincere' (hsincere haccepts)) hpoll

/-- What stays of the engine, when its maker of snapshots goes on. -/
theorem Governs.of_store (h : R.Governs m e) {e' : Engine} (hregistry : e'.registry = e.registry)
    (hholds : R.Holds e'.materializer)
    (hstores : ∀ node ∈ e'.store.nodes.toList, R.stores node) : R.Governs e'.materializer e' where
  materializer := rfl
  registry := hregistry.trans h.registry
  holds := hholds
  stores := hstores

end Regime

namespace Exchange

variable {R : Regime}

theorem kept_regime (R : Regime) : Kept R.AllowsEvent R.Governs R.Heeds where
  ask _ q _ := Regime.heeds_fresh q
  askNodes _ _ hasks := Regime.heeds_freshNodes hasks
  poll := by
    intro m e d he hd waker
    obtain ⟨hregistry, hstore, hturn⟩ := d.poll_turn e waker
    obtain ⟨hholds, hleads, hallows, hsincere⟩ := he.turn hd hturn
    have hquery := d.query_poll e waker
    refine ⟨_, he.of_store hregistry hholds (hstore ▸ he.stores), ?_, fun _ h => h.mono hleads⟩
    refine ⟨?_, hallows, hquery ▸ hsincere, ?_⟩
    · rw [d.admitted_poll e waker, hquery]
      exact hd.asks
    · intro q p cause heq hcheck
      cases d with
      | answer q' call =>
          obtain ⟨rfl, hpoll⟩ := Demand.answer.inj heq
          exact he.late_of_poll waker hcheck hd hpoll
      | nodes q' call => cases heq
  upsert := by
    intro m e he node hnode
    refine .self ⟨he.materializer, he.registry, he.holds, fun stored hstored => ?_⟩
    rcases NodeStore.mem_upsert hstored with hstored | rfl
    · exact he.stores stored hstored
    · exact hnode _
  remove he id := .self ⟨he.materializer, he.registry, he.holds, fun node hnode =>
    he.stores node ((NodeStore.sublist_remove _ id).mem hnode)⟩
  signal := by
    intro m e he signal
    obtain ⟨hregistry, hstore, hdrops⟩ := e.drops_handle signal
    rw [he.materializer] at hdrops
    obtain ⟨hholds, hleads⟩ := he.holds.drops hdrops
    exact ⟨_, he.of_store hregistry hholds (hstore ▸ he.stores), fun _ h => h.mono hleads⟩
  agenda := by
    intro m e he agenda
    obtain ⟨hholds, hleads⟩ := he.holds.drops (m.drops_agenda agenda)
    rw [← he.materializer] at hholds hleads
    exact ⟨_, he.of_store rfl hholds he.stores, fun _ h => h.mono (he.materializer ▸ hleads)⟩

end Exchange

/-! ## Desks under a warrant -/

theorem Promise.Sincere.mono {σ α : Type} {P P' : σ → Prop} (h : ∀ state, P state → P' state)
    {state : Promise σ α} (hstate : state.Sincere P) : state.Sincere P' := by
  rcases state with rest | e | value
  · exact h rest hstate
  · exact hstate
  · trivial

/-- What was put to a desk was asked for as it may be, and where its fields are declared only a
resolver makes it fail. -/
structure Errand.Heeds (W : Warrant) (m : Materializer) (errand : Errand) : Prop where
  allows : ∀ request ∈ errand.state.rest?, W.AllowsRequest request
  sincere : W.registry.Accepts errand.order.typeName errand.order.fields →
    errand.state.Sincere (W.SincereRequest m)

theorem Errand.Heeds.mono {W : Warrant} {m m' : Materializer} {errand : Errand}
    (h : errand.Heeds W m) (hleads : W.Leads m m') : errand.Heeds W m' where
  allows := h.allows
  sincere haccepts := (h.sincere haccepts).mono fun _ hrequest => hrequest.mono hleads

namespace Desk

variable {W : Warrant} {d : Desk}

/-- The desk keeps to a warrant. -/
structure Heeds (W : Warrant) (d : Desk) : Prop where
  holds : W.Holds d.maker
  errands : ∀ errand ∈ d.errands, errand.Heeds W d.maker

theorem Heeds.of_leads (h : d.Heeds W) {d' : Desk} (hholds : W.Holds d'.maker)
    (hleads : W.Leads d.maker d'.maker) (herrands : d'.errands = d.errands) : d'.Heeds W where
  holds := hholds
  errands errand hmem := (h.errands errand (herrands ▸ hmem)).mono hleads

theorem Heeds.of_drops (h : d.Heeds W) {d' : Desk} (hdrops : d.maker.Drops d'.maker)
    (herrands : d'.errands = d.errands) : d'.Heeds W := by
  obtain ⟨hholds, hleads⟩ := h.holds.drops hdrops
  exact h.of_leads hholds hleads herrands

theorem Heeds.poll (h : d.Heeds W) (index : Nat) (waker : Waker) :
    (d.step (.poll index waker)).Heeds W := by
  rw [step]
  split
  · rename_i order request herrand
    have herrand := h.errands _ (List.mem_of_getElem? herrand)
    obtain ⟨hholds, hleads, hrest, hsincere⟩ :=
      h.holds.poll_sincere d.store waker (herrand.allows request rfl)
    refine ⟨hholds, fun errand hmem => ?_⟩
    rcases List.mem_or_eq_of_mem_set hmem with hmem | rfl
    · exact (h.errands errand hmem).mono hleads
    · exact ⟨hrest, fun haccepts => hsincere (herrand.sincere haccepts)⟩
  · exact h

/-- **Whatever happens at a desk**, it keeps to the warrant if all requests do. -/
theorem Heeds.step (h : d.Heeds W) (event : Event)
    (hallows : ∀ order, event = .request order → W.Allows order.typeName order.nodes order.fields) :
    (d.step event).Heeds W := by
  cases event with
  | request order =>
      obtain ⟨hholds, hleads, hrest, hsincere⟩ := h.holds.request_sincere (hallows order rfl)
      refine ⟨hholds, fun errand hmem => ?_⟩
      rcases List.mem_append.mp hmem with hmem | hmem
      · exact (h.errands errand hmem).mono hleads
      · obtain rfl := List.mem_singleton.mp hmem
        refine ⟨?_, hsincere⟩
        rintro request ⟨⟩
        exact hrest
  | poll index waker => exact h.poll index waker
  | invalidate id version => exact h.of_drops (d.maker.drops_invalidate id version) rfl
  | clear => exact h.of_drops d.maker.drops_clear rfl
  | finishBootstrap => exact h.of_drops d.maker.drops_finishBootstrap rfl
  | store store => exact h.of_leads h.holds (.refl d.maker) rfl
  | agenda agenda => exact h.of_drops (d.maker.drops_agenda agenda) rfl

theorem Heeds.run (h : d.Heeds W) {events : List Event}
    (hallows : ∀ order, .request order ∈ events →
      W.Allows order.typeName order.nodes order.fields) : (d.run events).Heeds W := by
  induction events generalizing d with
  | nil => exact h
  | cons event rest ih =>
      refine ih (h.step event ?_) fun order hmem => hallows order (by simp [hmem])
      rintro order rfl
      exact hallows order (by simp)

theorem heeds_start (W : Warrant) (path : Option String) (policy : CachePolicy)
    (store : NodeStore) : (start W.registry path policy store).Heeds W where
  holds := ⟨rfl, fun _ _ hmem => (List.not_mem_nil hmem).elim,
    fun _ _ hmem => (List.not_mem_nil hmem).elim, fun promise bell batch hstate => by
      simp [start] at hstate⟩
  errands _ hmem := (List.not_mem_nil hmem).elim

/-- All requests are for declared fields, or each is for nodes by their own type, which is told by
id and version. -/
def Careful (r : Registry) (events : List Event) : Prop :=
  (∀ order, .request order ∈ events → r.Accepts order.typeName order.fields) ∨
    TypesTold (fun node => ∃ order, .request order ∈ events ∧ node ∈ order.nodes) ∧
      ∀ order, .request order ∈ events → ∀ node ∈ order.nodes, node.typeName = order.typeName

/-- All requests to a careful desk keep to some warrant. -/
theorem Careful.exists_allows {r : Registry} {events : List Event} (h : Careful r events) :
    ∃ W : Warrant, W.registry = r ∧ ∀ order, .request order ∈ events →
      W.Allows order.typeName order.nodes order.fields := by
  rcases h with hdeclared | ⟨htold, htypes⟩
  · exact ⟨.all r, rfl, fun order horder =>
      Warrant.allows_all (hdeclared order horder) order.nodes⟩
  · exact ⟨.typed r _, rfl, fun order horder => Warrant.allows_typed htold
      (fun node hnode => ⟨⟨order, horder, hnode⟩, htypes order horder node hnode⟩) order.fields⟩

/-- **At a careful desk**, what is put to it for declared fields fails only if a resolver does. -/
theorem ofResolver_of_careful {r : Registry} {path : Option String} {policy : CachePolicy}
    {store : NodeStore} {events : List Event} (h : Careful r events) {errand : Errand}
    (hmem : errand ∈ ((start r path policy store).run events).errands)
    (haccepts : r.Accepts errand.order.typeName errand.order.fields) {e : SnapshotError}
    (hstate : errand.state = .kept (.error e)) : e.OfResolver := by
  obtain ⟨W, rfl, hallows⟩ := h.exists_allows
  have hsincere := (((heeds_start W path policy store).run hallows).errands errand hmem).sincere
    haccepts
  rw [hstate] at hsincere
  exact hsincere

end Desk

/-! ## Careful exchanges -/

namespace Exchange

/-- Nodes are asked for only as queries that pass the check, or the type of every node that is ever
stored is told by its id and version. -/
def Careful (r : Registry) (nodes : List Node) (events : List Event) : Prop :=
  (∀ q, .askNodes q ∈ events → ∃ p, Engine.check r q = .ok p) ∨
    TypesTold fun node => node ∈ nodes ∨ .upsert node ∈ events

/-- A careful exchange keeps to some regime. -/
theorem Careful.exists_regime {r : Registry} {nodes : List Node} {events : List Event}
    (h : Careful r nodes events) :
    ∃ R : Regime, R.registry = r ∧ (∀ event ∈ events, R.AllowsEvent event) ∧
      ∀ node ∈ nodes, ∀ stamp, R.stores { node with stamp } := by
  rcases h with hchecked | htold
  · refine ⟨.checkedOnly r, rfl, fun event hmem => ?_, fun _ _ _ => trivial⟩
    cases event with
    | askNodes q => exact hchecked q hmem
    | upsert node => exact fun _ => trivial
    | _ => trivial
  · -- What is stored is one of the nodes that were given, up to its stamp.
    let known : Node → Prop := fun node =>
      ∃ stamp, { node with stamp } ∈ nodes ∨ .upsert { node with stamp } ∈ events
    have hknown : TypesTold known := by
      rintro a b ⟨stamp, ha⟩ ⟨stamp', hb⟩ hid hdigest
      exact htold { a with stamp } { b with stamp := stamp' } ha hb hid hdigest
    refine ⟨.told r hknown, rfl, fun event hmem => ?_, fun node hnode _ => ⟨node.stamp, .inl hnode⟩⟩
    cases event with
    | upsert node => exact fun _ => ⟨node.stamp, .inr hmem⟩
    | _ => trivial

theorem holds_regime_start (R : Regime) (config : Config) (path : Option String)
    {nodes : List Node} (hnodes : ∀ node ∈ nodes, ∀ stamp, R.stores { node with stamp }) :
    (start R.registry config path nodes).Holds R.Governs R.Heeds := by
  refine ⟨_, ⟨rfl, rfl, ⟨rfl, fun _ _ hmem => (List.not_mem_nil hmem).elim,
    fun _ _ hmem => (List.not_mem_nil hmem).elim, fun promise bell batch hstate => ?_⟩, ?_⟩,
    fun _ hmem => (List.not_mem_nil hmem).elim⟩
  · simp [start, Engine.start] at hstate
  · intro node hnode
    obtain ⟨m, hm, halike⟩ := Session.alike_of_mem_ofList hnode
    have heq : node = { m with stamp := node.stamp } := by
      cases node
      cases m
      simp_all [Node.Alike, Node.unstamped]
    rw [heq]
    exact hnodes m hm _

/-- **In a careful exchange**, a query that passes the check fails late. -/
theorem late_of_careful {r : Registry} {config : Config} {path : Option String} {nodes : List Node}
    {events : List Event} (h : Careful r nodes events) {q : Query} {p : Predicate}
    (hcheck : Engine.check r q = .ok p) {cause : EngineError}
    (hmem : .answer q (.finished (.error cause)) ∈
      ((start r config path nodes).run events).demands) : cause.Late := by
  obtain ⟨R, rfl, hevents, hnodes⟩ := h.exists_regime
  obtain ⟨m, -, hdemands⟩ :=
    (holds_regime_start R config path hnodes).run (kept_regime R) hevents
  exact (hdemands _ hmem).late q p cause rfl hcheck

end Exchange

/-- **The check up front is complete.** Of a query that passes the check it can be told whether it
needs resolvers. At every careful desk, what is put to it for the fields and the type of the query
fails only if a resolver does. And in every careful exchange the query itself fails only because a
resolver does, or because an operator cannot be evaluated. -/
theorem Query.fails_late {r : Registry} {q : Query} {p : Predicate}
    (hcheck : Engine.check r q = .ok p) :
    (∃ needs, r.needsResolution q.typeName q.required = .ok needs) ∧
    (∀ path policy store (events : List Desk.Event), Desk.Careful r events →
      ∀ errand ∈ ((Desk.start r path policy store).run events).errands,
        errand.order.typeName = q.typeName → errand.order.fields = q.required →
        ∀ e, errand.state = .kept (.error e) → e.OfResolver) ∧
    ∀ config path nodes (events : List Exchange.Event), Exchange.Careful r nodes events →
      ∀ cause, .answer q (.finished (.error cause)) ∈
          ((Exchange.start r config path nodes).run events).demands →
        cause.Late ∧
          (cause.code = "NQ_RESOLUTION_FAILURE" ∨ cause.code = "NQ_MALFORMED_QUERY") := by
  refine ⟨needsResolution_ok hcheck, ?_, ?_⟩
  · intro path policy store events hcareful errand hmem htype hfields e hstate
    refine Desk.ofResolver_of_careful hcareful hmem ?_ hstate
    rw [htype, hfields]
    exact accepts hcheck
  · intro config path nodes events hcareful cause hmem
    have hlate := Exchange.late_of_careful hcareful hcheck hmem
    exact ⟨hlate, hlate.code⟩

/-! ### Drafts and posts -/

namespace Exchange

/-- Drafts and posts have a shout, which is computed, but only posts have an author. -/
def pressRegistry (shout : Resolver) : Registry where
  types :=
    let shout : Field := ⟨"shout", "String", .leaf (.scalar .string), some shout, []⟩
    [⟨"Draft", true, [shout]⟩,
      ⟨"Post", true, [shout, ⟨"author", "String", .leaf (.scalar .string), none, []⟩]⟩]
  enums := []

/-- A node whose version does not tell its type. -/
def paper (id typeName : String) : Node where
  id
  typeName
  digest := "1"
  body := [("id", .string id), ("author", .string "Ann")]
  stamp := 0

/-- The nodes of a type, sorted by their shout and by their author. -/
def bylines (typeName : String) : Query where
  typeName
  args := { sort := some [⟨"shout", .ascending⟩, ⟨"author", .ascending⟩] }

theorem check_bylines (shout : Resolver) :
    Engine.check (pressRegistry shout) (bylines "Post") = .ok [] := by
  with_unfolding_all rfl

/-- The store with two papers, the second of one or the other type. -/
def paperStore (typeName : String) (stamp nextStamp : Nat) : NodeStore where
  nodes := #[paper "a" "Draft", { paper "b" typeName with stamp }]
  positions := ((∅ : Std.HashMap String Nat).insert "a" 0).insert "b" 1
  nextStamp

theorem ofList_papers (typeName : String) :
    NodeStore.ofList [paper "a" "Draft", paper "b" typeName] = paperStore typeName 1 2 := by
  simp [NodeStore.ofList, NodeStore.upsert, NodeStore.empty, paper, paperStore]

theorem upsert_papers :
    (paperStore "Draft" 1 2).upsert (paper "b" "Post") = paperStore "Post" 2 3 := by
  simp [NodeStore.upsert, paper, paperStore]

/-- The code of the error that a call ended with. -/
def errorCode? : Call → Option String
  | .finished (.error cause) => some cause.code
  | _ => none

theorem exists_of_errorCode? {call : Call} {code : String} (h : errorCode? call = some code) :
    ∃ cause, call = .finished (.error cause) ∧ cause.code = code := by
  unfold errorCode? at h
  split at h
  · exact ⟨_, rfl, Option.some.inj h⟩
  · cases h

/-- The query fails because its resolver does. -/
theorem fails_late_failing :
    let failing : Resolver := .immediate fun _ _ => .error "no"
    let x := (start (pressRegistry failing) {} none [paper "a" "Draft", paper "b" "Post"]).run
      [.ask (bylines "Post"), .poll 0 .caller]
    Engine.check (pressRegistry failing) (bylines "Post") = .ok [] ∧
    ∃ cause : EngineError, .answer (bylines "Post") (.finished (.error cause)) ∈ x.demands ∧
      cause.code = "NQ_RESOLUTION_FAILURE" ∧ cause.Late := by
  intro failing x
  have hcheck := check_bylines failing
  have hcode : errorCode? (Engine.poll
      (.start (pressRegistry failing) (paperStore "Post" 1 2) {} none) .caller (bylines "Post")
      .fresh).2 = some "NQ_RESOLUTION_FAILURE" := by
    decide +kernel
  obtain ⟨cause, hcall, hcode⟩ := exists_of_errorCode? hcode
  have hmem : .answer (bylines "Post") (.finished (.error cause)) ∈ x.demands := by
    rw [show x = Exchange.run _ _ from rfl, start, ofList_papers, run_ask_poll _ _ _ 0 rfl,
      Demand.poll]
    simp only [hcall, List.nil_append, List.mem_singleton]
  obtain ⟨-, -, hlate⟩ := Query.fails_late hcheck
  exact ⟨hcheck, cause, hmem, hcode, (hlate {} none _ _ (.inl (by simp)) cause hmem).1⟩

/-- A resolver that always has something to shout. -/
def cheering : Resolver := .immediate fun _ _ => .ok (.string "!")

/-- The nodes of drafts are asked for. -/
def askingDrafts : List Event := [.askNodes (bylines "Draft"), .poll 0 .caller]

/-- One of the drafts is a post from now on, and posts are queried. -/
def askingPosts : List Event :=
  [.upsert (paper "b" "Post"), .signal (.nodeChanged "b" "1")] ++
    [.ask (bylines "Post"), .poll 1 .caller]

/-- The engine that was asked for the nodes of drafts. -/
def askedDrafts : Engine × Demand :=
  Demand.poll (.start (pressRegistry cheering) (paperStore "Draft" 1 2) {} none) .caller
    (.nodes (bylines "Draft") .fresh)

/-- The engine that is told that one of the drafts has changed, now a post. -/
def toldOfPost : Engine :=
  Engine.handle { askedDrafts.1 with store := paperStore "Post" 2 3 } (.nodeChanged "b" "1")

theorem demands_run_askingPosts (e : Engine) (d : Demand) :
    (({ engine := e, demands := [d] } : Exchange).run askingPosts).demands =
      [d, .answer (bylines "Post") ((Engine.handle
        { e with store := e.store.upsert (paper "b" "Post") } (.nodeChanged "b" "1")).poll .caller
          (bylines "Post") .fresh).2] := rfl

theorem demands_askingPosts :
    ((start (pressRegistry cheering) {} none [paper "a" "Draft", paper "b" "Draft"]).run
        (askingDrafts ++ askingPosts)).demands =
      [askedDrafts.2,
        .answer (bylines "Post") (toldOfPost.poll .caller (bylines "Post") .fresh).2] := by
  have hasked : (start (pressRegistry cheering) {} none [paper "a" "Draft", paper "b" "Draft"]).run
      askingDrafts = { engine := askedDrafts.1, demands := [askedDrafts.2] } := by
    rw [start, ofList_papers, askingDrafts, run_askNodes_poll _ _ _ 0 rfl]
    rfl
  have hstore : askedDrafts.1.store = paperStore "Draft" 1 2 := by
    rw [askedDrafts, (Demand.poll_turn _ _ _).2.1]
    rfl
  rw [run_append, hasked, demands_run_askingPosts, hstore, upsert_papers, toldOfPost]

/-- **Shared snapshots can let a checked query down.** Drafts have no author, so that the request
for them fails, and it leaves a snapshot that nobody has polled. The query for posts finds it by id
and version. -/
theorem fails_misfiled :
    Engine.check (pressRegistry cheering) (bylines "Post") = .ok [] ∧
    ∃ cause : EngineError,
      .answer (bylines "Post") (.finished (.error cause)) ∈
        ((start (pressRegistry cheering) {} none [paper "a" "Draft", paper "b" "Draft"]).run
          (askingDrafts ++ askingPosts)).demands ∧
      cause.code = "NQ_UNKNOWN_FIELD" := by
  have hcode : errorCode? (toldOfPost.poll .caller (bylines "Post") .fresh).2 =
      some "NQ_UNKNOWN_FIELD" := by
    decide +kernel
  obtain ⟨cause, hcall, hcode⟩ := exists_of_errorCode? hcode
  rw [demands_askingPosts, hcall]
  exact ⟨check_bylines cheering, cause, List.mem_cons_of_mem _ (List.mem_singleton_self _), hcode⟩

end Exchange

end ContentQuery
