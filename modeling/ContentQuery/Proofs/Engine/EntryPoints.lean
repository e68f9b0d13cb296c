import ContentQuery.Proofs.Engine.Exchange
import ContentQuery.Proofs.Engine.Refinement

/-!
# The two ways into an engine

An engine can be asked for the answer to a query, or for the nodes that the query would run over.
Both ways prepare the same nodes, so that an answer without a page is what the predicate finds among
the nodes, sorted: two exchanges in which the one or the other is asked for go on side by side
(`Exchange.Alongside`), until the query fails. They do not check the same, though: nodes are asked
for without a check of the sort and the projections, and of the type only if there is a filter
(**`Exchange.entry_points`**).
-/

namespace ContentQuery

/-! ## Engines side by side -/

/-- The engines differ at most in collections, indexes and counts. -/
structure Engine.Beside (e e' : Engine) : Prop where
  registry : e'.registry = e.registry
  store : e'.store = e.store
  materializer : e'.materializer = e.materializer

def Demand.Finished : Demand → Prop
  | .answer _ (.finished _) | .nodes _ (.finished _) => True
  | _ => False

/-- The demands are the same, or both have come to something. -/
inductive Demand.Beside : Demand → Demand → Prop
  | same (d : Demand) : Beside d d
  | finished {d d' : Demand} : d.Finished → d'.Finished → Beside d d'

namespace Engine

variable {e e' : Engine} {q : Query}

theorem Beside.refl (e : Engine) : e.Beside e := ⟨rfl, rfl, rfl⟩

theorem Beside.withMaterializer (h : e.Beside e') (m : Materializer) :
    Beside { e with materializer := m } { e' with materializer := m } :=
  ⟨h.registry, h.store, rfl⟩

theorem Beside.answer (h : e.Beside e') (q : Query) (p : Predicate) (fields : Option RequiredFields)
    (nodes : List Node) : (e.answer q p fields nodes).1.Beside (e'.answer q p fields nodes).1 := by
  obtain ⟨hregistry, hstore, hmaterializer⟩ := e.answer_frame q p fields nodes
  obtain ⟨hregistry', hstore', hmaterializer'⟩ := e'.answer_frame q p fields nodes
  exact ⟨by rw [hregistry', h.registry, hregistry], by rw [hstore', h.store, hstore],
    by rw [hmaterializer', h.materializer, hmaterializer]⟩

theorem Beside.finish_left (h : e.Beside e') (result : Except EngineError Answer) :
    (finish (e, result)).1.Beside e' := by
  obtain ⟨hregistry, hstore, hmaterializer, -⟩ := finish_frame e result
  exact ⟨h.registry.trans hregistry.symm, h.store.trans hstore.symm,
    h.materializer.trans hmaterializer.symm⟩

/-- Queries that are finished in either engine. -/
theorem Beside.finish (h : e.Beside e') (result result' : Except EngineError Answer) :
    (finish (e, result)).1.Beside (finish (e', result')).1 ∧
      (Demand.answer q (finish (e, result)).2).Beside (.answer q (finish (e', result')).2) := by
  obtain ⟨hregistry, hstore, hmaterializer, -⟩ := finish_frame e' result'
  refine ⟨?_, ?_⟩
  · have hleft := h.finish_left result
    exact ⟨hregistry.trans hleft.registry, hstore.trans hleft.store,
      hmaterializer.trans hleft.materializer⟩
  · rw [finish_call, finish_call]
    exact .finished trivial trivial

/-- One engine is the other with collections, indexes and counts of its own. -/
theorem Beside.exists_eq (h : e.Beside e') :
    ∃ config usage collections shapes executed rejected synced invalidations,
      e' = { e with
        config, usage, collections, shapes, executed, rejected, synced, invalidations } := by
  obtain ⟨hregistry, hstore, hmaterializer⟩ := h
  refine ⟨e'.config, e'.usage, e'.collections, e'.shapes, e'.executed, e'.rejected, e'.synced,
    e'.invalidations, ?_⟩
  rw [← hregistry, ← hstore, ← hmaterializer]

/-- Either engine prepares a query in the same way. -/
theorem Beside.prepare (h : e.Beside e') (q : Query) :
    (∃ cause, e.prepare q = .error cause ∧ e'.prepare q = .error cause) ∨
      ∃ m prepared, e.prepare q = .ok ({ e with materializer := m }, prepared) ∧
        e'.prepare q = .ok ({ e' with materializer := m }, prepared) := by
  obtain ⟨_, _, _, _, _, _, _, _, rfl⟩ := h.exists_eq
  unfold Engine.prepare
  dsimp only
  split
  · exact .inr ⟨e.materializer, _, rfl, rfl⟩
  · split
    · exact .inl ⟨_, rfl, rfl⟩
    · exact .inr ⟨e.materializer, _, rfl, rfl⟩
    · exact .inr ⟨_, _, rfl, rfl⟩

theorem Beside.pollWaiting (h : e.Beside e') (waker : Waker) (q : Query) (p : Predicate)
    (fields : RequiredFields) (request : SnapshotRequest) :
    (e.pollWaiting waker q p fields request).1.Beside
        (e'.pollWaiting waker q p fields request).1 ∧
      (Demand.answer q (e.pollWaiting waker q p fields request).2).Beside
        (.answer q (e'.pollWaiting waker q p fields request).2) := by
  obtain ⟨_, _, _, _, _, _, _, _, rfl⟩ := h.exists_eq
  unfold Engine.pollWaiting pollSnapshots
  dsimp only
  rcases e.materializer.poll e.store waker request with ⟨m, request' | cause | nodes⟩
  · exact ⟨h.withMaterializer m, .same _⟩
  · exact (h.withMaterializer m).finish _ _
  · exact ((h.withMaterializer m).answer q p (some fields) nodes).finish _ _

theorem Beside.pollNodesWaiting (h : e.Beside e') (waker : Waker) (request : SnapshotRequest) :
    (e.pollNodesWaiting waker request).1.Beside (e'.pollNodesWaiting waker request).1 ∧
      (e'.pollNodesWaiting waker request).2 = (e.pollNodesWaiting waker request).2 := by
  obtain ⟨_, _, _, _, _, _, _, _, rfl⟩ := h.exists_eq
  unfold Engine.pollNodesWaiting pollSnapshots
  dsimp only
  rcases e.materializer.poll e.store waker request with ⟨m, request' | result⟩
  · exact ⟨h.withMaterializer m, rfl⟩
  · exact ⟨h.withMaterializer m, rfl⟩

theorem fields_of_prepare {fields : RequiredFields} {request : SnapshotRequest}
    (h : e.prepare q = .ok (e', .snapshots fields request)) : fields = q.required := by
  rcases e.prepare_cases q with ⟨cause, -, heq⟩ | heq | ⟨m, request', -, heq⟩ <;> rw [h] at heq
  · cases heq
  · cases heq
  · obtain ⟨rfl, -⟩ := Prepared.snapshots.inj (Prod.mk.inj (Except.ok.inj heq)).2
    rfl

/-- Either engine goes on with a new query in the same way. -/
theorem Beside.poll (h : e.Beside e') (waker : Waker) (q : Query) :
    (e.poll waker q .fresh).1.Beside (e'.poll waker q .fresh).1 ∧
      (Demand.answer q (e.poll waker q .fresh).2).Beside
        (.answer q (e'.poll waker q .fresh).2) := by
  cases hcheck : check e.registry q with
  | error cause =>
      rw [poll_of_check_error waker hcheck, poll_of_check_error waker (h.registry ▸ hcheck)]
      exact h.finish _ _
  | ok p =>
      have hcheck' : check e'.registry q = .ok p := h.registry ▸ hcheck
      rcases h.prepare q with ⟨cause, hprepare, hprepare'⟩ | ⟨m, prepared, hprepare, hprepare'⟩
      · rw [poll_of_prepare_error waker hcheck hprepare,
          poll_of_prepare_error waker hcheck' hprepare']
        exact h.finish _ _
      · cases prepared with
        | stored nodes =>
            rw [poll_of_stored waker hcheck hprepare, poll_of_stored waker hcheck' hprepare']
            exact ((h.withMaterializer m).answer q p none nodes).finish _ _
        | snapshots fields request =>
            rw [poll_of_snapshots waker hcheck hprepare, poll_of_snapshots waker hcheck' hprepare']
            exact (h.withMaterializer m).pollWaiting waker q p fields request

/-- A query that passed the check is asked for its nodes in the way it is prepared. -/
theorem nodesForQuery_eq_prepare_of_check {p : Predicate}
    (hcheck : check e.registry q = .ok p) : e.nodesForQuery q = e.prepare q := by
  cases hfilter : q.args.filter with
  | none => exact nodesForQuery_eq_prepare hfilter
  | some filter =>
      have hcompile := (Query.of_check hcheck).1
      rw [hfilter] at hcompile
      exact nodesForQuery_of_compile hfilter hcompile

theorem Beside.nodesForQuery (h : e.Beside e') (q : Query) :
    (e.nodesForQuery q = e.prepare q ∧ e'.nodesForQuery q = e'.prepare q) ∨
      ∃ cause, e.nodesForQuery q = .error cause ∧ e'.nodesForQuery q = .error cause := by
  cases hfilter : q.args.filter with
  | none => exact .inl ⟨nodesForQuery_eq_prepare hfilter, nodesForQuery_eq_prepare hfilter⟩
  | some filter =>
      cases hcompile : Filter.compile e.registry q.typeName filter with
      | ok p => exact .inl ⟨nodesForQuery_of_compile hfilter hcompile,
          nodesForQuery_of_compile hfilter (h.registry ▸ hcompile)⟩
      | error cause => exact .inr ⟨_, nodesForQuery_of_compile_error hfilter hcompile,
          nodesForQuery_of_compile_error hfilter (h.registry ▸ hcompile)⟩

/-- Either engine goes on with new nodes in the same way. -/
theorem Beside.pollNodes (h : e.Beside e') (waker : Waker) (q : Query) :
    (e.pollNodes waker q .fresh).1.Beside (e'.pollNodes waker q .fresh).1 ∧
      (e'.pollNodes waker q .fresh).2 = (e.pollNodes waker q .fresh).2 := by
  have herror : ∀ {cause}, e.nodesForQuery q = .error cause → e'.nodesForQuery q = .error cause →
      (e.pollNodes waker q .fresh).1.Beside (e'.pollNodes waker q .fresh).1 ∧
        (e'.pollNodes waker q .fresh).2 = (e.pollNodes waker q .fresh).2 := by
    intro cause heq heq'
    rw [pollNodes_of_error waker heq, pollNodes_of_error waker heq']
    exact ⟨h, rfl⟩
  rcases h.nodesForQuery q with ⟨heq, heq'⟩ | ⟨cause, heq, heq'⟩
  · rcases h.prepare q with ⟨cause, hprepare, hprepare'⟩ | ⟨m, prepared, hprepare, hprepare'⟩ <;>
      rw [hprepare] at heq <;> rw [hprepare'] at heq'
    · exact herror heq heq'
    · cases prepared with
      | stored nodes =>
          rw [pollNodes_of_stored waker heq, pollNodes_of_stored waker heq']
          exact ⟨h.withMaterializer m, rfl⟩
      | snapshots fields request =>
          rw [pollNodes_of_snapshots waker heq, pollNodes_of_snapshots waker heq']
          exact (h.withMaterializer m).pollNodesWaiting waker request
  · exact herror heq heq'

end Engine

namespace Demand

variable {e e' : Engine} {d d' : Demand}

theorem poll_of_finished (h : d.Finished) (e : Engine) (waker : Waker) :
    d.poll e waker = (e, d) := by
  cases d with
  | answer q call =>
      cases call with
      | finished result => rfl
      | _ => exact h.elim
  | nodes q call =>
      cases call with
      | finished result => rfl
      | _ => exact h.elim

/-- **A poll** leaves engines and demands side by side. -/
theorem Beside.poll (h : d.Beside d') (he : e.Beside e') (waker : Waker) :
    (d.poll e waker).1.Beside (d'.poll e' waker).1 ∧
      (d.poll e waker).2.Beside (d'.poll e' waker).2 := by
  cases h with
  | finished hd hd' =>
      rw [poll_of_finished hd, poll_of_finished hd']
      exact ⟨he, .finished hd hd'⟩
  | same =>
      have hnodes : ∀ {q : Query} {call call' : NodesCall}, call' = call →
          (Demand.nodes q call).Beside (.nodes q call') := by
        rintro q call _ rfl
        exact .same _
      cases d with
      | answer q call =>
          cases call with
          | fresh => exact he.poll waker q
          | waiting p fields request => exact he.pollWaiting waker q p fields request
          | finished result => exact ⟨he, .same _⟩
      | nodes q call =>
          cases call with
          | fresh =>
              obtain ⟨hengine, hcall⟩ := he.pollNodes waker q
              exact ⟨hengine, hnodes hcall⟩
          | waiting request =>
              obtain ⟨hengine, hcall⟩ := he.pollNodesWaiting waker request
              exact ⟨hengine, hnodes hcall⟩
          | finished result => exact ⟨he, .same _⟩

end Demand

/-! ## An answer and its nodes -/

/-- An answer and the nodes it is found among, as far as either has come. -/
inductive Paired (r : Registry) (q : Query) : Demand → Demand → Prop
  | fresh : Paired r q (.answer q .fresh) (.nodes q .fresh)
  | waiting {p : Predicate} {request : SnapshotRequest} : Engine.check r q = .ok p →
      Paired r q (.answer q (.waiting p q.required request)) (.nodes q (.waiting request))
  | finished {p : Predicate} {answer : Answer} {nodes : List Node} : Engine.check r q = .ok p →
      q.select p nodes = some answer →
      Paired r q (.answer q (.finished (.ok answer))) (.nodes q (.finished (.ok nodes)))

/-- The query has come to an error. -/
def Demand.Failed : Demand → Prop
  | .answer _ (.finished (.error _)) => True
  | _ => False

theorem Demand.Failed.finished {d : Demand} (h : d.Failed) : d.Finished := by
  unfold Failed at h
  split at h
  · trivial
  · exact h.elim

namespace Engine.Sound

variable {e e' : Engine} {snapshots stored : List Node} {q : Query} {p : Predicate}

/-- What is answered from nodes is found among them, unless the predicate cannot be evaluated. -/
theorem paired_finish (h : e.Sound snapshots stored) (he : e.Beside e')
    (hcheck : Engine.check e.registry q = .ok p) (fields : Option RequiredFields)
    {nodes : List Node} (hnodes : ∀ node ∈ nodes, Stamped (logOf snapshots stored fields) node) :
    (Demand.answer q (Engine.finish (e.answer q p fields nodes)).2).Failed ∨
      (Engine.finish (e.answer q p fields nodes)).1.Beside e' ∧
        Paired e.registry q (.answer q (Engine.finish (e.answer q p fields nodes)).2)
          (.nodes q (.finished (.ok nodes))) := by
  have hselect := (h.answer q p fields hnodes).2
  obtain ⟨hregistry, hstore, hmaterializer⟩ := e.answer_frame q p fields nodes
  have hbeside : (e.answer q p fields nodes).1.Beside e' :=
    ⟨he.registry.trans hregistry.symm, he.store.trans hstore.symm,
      he.materializer.trans hmaterializer.symm⟩
  rw [finish_call]
  cases hresult : (e.answer q p fields nodes).2 with
  | error cause => exact .inl trivial
  | ok answer =>
      rw [hresult] at hselect
      exact .inr ⟨hbeside.finish_left _, .finished hcheck hselect.symm⟩

theorem paired_waiting (h : e.Sound snapshots stored) (he : e.Beside e')
    (hcheck : Engine.check e.registry q = .ok p) {request : SnapshotRequest}
    (hrequest : request.Stamped snapshots) (waker : Waker) :
    (Demand.answer q (e.pollWaiting waker q p q.required request).2).Failed ∨
      (e.pollWaiting waker q p q.required request).1.Beside
          (e'.pollNodesWaiting waker request).1 ∧
        Paired e.registry q (.answer q (e.pollWaiting waker q p q.required request).2)
          (.nodes q (e'.pollNodesWaiting waker request).2) := by
  obtain ⟨more, hpolled, hstate⟩ := h.materializer.poll e.store waker hrequest
  obtain ⟨_, _, _, _, _, _, _, _, rfl⟩ := he.exists_eq
  unfold Engine.pollWaiting pollNodesWaiting pollSnapshots
  dsimp only
  rcases heq : e.materializer.poll e.store waker request with ⟨m, request' | cause | nodes⟩ <;>
    rw [heq] at hpolled hstate
  · exact .inr ⟨he.withMaterializer m, .waiting hcheck⟩
  · exact .inl trivial
  · exact (h.append hpolled).paired_finish (he.withMaterializer m) hcheck _ hstate

/-- **A poll of an answer and of its nodes** finds the one among the other. -/
theorem paired_poll (h : e.Sound snapshots stored) (he : e.Beside e') {d d' : Demand}
    (hd : Paired e.registry q d d') (hstamped : d.Stamped snapshots) (waker : Waker) :
    (d.poll e waker).2.Failed ∨
      (d.poll e waker).1.Beside (d'.poll e' waker).1 ∧
        Paired e.registry q (d.poll e waker).2 (d'.poll e' waker).2 := by
  cases hd with
  | finished hcheck hselect => exact .inr ⟨he, .finished hcheck hselect⟩
  | waiting hcheck => exact h.paired_waiting he hcheck (hstamped _ rfl) waker
  | fresh =>
      simp only [Demand.poll]
      cases hcheck : Engine.check e.registry q with
      | error cause =>
          rw [poll_of_check_error waker hcheck, finish_call]
          exact .inl trivial
      | ok p =>
          have hnodes : e'.nodesForQuery q = e'.prepare q :=
            nodesForQuery_eq_prepare_of_check (he.registry ▸ hcheck)
          rcases he.prepare q with ⟨cause, hprepare, -⟩ | ⟨m, prepared, hprepare, hprepare'⟩
          · rw [poll_of_prepare_error waker hcheck hprepare, finish_call]
            exact .inl trivial
          · obtain ⟨hsound, hprepared⟩ := h.prepare hprepare
            rw [hprepare'] at hnodes
            cases prepared with
            | stored nodes =>
                rw [poll_of_stored waker hcheck hprepare, pollNodes_of_stored waker hnodes]
                exact hsound.paired_finish (he.withMaterializer m) hcheck none hprepared
            | snapshots fields request =>
                obtain rfl : fields = q.required := fields_of_prepare hprepare
                rw [poll_of_snapshots waker hcheck hprepare, pollNodes_of_snapshots waker hnodes]
                exact hsound.paired_waiting (he.withMaterializer m) hcheck hprepared waker

end Engine.Sound

namespace Exchange

/-- Two exchanges go on side by side, of which the first has an answer where the second has the
nodes it is found among. -/
structure Alongside (q : Query) (index : Nat) (x y : Exchange) : Prop where
  engine : x.engine.Beside y.engine
  length : y.demands.length = x.demands.length
  paired : ∃ d d', x.demands[index]? = some d ∧ y.demands[index]? = some d' ∧
    Paired x.engine.registry q d d'
  others : ∀ i, i ≠ index → Option.Rel Demand.Beside x.demands[i]? y.demands[i]?

/-- The demand has come to an error. -/
def Fails (index : Nat) (x : Exchange) : Prop := ∃ d, x.demands[index]? = some d ∧ d.Failed

variable {q : Query} {index : Nat} {x y : Exchange}

theorem getElem?_append_of_some {d other : Demand} (h : x.demands[index]? = some d) :
    (x.demands ++ [other])[index]? = some d := by
  rw [List.getElem?_append_left (List.getElem?_eq_some_iff.mp h).1, h]

/-- What has failed has failed for good. -/
theorem Fails.step (h : x.Fails index) (event : Event) : (x.step event).Fails index := by
  obtain ⟨d, hd, hfailed⟩ := h
  cases event with
  | ask q => exact ⟨d, getElem?_append_of_some hd, hfailed⟩
  | askNodes q => exact ⟨d, getElem?_append_of_some hd, hfailed⟩
  | poll i waker =>
      rw [Exchange.step]
      split
      · exact ⟨d, hd, hfailed⟩
      · rename_i other hother
        by_cases heq : i = index
        · subst heq
          obtain rfl := Option.some.inj (hd.symm.trans hother)
          rw [Demand.poll_of_finished hfailed.finished]
          exact ⟨d, List.getElem?_set_self (List.getElem?_eq_some_iff.mp hd).1, hfailed⟩
        · exact ⟨d, (List.getElem?_set_ne heq).trans hd, hfailed⟩
  | _ => exact ⟨d, hd, hfailed⟩

theorem Fails.run (h : x.Fails index) (events : List Event) : (x.run events).Fails index := by
  induction events generalizing x with
  | nil => exact h
  | cons event rest ih => exact ih (h.step event)

/-- A change of the engines that leaves registries and demands as they are. -/
theorem Alongside.withEngine (h : x.Alongside q index y) {e e' : Engine} (he : e.Beside e')
    (hregistry : e.registry = x.engine.registry) :
    Alongside q index { x with engine := e } { y with engine := e' } where
  engine := he
  length := h.length
  paired := hregistry ▸ h.paired
  others := h.others

/-- Something more is asked for in both exchanges. -/
theorem Alongside.append (h : x.Alongside q index y) (d : Demand) :
    Alongside q index { x with demands := x.demands ++ [d] }
      { y with demands := y.demands ++ [d] } where
  engine := h.engine
  length := by simp [h.length]
  paired := by
    obtain ⟨first, second, hfirst, hsecond, hpaired⟩ := h.paired
    exact ⟨first, second, getElem?_append_of_some hfirst, getElem?_append_of_some hsecond, hpaired⟩
  others := by
    intro i hi
    simp only [List.getElem?_append, h.length]
    split
    · exact h.others i hi
    · cases ([d] : List Demand)[i - x.demands.length]? with
      | none => exact .none
      | some other => exact .some (.same other)

/-- Engines that go on side by side, with demands elsewhere that do. -/
theorem Alongside.set (h : x.Alongside q index y) {e e' : Engine} (he : e.Beside e')
    (hregistry : e.registry = x.engine.registry) {i : Nat} (hi : i ≠ index) {d d' : Demand}
    (hd : d.Beside d') :
    Alongside q index { engine := e, demands := x.demands.set i d }
      { engine := e', demands := y.demands.set i d' } where
  engine := he
  length := by simp [h.length]
  paired := by
    obtain ⟨first, second, hfirst, hsecond, hpaired⟩ := h.paired
    exact ⟨first, second, (List.getElem?_set_ne hi).trans hfirst,
      (List.getElem?_set_ne hi).trans hsecond, hregistry ▸ hpaired⟩
  others := by
    intro j hj
    simp only [List.getElem?_set, h.length]
    split
    · split
      · exact .some hd
      · exact .none
    · exact h.others j hj

/-- The query and its nodes are polled. -/
theorem Alongside.poll_self (h : x.Alongside q index y) (hsound : x.Sound) (waker : Waker) :
    (x.step (.poll index waker)).Fails index ∨
      (x.step (.poll index waker)).Alongside q index (y.step (.poll index waker)) := by
  obtain ⟨⟨snapshots, stored⟩, hengine, hdemands⟩ := hsound
  obtain ⟨first, second, hfirst, hsecond, hpaired⟩ := h.paired
  have hlt : index < x.demands.length := (List.getElem?_eq_some_iff.mp hfirst).1
  have hlt' : index < y.demands.length := h.length ▸ hlt
  have hpoll := hengine.paired_poll h.engine hpaired
    (hdemands first (List.mem_of_getElem? hfirst)) waker
  simp only [Exchange.step, hfirst, hsecond]
  rcases hpoll with hfailed | ⟨hbeside, hpaired'⟩
  · exact .inl ⟨_, List.getElem?_set_self hlt, hfailed⟩
  · refine .inr ⟨hbeside, by simp [h.length], ⟨_, _, List.getElem?_set_self hlt,
      List.getElem?_set_self hlt', (first.poll_turn _ waker).1.symm ▸ hpaired'⟩, ?_⟩
    intro j hj
    simp only [List.getElem?_set_ne hj.symm]
    exact h.others j hj

/-- Anything else is polled. -/
theorem Alongside.poll_other (h : x.Alongside q index y) {i : Nat} (hi : i ≠ index)
    (waker : Waker) :
    (x.step (.poll i waker)).Alongside q index (y.step (.poll i waker)) := by
  have hother := h.others i hi
  simp only [Exchange.step]
  generalize hx : x.demands[i]? = first at hother
  generalize hy : y.demands[i]? = second at hother
  cases hother with
  | none => exact h
  | @some d d' hbeside =>
      obtain ⟨hengine, hdemand⟩ := hbeside.poll h.engine waker
      exact h.set hengine (d.poll_turn _ waker).1 hi hdemand

/-- **Whatever happens** in either exchange, they go on side by side unless the query fails. -/
theorem Alongside.step (h : x.Alongside q index y) (hsound : x.Sound) (event : Event) :
    (x.step event).Fails index ∨ (x.step event).Alongside q index (y.step event) := by
  have hengine := h.engine
  cases event with
  | ask q' => exact .inr (h.append _)
  | askNodes q' => exact .inr (h.append _)
  | poll i waker =>
      by_cases hi : i = index
      · subst hi
        exact h.poll_self hsound waker
      · exact .inr (h.poll_other hi waker)
  | upsert node =>
      refine .inr (h.withEngine ⟨hengine.registry, ?_, hengine.materializer⟩ rfl)
      exact congrArg (NodeStore.upsert · node) hengine.store
  | remove id =>
      refine .inr (h.withEngine ⟨hengine.registry, ?_, hengine.materializer⟩ rfl)
      exact congrArg (fun store => (NodeStore.remove store id).1) hengine.store
  | signal signal =>
      refine .inr (h.withEngine ⟨?_, ?_, ?_⟩ (x.engine.drops_handle signal).1)
      · rw [(y.engine.drops_handle signal).1, (x.engine.drops_handle signal).1, hengine.registry]
      · rw [(y.engine.drops_handle signal).2.1, (x.engine.drops_handle signal).2.1, hengine.store]
      · cases signal with
        | cacheCleared => exact congrArg Materializer.clear hengine.materializer
        | bootstrapFinished => exact congrArg Materializer.finishBootstrap hengine.materializer
        | nodeChanged id version =>
            exact congrArg (fun m => (Materializer.invalidate m id version).1) hengine.materializer
  | agenda agenda =>
      refine .inr (h.withEngine ⟨hengine.registry, hengine.store, ?_⟩ rfl)
      exact congrArg (fun m => { m with agenda }) hengine.materializer

theorem Alongside.run (h : x.Alongside q index y) (hsound : x.Sound) (events : List Event) :
    (x.run events).Fails index ∨ (x.run events).Alongside q index (y.run events) := by
  induction events generalizing x y with
  | nil => exact .inr h
  | cons event rest ih =>
      rcases h.step hsound event with hfails | halongside
      · exact .inl (hfails.run rest)
      · exact ih halongside (hsound.step kept_sound trivial)

/-- Asking for an answer or for its nodes is how two exchanges come to go on side by side. -/
theorem alongside_ask (x : Exchange) (q : Query) :
    (x.step (.ask q)).Alongside q x.demands.length (x.step (.askNodes q)) where
  engine := .refl x.engine
  length := by simp [Exchange.step]
  paired := ⟨.answer q .fresh, .nodes q .fresh, by simp [Exchange.step], by simp [Exchange.step],
    .fresh⟩
  others := by
    intro i hi
    simp only [Exchange.step, List.getElem?_append]
    split
    · cases x.demands[i]? with
      | none => exact .none
      | some d => exact .some (.same d)
    · rw [List.getElem?_eq_none (by simp; omega), List.getElem?_eq_none (by simp; omega)]
      exact .none

end Exchange

/-! ## What is rejected -/

/-- An answer without a page. -/
theorem Query.eq_of_select {q : Query} {p : Predicate} {nodes : List Node} {answer : Answer}
    (h : q.select p nodes = some answer) (hfirst : q.firstOnly = false)
    (hskip : q.args.skip = none) (hlimit : q.args.limit = none) :
    answer = .many ((q.args.sort.getD []).sort (nodes.filter fun node => p.holds node.body)) := by
  unfold select at h
  split at h
  · cases h
  · simpa [hfirst, hskip, hlimit, Answer.paginate] using h.symm

namespace Engine

variable {e : Engine} {q : Query}

theorem prepare_error_iff (e : Engine) (q : Query) :
    (∃ cause, e.prepare q = .error cause) ↔
      q.required ≠ [] ∧ ∃ cause, e.materializer.needsResolution q.typeName q.required =
        .error cause := by
  unfold prepare
  dsimp only
  split
  · rename_i hnone
    simp [List.isEmpty_iff.mp hnone]
  · rename_i hsome
    have hrequired : q.required ≠ [] := fun heq => hsome (List.isEmpty_iff.mpr heq)
    split <;> rename_i heq <;> simp [heq, hrequired]

/-- **When nodes are not given out**: their filter is rejected, or it cannot be told whether
resolvers are needed. -/
theorem nodesForQuery_error_iff (e : Engine) (q : Query) :
    (∃ cause, e.nodesForQuery q = .error cause) ↔
      (∃ filter cause, q.args.filter = some filter ∧
        Filter.compile e.registry q.typeName filter = .error cause) ∨
      q.required ≠ [] ∧ ∃ cause, e.materializer.needsResolution q.typeName q.required =
        .error cause := by
  rw [← e.prepare_error_iff q]
  cases hfilter : q.args.filter with
  | none =>
      rw [nodesForQuery_eq_prepare hfilter]
      simp
  | some filter =>
      cases hcompile : Filter.compile e.registry q.typeName filter with
      | ok p =>
          rw [nodesForQuery_of_compile hfilter hcompile]
          simp [hcompile]
      | error cause =>
          rw [nodesForQuery_of_compile_error hfilter hcompile]
          simp [hcompile]

end Engine

namespace Exchange

/-- An answer to a query, and nodes that were given out for it in the other exchange, whatever
happened meanwhile: what the query selects from these. -/
theorem select_of_answered {registry : Registry} {config : Config} {path : Option String}
    {nodes : List Node} {before after : List Event} {q : Query} {answer : Answer}
    {found : List Node} {x : Exchange} (hx : x = (start registry config path nodes).run before)
    (hanswer : (x.run (.ask q :: after)).demands[x.demands.length]? =
      some (.answer q (.finished (.ok answer))))
    (hfound : (x.run (.askNodes q :: after)).demands[x.demands.length]? =
      some (.nodes q (.finished (.ok found)))) :
    ∃ p, Engine.check registry q = .ok p ∧ q.select p found = some answer := by
  have hsound : x.Sound := hx ▸ sound_run registry config path nodes before
  have hregistry : (x.run (.ask q :: after)).engine.registry = registry := by
    rw [hx, ← run_append]
    exact (frame_run registry config path nodes (before ++ .ask q :: after)).1
  rcases (alongside_ask x q).run (hsound.step kept_sound trivial) after with
    ⟨d, hd, hfailed⟩ | halongside
  · obtain rfl := Option.some.inj (hd.symm.trans hanswer)
    exact hfailed.elim
  · obtain ⟨d, d', hd, hd', hpaired⟩ := halongside.paired
    obtain rfl := Option.some.inj (hd.symm.trans hanswer)
    obtain rfl := Option.some.inj (hd'.symm.trans hfound)
    cases hpaired with
    | @finished p _ _ hcheck hselect => exact ⟨p, hregistry ▸ hcheck, hselect⟩

/-- **Two ways into an engine.** Whatever happened before: if nodes are refused at once, the query
does not pass its check. If the filter is rejected, both are rejected for its sake. But otherwise
nodes are refused at once only if fields are required of which it cannot be told whether they need
resolvers. And if, whatever happens later, the query is answered and its nodes are given out, the
answer without a page is what the predicate finds among the nodes, sorted. -/
theorem entry_points (registry : Registry) (config : Config) (path : Option String)
    (nodes : List Node) (before after : List Event) (q : Query) :
    let x := (start registry config path nodes).run before
    ((∃ cause, x.engine.nodesForQuery q = .error cause) →
      ∃ cause, Engine.check registry q = .error cause) ∧
    (∀ filter cause, q.args.filter = some filter →
      Filter.compile registry q.typeName filter = .error cause →
        Engine.check registry q = .error cause ∧
          x.engine.nodesForQuery q = .error (.rejected cause)) ∧
    ((∃ cause, x.engine.nodesForQuery q = .error cause) ↔
      (∃ filter cause, q.args.filter = some filter ∧
        Filter.compile registry q.typeName filter = .error cause) ∨
      q.required ≠ [] ∧ ∃ cause, registry.needsResolution q.typeName q.required = .error cause) ∧
    ∀ answer found,
      (x.run (.ask q :: after)).demands[x.demands.length]? =
        some (.answer q (.finished (.ok answer))) →
      (x.run (.askNodes q :: after)).demands[x.demands.length]? =
        some (.nodes q (.finished (.ok found))) →
      q.firstOnly = false → q.args.skip = none → q.args.limit = none →
      ∃ p, Filter.compile registry q.typeName (q.args.filter.getD []) = .ok p ∧
        answer =
          .many ((q.args.sort.getD []).sort (found.filter fun node => p.holds node.body)) := by
  intro x
  obtain ⟨hregistry, hmaterializer, -⟩ := frame_run registry config path nodes before
  have hrefused := x.engine.nodesForQuery_error_iff q
  rw [Materializer.needsResolution, hregistry, hmaterializer] at hrefused
  refine ⟨fun hnodes => ?_, fun filter cause hfilter hcompile => ⟨?_, ?_⟩, hrefused, ?_⟩
  · cases hcheck : Engine.check registry q with
    | error cause => exact ⟨cause, rfl⟩
    | ok p =>
        obtain ⟨needs, hneeds⟩ := Query.needsResolution_ok hcheck
        rcases hrefused.mp hnodes with ⟨filter, cause, hfilter, hcompile⟩ | ⟨-, cause, hcause⟩
        · have hok := (Query.of_check hcheck).1
          rw [hfilter, Option.getD_some, hcompile] at hok
          cases hok
        · rw [hneeds] at hcause
          cases hcause
  · simp only [Engine.check, hfilter, Option.getD_some, hcompile]
    rfl
  · exact Engine.nodesForQuery_of_compile_error hfilter (hregistry ▸ hcompile)
  · intro answer found hanswer hfound hfirst hskip hlimit
    obtain ⟨p, hcheck, hselect⟩ := select_of_answered rfl hanswer hfound
    exact ⟨p, (Query.of_check hcheck).1, Query.eq_of_select hselect hfirst hskip hlimit⟩

/-! ### A query for shouts, and the nodes it is answered from -/

/-- The shout of the post is waited for, whether the query or its nodes are asked for. -/
theorem entry_points_shouting :
    let x := start Session.shoutRegistry {} none [Session.titled "old"]
    let polls : List Event := [.poll 0 .caller, .poll 0 .caller]
    ∃ answer found,
      (x.run (.ask Session.shouts :: polls)).demands[0]? =
        some (.answer Session.shouts (.finished (.ok answer))) ∧
      (x.run (.askNodes Session.shouts :: polls)).demands[0]? =
        some (.nodes Session.shouts (.finished (.ok found))) ∧
      ∃ p : Predicate,
        answer = .many (SortSpec.sort [] (found.filter fun node => p.holds node.body)) := by
  intro x polls
  obtain ⟨answer, hanswer⟩ : ∃ answer, (x.run (.ask Session.shouts :: polls)).demands[0]? =
      some (.answer Session.shouts (.finished (.ok answer))) := by
    rw [show x = start _ _ _ _ from rfl, start, Session.ofList_titled]
    exact ⟨_, by with_unfolding_all rfl⟩
  obtain ⟨found, hfound⟩ : ∃ found, (x.run (.askNodes Session.shouts :: polls)).demands[0]? =
      some (.nodes Session.shouts (.finished (.ok found))) := by
    rw [show x = start _ _ _ _ from rfl, start, Session.ofList_titled]
    exact ⟨_, by with_unfolding_all rfl⟩
  obtain ⟨-, -, -, hanswers⟩ :=
    entry_points Session.shoutRegistry {} none [Session.titled "old"] [] polls Session.shouts
  obtain ⟨p, -, heq⟩ := hanswers answer found hanswer hfound rfl rfl rfl
  exact ⟨answer, found, hanswer, hfound, p, heq⟩

/-- Posts sorted by something inside their title, which has no fields. -/
def insideTitle : Query where
  typeName := "Post"
  args := { sort := some [⟨"title.x", .ascending⟩] }

/-- **Nodes are given out for a query that is rejected**: the path of its sort does not fit the
field, and is not looked at when nodes are asked for. -/
theorem nodes_of_rejected :
    let x := start Session.shoutRegistry {} none [Session.titled "old"]
    (∃ cause : Rejection, (x.run [.ask insideTitle, .poll 0 .caller]).demands =
        [.answer insideTitle (.finished (.error (.rejected cause)))] ∧
      cause.code = "NQ_SCHEMA_MISMATCH") ∧
    (x.run [.askNodes insideTitle, .poll 0 .caller]).demands =
      [.nodes insideTitle (.finished (.ok [Session.titled "old"]))] := by
  intro x
  obtain ⟨cause, hcheck, hcode⟩ : ∃ cause, Engine.check Session.shoutRegistry insideTitle =
      .error cause ∧ cause.code = "NQ_SCHEMA_MISMATCH" :=
    ⟨_, by with_unfolding_all rfl, by with_unfolding_all rfl⟩
  refine ⟨⟨cause, ?_, hcode⟩, ?_⟩
  · rw [run_ask_poll x _ _ 0 rfl]
    simp only [Demand.poll, Engine.poll_of_check_error (e := x.engine) .caller hcheck,
      Engine.finish_call]
    rfl
  · have hrequired : insideTitle.required = [⟨"title", [⟨"x", []⟩]⟩] := by decide +kernel
    have hneeds : Session.shoutRegistry.needsResolution "Post" insideTitle.required =
        .ok false := by
      rw [hrequired]
      rfl
    have hnodes : x.engine.nodesForQuery insideTitle =
        .ok (x.engine, .stored (x.engine.store.ofType "Post")) :=
      (Engine.nodesForQuery_eq_prepare (e := x.engine) (q := insideTitle) rfl).trans
        (Engine.prepare_of_needsResolution (e := x.engine) (q := insideTitle) hneeds)
    have hstore : x.engine.store.ofType "Post" = [Session.titled "old"] := by
      rw [show x.engine.store = NodeStore.ofList _ from rfl, Session.ofList_titled]
      rfl
    rw [run_askNodes_poll x _ _ 0 rfl]
    simp only [Demand.poll, Engine.pollNodes_of_stored (e := x.engine) .caller hnodes, hstore]
    rfl

end Exchange

end ContentQuery
