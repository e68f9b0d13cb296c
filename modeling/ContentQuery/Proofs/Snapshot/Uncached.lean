import ContentQuery.Proofs.Schema.Built
import ContentQuery.Proofs.Snapshot.Alone
import ContentQuery.Proofs.Snapshot.Sequence

/-!
# Batches without caches

Where nothing is cached, each request has tasks of its own, one for each of its nodes. A task ends with
what resolving the required fields of its node afresh gives, however the polls of all tasks and of all
requests interleave. So a request that has ended gives snapshots if each of its nodes resolves, one for
each and in their order, and fails if one does not (**`Terms.Settled.isOk_iff`**,
**`Terms.Settled.snapshots`**).
-/

namespace ContentQuery

open Json (Object)

/-- Every resolver of every type is pure where these stores are at hand. -/
def Registry.Pure (r : Registry) (S : NodeStore → Prop) : Prop :=
  ∀ t ∈ r.types, ∀ field ∈ t.fields, ∀ resolver, field.resolver = some resolver → resolver.PureOver S

theorem Registry.Pure.pureOver {r : Registry} {S : NodeStore → Prop} (h : r.Pure S) {t : ObjectType}
    (ht : t ∈ r.types) (required : RequiredFields) : r.PureOver S t required := by
  match required with
  | [] =>
      rw [PureOver]
      trivial
  | ⟨name, inner⟩ :: rest =>
      rw [PureOver]
      refine ⟨fun field hfield => ⟨?_, ?_⟩, h.pureOver ht rest⟩
      · exact h t ht field (List.mem_of_find?_eq_some hfield)
      · intro nested t' _ ht'
        exact h.pureOver (mem_of_type? ht') inner
termination_by sizeOf required

namespace Terms

variable (T : Terms)

/-- What the required fields of a node resolve to, if they do. -/
def body? (t : ObjectType) (fields : RequiredFields) (node : Node) : Option Object :=
  Completion.resolve ⟨T.registry, T.path, node.id⟩ T.store t fields node.body

/-- The snapshot is the node with what its fields resolve to. -/
def IsSnapshot (t : ObjectType) (fields : RequiredFields) (snapshot node : Node) : Prop :=
  ∃ body stamp, T.body? t fields node = some body ∧ snapshot = node.withBody body stamp

/-- A task has work of its own on the node, or what came of it. -/
def TaskFor (t : ObjectType) (fields : RequiredFields) (node : Node) : Task → Prop
  | .own copy work =>
    copy = node ∧ work.Refines T.stores (node.completion T.registry T.path t fields)
  | .shared _ _ => False
  | .finished snapshot => T.IsSnapshot t fields snapshot node
  | .failed _ => T.body? t fields node = none

/-- The tasks are for the nodes, one each. -/
def TasksFor (t : ObjectType) (fields : RequiredFields) (tasks : List Task) (nodes : List Node) : Prop :=
  List.Forall₂ (fun task node => T.TaskFor t fields node task) tasks nodes

/-- What has become of a request for an order: it has not begun, or it has tasks for the nodes; or each
node resolves to its snapshot, or one of them does not. -/
def Settled (order : Order) : Promise SnapshotRequest (List Node) → Prop
  | .pending (.own (.fresh typeName nodes fields)) => order = ⟨typeName, nodes, fields⟩
  | .pending (.own (.running tasks)) | .pending (.own (.crowd _ tasks)) =>
    ∃ t, T.registry.type? order.typeName = some t ∧ T.TasksFor t order.fields tasks order.nodes
  | .pending (.shared _ _) => False
  | .kept (.ok snapshots) => ∃ t, T.registry.type? order.typeName = some t ∧
    List.Forall₂ (T.IsSnapshot t order.fields) snapshots order.nodes
  | .kept (.error _) => ∀ t, T.registry.type? order.typeName = some t →
    ∃ node ∈ order.nodes, T.body? t order.fields node = none

variable {T} {m m' : Materializer} {t : ObjectType} {fields : RequiredFields} {node : Node}
  {nodes : List Node} {order : Order}

/-! ## One poll -/

/-- **One poll of a task** leaves it with its node. -/
theorem TaskFor.pollTask (hm : T.Bare m) (hpure : T.registry.PureOver T.stores t fields)
    {task : Task} (h : T.TaskFor t fields node task) {now : NodeStore} (hnow : T.stores now)
    (waker : Waker) :
    T.Bare (Materializer.pollTask now waker task m).1 ∧
      T.TaskFor t fields node (Materializer.pollTask now waker task m).2 := by
  cases task with
  | finished snapshot => exact ⟨hm, h⟩
  | failed e => exact ⟨hm, h⟩
  | shared key promise => exact h.elim
  | own copy work =>
      obtain ⟨rfl, hwork⟩ := h
      have hpoll := Work.poll_refines hnow waker work m.toPollState
      rw [Materializer.pollTask, Materializer.pollWork]
      rcases hpolled : Work.poll now waker work m.toPollState with ⟨s, left⟩
      rw [hpolled] at hpoll
      -- Whatever the work ends with is what the fields of the node resolve to.
      have hends : ∀ r, Work.Ends T.stores left r →
          r.toOption = (T.body? t fields copy).map .object := by
        intro r hr
        exact Completion.toOption_of_ends_fields T.mem hpure (hwork r (hpoll r hr))
      have hbare : T.Bare { m with toPollState := s } := ⟨hm.registry, hm.path, hm.nodes, hm.batches⟩
      cases left with
      | done v =>
          obtain ⟨body, hbody, hv⟩ := Option.map_eq_some_iff.mp (hends (.ok v) rfl).symm
          refine ⟨⟨hm.registry, hm.path, hm.nodes, hm.batches⟩, body, m.nextStamp, hbody, ?_⟩
          rw [← hv]
          rfl
      | failed e => exact ⟨hbare, Option.map_eq_none_iff.mp (hends (.error e) rfl).symm⟩
      | call | waiting | join | crowd => exact ⟨hbare, rfl, hpoll.trans hwork⟩

/-- Polls of single tasks leave all of them with their nodes. -/
theorem tasksFor_of_progress (hm : T.Bare m) (hpure : T.registry.PureOver T.stores t fields)
    {now : NodeStore} (hnow : T.stores now) {tasks tasks' : List Task}
    (hprogress : (Materializer.crowdRule now).Progress m tasks m' tasks')
    (h : T.TasksFor t fields tasks nodes) : T.Bare m' ∧ T.TasksFor t fields tasks' nodes := by
  induction hprogress with
  | refl => exact ⟨hm, h⟩
  | agenda _ _ ih =>
      obtain ⟨hbare, htasks⟩ := ih
      exact ⟨⟨hbare.registry, hbare.path, hbare.nodes, hbare.batches⟩, htasks⟩
  | @poll m' tasks' waker index task _ hpart ih =>
      obtain ⟨hbare, htasks⟩ := ih
      obtain ⟨node, -, htask⟩ := exists_getElem?_of_forall₂ htasks hpart
      obtain ⟨hbare', -⟩ := htask.pollTask hbare hpure hnow waker
      refine ⟨hbare', ?_⟩
      exact forall₂_set htasks (fun _ _ h => h) hpart
        fun node htask => (htask.pollTask hbare hpure hnow waker).2

theorem tasksFor_own (t : ObjectType) (fields : RequiredFields) (nodes : List Node) :
    T.TasksFor t fields
      (nodes.map fun node => .own node (node.completion T.registry T.path t fields)) nodes := by
  induction nodes with
  | nil => exact .nil
  | cons node rest ih => exact .cons ⟨rfl, .refl _⟩ ih

/-- What becomes of a batch whose tasks are for the nodes of an order. -/
theorem settled_of_polled (ht : T.registry.type? order.typeName = some t) {tasks : List Task}
    (h : T.TasksFor t order.fields tasks order.nodes) {state : Promise Batch (List Node)}
    (hpolled : Batch.Polled tasks state) : T.Settled order (SnapshotRequest.ofOwn state) := by
  cases hpolled with
  | running => exact ⟨t, ht, h⟩
  | crowd number => exact ⟨t, ht, h⟩
  | @kept snapshots heq =>
      subst heq
      have hfinished : List.Forall₂ (fun task node => T.TaskFor t order.fields node task)
          (snapshots.map .finished) order.nodes := h
      have hsnapshots := List.forall₂_map_left_iff.mp hfinished
      exact ⟨t, ht, hsnapshots⟩
  | @failed e hmem =>
      intro t' ht'
      rw [ht] at ht'
      obtain rfl := Option.some.inj ht'
      obtain ⟨i, hi⟩ := List.getElem?_of_mem hmem
      obtain ⟨node, hnode, hfailed⟩ := exists_getElem?_of_forall₂ h hi
      exact ⟨node, List.mem_of_getElem? hnode, hfailed⟩

/-- **One poll of a request** leaves it with its order. -/
theorem Settled.poll (hm : T.Bare m) (hpure : T.registry.Pure T.stores) {request : SnapshotRequest}
    (h : T.Settled order (.pending request)) {now : NodeStore} (hnow : T.stores now)
    (waker : Waker) :
    T.Bare (m.poll now waker request).1 ∧ T.Settled order (m.poll now waker request).2 := by
  cases request with
  | shared key promise => exact h.elim
  | own batch =>
      rw [Materializer.poll_own]
      rcases Materializer.pollBatch_progress now m waker batch with
        ⟨typeName, nodes, fields, rfl, ht, hpolled⟩ | ⟨m₁, tasks, tasks', hsetUp, hprogress, hpolled⟩
      · rw [hpolled]
        refine ⟨hm, fun t ht' => ?_⟩
        obtain rfl : order = ⟨typeName, nodes, fields⟩ := h
        rw [hm.registry, ht'] at ht
        cases ht
      · have hbefore : T.Bare m₁ ∧ ∃ t, T.registry.type? order.typeName = some t ∧
            T.TasksFor t order.fields tasks order.nodes := by
          cases hsetUp with
          | running => exact ⟨hm, h⟩
          | crowd number => exact ⟨hm, h⟩
          | @fresh typeName nodes fields t ht =>
              obtain rfl : order = ⟨typeName, nodes, fields⟩ := h
              rw [hm.registry] at ht
              rw [Materializer.tasks_own hm.nodes, hm.registry, hm.path]
              exact ⟨hm, t, ht, tasksFor_own t fields nodes⟩
        obtain ⟨hbare, t, ht, htasks⟩ := hbefore
        obtain ⟨hbare', htasks'⟩ := tasksFor_of_progress hbare
          (hpure.pureOver (Registry.mem_of_type? ht) order.fields) hnow hprogress htasks
        exact ⟨hbare', settled_of_polled ht htasks' hpolled⟩

/-! ## The desk -/

/-- Resolvers answer from one of the stores. -/
def Answers (T : Terms) : Desk.Event → Prop
  | .store now => T.stores now
  | _ => True

/-- A desk that caches nothing, with requests that have their orders. -/
structure Uncached (T : Terms) (d : Desk) : Prop where
  bare : T.Bare d.maker
  store : T.stores d.store
  errands : ∀ errand ∈ d.errands, T.Settled errand.order errand.state

/-- A change that leaves the requests where they are. -/
theorem Uncached.of_errands {d d' : Desk} (h : T.Uncached d) (hbare : T.Bare d'.maker)
    (hstore : T.stores d'.store) (herrands : d'.errands = d.errands) : T.Uncached d' :=
  ⟨hbare, hstore, herrands ▸ h.errands⟩

theorem Uncached.step {d : Desk} (h : T.Uncached d) (hpure : T.registry.Pure T.stores)
    {event : Desk.Event} (hevent : T.Answers event) : T.Uncached (d.step event) := by
  have hbare := h.bare
  cases event with
  | request order =>
      rw [Desk.step, Materializer.request_own hbare.batches]
      refine ⟨hbare, h.store, fun errand hmem => ?_⟩
      rcases List.mem_append.mp hmem with hmem | hmem
      · exact h.errands errand hmem
      · obtain rfl := List.mem_singleton.mp hmem
        rfl
  | poll index waker =>
      rw [Desk.step]
      split
      · rename_i order request herrand
        obtain ⟨hbare', hsettled⟩ :=
          (h.errands _ (List.mem_of_getElem? herrand)).poll hbare hpure h.store waker
        refine ⟨hbare', h.store, fun errand hmem => ?_⟩
        rcases List.mem_or_eq_of_mem_set hmem with hmem | rfl
        · exact h.errands errand hmem
        · exact hsettled
      · exact h
  | store now => exact h.of_errands hbare hevent rfl
  | invalidate id version =>
      exact h.of_errands ⟨hbare.registry, hbare.path, hbare.nodes, hbare.batches⟩ h.store rfl
  | clear => exact h.of_errands ⟨hbare.registry, hbare.path, hbare.nodes, hbare.batches⟩ h.store rfl
  | finishBootstrap =>
      exact h.of_errands ⟨hbare.registry, hbare.path, hbare.nodes, hbare.batches⟩ h.store rfl
  | agenda agenda =>
      exact h.of_errands ⟨hbare.registry, hbare.path, hbare.nodes, hbare.batches⟩ h.store rfl

theorem Uncached.run {d : Desk} (h : T.Uncached d) (hpure : T.registry.Pure T.stores)
    {events : List Desk.Event} (hevents : ∀ event ∈ events, T.Answers event) :
    T.Uncached (d.run events) := by
  induction events generalizing d with
  | nil => exact h
  | cons event rest ih =>
      obtain ⟨hevent, hrest⟩ := List.forall_mem_cons.mp hevents
      exact ih (h.step hpure hevent) hrest

theorem uncached_start (production : Bool) :
    T.Uncached (Desk.start T.registry T.path ⟨production, false, false⟩ T.store) :=
  ⟨⟨rfl, rfl, rfl, rfl⟩, T.mem, fun _ hmem => nomatch hmem⟩

/-! ## What a request ends with -/

/-- **Snapshots, one for each node.** -/
theorem Settled.snapshots {snapshots : List Node} (h : T.Settled order (.kept (.ok snapshots)))
    (ht : T.registry.type? order.typeName = some t) :
    List.Forall₂ (T.IsSnapshot t order.fields) snapshots order.nodes := by
  obtain ⟨t', ht', hsnapshots⟩ := h
  rw [ht] at ht'
  obtain rfl := Option.some.inj ht'
  exact hsnapshots

/-- **A request that has ended gives snapshots** if its type is there and every node resolves, and only
then. -/
theorem Settled.isOk_iff {result : Except SnapshotError (List Node)}
    (h : T.Settled order (.kept result)) : (∃ snapshots, result = .ok snapshots) ↔
      ∃ t, T.registry.type? order.typeName = some t ∧
        ∀ node ∈ order.nodes, (T.body? t order.fields node).isSome := by
  cases result with
  | ok snapshots =>
      obtain ⟨t, ht, hsnapshots⟩ := h
      refine iff_of_true ⟨snapshots, rfl⟩ ⟨t, ht, fun node hnode => ?_⟩
      obtain ⟨i, hi⟩ := List.getElem?_of_mem hnode
      obtain ⟨snapshot, -, body, -, hbody, -⟩ := exists_getElem?_of_forall₂ hsnapshots.flip hi
      rw [hbody]
      rfl
  | error e =>
      refine iff_of_false (fun ⟨_, hok⟩ => by cases hok) fun ⟨t, ht, hall⟩ => ?_
      obtain ⟨node, hnode, hfailed⟩ := h t ht
      have hsome := hall node hnode
      rw [hfailed] at hsome
      cases hsome

end Terms

end ContentQuery
