import ContentQuery.Proofs.Snapshot.Desk
import ContentQuery.Proofs.Snapshot.Ledger

/-!
# A node on its own

Where nothing is cached and the snapshot of one node is asked for, every call that is made is made for
that node. So once it is given, the journal holds the calls of completing the node, however often the
request was polled and whatever happened in between (**`Terms.Alone.count`**).
-/

namespace ContentQuery

namespace Desk

/-- Nothing is dropped on purpose, requests are fair, and resolvers answer from one of the stores. -/
def Event.Calm (T : Terms) : Event → Prop
  | .request order => T.Fair order
  | .store now => T.stores now
  | .invalidate _ _ | .clear => False
  | _ => True

/-- No request is made. -/
def Event.Silent : Event → Prop
  | .request _ => False
  | _ => True

end Desk

namespace Terms

variable (T : Terms)

/-- The one order for a node. -/
def single (node : Node) (fields : RequiredFields) : Order := ⟨node.typeName, [node], fields⟩

/-- A desk without caches at which the snapshot of a node, and no other, was asked for and given. -/
def Alone (node : Node) (fields : RequiredFields) (d : Desk) : Prop :=
  ∃ (production : Bool) (events : List Desk.Event) (snapshots : List Node),
    T.Fair (single node fields) ∧ (∀ event ∈ events, event.Calm T ∧ event.Silent) ∧
    d = (Desk.start T.registry T.path ⟨production, false, false⟩ T.store).run
      (.request (single node fields) :: events) ∧
    d.errands = [⟨single node fields, .kept (.ok snapshots)⟩]

/-- The account to which everything in the journal is charged. -/
def whole (node : Node) (fields : RequiredFields) (j : Journal) : Account :=
  ⟨node, fields, fun call => j.count call⟩

/-- A task of its own, or what came of it, covers the journal. -/
def CoversTask (a : Account) : Task → Prop
  | .own copy work => T.Covers a (.pending (copy, work))
  | .shared _ _ => False
  | .finished snapshot => T.Covers a (.kept (.ok snapshot))
  | .failed e => T.Covers a (.kept (.error e))

/-- All that a maker did so far, it did for the one node. -/
def CoversRequest (m : Materializer) (node : Node) (fields : RequiredFields) :
    Promise SnapshotRequest (List Node) → Prop
  | .pending (.own (.fresh typeName nodes fields')) =>
    (⟨typeName, nodes, fields'⟩ : Order) = single node fields ∧ m.journal = []
  | .pending (.own (.running tasks)) | .pending (.own (.crowd _ tasks)) =>
    ∃ task, tasks = [task] ∧ T.CoversTask (whole node fields m.journal) task
  | .pending (.shared _ _) => False
  | .kept (.ok _) => ∀ call, m.journal.count call = T.calls node fields call
  | .kept (.error _) => True

variable {T} {m m' : Materializer} {node : Node} {fields : RequiredFields}

/-- A maker that caches nothing. -/
structure Bare (T : Terms) (m : Materializer) : Prop where
  registry : m.registry = T.registry
  path : m.path = T.path
  nodes : m.policy.nodes = false
  batches : m.policy.batches = false

/-- **One poll of the task** of the node adds to the journal what it spends. -/
theorem CoversTask.pollTask (hm : T.Bare m) {task : Task}
    (h : T.CoversTask (whole node fields m.journal) task) {now : NodeStore} (hnow : T.stores now)
    (waker : Waker) :
    T.Bare (Materializer.pollTask now waker task m).1 ∧
      T.CoversTask (whole node fields (Materializer.pollTask now waker task m).1.journal)
        (Materializer.pollTask now waker task m).2 := by
  cases task with
  | finished snapshot => exact ⟨hm, h⟩
  | failed e => exact ⟨hm, h⟩
  | shared key promise => exact h.elim
  | own copy work =>
      have hbefore : T.Covers (whole node fields m.journal) (.pending (copy, work)) := h
      obtain ⟨a, hcharges, hcovers⟩ := hbefore.pollWork hnow m waker
      have hcharged : a.charged =
          fun call => (m.pollWork now waker copy work).1.journal.count call := by
        funext call
        have hcall := hcharges.charged call
        dsimp only [whole] at hcall
        omega
      have ha : a = whole node fields (m.pollWork now waker copy work).1.journal := by
        calc a = ⟨a.node, a.fields, a.charged⟩ := rfl
          _ = _ := by rw [hcharges.node, hcharges.fields, hcharged]; rfl
      have hbare : T.Bare (m.pollWork now waker copy work).1 := by
        obtain ⟨s, stamp, heq⟩ := m.pollWork_eq now waker copy work
        rw [heq]
        exact ⟨hm.registry, hm.path, hm.nodes, hm.batches⟩
      rw [ha] at hcovers
      rw [Materializer.pollTask]
      split <;> rename_i hpolled <;> rw [hpolled] at hbare hcovers <;> exact ⟨hbare, hcovers⟩

theorem coversTask_of_progress (hm : T.Bare m) {now : NodeStore} (hnow : T.stores now) {task : Task}
    {tasks' : List Task} (hprogress : (Materializer.crowdRule now).Progress m [task] m' tasks')
    (h : T.CoversTask (whole node fields m.journal) task) :
    T.Bare m' ∧ ∃ task', tasks' = [task'] ∧ T.CoversTask (whole node fields m'.journal) task' := by
  induction hprogress with
  | refl => exact ⟨hm, task, rfl, h⟩
  | agenda _ _ ih =>
      obtain ⟨hbare, hcovers⟩ := ih
      exact ⟨⟨hbare.registry, hbare.path, hbare.nodes, hbare.batches⟩, hcovers⟩
  | @poll m' tasks' waker index polled _ hpart ih =>
      obtain ⟨hbare, task', rfl, hcovers⟩ := ih
      have hindex : index = 0 := by
        have hlt := (List.getElem?_eq_some_iff.mp hpart).1
        rw [List.length_singleton] at hlt
        omega
      subst hindex
      obtain rfl := Option.some.inj hpart
      obtain ⟨hbare', hcovers'⟩ := hcovers.pollTask hbare hnow waker
      exact ⟨hbare', _, rfl, hcovers'⟩

/-- What becomes of the batch of the node. -/
theorem coversRequest_of_polled {task : Task} {state : Promise Batch (List Node)}
    (h : T.CoversTask (whole node fields m.journal) task) (hpolled : Batch.Polled [task] state) :
    T.CoversRequest m node fields (SnapshotRequest.ofOwn state) := by
  cases hpolled with
  | running => exact ⟨task, rfl, h⟩
  | crowd number => exact ⟨task, rfl, h⟩
  | failed _ => trivial
  | @kept snapshots heq =>
      cases snapshots with
      | nil => cases heq
      | cons snapshot rest =>
          obtain ⟨rfl, -⟩ := List.cons.inj heq
          exact h.2

theorem CoversRequest.poll (hm : T.Bare m) {request : SnapshotRequest}
    (h : T.CoversRequest m node fields (.pending request))
    (hfair : T.Fair (single node fields)) {now : NodeStore} (hnow : T.stores now) (waker : Waker) :
    T.Bare (m.poll now waker request).1 ∧
      T.CoversRequest (m.poll now waker request).1 node fields (m.poll now waker request).2 := by
  cases request with
  | shared key promise => exact h.elim
  | own batch =>
      have hbatch : T.Bare (m.pollBatch now waker batch).1 ∧
          T.CoversRequest (m.pollBatch now waker batch).1 node fields
            (SnapshotRequest.ofOwn (m.pollBatch now waker batch).2) := by
        rcases Materializer.pollBatch_progress now m waker batch with
          ⟨_, _, _, -, -, hpolled⟩ | ⟨m₁, tasks, tasks', hsetUp, hprogress, hpolled⟩
        · rw [hpolled]
          exact ⟨hm, trivial⟩
        · have hbefore : T.Bare m₁ ∧
              ∃ task, tasks = [task] ∧ T.CoversTask (whole node fields m₁.journal) task := by
            cases hsetUp with
            | running => exact ⟨hm, h⟩
            | crowd number => exact ⟨hm, h⟩
            | @fresh typeName nodes fields' t ht =>
                obtain ⟨heq, hjournal⟩ := h
                obtain ⟨rfl, rfl, rfl⟩ := Order.mk.inj heq
                rw [hm.registry] at ht
                have hcovers := covers_completion ht (hfair.2 t ht)
                have htasks : m.tasks t fields' [node] =
                    (m, [.own node (node.completion T.registry T.path t fields')]) := by
                  simp [Materializer.tasks, Materializer.task, hm.nodes, hm.registry, hm.path]
                rw [htasks]
                refine ⟨hm, _, rfl, ?_⟩
                rw [hjournal]
                exact hcovers
          obtain ⟨hbare, task, rfl, hcovers⟩ := hbefore
          obtain ⟨hbare', task', rfl, hcovers'⟩ :=
            coversTask_of_progress hbare hnow hprogress hcovers
          exact ⟨hbare', coversRequest_of_polled hcovers' hpolled⟩
      rw [Materializer.poll_own]
      exact hbatch

/-! ## The desk -/

/-- A desk at which nothing but the node was asked for. -/
def Lone (T : Terms) (node : Node) (fields : RequiredFields) (d : Desk) : Prop :=
  T.Bare d.maker ∧ T.stores d.store ∧
    ∃ state, d.errands = [⟨single node fields, state⟩] ∧ T.CoversRequest d.maker node fields state

theorem Lone.step {d : Desk} (h : T.Lone node fields d) (hfair : T.Fair (single node fields))
    {event : Desk.Event} (hcalm : event.Calm T) (hsilent : event.Silent) :
    T.Lone node fields (d.step event) := by
  obtain ⟨hbare, hstore, state, herrands, hcovers⟩ := h
  cases event with
  | request order => exact hsilent.elim
  | invalidate id version => exact hcalm.elim
  | clear => exact hcalm.elim
  | finishBootstrap =>
      exact ⟨⟨hbare.registry, hbare.path, hbare.nodes, hbare.batches⟩, hstore, state, herrands, hcovers⟩
  | store now => exact ⟨hbare, hcalm, state, herrands, hcovers⟩
  | agenda agenda =>
      exact ⟨⟨hbare.registry, hbare.path, hbare.nodes, hbare.batches⟩, hstore, state, herrands, hcovers⟩
  | poll index waker =>
      rw [Desk.step]
      split
      · rename_i order request herrand
        rw [herrands] at herrand
        have hindex : index = 0 := by
          have hlt := (List.getElem?_eq_some_iff.mp herrand).1
          rw [List.length_singleton] at hlt
          omega
        subst hindex
        obtain ⟨rfl, rfl⟩ := Errand.mk.inj (Option.some.inj herrand)
        obtain ⟨hbare', hcovers'⟩ := hcovers.poll hbare hfair hstore waker
        exact ⟨hbare', hstore, _, by rw [herrands]; rfl, hcovers'⟩
      · exact ⟨hbare, hstore, state, herrands, hcovers⟩

theorem Lone.run {d : Desk} (h : T.Lone node fields d) (hfair : T.Fair (single node fields))
    {events : List Desk.Event} (hevents : ∀ event ∈ events, event.Calm T ∧ event.Silent) :
    T.Lone node fields (d.run events) := by
  induction events generalizing d with
  | nil => exact h
  | cons event rest ih =>
      obtain ⟨⟨hcalm, hsilent⟩, hrest⟩ := List.forall_mem_cons.mp hevents
      exact ih (h.step hfair hcalm hsilent) hrest

/-- **A node on its own.** When the snapshot of a node that was asked for alone is given, every call was
made as often as completing the node makes it. -/
theorem Alone.count {d : Desk} (h : T.Alone node fields d) (call : ResolverCall) :
    d.maker.journal.count call = T.calls node fields call := by
  obtain ⟨production, events, snapshots, hfair, hevents, rfl, herrands⟩ := h
  have hstart : T.Lone node fields
      ((Desk.start T.registry T.path ⟨production, false, false⟩ T.store).step
        (.request (single node fields))) :=
    ⟨⟨rfl, rfl, rfl, rfl⟩, T.mem, _, rfl, rfl, rfl⟩
  obtain ⟨-, -, state, hstate, hcovers⟩ := hstart.run hfair hevents
  rw [Desk.run, List.foldl_cons] at herrands
  rw [Desk.run, herrands] at hstate
  obtain rfl : Promise.kept (.ok snapshots) = state :=
    (Errand.mk.inj (List.cons.inj hstate).1).2
  exact hcovers call

end Terms

end ContentQuery
