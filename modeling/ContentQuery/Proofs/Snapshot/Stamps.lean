import ContentQuery.Proofs.Snapshot.Tasks

/-!
# A stamp tells snapshots apart

Collections take nodes with the same stamps for the same nodes. For snapshots this is so because every
snapshot that was ever made stands in one list at the place of its stamp (`Stamped`). Polling
only ever makes the list longer (`Materializer.Stamps.poll`).
-/

namespace ContentQuery

/-- The node stands at the place of its stamp. -/
def Stamped (log : List Node) (n : Node) : Prop := log[n.stamp]? = some n

theorem Stamped.append {log : List Node} {n : Node} (h : Stamped log n) (more : List Node) :
    Stamped (log ++ more) n := by
  obtain ⟨hlt, _⟩ := List.getElem?_eq_some_iff.mp h
  rw [Stamped, List.getElem?_append_left hlt]
  exact h

/-- **Nodes with the same stamps are the same nodes.** -/
theorem eq_of_stamps_eq {log : List Node} {as bs : List Node} (has : ∀ a ∈ as, Stamped log a)
    (hbs : ∀ b ∈ bs, Stamped log b) (h : as.map (·.stamp) = bs.map (·.stamp)) : as = bs := by
  induction as generalizing bs with
  | nil => exact (List.map_eq_nil_iff.mp h.symm).symm
  | cons a as ih =>
      cases bs with
      | nil => cases h
      | cons b bs =>
          obtain ⟨hstamp, hrest⟩ := List.cons.inj h
          have ha : Stamped log a := has a (by simp)
          have hb : Stamped log b := hbs b (by simp)
          have hab : a = b := by
            rw [Stamped, show a.stamp = b.stamp from hstamp] at ha
            exact Option.some.inj (ha.symm.trans hb)
          rw [hab, ih (fun x hx => has x (by simp [hx])) (fun x hx => hbs x (by simp [hx])) hrest]

/-! ## Tasks and batches -/

def Task.Stamped (log : List Node) : Task → Prop
  | .finished snapshot => ContentQuery.Stamped log snapshot
  | _ => True

def Batch.Stamped (log : List Node) : Batch → Prop
  | .fresh .. => True
  | .running tasks | .crowd _ tasks => ∀ task ∈ tasks, task.Stamped log

/-- All snapshots that a promise holds are stamped. -/
def Promise.Stamped {σ : Type} (log : List Node) (stamped : σ → Prop) :
    Promise σ (List Node) → Prop
  | .pending state => stamped state
  | .kept (.ok snapshots) => ∀ snapshot ∈ snapshots, ContentQuery.Stamped log snapshot
  | .kept (.error _) => True

def SnapshotRequest.Stamped (log : List Node) : SnapshotRequest → Prop
  | .own batch => batch.Stamped log
  | .shared _ _ => True

theorem Task.Stamped.append {log : List Node} {task : Task} (h : task.Stamped log)
    (more : List Node) : task.Stamped (log ++ more) := by
  cases task with
  | finished snapshot => exact ContentQuery.Stamped.append h more
  | _ => trivial

theorem Batch.Stamped.append {log : List Node} {batch : Batch} (h : batch.Stamped log)
    (more : List Node) : batch.Stamped (log ++ more) := by
  cases batch with
  | fresh typeName nodes fields => trivial
  | running tasks => exact fun task htask => (h task htask).append more
  | crowd number tasks => exact fun task htask => (h task htask).append more

theorem Promise.Stamped.append {log : List Node} {state : Promise Batch (List Node)}
    (h : state.Stamped log (·.Stamped log)) (more : List Node) :
    state.Stamped (log ++ more) (·.Stamped (log ++ more)) := by
  rcases state with batch | e | snapshots
  · exact Batch.Stamped.append h more
  · trivial
  · exact fun snapshot hmem => (h snapshot hmem).append more

theorem SnapshotRequest.Stamped.append {log : List Node} {request : SnapshotRequest}
    (h : request.Stamped log) (more : List Node) : request.Stamped (log ++ more) := by
  cases request with
  | own batch => exact Batch.Stamped.append h more
  | shared key promise => trivial

theorem Batch.Polled.stamped {log : List Node} {tasks : List Task}
    (htasks : ∀ task ∈ tasks, task.Stamped log) {state : Promise Batch (List Node)}
    (h : Batch.Polled tasks state) : state.Stamped log (·.Stamped log) := by
  cases h with
  | running => exact htasks
  | crowd number => exact htasks
  | kept heq =>
      subst heq
      exact fun snapshot hmem => htasks _ (List.mem_map_of_mem hmem)
  | failed _ => trivial

/-! ## The maker of snapshots -/

namespace Materializer

/-- All snapshots that were made stand in the list, each at the place of its stamp. -/
structure Stamps (m : Materializer) (log : List Node) : Prop where
  length : log.length = m.nextStamp
  nodes : ∀ (promise bell : Nat) (snapshot : Node),
    m.nodePromises[promise]? = some ⟨bell, .kept (.ok snapshot)⟩ → Stamped log snapshot
  batches : ∀ (promise bell : Nat) (state : Promise Batch (List Node)),
    m.batchPromises[promise]? = some ⟨bell, state⟩ → state.Stamped log (·.Stamped log)

namespace Stamps

variable {m : Materializer} {log : List Node}

/-- A change that makes no snapshot and touches no promise. -/
theorem of_eq {m' : Materializer} (h : m.Stamps log) (hstamp : m'.nextStamp = m.nextStamp)
    (hnodes : m'.nodePromises = m.nodePromises) (hbatches : m'.batchPromises = m.batchPromises) :
    m'.Stamps log where
  length := h.length.trans hstamp.symm
  nodes := hnodes ▸ h.nodes
  batches := hbatches ▸ h.batches

theorem agenda (h : m.Stamps log) (agenda : Agenda) : { m with agenda }.Stamps log :=
  h.of_eq rfl rfl rfl

theorem setNode (promise bell : Nat) {state : Promise (Node × Work) Node} (h : m.Stamps log)
    (hstate : ∀ snapshot, state = .kept (.ok snapshot) → Stamped log snapshot) :
    { m with nodePromises := m.nodePromises.setIfInBounds promise ⟨bell, state⟩ }.Stamps log where
  length := h.length
  nodes := by
    intro other bell' snapshot hother
    rcases SharedPromise.eq_or_of_set hother with heq | hother
    · exact hstate snapshot heq.symm
    · exact h.nodes other bell' snapshot hother
  batches := h.batches

theorem setBatch (promise bell : Nat) {state : Promise Batch (List Node)} (h : m.Stamps log)
    (hstate : state.Stamped log (·.Stamped log)) :
    { m with batchPromises := m.batchPromises.setIfInBounds promise ⟨bell, state⟩ }.Stamps log where
  length := h.length
  nodes := h.nodes
  batches := by
    intro other bell' state' hother
    rcases SharedPromise.eq_or_of_set hother with rfl | hother
    · exact hstate
    · exact h.batches other bell' state' hother

/-- Finished work makes one snapshot, with the next stamp. -/
theorem pollWork (h : m.Stamps log) (store : NodeStore) (waker : Waker) (copy : Node)
    (work : Work) :
    ∃ more, (m.pollWork store waker copy work).1.Stamps (log ++ more) ∧
      ∀ snapshot, (m.pollWork store waker copy work).2 = .kept (.ok snapshot) →
        Stamped (log ++ more) snapshot := by
  unfold Materializer.pollWork
  split
  · rename_i s v _
    -- The new snapshot goes to the end, which is the place of its stamp.
    refine ⟨[copy.withBody v.members m.nextStamp], ⟨?_, ?_, ?_⟩, ?_⟩
    · simp [h.length]
    · exact fun promise bell snapshot hkept => (h.nodes promise bell snapshot hkept).append _
    · exact fun promise bell state hstate => (h.batches promise bell state hstate).append _
    · rintro _ ⟨⟩
      rw [Stamped, Node.withBody, ← h.length]
      simp
  · refine ⟨[], ?_, fun _ hkept => by cases hkept⟩
    rw [List.append_nil]
    exact h.of_eq rfl rfl rfl
  · refine ⟨[], ?_, fun _ hkept => by cases hkept⟩
    rw [List.append_nil]
    exact h.of_eq rfl rfl rfl

theorem settle (h : m.Stamps log) (key : NodeKey) (promise : Nat)
    {result : Except SnapshotError Node}
    (hresult : ∀ snapshot, result = .ok snapshot → Stamped log snapshot) :
    (m.settle key promise result).1.Stamps log ∧
      (m.settle key promise result).2.Stamped log := by
  cases result with
  | ok snapshot => exact ⟨h, hresult snapshot rfl⟩
  | error e => exact ⟨h.of_eq rfl rfl rfl, trivial⟩

theorem pollTask (h : m.Stamps log) (store : NodeStore) (waker : Waker) {task : Task}
    (htask : task.Stamped log) :
    ∃ more, (Materializer.pollTask store waker task m).1.Stamps (log ++ more) ∧
      (Materializer.pollTask store waker task m).2.Stamped (log ++ more) := by
  cases task with
  | finished snapshot => exact ⟨[], by rw [List.append_nil]; exact ⟨h, htask⟩⟩
  | failed e => exact ⟨[], by rw [List.append_nil]; exact ⟨h, trivial⟩⟩
  | own copy work =>
      obtain ⟨more, hpolled, hstate⟩ := h.pollWork store waker copy work
      rw [Materializer.pollTask]
      split <;> rename_i heq <;> rw [heq] at hpolled hstate
      · exact ⟨more, hpolled, trivial⟩
      · exact ⟨more, hpolled, hstate _ rfl⟩
      · exact ⟨more, hpolled, trivial⟩
  | shared key promise =>
      rw [Materializer.pollTask]
      split
      · rename_i bell result hpromise
        have hresult : ∀ snapshot, result = .ok snapshot → Stamped log snapshot := by
          rintro snapshot rfl
          exact h.nodes promise bell snapshot hpromise
        exact ⟨[], by rw [List.append_nil]; exact h.settle key promise hresult⟩
      · rename_i bell copy work hpromise
        obtain ⟨more, hpolled, hstate⟩ :=
          (h.agenda (m.agenda.listen bell waker)).pollWork store (.bell bell) copy work
        have hset := hpolled.setNode promise bell hstate
        refine ⟨more, ?_⟩
        dsimp only
        split
        · exact ⟨hset, trivial⟩
        · rename_i result hresult
          exact (hset.agenda _).settle key promise
            fun snapshot hok => hstate snapshot (hresult.trans (congrArg _ hok))
      · exact ⟨[], by rw [List.append_nil]; exact ⟨h, trivial⟩⟩

theorem of_progress {store : NodeStore} {m' : Materializer} {tasks tasks' : List Task}
    (hprogress : (crowdRule store).Progress m tasks m' tasks') (h : m.Stamps log)
    (htasks : ∀ task ∈ tasks, task.Stamped log) :
    ∃ more, m'.Stamps (log ++ more) ∧ ∀ task ∈ tasks', task.Stamped (log ++ more) := by
  induction hprogress with
  | refl => exact ⟨[], by simpa using h, by simpa using htasks⟩
  | agenda agenda _ ih =>
      obtain ⟨more, hm', htasks'⟩ := ih
      exact ⟨more, hm'.agenda agenda, htasks'⟩
  | @poll m' tasks' waker index task _ hpart ih =>
      obtain ⟨more, hm', htasks'⟩ := ih
      obtain ⟨again, hpolled, htask⟩ :=
        hm'.pollTask store waker (htasks' task (List.mem_of_getElem? hpart))
      refine ⟨more ++ again, by rw [← List.append_assoc]; exact hpolled, ?_⟩
      intro other hother
      rw [← List.append_assoc]
      rcases List.mem_or_eq_of_mem_set hother with hmem | rfl
      · exact (htasks' other hmem).append again
      · exact htask

theorem task (h : m.Stamps log) (t : ObjectType) (fields : RequiredFields) (node : Node) :
    (m.task t fields node).1.Stamps log ∧ (m.task t fields node).2.Stamped log := by
  unfold Materializer.task
  dsimp only
  split
  · exact ⟨h, trivial⟩
  · split
    · exact ⟨h.of_eq rfl rfl rfl, trivial⟩
    · refine ⟨⟨h.length, fun promise bell snapshot hpromise => ?_, h.batches⟩, trivial⟩
      rcases SharedPromise.eq_or_of_push hpromise with heq | hpromise
      · cases heq
      · exact h.nodes promise bell snapshot hpromise

theorem tasks (t : ObjectType) (fields : RequiredFields) (nodes : List Node) {m : Materializer}
    (h : m.Stamps log) :
    (m.tasks t fields nodes).1.Stamps log ∧
      ∀ task ∈ (m.tasks t fields nodes).2, task.Stamped log := by
  induction nodes generalizing m with
  | nil => exact ⟨h, by simp [Materializer.tasks]⟩
  | cons node rest ih =>
      obtain ⟨hfirst, htask⟩ := h.task t fields node
      obtain ⟨hmore, htasks⟩ := ih hfirst
      exact ⟨hmore, List.forall_mem_cons.mpr ⟨htask, htasks⟩⟩

theorem pollBatch (h : m.Stamps log) (store : NodeStore) (waker : Waker) {batch : Batch}
    (hbatch : batch.Stamped log) :
    ∃ more, (m.pollBatch store waker batch).1.Stamps (log ++ more) ∧
      (m.pollBatch store waker batch).2.Stamped (log ++ more) (·.Stamped (log ++ more)) := by
  rcases pollBatch_progress store m waker batch with
    ⟨typeName, nodes, fields, rfl, _, heq⟩ | ⟨m', tasks, tasks', hsetUp, hprogress, hstate⟩
  · refine ⟨[], ?_⟩
    rw [List.append_nil, heq]
    exact ⟨h, trivial⟩
  · have hbefore : m'.Stamps log ∧ ∀ task ∈ tasks, task.Stamped log := by
      cases hsetUp with
      | running => exact ⟨h, hbatch⟩
      | crowd number => exact ⟨h, hbatch⟩
      | @fresh typeName nodes fields t _ => exact h.tasks t fields nodes
    obtain ⟨more, hafter, htasks⟩ := of_progress hprogress hbefore.1 hbefore.2
    exact ⟨more, hafter, hstate.stamped htasks⟩

theorem settleBatch (h : m.Stamps log) (key : BatchKey) (promise : Nat)
    {result : Except SnapshotError (List Node)}
    (hresult : ∀ snapshots, result = .ok snapshots → ∀ snapshot ∈ snapshots, Stamped log snapshot) :
    (m.settleBatch key promise result).1.Stamps log ∧
      (m.settleBatch key promise result).2.Stamped log (·.Stamped log) := by
  cases result with
  | ok snapshots => exact ⟨h, hresult snapshots rfl⟩
  | error e => exact ⟨h.of_eq rfl rfl rfl, trivial⟩

/-- **Polling a request** makes the list of snapshots longer, and all that it gives stand in it. -/
theorem poll (h : m.Stamps log) (store : NodeStore) (waker : Waker) {request : SnapshotRequest}
    (hrequest : request.Stamped log) :
    ∃ more, (m.poll store waker request).1.Stamps (log ++ more) ∧
      (m.poll store waker request).2.Stamped (log ++ more) (·.Stamped (log ++ more)) := by
  cases request with
  | own batch =>
      obtain ⟨more, hpolled, hstate⟩ := h.pollBatch store waker hrequest
      refine ⟨more, ?_⟩
      rw [Materializer.poll]
      split <;> rename_i heq <;> rw [heq] at hpolled hstate
      · exact ⟨hpolled, hstate⟩
      · rename_i result
        cases result <;> exact ⟨hpolled, hstate⟩
  | shared key promise =>
      rw [Materializer.poll]
      split
      · rename_i bell result hpromise
        refine ⟨[], ?_⟩
        rw [List.append_nil]
        apply h.settleBatch
        rintro snapshots rfl
        exact h.batches promise bell _ hpromise
      · rename_i bell batch hpromise
        have hbatch : batch.Stamped log := h.batches promise bell _ hpromise
        obtain ⟨more, hpolled, hstate⟩ :=
          (h.agenda (m.agenda.listen bell waker)).pollBatch store (.bell bell) hbatch
        have hset := hpolled.setBatch promise bell hstate
        refine ⟨more, ?_⟩
        dsimp only
        split
        · exact ⟨hset, trivial⟩
        · rename_i result hresult
          refine (hset.agenda _).settleBatch key promise ?_
          rintro snapshots rfl
          rw [hresult] at hstate
          exact hstate
      · exact ⟨[], by rw [List.append_nil]; exact ⟨h, trivial⟩⟩

theorem request (h : m.Stamps log) (typeName : String) (nodes : List Node)
    (fields : RequiredFields) :
    (m.request typeName nodes fields).1.Stamps log ∧
      (m.request typeName nodes fields).2.Stamped log := by
  unfold Materializer.request
  dsimp only
  split
  · exact ⟨h, trivial⟩
  · split
    · exact ⟨h.of_eq rfl rfl rfl, trivial⟩
    · refine ⟨⟨h.length, h.nodes, fun promise bell state hpromise => ?_⟩, trivial⟩
      rcases SharedPromise.eq_or_of_push hpromise with rfl | hpromise
      · trivial
      · exact h.batches promise bell state hpromise

end Stamps

end Materializer

end ContentQuery
