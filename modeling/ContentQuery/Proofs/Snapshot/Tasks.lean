import ContentQuery.Proofs.Snapshot.Crowds
import ContentQuery.Snapshot.Cache

/-!
# Batches are polled task by task

A batch polls its tasks in turn, or as a crowd. Either way it polls single tasks, and what comes of it
can be read off the tasks (`Batch.Polled`). Setting up the tasks of a batch aside, this is all that a
poll of it does (`Materializer.pollBatch_progress`).
-/

namespace ContentQuery

/-! ## Shared promises -/

namespace SharedPromise

variable {σ β : Type} {promises : Array (SharedPromise σ β)} {promise other bell bell' : Nat}
  {state state' : Promise σ β}

/-- When the state of one promise changes, a promise is that one or stands where it stood. -/
theorem eq_or_of_set
    (h : (promises.setIfInBounds promise ⟨bell, state⟩)[other]? = some ⟨bell', state'⟩) :
    state' = state ∨ promises[other]? = some ⟨bell', state'⟩ := by
  rw [Array.getElem?_setIfInBounds] at h
  split at h
  · split at h
    · exact .inl (SharedPromise.mk.inj (Option.some.inj h)).2.symm
    · cases h
  · exact .inr h

/-- When a promise is put at the end, a promise is that one or stands where it stood. -/
theorem eq_or_of_push (h : (promises.push ⟨bell, state⟩)[other]? = some ⟨bell', state'⟩) :
    state' = state ∨ promises[other]? = some ⟨bell', state'⟩ := by
  rw [Array.getElem?_push] at h
  split at h
  · exact .inl (SharedPromise.mk.inj (Option.some.inj h)).2.symm
  · exact .inr h

/-- A promise that is put at the end leaves the others where they are. -/
theorem getElem?_push_of_some {added : SharedPromise σ β}
    (h : promises[other]? = some ⟨bell', state'⟩) :
    (promises.push added)[other]? = some ⟨bell', state'⟩ := by
  have hlt : other < promises.size := (Array.getElem?_eq_some_iff.mp h).1
  rw [Array.getElem?_push_lt hlt, ← h]
  simp [hlt]

end SharedPromise

/-! ## Tasks and batches -/

/-- What becomes of a batch whose tasks came this far. -/
inductive Batch.Polled (tasks : List Task) : Promise Batch (List Node) → Prop
  | running : Polled tasks (.pending (.running tasks))
  | crowd (number : Nat) : Polled tasks (.pending (.crowd number tasks))
  | kept {snapshots : List Node} :
      tasks = snapshots.map .finished → Polled tasks (.kept (.ok snapshots))
  | failed {e : SnapshotError} : .failed e ∈ tasks → Polled tasks (.kept (.error e))

/-- The tasks of a batch, with what is at hand once they are set up. -/
inductive Batch.SetUp (m : Materializer) : Batch → Materializer → List Task → Prop
  | running (tasks : List Task) : SetUp m (.running tasks) m tasks
  | crowd (number : Nat) (tasks : List Task) : SetUp m (.crowd number tasks) m tasks
  | fresh {typeName : String} {nodes : List Node} {fields : RequiredFields} {t : ObjectType} :
      m.registry.type? typeName = some t →
      SetUp m (.fresh typeName nodes fields) (m.tasks t fields nodes).1 (m.tasks t fields nodes).2

theorem Task.eq_of_outcome?_ok {task : Task} {snapshot : Node}
    (h : task.outcome? = some (.ok snapshot)) : task = .finished snapshot := by
  cases task <;> cases h
  rfl

theorem Task.eq_of_outcome?_error {task : Task} {e : SnapshotError}
    (h : task.outcome? = some (.error e)) : task = .failed e := by
  cases task <;> cases h
  rfl

theorem Task.eq_of_snapshot? {task : Task} {snapshot : Node} (h : task.snapshot? = some snapshot) :
    task = .finished snapshot := by
  cases task <;> cases h
  rfl

/-! ## Polling -/

namespace Materializer

variable (store : NodeStore) {m₀ : Materializer} {tasks₀ : List Task}

/-- Where nodes are not cached, each gets a task of its own. -/
theorem tasks_own {m : Materializer} (hnodes : m.policy.nodes = false) (t : ObjectType)
    (fields : RequiredFields) (nodes : List Node) : m.tasks t fields nodes =
      (m, nodes.map fun node => .own node (node.completion m.registry m.path t fields)) := by
  induction nodes with
  | nil => rfl
  | cons node rest ih => simp [tasks, task, ih, hnodes]

/-- Polling tasks in turn is polling single tasks. Those polled before stand at the front. -/
theorem pollTasks_progress (waker : Waker) (before tasks : List Task) {m : Materializer}
    (h : (crowdRule store).Progress m₀ tasks₀ m (before ++ tasks)) :
    ∃ tasks', (crowdRule store).Progress m₀ tasks₀ (pollTasks store waker tasks m).1
        (before ++ tasks') ∧
      match (pollTasks store waker tasks m).2 with
      | .ok rest => tasks' = rest
      | .error e => .failed e ∈ tasks' := by
  induction tasks generalizing before m with
  | nil => exact ⟨[], h, rfl⟩
  | cons task rest ih =>
      have htask : (before ++ task :: rest)[before.length]? = some task := by simp
      have hpolled := h.poll waker htask
      rw [List.set_append_right _ _ (Nat.le_refl _), Nat.sub_self, List.set_cons_zero] at hpolled
      -- The task that was polled joins those before, and the rest is polled after it.
      have hrest := ih (before ++ [((crowdRule store).poll waker task m).2])
        (m := ((crowdRule store).poll waker task m).1)
        (by rw [List.append_assoc, List.singleton_append]; exact hpolled)
      obtain ⟨tasks', hprogress, hresult⟩ := hrest
      rw [List.append_assoc, List.singleton_append] at hprogress
      rw [pollTasks]
      split
      · rename_i m' e heq
        have hpoll : (crowdRule store).poll waker task m = (m', .failed e) := heq
        rw [hpoll] at hpolled
        exact ⟨.failed e :: rest, hpolled, List.mem_cons_self⟩
      · rename_i m' task' _ heq
        have hpoll : (crowdRule store).poll waker task m = (m', task') := heq
        rw [hpoll] at hprogress hresult
        refine ⟨task' :: tasks', ?_⟩
        split
        · rename_i m'' e heq'
          rw [heq'] at hprogress hresult
          exact ⟨hprogress, List.mem_cons_of_mem _ hresult⟩
        · rename_i m'' rest' heq'
          rw [heq'] at hprogress hresult
          exact ⟨hprogress, congrArg _ hresult⟩

theorem pollRunning_progress (m : Materializer) (waker : Waker) (tasks : List Task) :
    ∃ tasks', (crowdRule store).Progress m tasks (m.pollRunning store waker tasks).1 tasks' ∧
      Batch.Polled tasks' (m.pollRunning store waker tasks).2 := by
  obtain ⟨tasks', hprogress, hresult⟩ :=
    pollTasks_progress store waker [] tasks (m := m) .refl
  rw [List.nil_append] at hprogress
  rw [pollRunning]
  split
  · rename_i m' e heq
    rw [heq] at hprogress hresult
    exact ⟨tasks', hprogress, .failed hresult⟩
  · rename_i m' rest heq
    rw [heq] at hprogress hresult
    obtain rfl := hresult
    split
    · rename_i snapshots hsnapshots
      exact ⟨tasks', hprogress, .kept (eq_map_of_mapM (fun _ _ => Task.eq_of_snapshot?) hsnapshots)⟩
    · exact ⟨tasks', hprogress, .running⟩

theorem pollCrowd_progress (m : Materializer) (waker : Waker) (number : Nat) (tasks : List Task) :
    ∃ tasks', (crowdRule store).Progress m tasks (m.pollCrowd store waker number tasks).1 tasks' ∧
      Batch.Polled tasks' (m.pollCrowd store waker number tasks).2 := by
  obtain ⟨hprogress, hresult⟩ := (crowdRule store).pollCrowd_progress number waker m tasks
  rw [pollCrowd]
  split
  · rename_i m' tasks' result heq
    rw [heq] at hprogress hresult
    refine ⟨tasks', hprogress, ?_⟩
    have hgather := hresult result rfl
    cases result with
    | ok snapshots =>
        apply Batch.Polled.kept
        exact eq_map_of_gather_ok (fun _ _ => Task.eq_of_outcome?_ok) hgather
    | error e =>
        obtain ⟨task, htask, houtcome⟩ := exists_of_gather_error hgather
        apply Batch.Polled.failed
        rw [← Task.eq_of_outcome?_error houtcome]
        exact htask
  · rename_i m' tasks' heq
    rw [heq] at hprogress
    exact ⟨tasks', hprogress, .crowd number⟩

/-- **Polling a batch** is polling its tasks one at a time once they are set up. A batch of a type that
is not there fails at once. -/
theorem pollBatch_progress (m : Materializer) (waker : Waker) (batch : Batch) :
    (∃ typeName nodes fields, batch = .fresh typeName nodes fields ∧
      m.registry.type? typeName = none ∧
      m.pollBatch store waker batch = (m, .kept (.error (.unknownType typeName)))) ∨
    ∃ m' tasks tasks', Batch.SetUp m batch m' tasks ∧
      (crowdRule store).Progress m' tasks (m.pollBatch store waker batch).1 tasks' ∧
      Batch.Polled tasks' (m.pollBatch store waker batch).2 := by
  cases batch with
  | running tasks =>
      obtain ⟨tasks', hprogress, hstate⟩ := pollRunning_progress store m waker tasks
      exact .inr ⟨m, tasks, tasks', .running tasks, hprogress, hstate⟩
  | crowd number tasks =>
      obtain ⟨tasks', hprogress, hstate⟩ := pollCrowd_progress store m waker number tasks
      exact .inr ⟨m, tasks, tasks', .crowd number tasks, hprogress, hstate⟩
  | fresh typeName nodes fields =>
      rw [pollBatch]
      cases ht : m.registry.type? typeName with
      | none => exact .inl ⟨typeName, nodes, fields, rfl, ht, rfl⟩
      | some t =>
          refine .inr ⟨(m.tasks t fields nodes).1, (m.tasks t fields nodes).2, ?_⟩
          dsimp only
          split
          · -- The crowd gets a queue of its own before its first poll.
            have hqueue : (crowdRule store).Progress (m.tasks t fields nodes).1
                (m.tasks t fields nodes).2 _ _ :=
              .agenda ((m.tasks t fields nodes).1.agenda.newQueue
                (m.tasks t fields nodes).2.length).1 .refl
            obtain ⟨tasks', hprogress, hstate⟩ := pollCrowd_progress store _ waker
              ((m.tasks t fields nodes).1.agenda.newQueue (m.tasks t fields nodes).2.length).2
              (m.tasks t fields nodes).2
            exact ⟨tasks', .fresh ht, hqueue.trans hprogress, hstate⟩
          · obtain ⟨tasks', hprogress, hstate⟩ := pollRunning_progress store
              (m.tasks t fields nodes).1 waker (m.tasks t fields nodes).2
            exact ⟨tasks', .fresh ht, hprogress, hstate⟩

end Materializer

end ContentQuery
