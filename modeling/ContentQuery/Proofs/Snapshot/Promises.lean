import ContentQuery.Proofs.Snapshot.Tasks
import ContentQuery.Proofs.Snapshot.View

/-!
# Promises hold what was asked for

Snapshots are shared through promises, and a promise that is under way goes on whenever anyone who
waits for it is polled. Seen through a `View`, it serves the node that it was made for, and stays with
it through every poll of anything else (**`View.pollTask_keeps`**, **`View.keeps_of_progress`**).
-/

namespace ContentQuery

namespace View

variable (V : View)

/-- A promise of the materializer serves the node. -/
def PromiseFor (m : Materializer) (fields : RequiredFields) (node : Node) (promise : Nat) : Prop :=
  ∃ bell state, m.nodePromises[promise]? = some ⟨bell, state⟩ ∧ V.Serves fields node state

/-- A promise that serves the node does so in the state it is in. -/
theorem PromiseFor.serves {V : View} {m : Materializer} {fields : RequiredFields} {node : Node}
    {promise bell : Nat} {state : Promise (Node × Work) Node}
    (h : V.PromiseFor m fields node promise)
    (hstate : m.nodePromises[promise]? = some ⟨bell, state⟩) : V.Serves fields node state := by
  obtain ⟨_, state', hstate', hserves⟩ := h
  rw [hstate] at hstate'
  obtain ⟨rfl, rfl⟩ := SharedPromise.mk.inj (Option.some.inj hstate')
  exact hserves

/-- A task serves the node. -/
def TaskFor (m : Materializer) (fields : RequiredFields) (node : Node) : Task → Prop
  | .own copy work => V.Serves fields node (.pending (copy, work))
  | .shared key promise => key = NodeKey.ofNode node fields ∧ V.PromiseFor m fields node promise
  | .finished snapshot => V.Makes fields node (.ok snapshot)
  | .failed e => V.Makes fields node (.error e)

/-- Nodes of one type for which snapshots may be asked. -/
def Asks (typeName : String) (nodes : List Node) : Prop :=
  (V.registry.type? typeName).isSome ∧ ∀ node ∈ nodes, V.nodes node ∧ node.typeName = typeName

/-- A batch that was not begun yet asks for nodes that may be asked for. -/
def Sourced : Batch → Prop
  | .fresh typeName nodes _ => V.Asks typeName nodes
  | _ => True

/-- Entries lead to promises that serve the nodes of their key. -/
structure Holds (m : Materializer) : Prop where
  registry : m.registry = V.registry
  path : m.path = V.path
  batches : ∀ (promise bell : Nat) (batch : Batch),
    m.batchPromises[promise]? = some ⟨bell, .pending batch⟩ → V.Sourced batch
  entries : ∀ key promise, (key, promise) ∈ m.nodeEntries → ∀ node, V.nodes node →
    NodeKey.ofNode node key.fields = key → V.PromiseFor m key.fields node promise

/-- Promises go on serving whom they served. -/
def Serving (m m' : Materializer) : Prop :=
  ∀ fields node promise, V.PromiseFor m fields node promise → V.PromiseFor m' fields node promise

/-- What does not concern batches may change only so: promises go on serving whom they served, and
entries stay sound. -/
structure Keeps (m m' : Materializer) : Prop where
  holds : V.Holds m → V.Holds m'
  promises : V.Serving m m'
  batchPromises : m'.batchPromises = m.batchPromises
  batchEntries : m'.batchEntries = m.batchEntries

variable {V} {fields : RequiredFields} {node : Node}

theorem Keeps.refl (m : Materializer) : V.Keeps m m :=
  ⟨fun h => h, fun _ _ _ h => h, rfl, rfl⟩

theorem Keeps.trans {m₁ m₂ m₃ : Materializer} (h : V.Keeps m₁ m₂) (h' : V.Keeps m₂ m₃) :
    V.Keeps m₁ m₃ where
  holds hm := h'.holds (h.holds hm)
  promises fields node promise hp := h'.promises fields node promise (h.promises _ _ _ hp)
  batchPromises := h'.batchPromises.trans h.batchPromises
  batchEntries := h'.batchEntries.trans h.batchEntries

/-- A change that adds no entry, and after which promises serve whom they served. -/
theorem Keeps.of_promises {m m' : Materializer} (hregistry : m'.registry = m.registry)
    (hpath : m'.path = m.path) (hentries : ∀ entry ∈ m'.nodeEntries, entry ∈ m.nodeEntries)
    (hbatchPromises : m'.batchPromises = m.batchPromises)
    (hbatchEntries : m'.batchEntries = m.batchEntries)
    (hpromises : V.Serving m m') : V.Keeps m m' where
  holds h := {
    registry := hregistry.trans h.registry
    path := hpath.trans h.path
    batches := hbatchPromises ▸ h.batches
    entries := fun key promise hmem node hnode hkey =>
      hpromises _ _ _ (h.entries key promise (hentries _ hmem) node hnode hkey) }
  promises := hpromises
  batchPromises := hbatchPromises
  batchEntries := hbatchEntries

theorem TaskFor.mono {m m' : Materializer} (h : V.Serving m m') {task : Task}
    (htask : V.TaskFor m fields node task) : V.TaskFor m' fields node task := by
  cases task with
  | shared key promise => exact ⟨htask.1, h _ _ _ htask.2⟩
  | _ => exact htask

theorem keeps_agenda (m : Materializer) (agenda : Agenda) : V.Keeps m { m with agenda } :=
  .of_promises rfl rfl (fun _ h => h) rfl rfl fun _ _ _ h => h

/-- Polling work touches neither entries nor promises. -/
theorem keeps_pollWork (m : Materializer) (store : NodeStore) (waker : Waker) (copy : Node)
    (work : Work) : V.Keeps m (m.pollWork store waker copy work).1 := by
  unfold Materializer.pollWork
  split <;> exact .of_promises rfl rfl (fun _ h => h) rfl rfl fun _ _ _ h => h

theorem nodePromises_pollWork (m : Materializer) (store : NodeStore) (waker : Waker) (copy : Node)
    (work : Work) : (m.pollWork store waker copy work).1.nodePromises = m.nodePromises := by
  unfold Materializer.pollWork
  split <;> rfl

/-- A promise goes on to a state that serves whom the one before served. -/
theorem keeps_setPromise {m : Materializer} {promise bell : Nat}
    {before after : Promise (Node × Work) Node}
    (hbefore : m.nodePromises[promise]? = some ⟨bell, before⟩)
    (hserves : ∀ fields node, V.Serves fields node before → V.Serves fields node after) :
    V.Keeps m { m with nodePromises := m.nodePromises.setIfInBounds promise ⟨bell, after⟩ } := by
  refine .of_promises rfl rfl (fun _ h => h) rfl rfl ?_
  rintro fields node other ⟨bell', state, hstate, hserved⟩
  by_cases hother : promise = other
  · subst hother
    obtain ⟨rfl, rfl⟩ : bell = bell' ∧ before = state := by
      simpa [hbefore] using hstate
    have hlt : promise < m.nodePromises.size := (Array.getElem?_eq_some_iff.mp hbefore).1
    exact ⟨bell, after, by simp [hlt], hserves _ _ hserved⟩
  · exact ⟨bell', state, by simp [Array.getElem?_setIfInBounds_ne hother, hstate], hserved⟩

/-- What a task becomes when its promise is kept. -/
theorem settle_keeps (m : Materializer) (key : NodeKey) (promise : Nat)
    (result : Except SnapshotError Node) :
    V.Keeps m (m.settle key promise result).1 ∧
      ∀ fields node, V.Makes fields node result →
        V.TaskFor (m.settle key promise result).1 fields node (m.settle key promise result).2 := by
  cases result with
  | ok snapshot => exact ⟨.refl m, fun _ _ h => h⟩
  | error e =>
      refine ⟨.of_promises rfl rfl ?_ rfl rfl fun _ _ _ h => h, fun _ _ h => h⟩
      exact fun _ h => List.mem_of_mem_filter h

/-- **One poll of a task** leaves all promises with those they serve, and the task with its node. -/
theorem pollTask_keeps {store : NodeStore} (hS : ∀ key, V.stores key store) (waker : Waker)
    (task : Task) (m : Materializer) :
    V.Keeps m (Materializer.pollTask store waker task m).1 ∧
      ∀ fields node, V.TaskFor m fields node task →
        V.TaskFor (Materializer.pollTask store waker task m).1 fields node
          (Materializer.pollTask store waker task m).2 := by
  cases task with
  | finished snapshot => exact ⟨.refl m, fun _ _ h => h⟩
  | failed e => exact ⟨.refl m, fun _ _ h => h⟩
  | own copy work =>
      have hkeeps : V.Keeps m (m.pollWork store waker copy work).1 :=
        keeps_pollWork m store waker copy work
      have hserves : ∀ fields node, V.Serves fields node (.pending (copy, work)) →
          V.Serves fields node (m.pollWork store waker copy work).2 := fun _ _ h =>
        h.pollWork hS m waker
      rw [Materializer.pollTask]
      split <;> rename_i heq <;> rw [heq] at hkeeps hserves <;> exact ⟨hkeeps, hserves⟩
  | shared key promise =>
      rw [Materializer.pollTask]
      split
      · rename_i bell result hpromise
        obtain ⟨hkeeps, hsettled⟩ := settle_keeps (V := V) m key promise result
        refine ⟨hkeeps, ?_⟩
        intro fields node h
        apply hsettled
        exact h.2.serves hpromise
      · rename_i bell copy work hpromise
        -- The one who polls listens, the work goes on, and the promise takes its new state.
        let listening : Materializer := { m with agenda := m.agenda.listen bell waker }
        have hlistening : V.Keeps m listening := keeps_agenda m _
        have hpolled : V.Keeps m (listening.pollWork store (.bell bell) copy work).1 :=
          hlistening.trans (keeps_pollWork listening store (.bell bell) copy work)
        have hserves : ∀ fields node, V.Serves fields node (.pending (copy, work)) →
            V.Serves fields node (listening.pollWork store (.bell bell) copy work).2 := fun _ _ h =>
          h.pollWork hS listening (.bell bell)
        have hbefore : (listening.pollWork store (.bell bell) copy work).1.nodePromises[promise]? =
            some ⟨bell, .pending (copy, work)⟩ := by
          rw [nodePromises_pollWork]
          exact hpromise
        have hset := hpolled.trans (keeps_setPromise hbefore hserves)
        dsimp only
        split
        · exact ⟨hset, fun fields node h => ⟨h.1, hset.promises _ _ _ h.2⟩⟩
        · rename_i result hresult
          obtain ⟨hkeeps, hsettled⟩ := settle_keeps (V := V) _ key promise result
          refine ⟨(hset.trans (keeps_agenda _ _)).trans hkeeps, ?_⟩
          intro fields node h
          apply hsettled fields node
          have hserved := hserves fields node (h.2.serves hpromise)
          rw [hresult] at hserved
          exact hserved
      · exact ⟨.refl m, fun _ _ h => h⟩

/-- A task that is set up for a node serves it. -/
theorem task_keeps (fields : RequiredFields) {m : Materializer} (hm : V.Holds m) {t : ObjectType}
    (ht : V.registry.type? node.typeName = some t) (hnode : V.nodes node) :
    V.Keeps m (m.task t fields node).1 ∧
      V.TaskFor (m.task t fields node).1 fields node (m.task t fields node).2 := by
  have hserves : V.Serves fields node
      (.pending (node, node.completion m.registry m.path t fields)) := by
    rw [hm.registry, hm.path]
    exact ⟨.refl node, t, ht, .refl _⟩
  unfold Materializer.task
  dsimp only
  split
  · exact ⟨.refl m, hserves⟩
  · split
    · rename_i promise hlookup
      obtain ⟨before, after, hentries, _⟩ := List.lookup_eq_some_iff.mp hlookup
      have hmem : (NodeKey.ofNode node fields, promise) ∈ m.nodeEntries := by simp [hentries]
      refine ⟨.of_promises rfl rfl (fun _ h => h) rfl rfl fun _ _ _ h => h, rfl, ?_⟩
      exact hm.entries _ promise hmem node hnode rfl
    · -- A new promise is put at the end, and leaves the others where they are.
      have hold : ∀ fields' node' promise, V.PromiseFor m fields' node' promise →
          V.PromiseFor { m with
            agenda := m.agenda.newBell.1
            nodePromises := m.nodePromises.push
              ⟨m.agenda.newBell.2, .pending (node, node.completion m.registry m.path t fields)⟩
            nodeEntries := m.nodeEntries ++ [(NodeKey.ofNode node fields, m.nodePromises.size)]
            nodeMisses := m.nodeMisses + 1 } fields' node' promise := by
        rintro fields' node' promise ⟨bell, state, hstate, hserved⟩
        exact ⟨bell, state, SharedPromise.getElem?_push_of_some hstate, hserved⟩
      have hnew : ∀ node', V.nodes node' → NodeKey.ofNode node' fields = NodeKey.ofNode node fields →
          V.PromiseFor { m with
            agenda := m.agenda.newBell.1
            nodePromises := m.nodePromises.push
              ⟨m.agenda.newBell.2, .pending (node, node.completion m.registry m.path t fields)⟩
            nodeEntries := m.nodeEntries ++ [(NodeKey.ofNode node fields, m.nodePromises.size)]
            nodeMisses := m.nodeMisses + 1 } fields node' m.nodePromises.size := by
        -- Whoever finds the entry asks for a copy of the node.
        intro node' hnode' hkey
        have hid : node.id = node'.id := (congrArg NodeKey.id hkey).symm
        have hdigest : node.digest = node'.digest := (congrArg NodeKey.version hkey).symm
        have halike : node.Alike node' := V.determined node node' hnode hnode' hid hdigest
        exact ⟨_, _, Array.getElem?_push_size, hserves.of_alike halike⟩
      refine ⟨⟨fun _ => ⟨hm.registry, hm.path, hm.batches, ?_⟩, hold, rfl, rfl⟩,
        rfl, hnew node hnode rfl⟩
      intro key promise hmem node' hnode' hkey
      rcases List.mem_append.mp hmem with hmem | hmem
      · exact hold _ _ _ (hm.entries key promise hmem node' hnode' hkey)
      · obtain ⟨rfl, rfl⟩ := Prod.mk.inj (List.mem_singleton.mp hmem)
        exact hnew node' hnode' hkey

/-- The tasks serve the nodes, one each. -/
def TasksFor (V : View) (m : Materializer) (fields : RequiredFields) (tasks : List Task)
    (nodes : List Node) : Prop :=
  List.Forall₂ (fun task node => V.TaskFor m fields node task) tasks nodes

theorem TasksFor.mono {m m' : Materializer} (h : V.Serving m m') {tasks : List Task}
    {nodes : List Node} (htasks : V.TasksFor m fields tasks nodes) :
    V.TasksFor m' fields tasks nodes :=
  List.Forall₂.imp (fun _ _ => TaskFor.mono h) htasks

theorem tasks_keeps (t : ObjectType) (fields : RequiredFields) (nodes : List Node)
    {m : Materializer} (hm : V.Holds m)
    (ht : ∀ node ∈ nodes, V.registry.type? node.typeName = some t)
    (hnodes : ∀ node ∈ nodes, V.nodes node) :
    V.Keeps m (m.tasks t fields nodes).1 ∧
      V.TasksFor (m.tasks t fields nodes).1 fields (m.tasks t fields nodes).2 nodes := by
  induction nodes generalizing m with
  | nil => exact ⟨.refl m, .nil⟩
  | cons node rest ih =>
      obtain ⟨hfirst, htask⟩ := task_keeps fields hm (ht node (by simp))
        (hnodes node (by simp))
      obtain ⟨hmore, htasks⟩ := ih (hfirst.holds hm) (fun n h => ht n (by simp [h]))
        (fun n h => hnodes n (by simp [h]))
      exact ⟨hfirst.trans hmore, .cons (htask.mono hmore.promises) htasks⟩

/-- Polls of single tasks leave all promises with those they serve, and tasks with their nodes. -/
theorem keeps_of_progress {store : NodeStore} (hS : ∀ key, V.stores key store) {m m' : Materializer}
    {tasks tasks' : List Task}
    (h : (Materializer.crowdRule store).Progress m tasks m' tasks') :
    V.Keeps m m' ∧ ∀ fields nodes, V.TasksFor m fields tasks nodes →
      V.TasksFor m' fields tasks' nodes := by
  induction h with
  | refl => exact ⟨.refl m, fun _ _ h => h⟩
  | agenda agenda _ ih =>
      refine ⟨ih.1.trans (keeps_agenda _ agenda), ?_⟩
      intro fields nodes h
      exact (ih.2 fields nodes h).mono (keeps_agenda _ agenda).promises
  | @poll m' tasks' waker index task _ hpart ih =>
      obtain ⟨hkeeps, htask⟩ := pollTask_keeps hS waker task m'
      refine ⟨ih.1.trans hkeeps, ?_⟩
      intro fields nodes h
      -- The task that was polled serves its node by the step, all others by what they served before.
      exact forall₂_set (ih.2 fields nodes h) (fun _ _ => TaskFor.mono hkeeps.promises) hpart
        (htask fields)

end View

end ContentQuery
