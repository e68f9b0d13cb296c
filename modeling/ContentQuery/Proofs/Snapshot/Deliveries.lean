import ContentQuery.Proofs.Snapshot.Entries
import ContentQuery.Proofs.Snapshot.Outcomes

/-!
# Who is given which snapshot

A promise of a snapshot is made for a key, and `keys` lists these keys promise by promise. What a task
waits for is a promise of the key of its node, and what it ends with came of one; so it is with a batch
and the keys of its nodes. Polls of tasks and of batches leave that as it is, and to the cache of
snapshots they do nothing but take turns (**`Materializer.Grows.pollBatch`**).
-/

namespace ContentQuery

theorem getElem?_of_prefix {α : Type} {as bs : List α} (h : as <+: bs) {i : Nat} {a : α}
    (ha : as[i]? = some a) : bs[i]? = some a := by
  obtain ⟨more, rfl⟩ := h
  rw [List.getElem?_append_left (List.getElem?_eq_some_iff.mp ha).1]
  exact ha

namespace Materializer

def nodeCache (m : Materializer) : Cache NodeKey (Node × Work) Node :=
  ⟨m.nodeEntries, m.nodePromises⟩

def batchCache (m : Materializer) : Cache BatchKey Batch (List Node) :=
  ⟨m.batchEntries, m.batchPromises⟩

/-- The materializer with another agenda and another cache of snapshots. -/
def withNodeCache (m : Materializer) (agenda : Agenda) (c : Cache NodeKey (Node × Work) Node) :
    Materializer :=
  { m with agenda, nodeEntries := c.entries, nodePromises := c.promises }

/-- The materializer with another agenda and another cache of batches. -/
def withBatchCache (m : Materializer) (agenda : Agenda) (c : Cache BatchKey Batch (List Node)) :
    Materializer :=
  { m with agenda, batchEntries := c.entries, batchPromises := c.promises }

/-! ## One poll of a promise -/

/-- What a poll makes of a promise of a snapshot: work goes on, and what is kept stays. -/
inductive PollsTo (store : NodeStore) (m : Materializer) :
    Promise (Node × Work) Node → Materializer → Promise (Node × Work) Node → Prop
  | kept (result : Except SnapshotError Node) : PollsTo store m (.kept result) m (.kept result)
  | pending (agenda : Agenda) (waker : Waker) (copy : Node) (work : Work) :
      PollsTo store m (.pending (copy, work)) ({ m with agenda }.pollWork store waker copy work).1
        ({ m with agenda }.pollWork store waker copy work).2

end Materializer

/-- What a task is when the promise that it waits for is in this state. -/
def Task.ofState (key : NodeKey) (promise : Nat) : Promise (Node × Work) Node → Task
  | .pending _ => .shared key promise
  | .kept (.ok snapshot) => .finished snapshot
  | .kept (.error e) => .failed e

namespace Materializer

variable {m : Materializer}

/-- **One poll of a task for a promise** is one poll of the promise, which goes on in the cache. -/
theorem pollTask_shared (store : NodeStore) (waker : Waker) (key : NodeKey) {promise bell : Nat}
    {state : Promise (Node × Work) Node} (h : m.nodePromises[promise]? = some ⟨bell, state⟩) :
    ∃ m₁ agenda state', PollsTo store m state m₁ state' ∧
      pollTask store waker (.shared key promise) m =
        (m₁.withNodeCache agenda (m₁.nodeCache.advance key promise bell state'),
          .ofState key promise state') := by
  cases state with
  | kept result =>
      refine ⟨m, m.agenda, .kept result, .kept result, ?_⟩
      have hself := SharedPromise.set_self h
      cases result <;>
        simp only [pollTask, h, settle, Task.ofState, withNodeCache, Cache.advance, Cache.evict,
          Cache.set, nodeCache, hself]
  | pending pending =>
      obtain ⟨copy, work⟩ := pending
      -- The one who polls listens, and is told if the promise is kept.
      let listening : Materializer := { m with agenda := m.agenda.listen bell waker }
      have hpolls : PollsTo store m (.pending (copy, work))
          (listening.pollWork store (.bell bell) copy work).1
          (listening.pollWork store (.bell bell) copy work).2 :=
        .pending _ (.bell bell) copy work
      simp only [pollTask, h]
      rcases hpolled : listening.pollWork store (.bell bell) copy work with ⟨m₁, state'⟩
      rw [hpolled] at hpolls
      cases state' with
      | pending work' => exact ⟨m₁, m₁.agenda, .pending work', hpolls, rfl⟩
      | kept result =>
          refine ⟨m₁, m₁.agenda.ring bell, .kept result, hpolls, ?_⟩
          cases result <;> rfl

theorem pollWork_eq (m : Materializer) (store : NodeStore) (waker : Waker) (copy : Node)
    (work : Work) : ∃ s stamp,
      (m.pollWork store waker copy work).1 = { m with toPollState := s, nextStamp := stamp } := by
  unfold pollWork
  split <;> exact ⟨_, _, rfl⟩

theorem PollsTo.eq {store : NodeStore} {m₁ : Materializer} {state state' : Promise (Node × Work) Node}
    (h : PollsTo store m state m₁ state') :
    ∃ s stamp, m₁ = { m with toPollState := s, nextStamp := stamp } := by
  cases h with
  | kept result => exact ⟨m.toPollState, m.nextStamp, rfl⟩
  | pending agenda waker copy work =>
      obtain ⟨s, stamp, heq⟩ := pollWork_eq { m with agenda } store waker copy work
      exact ⟨s, stamp, heq⟩

/-! ## Tasks and the keys they serve -/

/-- Promises stay with the keys that they were made for, and what is kept stays so. -/
structure Upholds (m : Materializer) (keys : List NodeKey) (m' : Materializer)
    (keys' : List NodeKey) : Prop where
  keys : keys <+: keys'
  lasts : ∀ promise result, m.nodeCache.KeptAt promise result → m'.nodeCache.KeptAt promise result
  policy : m'.policy = m.policy

/-- What polls of tasks make of a materializer, with the keys that its promises were made for: the
cache of snapshots takes turns, and the rest of it stays. -/
structure Grows (m : Materializer) (keys : List NodeKey) (m' : Materializer)
    (keys' : List NodeKey) : Prop where
  sound : m'.nodeCache.Sound keys'
  keys : keys <+: keys'
  turns : m.nodeCache.Turns m'.nodeCache
  batches : m'.batchCache = m.batchCache
  policy : m'.policy = m.policy

end Materializer

/-- The snapshot came of a promise that was made for the key. -/
def Cache.Gives (c : Cache NodeKey (Node × Work) Node) (keys : List NodeKey) (key : NodeKey)
    (snapshot : Node) : Prop :=
  ∃ promise, keys[promise]? = some key ∧ c.KeptAt promise (.ok snapshot)

/-- A task waits for the snapshot of a key, or has it. Only where nodes are not cached it may have
work of its own. -/
def Task.Serves (m : Materializer) (keys : List NodeKey) (key : NodeKey) : Task → Prop
  | .own _ _ => m.policy.nodes = false
  | .shared key' promise => key' = key ∧ keys[promise]? = some key
  | .finished snapshot => m.policy.nodes = true → m.nodeCache.Gives keys key snapshot
  | .failed _ => True

namespace Materializer

variable {keys keys' : List NodeKey} {m m' : Materializer}

theorem Grows.refl (h : m.nodeCache.Sound keys) : m.Grows keys m keys :=
  ⟨h, List.prefix_refl keys, .refl, rfl, rfl⟩

theorem Grows.trans {m'' : Materializer} {keys'' : List NodeKey} (h : m.Grows keys m' keys')
    (h' : m'.Grows keys' m'' keys'') : m.Grows keys m'' keys'' where
  sound := h'.sound
  keys := h.keys.trans h'.keys
  turns := h.turns.trans h'.turns
  batches := h'.batches.trans h.batches
  policy := h'.policy.trans h.policy

theorem Grows.upholds (h : m.Grows keys m' keys') : m.Upholds keys m' keys' :=
  ⟨h.keys, h.turns.evolves.lasts, h.policy⟩

/-- A change that does not concern the caches. -/
theorem Grows.of_eq (h : m.nodeCache.Sound keys) (hnodes : m'.nodeCache = m.nodeCache)
    (hbatches : m'.batchCache = m.batchCache) (hpolicy : m'.policy = m.policy) :
    m.Grows keys m' keys :=
  ⟨hnodes ▸ h, List.prefix_refl keys, hnodes ▸ .refl, hbatches, hpolicy⟩

theorem Upholds.gives (h : m.Upholds keys m' keys') {key : NodeKey} {snapshot : Node}
    (hgives : m.nodeCache.Gives keys key snapshot) : m'.nodeCache.Gives keys' key snapshot := by
  obtain ⟨promise, hkey, hkept⟩ := hgives
  exact ⟨promise, getElem?_of_prefix h.keys hkey, h.lasts promise _ hkept⟩

theorem Upholds.serves (h : m.Upholds keys m' keys') {key : NodeKey} {task : Task}
    (htask : task.Serves m keys key) : task.Serves m' keys' key := by
  cases task with
  | own copy work =>
      show m'.policy.nodes = false
      rw [h.policy]
      exact htask
  | shared key' promise => exact ⟨htask.1, getElem?_of_prefix h.keys htask.2⟩
  | finished snapshot => exact fun hcached => h.gives (htask (h.policy ▸ hcached))
  | failed e => trivial

/-- **One poll of a task** goes on with at most one promise, and the task serves its key. -/
theorem Grows.pollTask (h : m.nodeCache.Sound keys) (store : NodeStore) (waker : Waker) {task : Task}
    {key : NodeKey} (htask : task.Serves m keys key) :
    m.Grows keys (Materializer.pollTask store waker task m).1 keys ∧
      (Materializer.pollTask store waker task m).2.Serves
        (Materializer.pollTask store waker task m).1 keys key := by
  cases task with
  | finished snapshot => exact ⟨.refl h, htask⟩
  | failed e => exact ⟨.refl h, trivial⟩
  | own copy work =>
      obtain ⟨s, stamp, heq⟩ := pollWork_eq m store waker copy work
      have hgrows : m.Grows keys (m.pollWork store waker copy work).1 keys := by
        rw [heq]
        exact .of_eq h rfl rfl rfl
      have hpolicy : (m.pollWork store waker copy work).1.policy.nodes = false :=
        hgrows.policy ▸ htask
      rw [Materializer.pollTask]
      split <;> rename_i hpolled <;> rw [hpolled] at hgrows hpolicy
      · exact ⟨hgrows, hpolicy⟩
      · refine ⟨hgrows, fun hcached => ?_⟩
        rw [hpolicy] at hcached
        cases hcached
      · exact ⟨hgrows, trivial⟩
  | shared key' promise =>
      obtain ⟨rfl, hkey⟩ := htask
      obtain ⟨hlt, -⟩ := List.getElem?_eq_some_iff.mp hkey
      rw [h.length] at hlt
      -- The promise is there, since it was made for the key.
      have hpromise : m.nodePromises[promise]? = some m.nodePromises[promise] :=
        Array.getElem?_eq_getElem hlt
      generalize m.nodePromises[promise] = shared at hpromise
      obtain ⟨bell, state⟩ := shared
      obtain ⟨m₁, agenda, state', hpolls, hpolled⟩ := pollTask_shared store waker key' hpromise
      have hkept : ∀ result, state = .kept result → state' = .kept result := by
        rintro result rfl
        cases hpolls
        rfl
      obtain ⟨s, stamp, rfl⟩ := hpolls.eq
      rw [hpolled]
      refine ⟨⟨h.advance hpromise hkey, List.prefix_refl keys, Cache.turns_advance hpromise hkept,
        rfl, rfl⟩, ?_⟩
      rcases state' with _ | e | snapshot
      · exact ⟨rfl, hkey⟩
      · trivial
      · refine fun _ => ⟨promise, hkey, ?_⟩
        show (m.nodeCache.advance key' promise bell _).KeptAt promise (.ok snapshot)
        rw [Cache.keptAt_advance_iff hpromise, if_pos rfl]

/-- The tasks serve the keys, one each. -/
def TasksServe (m : Materializer) (keys : List NodeKey) (tasks : List Task)
    (wanted : List NodeKey) : Prop :=
  List.Forall₂ (fun task key => task.Serves m keys key) tasks wanted

theorem Upholds.tasksServe (h : m.Upholds keys m' keys') {tasks : List Task} {wanted : List NodeKey}
    (htasks : m.TasksServe keys tasks wanted) : m'.TasksServe keys' tasks wanted :=
  List.Forall₂.imp (fun _ _ => h.serves) htasks

/-- Polls of single tasks leave every task with its key. -/
theorem Grows.of_progress {store : NodeStore} {tasks tasks' : List Task}
    (hprogress : (crowdRule store).Progress m tasks m' tasks') (h : m.nodeCache.Sound keys)
    {wanted : List NodeKey} (htasks : m.TasksServe keys tasks wanted) :
    m.Grows keys m' keys ∧ m'.TasksServe keys tasks' wanted := by
  induction hprogress with
  | refl => exact ⟨.refl h, htasks⟩
  | @agenda m' tasks' agenda _ ih =>
      have hagenda : m'.Grows keys { m' with agenda } keys := .of_eq ih.1.sound rfl rfl rfl
      exact ⟨ih.1.trans hagenda, hagenda.upholds.tasksServe ih.2⟩
  | @poll m' tasks' waker index task _ hpart ih =>
      obtain ⟨key, hserves⟩ : ∃ key, task.Serves m' keys key := by
        obtain ⟨key, -, hserves⟩ := exists_getElem?_of_forall₂ ih.2 hpart
        exact ⟨key, hserves⟩
      obtain ⟨hgrows, -⟩ := Grows.pollTask ih.1.sound store waker hserves
      refine ⟨ih.1.trans hgrows, ?_⟩
      exact forall₂_set ih.2 (fun _ _ => hgrows.upholds.serves) hpart
        fun key hserves => (Grows.pollTask ih.1.sound store waker hserves).2

/-! ## Batches and what they were asked for -/

/-- **A task that is set up** for a node serves its key, and leaves what went before as it was. -/
theorem Grows.task (h : m.nodeCache.Sound keys) (t : ObjectType) (fields : RequiredFields)
    (node : Node) :
    ∃ keys', m.Grows keys (m.task t fields node).1 keys' ∧
      (m.task t fields node).2.Serves (m.task t fields node).1 keys' (.ofNode node fields) := by
  unfold Materializer.task
  dsimp only
  split
  · rename_i hpolicy
    have hown : m.policy.nodes = false := by simpa using hpolicy
    exact ⟨keys, .refl h, hown⟩
  · split
    · rename_i promise hlookup
      obtain ⟨before, after, hentries, _⟩ := List.lookup_eq_some_iff.mp hlookup
      have hmem : (NodeKey.ofNode node fields, promise) ∈ m.nodeCache.entries := by
        simp [nodeCache, hentries]
      exact ⟨keys, .of_eq h rfl rfl rfl, rfl, h.made _ _ hmem⟩
    · rename_i hlookup
      have hsound := h.add hlookup m.agenda.newBell.2
        (node, node.completion m.registry m.path t fields)
      refine ⟨keys ++ [NodeKey.ofNode node fields],
        ⟨hsound, List.prefix_append _ _, .single (.made _ _ _ hlookup), rfl, rfl⟩, rfl, ?_⟩
      have hsize : keys.length = m.nodePromises.size := h.length
      rw [← hsize, List.getElem?_concat_length]

theorem Grows.tasks (t : ObjectType) (fields : RequiredFields) (nodes : List Node)
    (h : m.nodeCache.Sound keys) :
    ∃ keys', m.Grows keys (m.tasks t fields nodes).1 keys' ∧
      (m.tasks t fields nodes).1.TasksServe keys' (m.tasks t fields nodes).2
        (nodes.map fun node => .ofNode node fields) := by
  induction nodes generalizing m keys with
  | nil => exact ⟨keys, .refl h, .nil⟩
  | cons node rest ih =>
      obtain ⟨keys₁, hfirst, hserves⟩ := Grows.task h t fields node
      obtain ⟨keys₂, hmore, htasks⟩ := ih hfirst.sound
      exact ⟨keys₂, hfirst.trans hmore, .cons (hmore.upholds.serves hserves) htasks⟩

end Materializer

/-- Nodes of a type with the fields that are required of them. -/
structure Order where
  typeName : String
  nodes : List Node
  fields : RequiredFields

namespace Order

def key (o : Order) : BatchKey := ⟨o.typeName, o.nodes.length, o.fields⟩

def nodeKeys (o : Order) : List NodeKey := o.nodes.map fun node => .ofNode node o.fields

end Order

namespace Materializer

variable {keys keys' : List NodeKey} {m m' : Materializer}

/-- A batch in the making serves an order. -/
def BatchServes (m : Materializer) (keys : List NodeKey) (order : Order) : Batch → Prop
  | .fresh typeName nodes fields => order = ⟨typeName, nodes, fields⟩
  | .running tasks | .crowd _ tasks => m.TasksServe keys tasks order.nodeKeys

/-- Snapshots came of promises that were made for the keys of an order, one for each. -/
def AllGiven (m : Materializer) (keys : List NodeKey) (order : Order) (snapshots : List Node) : Prop :=
  List.Forall₂ (fun snapshot key => m.nodeCache.Gives keys key snapshot) snapshots order.nodeKeys

/-- A promise of a batch in this state serves an order. -/
def Delivers (m : Materializer) (keys : List NodeKey) (order : Order) :
    Promise Batch (List Node) → Prop
  | .pending batch => m.BatchServes keys order batch
  | .kept (.ok snapshots) => m.policy.nodes = true → m.AllGiven keys order snapshots
  | .kept (.error _) => True

theorem Upholds.allGiven (h : m.Upholds keys m' keys') {order : Order} {snapshots : List Node}
    (hgiven : m.AllGiven keys order snapshots) : m'.AllGiven keys' order snapshots :=
  List.Forall₂.imp (fun _ _ => h.gives) hgiven

theorem Upholds.delivers (h : m.Upholds keys m' keys') {order : Order}
    {state : Promise Batch (List Node)} (hstate : m.Delivers keys order state) :
    m'.Delivers keys' order state := by
  rcases state with (_ | tasks | ⟨number, tasks⟩) | e | snapshots
  · exact hstate
  · exact h.tasksServe hstate
  · exact h.tasksServe hstate
  · trivial
  · intro hcached
    rw [h.policy] at hcached
    exact h.allGiven (hstate hcached)

/-- What becomes of a batch delivers what its tasks serve. -/
theorem Delivers.of_polled {order : Order} {tasks : List Task}
    (htasks : m.TasksServe keys tasks order.nodeKeys) {state : Promise Batch (List Node)}
    (h : Batch.Polled tasks state) : m.Delivers keys order state := by
  cases h with
  | running => exact htasks
  | crowd number => exact htasks
  | @kept snapshots heq =>
      subst heq
      intro hcached
      exact (List.forall₂_map_left_iff.mp htasks).imp fun _ _ hserves => hserves hcached
  | failed _ => trivial

/-- **One poll of a batch** leaves every promise with its key, and the batch with its order. -/
theorem Grows.pollBatch (h : m.nodeCache.Sound keys) (store : NodeStore) (waker : Waker)
    {batch : Batch} {order : Order} (hbatch : m.BatchServes keys order batch) :
    ∃ keys', m.Grows keys (m.pollBatch store waker batch).1 keys' ∧
      (m.pollBatch store waker batch).1.Delivers keys' order (m.pollBatch store waker batch).2 := by
  rcases pollBatch_progress store m waker batch with
    ⟨typeName, nodes, fields, -, -, hpolled⟩ | ⟨m₁, tasks, tasks', hsetUp, hprogress, hpolled⟩
  · rw [hpolled]
    exact ⟨keys, .refl h, trivial⟩
  · have hbefore : ∃ keys₁, m.Grows keys m₁ keys₁ ∧ m₁.TasksServe keys₁ tasks order.nodeKeys := by
      cases hsetUp with
      | running => exact ⟨keys, .refl h, hbatch⟩
      | crowd number => exact ⟨keys, .refl h, hbatch⟩
      | @fresh typeName nodes fields t _ =>
          obtain rfl : order = ⟨typeName, nodes, fields⟩ := hbatch
          exact Grows.tasks t fields nodes h
    obtain ⟨keys₁, hgrows, htasks⟩ := hbefore
    obtain ⟨hgrows', htasks'⟩ := Grows.of_progress hprogress hgrows.sound htasks
    exact ⟨keys₁, hgrows.trans hgrows', .of_polled htasks' hpolled⟩

end Materializer

end ContentQuery
