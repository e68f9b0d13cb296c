import ContentQuery.Snapshot.Completion

/-!
# Snapshots and their caches

Two caches keep snapshots: one by node, version and required fields, and one by type, number of nodes
and required fields. An entry is a promise, made as soon as the snapshot is asked for, so that all
who ask for one key wait for the same work; each time one of them is polled the work goes on. A
promise that fails is dropped by those who waited for it, unless another has taken its place.

The cache of whole batches tells changes only by the number of nodes. It is used once changes are
always signalled, or from the start when so configured.
-/

namespace ContentQuery

structure NodeKey where
  id : String
  version : String
  fields : RequiredFields
  deriving DecidableEq

def NodeKey.ofNode (node : Node) (fields : RequiredFields) : NodeKey :=
  ⟨node.id, node.digest, fields⟩

structure BatchKey where
  typeName : String
  count : Nat
  fields : RequiredFields
  deriving DecidableEq

/-- What a task of a batch waits for. -/
inductive Task where
  /-- Work of its own on a node. -/
  | own (node : Node) (work : Work)
  /-- A promise that others may wait for too. -/
  | shared (key : NodeKey) (promise : Nat)
  | finished (snapshot : Node)
  | failed (e : SnapshotError)

namespace Task

/-- The snapshot of a task that is finished. -/
def snapshot? : Task → Option Node
  | finished snapshot => some snapshot
  | _ => none

def outcome? : Task → Option (Except SnapshotError Node)
  | finished snapshot => some (.ok snapshot)
  | failed e => some (.error e)
  | _ => none

end Task

/-- Snapshots of several nodes, in the making. -/
inductive Batch where
  | fresh (typeName : String) (nodes : List Node) (fields : RequiredFields)
  | running (tasks : List Task)
  /-- The tasks are a crowd that has its queue. -/
  | crowd (number : Nat) (tasks : List Task)

/-- Something in the making, or what came of it. -/
inductive Promise (σ α : Type) where
  | pending (state : σ)
  | kept (result : Except SnapshotError α)

/-- A promise that several may wait for. -/
structure SharedPromise (σ α : Type) where
  /-- Wakes those who wait. -/
  bell : Nat
  state : Promise σ α

/-- Which caches are used. -/
structure CachePolicy where
  /-- The cache of batches is used from the start. -/
  production : Bool
  nodes : Bool
  batches : Bool
  deriving DecidableEq

/-- A maker of snapshots with its caches. -/
structure Materializer extends PollState where
  registry : Registry
  path : Option String
  policy : CachePolicy
  /-- Changes are always signalled from now on. -/
  steady : Bool := false
  nodeEntries : List (NodeKey × Nat) := []
  batchEntries : List (BatchKey × Nat) := []
  /-- Promises of snapshots, by number. -/
  nodePromises : Array (SharedPromise (Node × Work) Node) := #[]
  batchPromises : Array (SharedPromise Batch (List Node)) := #[]
  /-- Stamp for the next snapshot. -/
  nextStamp : Nat := 0
  nodeHits : Nat := 0
  nodeMisses : Nat := 0
  batchHits : Nat := 0
  batchMisses : Nat := 0

/-- A request for snapshots, under way. -/
inductive SnapshotRequest where
  | own (batch : Batch)
  | shared (key : BatchKey) (promise : Nat)

namespace Materializer

/-! ## Entries -/

/-- May whole batches be served from the cache right now? -/
def batchCacheActive (m : Materializer) : Bool :=
  m.policy.batches && (m.policy.production || m.steady)

/-- Drops the entry of a key while it is still this promise. -/
def dropEntry [BEq κ] (key : κ) (promise : Nat) (entries : List (κ × Nat)) : List (κ × Nat) :=
  entries.filter fun (k, p) => !(k == key && p == promise)

/-- Empties both caches. -/
def clear (m : Materializer) : Materializer := { m with nodeEntries := [], batchEntries := [] }

/-- Drops the snapshots of a node at other versions, and every batch. Gives the number of snapshots
dropped. -/
def invalidate (m : Materializer) (id version : String) : Materializer × Nat :=
  let kept := m.nodeEntries.filter fun (key, _) => key.id != id || key.version == version
  ({ m with nodeEntries := kept, batchEntries := [] }, m.nodeEntries.length - kept.length)

/-- From now on changes are always signalled. -/
def finishBootstrap (m : Materializer) : Materializer := { m with steady := true }

def needsResolution (m : Materializer) (typeName : String) (fields : RequiredFields) :
    Except SnapshotError Bool :=
  m.registry.needsResolution typeName fields

/-! ## Tasks -/

/-- Goes on with work on a node. What comes of it is a snapshot with a stamp of its own. -/
def pollWork (m : Materializer) (store : NodeStore) (waker : Waker) (node : Node) (work : Work) :
    Materializer × Promise (Node × Work) Node :=
  match Work.poll store waker work m.toPollState with
  | (s, .done v) =>
    ({ m with toPollState := s, nextStamp := m.nextStamp + 1 },
      .kept (.ok (node.withBody v.members m.nextStamp)))
  | (s, .failed e) => ({ m with toPollState := s }, .kept (.error e))
  | (s, work) => ({ m with toPollState := s }, .pending (node, work))

/-- The task of one node: a promise under its key, or work of its own when nodes are not cached. -/
def task (m : Materializer) (t : ObjectType) (fields : RequiredFields) (node : Node) :
    Materializer × Task :=
  let work := node.completion m.registry m.path t fields
  if !m.policy.nodes then (m, .own node work)
  else
    let key := NodeKey.ofNode node fields
    match m.nodeEntries.lookup key with
    | some promise => ({ m with nodeHits := m.nodeHits + 1 }, .shared key promise)
    | none =>
      let promise := m.nodePromises.size
      let (agenda, bell) := m.agenda.newBell
      ({ m with
          agenda
          nodePromises := m.nodePromises.push ⟨bell, .pending (node, work)⟩
          nodeEntries := m.nodeEntries ++ [(key, promise)]
          nodeMisses := m.nodeMisses + 1 },
        .shared key promise)

/-- The tasks of several nodes. All are set up before the first is polled. -/
def tasks (m : Materializer) (t : ObjectType) (fields : RequiredFields) :
    List Node → Materializer × List Task
  | [] => (m, [])
  | node :: rest =>
    let (m, first) := m.task t fields node
    let (m, more) := tasks m t fields rest
    (m, first :: more)

/-- What a task is after its promise is kept. One that failed is dropped from the cache. -/
def settle (m : Materializer) (key : NodeKey) (promise : Nat) :
    Except SnapshotError Node → Materializer × Task
  | .ok snapshot => (m, .finished snapshot)
  | .error e => ({ m with nodeEntries := dropEntry key promise m.nodeEntries }, .failed e)

/-- Goes on with a task. -/
def pollTask (store : NodeStore) (waker : Waker) (task : Task) (m : Materializer) :
    Materializer × Task :=
  match task with
  | .finished snapshot => (m, .finished snapshot)
  | .failed e => (m, .failed e)
  | .own node work =>
    match m.pollWork store waker node work with
    | (m, .pending (node, work)) => (m, .own node work)
    | (m, .kept (.ok snapshot)) => (m, .finished snapshot)
    | (m, .kept (.error e)) => (m, .failed e)
  | .shared key promise =>
    match m.nodePromises[promise]? with
    | some ⟨_, .kept result⟩ => m.settle key promise result
    | some ⟨bell, .pending (node, work)⟩ =>
      let m := { m with agenda := m.agenda.listen bell waker }
      let (m, state) := m.pollWork store (.bell bell) node work
      let m := { m with nodePromises := m.nodePromises.setIfInBounds promise ⟨bell, state⟩ }
      match state with
      | .pending _ => (m, .shared key promise)
      | .kept result => { m with agenda := m.agenda.ring bell }.settle key promise result
    | none => (m, .shared key promise)

/-- Goes on with each of some tasks, up to the first that fails. -/
def pollTasks (store : NodeStore) (waker : Waker) :
    List Task → Materializer → Materializer × Except SnapshotError (List Task)
  | [], m => (m, .ok [])
  | task :: rest, m =>
    match pollTask store waker task m with
    | (m, .failed e) => (m, .error e)
    | (m, task) =>
      match pollTasks store waker rest m with
      | (m, .error e) => (m, .error e)
      | (m, .ok rest) => (m, .ok (task :: rest))

/-- The rule for crowds of tasks. -/
def crowdRule (store : NodeStore) : CrowdRule Materializer Task SnapshotError Node where
  agenda m := m.agenda
  withAgenda m agenda := { m with agenda }
  poll := pollTask store
  outcome? := Task.outcome?

/-! ## Batches -/

/-- Goes on with the tasks of a batch; when all are finished it is. -/
def pollRunning (m : Materializer) (store : NodeStore) (waker : Waker) (tasks : List Task) :
    Materializer × Promise Batch (List Node) :=
  match pollTasks store waker tasks m with
  | (m, .error e) => (m, .kept (.error e))
  | (m, .ok tasks) =>
    match tasks.mapM Task.snapshot? with
    | some snapshots => (m, .kept (.ok snapshots))
    | none => (m, .pending (.running tasks))

/-- Goes on with a batch whose tasks are a crowd. -/
def pollCrowd (m : Materializer) (store : NodeStore) (waker : Waker) (number : Nat)
    (tasks : List Task) : Materializer × Promise Batch (List Node) :=
  match (crowdRule store).pollCrowd number waker m tasks with
  | (m, _, some result) => (m, .kept result)
  | (m, tasks, none) => (m, .pending (.crowd number tasks))

/-- Goes on with a batch. -/
def pollBatch (m : Materializer) (store : NodeStore) (waker : Waker) :
    Batch → Materializer × Promise Batch (List Node)
  | .fresh typeName nodes fields =>
    match m.registry.type? typeName with
    | none => (m, .kept (.error (.unknownType typeName)))
    | some t =>
      let (m, tasks) := m.tasks t fields nodes
      if tasks.length > crowdSize then
        let (agenda, number) := m.agenda.newQueue tasks.length
        { m with agenda }.pollCrowd store waker number tasks
      else m.pollRunning store waker tasks
  | .running tasks => m.pollRunning store waker tasks
  | .crowd number tasks => m.pollCrowd store waker number tasks

/-! ## Requests -/

/-- Asks for snapshots of nodes of a type. Nothing is resolved before the request is polled. -/
def request (m : Materializer) (typeName : String) (nodes : List Node) (fields : RequiredFields) :
    Materializer × SnapshotRequest :=
  let batch := Batch.fresh typeName nodes fields
  if !m.batchCacheActive then (m, .own batch)
  else
    let key : BatchKey := ⟨typeName, nodes.length, fields⟩
    match m.batchEntries.lookup key with
    | some promise => ({ m with batchHits := m.batchHits + 1 }, .shared key promise)
    | none =>
      let promise := m.batchPromises.size
      let (agenda, bell) := m.agenda.newBell
      ({ m with
          agenda
          batchPromises := m.batchPromises.push ⟨bell, .pending batch⟩
          batchEntries := m.batchEntries ++ [(key, promise)]
          batchMisses := m.batchMisses + 1 },
        .shared key promise)

/-- Hands on what came of a batch. One that failed is dropped from the cache. -/
def settleBatch (m : Materializer) (key : BatchKey) (promise : Nat)
    (result : Except SnapshotError (List Node)) :
    Materializer × Promise SnapshotRequest (List Node) :=
  match result with
  | .ok snapshots => (m, .kept (.ok snapshots))
  | .error e =>
    ({ m with batchEntries := dropEntry key promise m.batchEntries }, .kept (.error e))

/-- Goes on with a request. Who polls it is woken when it can go on. -/
def poll (m : Materializer) (store : NodeStore) (waker : Waker) :
    SnapshotRequest → Materializer × Promise SnapshotRequest (List Node)
  | .own batch =>
    match m.pollBatch store waker batch with
    | (m, .pending batch) => (m, .pending (.own batch))
    | (m, .kept result) => (m, .kept result)
  | .shared key promise =>
    match m.batchPromises[promise]? with
    | some ⟨_, .kept result⟩ => m.settleBatch key promise result
    | some ⟨bell, .pending batch⟩ =>
      let m := { m with agenda := m.agenda.listen bell waker }
      let (m, state) := m.pollBatch store (.bell bell) batch
      let m := { m with batchPromises := m.batchPromises.setIfInBounds promise ⟨bell, state⟩ }
      match state with
      | .pending _ => (m, .pending (.shared key promise))
      | .kept result => { m with agenda := m.agenda.ring bell }.settleBatch key promise result
    | none => (m, .pending (.shared key promise))

/-- Ends a round of polls: wakes all who asked for it. -/
def endRound (m : Materializer) : Materializer := { m with agenda := m.agenda.rouse }

end Materializer

end ContentQuery
