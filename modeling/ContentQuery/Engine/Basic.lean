import ContentQuery.Engine.Config
import ContentQuery.Engine.Metrics
import ContentQuery.Filter.Compile
import ContentQuery.Filter.Shape
import ContentQuery.Query.Projection

/-!
# The query engine

An engine answers queries about the nodes of a store. A query is checked and compiled, the fields it
reads are completed where resolvers compute them, indexes are brought up to date, and the predicate
runs. A query whose resolvers pause is polled again until it is finished, and others may be polled
meanwhile.

The engine is told about changes of its store by signals; a change that is not signalled may go
unnoticed by its caches.
-/

namespace ContentQuery

inductive EngineError where
  | schema (e : SchemaError)
  | rejected (e : Rejection)
  | unknownOperator (e : UnknownOperator)
  | snapshot (e : SnapshotError)
  | node (e : NodeError)
  | config (e : ConfigError)

namespace EngineError

def code : EngineError → String
  | .schema e => e.code
  | .rejected e => e.code
  | .unknownOperator e => e.code
  | .snapshot e => e.code
  | .node e => e.code
  | .config e => e.code

def severity : EngineError → Severity
  | .schema e => e.severity
  | .rejected e => e.severity
  | .unknownOperator e => e.severity
  | .snapshot e => e.severity
  | .node e => e.severity
  | .config e => e.severity

def report : EngineError → String
  | .schema e => e.report
  | .rejected e => e.report
  | .unknownOperator e => e.report
  | .snapshot e => e.report
  | .node e => e.report
  | .config e => e.report

end EngineError

structure Query where
  typeName : String
  args : QueryArgs := {}
  projections : List Projection := []
  /-- Only the first node is asked for. -/
  firstOnly : Bool := false

/-- The fields that a query reads. -/
def Query.required (q : Query) : RequiredFields :=
  RequiredFields.forQuery q.args.filter q.args.sort q.projections

/-- Which nodes a collection holds: those of the store, or snapshots that carry some fields. -/
abbrev CollectionKey := String × Option RequiredFields

structure Engine where
  registry : Registry
  store : NodeStore
  config : Config
  materializer : Materializer
  usage : Usage
  collections : List (CollectionKey × NodeCollection) := []
  shapes : ShapeMemo := []
  executed : Nat := 0
  rejected : Nat := 0
  synced : Nat := 0
  invalidations : Nat := 0

/-- A query under way. -/
inductive Call where
  | fresh
  /-- Waits for the snapshots that carry the fields. -/
  | waiting (predicate : Predicate) (fields : RequiredFields) (request : SnapshotRequest)
  | finished (result : Except EngineError Answer)

namespace Engine

/-- An engine without any history; `path` is the page that queries are made for. -/
def start (registry : Registry) (store : NodeStore) (config : Config) (path : Option String) :
    Engine :=
  { registry, store, config
    usage := .ofThreshold config.indexThreshold
    materializer := {
      registry, path
      policy := {
        production := config.production, nodes := config.nodeCache, batches := config.batchCache } } }

def metrics (e : Engine) : Metrics :=
  let own : Metrics := {
    queriesExecuted := e.executed
    queriesRejected := e.rejected
    collectionsSynced := e.synced
    invalidations := e.invalidations }
  (own.withSnapshots e.materializer).withUsage e.usage

/-- The filter shape of a type. -/
def shape (e : Engine) (typeName : String) : Engine × Except EngineError Shape :=
  let (shapes, result) := Shape.derive e.registry e.shapes typeName
  ({ e with shapes }, result.mapError .schema)

/-! ## Checking -/

/-- Every path of a sort leads to a declared field. -/
def checkPaths (r : Registry) (typeName : String) : List String → Except Rejection Unit
  | [] => .ok ()
  | path :: rest => do
    let _ ← r.kindAt typeName path
    checkPaths r typeName rest

/-- Compiles the filter of a query and checks its sort and its projections. -/
def check (r : Registry) (q : Query) : Except Rejection Predicate := do
  let predicate ← Filter.compile r q.typeName (q.args.filter.getD [])
  checkPaths r q.typeName (q.args.sort.getD []).paths
  checkPaths r q.typeName (q.projections.map (·.path))
  return predicate

/-! ## Preparing -/

/-- The nodes a query runs over. -/
inductive Prepared where
  | stored (nodes : List Node)
  | snapshots (fields : RequiredFields) (request : SnapshotRequest)

/-- Nodes of the queried type that carry the fields the query reads. If no resolver computes one of
these, the nodes of the store will do. -/
def prepare (e : Engine) (q : Query) : Except EngineError (Engine × Prepared) :=
  let nodes := e.store.ofType q.typeName
  let fields := q.required
  if fields.isEmpty then .ok (e, .stored nodes)
  else match e.materializer.needsResolution q.typeName fields with
    | .error cause => .error (.snapshot cause)
    | .ok false => .ok (e, .stored nodes)
    | .ok true =>
      let (materializer, request) := e.materializer.request q.typeName nodes fields
      .ok ({ e with materializer }, .snapshots fields request)

/-- Goes on with a request for snapshots. -/
def pollSnapshots (e : Engine) (waker : Waker) (request : SnapshotRequest) :
    Engine × Promise SnapshotRequest (List Node) :=
  let (materializer, state) := e.materializer.poll e.store waker request
  ({ e with materializer }, state)

/-! ## Answering -/

/-- The collection of a key, empty if there is none yet. -/
def collection (e : Engine) (key : CollectionKey) : NodeCollection :=
  (e.collections.lookup key).getD (.empty key.1 e.config.maxIndexEntries)

/-- Puts a collection under its key. -/
def keep (key : CollectionKey) (c : NodeCollection) :
    List (CollectionKey × NodeCollection) → List (CollectionKey × NodeCollection)
  | [] => [(key, c)]
  | (k, old) :: rest => if k = key then (key, c) :: rest else (k, old) :: keep key c rest

/-- Runs a query over its nodes, with the indexes that are due. -/
def answer (e : Engine) (q : Query) (predicate : Predicate) (fields : Option RequiredFields)
    (nodes : List Node) : Engine × Except EngineError Answer :=
  let key : CollectionKey := (q.typeName, fields)
  let (c, changed) := (e.collection key).sync nodes
  let (usage, c, _) := e.usage.record c predicate
  let (usage, c) := usage.indexSort c (q.args.sort.getD [])
  let e := { e with
    usage
    synced := if changed then e.synced + 1 else e.synced
    collections := keep key c e.collections }
  match c.source.run predicate q.args.sort q.firstOnly with
  | .ok run => (e, .ok (run.answer.paginate q.args.skip q.args.limit))
  | .error cause => (e, .error (.unknownOperator cause))

/-- Counts a finished query. -/
def finish : Engine × Except EngineError Answer → Engine × Call
  | (e, .ok a) => ({ e with executed := e.executed + 1 }, .finished (.ok a))
  | (e, .error cause) => ({ e with rejected := e.rejected + 1 }, .finished (.error cause))

/-- Goes on with a query that needs snapshots. -/
def pollWaiting (e : Engine) (waker : Waker) (q : Query) (predicate : Predicate)
    (fields : RequiredFields) (request : SnapshotRequest) : Engine × Call :=
  match e.pollSnapshots waker request with
  | (e, .pending request) => (e, .waiting predicate fields request)
  | (e, .kept (.ok nodes)) => finish (e.answer q predicate (some fields) nodes)
  | (e, .kept (.error cause)) => finish (e, .error (.snapshot cause))

/-- Goes on with a query until it pauses or is finished. Who polls it is woken when it can go on. -/
def poll (e : Engine) (waker : Waker) (q : Query) : Call → Engine × Call
  | .fresh =>
    match check e.registry q with
    | .error cause => finish (e, .error (.rejected cause))
    | .ok predicate =>
      match e.prepare q with
      | .error cause => finish (e, .error cause)
      | .ok (e, .stored nodes) => finish (e.answer q predicate none nodes)
      | .ok (e, .snapshots fields request) => e.pollWaiting waker q predicate fields request
  | .waiting predicate fields request => e.pollWaiting waker q predicate fields request
  | .finished result => (e, .finished result)

/-- Ends a round of polls: wakes all who asked for it. -/
def endRound (e : Engine) : Engine := { e with materializer := e.materializer.endRound }

/-- Begins a request for the nodes that a query would run over. Only the filter is checked, if there
is one. -/
def nodesForQuery (e : Engine) (q : Query) : Except EngineError (Engine × Prepared) := do
  if let some filter := q.args.filter then
    let _ ← (Filter.compile e.registry q.typeName filter).mapError EngineError.rejected
  e.prepare q

/-! ## Signals -/

/-- Forgets everything derived from the store. -/
def invalidateAll (e : Engine) : Engine :=
  { e with
    usage := e.usage.reset
    collections := []
    materializer := e.materializer.clear
    invalidations := e.invalidations + 1 }

/-- Takes note of a signal of the store. -/
def handle (e : Engine) : Signal → Engine
  | .cacheCleared => e.invalidateAll
  | .bootstrapFinished => { e with materializer := e.materializer.finishBootstrap }
  | .nodeChanged id version =>
    { e with
      materializer := (e.materializer.invalidate id version).1
      invalidations := e.invalidations + 1 }

/-- Stores a node and gives the signal of the change. -/
def upsert (e : Engine) (node : Node) : Engine × Signal :=
  ({ e with store := e.store.upsert node }, NodeStore.upsertSignal node)

/-- Takes a node out of the store, if it is there. No signal tells of that. -/
def remove (e : Engine) (id : String) : Engine × Option Node :=
  let (store, node) := e.store.remove id
  ({ e with store }, node)

end Engine

end ContentQuery
