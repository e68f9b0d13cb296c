import ContentQuery.Index.Usage
import ContentQuery.Snapshot.Cache

/-!
# Metrics

What an engine did so far, in numbers.
-/

namespace ContentQuery

structure Metrics where
  queriesExecuted : Nat := 0
  queriesRejected : Nat := 0
  indexesBuilt : Nat := 0
  indexBuildFailures : Nat := 0
  collectionsSynced : Nat := 0
  resolverInvocations : Nat := 0
  nodeCacheHits : Nat := 0
  nodeCacheMisses : Nat := 0
  queryCacheHits : Nat := 0
  queryCacheMisses : Nat := 0
  invalidations : Nat := 0
  deriving DecidableEq, Repr

namespace Metrics

/-- Adds what the snapshots of a materializer took. -/
def withSnapshots (x : Metrics) (m : Materializer) : Metrics :=
  { x with
    resolverInvocations := m.journal.length
    nodeCacheHits := m.nodeHits
    nodeCacheMisses := m.nodeMisses
    queryCacheHits := m.batchHits
    queryCacheMisses := m.batchMisses }

/-- Adds what indexing took. -/
def withUsage (x : Metrics) (u : Usage) : Metrics :=
  { x with indexesBuilt := u.built, indexBuildFailures := u.failures }

def toJson (x : Metrics) : Json := .object [
  ("queries_executed", .ofNat x.queriesExecuted),
  ("queries_rejected", .ofNat x.queriesRejected),
  ("indexes_built", .ofNat x.indexesBuilt),
  ("index_build_failures", .ofNat x.indexBuildFailures),
  ("collections_synced", .ofNat x.collectionsSynced),
  ("resolver_invocations", .ofNat x.resolverInvocations),
  ("node_cache_hits", .ofNat x.nodeCacheHits),
  ("node_cache_misses", .ofNat x.nodeCacheMisses),
  ("query_cache_hits", .ofNat x.queryCacheHits),
  ("query_cache_misses", .ofNat x.queryCacheMisses),
  ("invalidations", .ofNat x.invalidations)]

end Metrics

end ContentQuery
