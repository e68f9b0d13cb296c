import ContentQuery.Index.Collection

/-!
# Indexing by use

A query counts each path of its predicate. From a number of uses on a path gets an index; paths that
nodes are sorted by get one at once. An index that cannot be built never fails a query.
-/

namespace ContentQuery

/-- How often each path of a type was used, and what was built for it. -/
structure Usage where
  threshold : Nat
  counts : List ((String × String) × Nat)
  built : Nat
  failures : Nat

namespace Usage

def ofThreshold (threshold : Nat) : Usage := { threshold, counts := [], built := 0, failures := 0 }

def count (u : Usage) (typeName path : String) : Nat := (u.counts.lookup (typeName, path)).getD 0

/-- Adds one use of a path. -/
def bump (key : String × String) : List ((String × String) × Nat) → List ((String × String) × Nat)
  | [] => [(key, 1)]
  | (k, n) :: rest => if k = key then (k, n + 1) :: rest else (k, n) :: bump key rest

def use (u : Usage) (typeName path : String) : Usage :=
  { u with counts := bump (typeName, path) u.counts }

/-- Forgets every use. -/
def reset (u : Usage) : Usage := { u with counts := [] }

/-- Sees to it that a path has an index if it can have one. Tells whether it was built now. -/
def ensure (u : Usage) (c : NodeCollection) (path : String) : Usage × NodeCollection × Bool :=
  match c.ensureIndex path with
  | (c, .ok true) => ({ u with built := u.built + 1 }, c, true)
  | (c, .ok false) => (u, c, false)
  | (c, .error _) => ({ u with failures := u.failures + 1 }, c, false)

/-- Sees to the indexes of several paths and gives those that were built. -/
def ensureAll (u : Usage) (c : NodeCollection) : List String → Usage × NodeCollection × List String
  | [] => (u, c, [])
  | path :: rest =>
    let (u, c, built) := u.ensure c path
    let (u, c, more) := ensureAll u c rest
    (u, c, if built then path :: more else more)

/-- Counts the paths of a predicate and builds the indexes that are due. Gives the paths whose index
was built. -/
def record (u : Usage) (c : NodeCollection) (p : Predicate) :
    Usage × NodeCollection × List String :=
  let used := p.paths.foldl (fun u path => u.use c.typeName path) u
  used.ensureAll c (p.paths.filter fun path => used.count c.typeName path ≥ u.threshold)

/-- Indexes the paths of a sort. -/
def indexSort (u : Usage) (c : NodeCollection) (sort : SortSpec) : Usage × NodeCollection :=
  let (u, c, _) := u.ensureAll c sort.paths
  (u, c)

end Usage

end ContentQuery
