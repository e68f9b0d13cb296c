import ContentQuery.Index.Tree
import ContentQuery.Query.Run

/-!
# Node collections

The nodes of one type with indexes on some of their paths. An index only ever narrows down where a
test can pass. It is built over all nodes, and given up when it would hold too many entries; such a
path is not tried again before the nodes change.
-/

namespace ContentQuery

/-- An index that would hold more entries than are allowed. -/
structure IndexOverflow where
  path : String
  maxEntries : Nat

namespace IndexOverflow

def code : IndexOverflow → String := fun _ => "NQ_INDEX_BUILD_FAILED"

def severity : IndexOverflow → Severity := fun _ => .warn

def message (e : IndexOverflow) : String :=
  "Index on '" ++ e.path ++ "' not built: more than " ++ toString e.maxEntries ++ " entries"

def report (e : IndexOverflow) : String := ContentQuery.report e.severity e.code e.message

end IndexOverflow

/-- Keys that a node has at a path: those of the values it reaches, and of the items of lists. -/
def Node.keysAt (n : Node) (path : String) : List IndexKey :=
  (Path.lookup n.body path).flatMap fun
    | .value v => v.items.filterMap IndexKey.ofJson?
    | _ => []

/-- Keys of all nodes at a path, each with the position of its node. -/
def keyedPositions (nodes : Array Node) (path : String) : List (IndexKey × Nat) :=
  nodes.toList.zipIdx.flatMap fun (node, position) => (node.keysAt path).map (·, position)

structure NodeCollection where
  typeName : String
  nodes : Array Node
  /-- Indexes by path. -/
  indexes : List (String × IndexTree)
  /-- Paths whose index was given up. -/
  failed : List String
  maxEntries : Nat

namespace NodeCollection

def empty (typeName : String) (maxEntries : Nat) : NodeCollection :=
  { typeName, nodes := #[], indexes := [], failed := [], maxEntries }

def withNodes (c : NodeCollection) (nodes : List Node) : NodeCollection :=
  { c with nodes := nodes.toArray }

/-- Builds the index of a path. -/
def build (c : NodeCollection) (path : String) : Except IndexOverflow IndexTree :=
  let entries := keyedPositions c.nodes path
  if entries.length > c.maxEntries then .error ⟨path, c.maxEntries⟩
  else .ok (entries.foldl (fun tree (key, position) => tree.insert key position) .empty)

/-- Both lists hold the same nodes, not just equal ones. -/
def sameNodes (a b : List Node) : Bool := a.map (·.stamp) == b.map (·.stamp)

/-- Replaces the nodes, unless they are the same ones. Indexes are built anew; those that fail are
dropped. Tells whether the nodes changed. -/
def sync (c : NodeCollection) (nodes : List Node) : NodeCollection × Bool :=
  if sameNodes c.nodes.toList nodes then (c, false)
  else
    let c := c.withNodes nodes
    let built := c.indexes.map fun (path, _) => (path, c.build path)
    ({ c with
        indexes := built.filterMap fun (path, tree) => tree.toOption.map (path, ·)
        failed := built.filterMap fun (path, tree) => if tree.toOption.isNone then some path else none },
      true)

def hasIndex (c : NodeCollection) (path : String) : Bool := c.indexes.any (·.1 == path)

/-- Builds the index of a path, unless there is one or it was given up. Tells whether it was built
now. -/
def ensureIndex (c : NodeCollection) (path : String) :
    NodeCollection × Except IndexOverflow Bool :=
  if c.hasIndex path || c.failed.contains path then (c, .ok false)
  else match c.build path with
    | .ok tree => ({ c with indexes := c.indexes ++ [(path, tree)] }, .ok true)
    | .error e => ({ c with failed := c.failed ++ [path] }, .error e)

/-- Indexed paths in ascending order. -/
def indexPaths (c : NodeCollection) : List String := (c.indexes.map Prod.fst).mergeSort (· ≤ ·)

/-- Positions where a test can pass, as an index tells. A bound only compares with values of its own
kind. -/
def narrow (tree : IndexTree) : Test → Option (List Nat)
  | .eq v | .contains v => (IndexKey.ofJson? v).map tree.at_
  | .oneOf vs | .containsAny vs => (vs.mapM IndexKey.ofJson?).map tree.atAny
  | .lt v => (IndexKey.ofJson? v).map fun key => tree.between (.closed key.least) (.opened key)
  | .lte v => (IndexKey.ofJson? v).map fun key => tree.between (.closed key.least) (.closed key)
  | .gt v => (IndexKey.ofJson? v).map fun key => tree.between (.opened key) key.last
  | .gte v => (IndexKey.ofJson? v).map fun key => tree.between (.closed key) key.last
  | _ => none

def candidates (c : NodeCollection) (path : String) (test : Test) : Option (List Nat) := do
  narrow (← c.indexes.lookup path) test

def source (c : NodeCollection) : NodeSource := ⟨c.nodes, c.candidates⟩

end NodeCollection

end ContentQuery
