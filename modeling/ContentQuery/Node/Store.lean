import ContentQuery.Node.Basic
import Std.Data.HashMap

/-!
# The node store

A store keeps nodes in the order in which their ids first came, with a table from ids to positions.
Every change yields the signal that caches and indexes built on the store should be told.
-/

namespace ContentQuery

/-- What a store tells those who keep data derived from it. -/
inductive Signal where
  /-- Everything may have changed. -/
  | cacheCleared
  /-- From now on every change is signalled. -/
  | bootstrapFinished
  /-- The node is new or has new content. -/
  | nodeChanged (id digest : String)
  deriving DecidableEq

structure NodeStore where
  nodes : Array Node
  /-- Position of each stored id. -/
  positions : Std.HashMap String Nat
  /-- Stamp for the next node that is stored. -/
  nextStamp : Nat
  deriving Inhabited

namespace NodeStore

def empty : NodeStore := ⟨#[], ∅, 0⟩

/-- Adds a node at the end, or puts it where one with its id stands. -/
def upsert (s : NodeStore) (node : Node) : NodeStore :=
  let node := { node with stamp := s.nextStamp }
  match s.positions[node.id]? with
  | some at_ => { s with nodes := s.nodes.setIfInBounds at_ node, nextStamp := s.nextStamp + 1 }
  | none =>
    { nodes := s.nodes.push node, positions := s.positions.insert node.id s.nodes.size,
      nextStamp := s.nextStamp + 1 }

/-- The signal of an upsert. -/
def upsertSignal (node : Node) : Signal := .nodeChanged node.id node.digest

/-- Takes a node out; those after it move up. Gives the node, if it was there. -/
def remove (s : NodeStore) (id : String) : NodeStore × Option Node :=
  match s.positions[id]? with
  | none => (s, none)
  | some at_ =>
    let nodes := s.nodes.eraseIdxIfInBounds at_
    let moved := (nodes.toList.zipIdx.drop at_).foldl
      (fun table (node, i) => table.insert node.id i) (s.positions.erase id)
    ({ s with nodes, positions := moved }, s.nodes[at_]?)

def node? (s : NodeStore) (id : String) : Option Node :=
  (s.positions[id]?).bind (s.nodes[·]?)

/-- Nodes of a type, in store order. -/
def ofType (s : NodeStore) (typeName : String) : List Node :=
  s.nodes.toList.filter (·.typeName == typeName)

def size (s : NodeStore) : Nat := s.nodes.size

def isEmpty (s : NodeStore) : Bool := s.size == 0

/-- The store that results from storing nodes one by one. -/
def ofList (nodes : List Node) : NodeStore := nodes.foldl upsert empty

end NodeStore

end ContentQuery
