import ContentQuery.Json.Order
import ContentQuery.Node.Basic
import ContentQuery.Node.Path

/-!
# Values and groups

The different values at a path of some nodes, and the nodes that share each of them. A list
contributes each of its items; nulls, objects and lists inside lists count for nothing.
-/

namespace ContentQuery

namespace Json

def isScalar : Json → Bool
  | .bool _ | .number _ | .string _ => true
  | _ => false

/-- Scalars of a value: itself, or its items if it is a list. -/
def scalars (v : Json) : List Json :=
  (match v with
    | .array items => items
    | v => [v]).filter isScalar

/-- Drops every value that equals the one kept before it. -/
def dropRepeats : List Json → List Json
  | [] => []
  | v :: rest =>
    match dropRepeats rest with
    | [] => [v]
    | w :: more => if w.equals v then v :: more else v :: w :: more

end Json

/-- Scalars that a node has at a path. -/
def Node.scalarsAt (n : Node) (path : String) : List Json :=
  (Path.lookup n.body path).flatMap fun
    | .value v => v.scalars
    | _ => []

/-- The different values at a path, ascending. -/
def distinctValues (nodes : List Node) (path : String) : List Json :=
  Json.dropRepeats ((nodes.flatMap (·.scalarsAt path)).mergeSort Json.notAfter)

/-- Nodes that share a value at a path. -/
structure Group where
  value : Json
  nodes : List Node

namespace Group

def size (g : Group) : Nat := g.nodes.length

/-- Puts a node into the group of a value, which is opened if there is none. -/
def add (value : Json) (node : Node) : List Group → List Group
  | [] => [⟨value, [node]⟩]
  | g :: rest =>
    if g.value.equals value then { g with nodes := g.nodes ++ [node] } :: rest
    else g :: add value node rest

/-- Puts a node into the group of each of its values, once if it has one several times. -/
def addNode (path : String) (groups : List Group) (node : Node) : List Group :=
  let values := (node.scalarsAt path).foldl
    (fun seen v => if seen.any (·.equals v) then seen else seen ++ [v]) []
  values.foldl (fun groups v => add v node groups) groups

end Group

/-- The nodes grouped by their values at a path; groups ascend by value, nodes keep their order. -/
def groupNodes (nodes : List Node) (path : String) : List Group :=
  (nodes.foldl (Group.addNode path) []).mergeSort fun a b => Json.notAfter a.value b.value

end ContentQuery
