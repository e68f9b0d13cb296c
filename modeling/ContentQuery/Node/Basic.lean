import ContentQuery.Json.Basic
import ContentQuery.Severity

/-!
# Content nodes

A node is an object with an id, a type and a version of its content. All three are members of its
body and are also kept beside it, so a body with further members still belongs to the same node.
-/

namespace ContentQuery

open Json (Object)

structure Node where
  id : String
  typeName : String
  /-- Version of the content; empty when the node states none. -/
  digest : String
  body : Object
  /-- Tells copies apart: two nodes with one stamp are one and the same node. -/
  stamp : Nat
  deriving Inhabited

/-- Why a value is no node. -/
inductive NodeError where
  | notObject
  | missingId
  | missingInternal (id : String)
  | missingType (id : String)

namespace NodeError

def code : NodeError → String := fun _ => "NQ_MALFORMED_NODE"

def severity : NodeError → Severity := fun _ => .reject

def message : NodeError → String
  | .notObject => "node must be a JSON object"
  | .missingId => "node is missing a string `id`"
  | .missingInternal id => "node " ++ id ++ " is missing `internal`"
  | .missingType id => "node " ++ id ++ " is missing `internal.type`"

def report (e : NodeError) : String := ContentQuery.report e.severity e.code e.message

end NodeError

namespace Node

/-- Reads a node. Its id and its type must be strings; a digest that is not one counts as none. -/
def ofJson (stamp : Nat) : Json → Except NodeError Node
  | .object body =>
    match Object.get? "id" body with
    | some (.string id) =>
      match Object.get? "internal" body with
      | some (.object internal) =>
        match Object.get? "type" internal with
        | some (.string typeName) =>
          let digest := ((Object.get? "contentDigest" internal).bind Json.string?).getD ""
          .ok { id, typeName, digest, body, stamp }
        | _ => .error (.missingType id)
      | _ => .error (.missingInternal id)
    | _ => .error .missingId
  | _ => .error .notObject

def get? (n : Node) (field : String) : Option Json := n.body.get? field

/-- Id of the parent node, if the node has one. -/
def parent? (n : Node) : Option String := (n.get? "parent").bind Json.string?

/-- Ids of the child nodes. Items that are no strings are passed over. -/
def children (n : Node) : List String :=
  (((n.get? "children").bind Json.array?).getD []).filterMap Json.string?

/-- The same node with another body: a snapshot. -/
def withBody (n : Node) (body : Object) (stamp : Nat) : Node := { n with body, stamp }

def toJson (n : Node) : Json := .object n.body

end Node

end ContentQuery
