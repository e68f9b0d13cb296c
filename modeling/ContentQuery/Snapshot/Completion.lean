import ContentQuery.Query.Required
import ContentQuery.Schema.Registry
import ContentQuery.Snapshot.Work

/-!
# Completing required fields

A snapshot of a node carries the fields that a query requires. Required fields are completed one
after the other, so a resolver sees what was completed before it; fields required inside an object
are completed in the value just found, and in a list in each of its items. A field without a resolver
that is not there stays missing.
-/

namespace ContentQuery

open Json (Object)

/-- What resolvers are called with, besides the request itself. -/
structure Completion where
  registry : Registry
  /-- Path of the page that the query is made for. -/
  path : Option String
  /-- Id of the node under completion. -/
  nodeId : String

namespace Completion

mutual

/-- Completes every object in a value, however deep lists nest. -/
def inObjects (complete : Object → Work) : Json → Work
  | .object members => complete members
  | .array items => .join (inItems complete items) fun vs => .done (.array vs)
  | v => .done v

def inItems (complete : Object → Work) : List Json → List Work
  | [] => []
  | v :: rest => inObjects complete v :: inItems complete rest

end

mutual

/-- Completes one required field of an object of a type and goes on with the object. -/
def field (c : Completion) (t : ObjectType) : RequiredField → Object → (Object → Work) → Work
  | ⟨name, inner⟩, source, next =>
    match t.field? name with
    | none => .failed (.unknownField t.name name)
    | some field =>
      let keep (v : Json) : Work := next (source.insert name v)
      let complete (v : Json) : Work :=
        match field.kind.objectType? with
        | none => keep v
        | some nested =>
          if inner.isEmpty || v.isNull then keep v
          else match c.registry.type? nested with
            | none => .failed (.unknownType nested)
            | some t => (inObjects (fields c t inner) v).bind keep
      match field.resolver with
      | some resolver =>
        let request : ResolveRequest := {
          source
          args := field.defaultArgs
          fieldName := name
          parentType := t.name
          returnType := field.declared
          path := c.path }
        .call resolver request fun
          | .ok v => complete v
          | .error cause => .failed (.failure t.name name c.nodeId cause)
      | none =>
        match source.get? name with
        | some v => complete v
        | none => next source

/-- Completes the required fields of an object of a type. -/
def fields (c : Completion) (t : ObjectType) : List RequiredField → Object → Work
  | [], source => .done (.object source)
  | f :: rest, source => field c t f source (fields c t rest)

end

end Completion

/-- The work of completing the required fields of a node. -/
def Node.completion (registry : Registry) (path : Option String) (t : ObjectType)
    (required : RequiredFields) (node : Node) : Work :=
  Completion.fields ⟨registry, path, node.id⟩ t required node.body

namespace Registry

mutual

/-- Is a required field, or one inside it, computed by a resolver? -/
def fieldNeedsResolver (r : Registry) (t : ObjectType) : RequiredField → Except SnapshotError Bool
  | ⟨name, inner⟩ =>
    match t.field? name with
    | none => .error (.unknownField t.name name)
    | some field =>
      if field.resolver.isSome then .ok true
      else match field.kind.objectType? with
        | none => .ok false
        | some typeName =>
          if inner.isEmpty then .ok false
          else match r.type? typeName with
            | none => .error (.unknownType typeName)
            | some t => needsResolver r t inner

/-- Is one of the required fields, at any depth, computed by a resolver? -/
def needsResolver (r : Registry) (t : ObjectType) : List RequiredField → Except SnapshotError Bool
  | [] => .ok false
  | f :: rest =>
    match fieldNeedsResolver r t f with
    | .ok true => .ok true
    | .ok false => needsResolver r t rest
    | .error e => .error e

end

/-- Does a query that requires these fields of a type have to call resolvers? -/
def needsResolution (r : Registry) (typeName : String) (required : RequiredFields) :
    Except SnapshotError Bool :=
  match r.type? typeName with
  | none => .error (.unknownType typeName)
  | some t => r.needsResolver t required

end Registry

end ContentQuery
