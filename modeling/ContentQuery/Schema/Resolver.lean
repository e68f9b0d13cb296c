import ContentQuery.Node.Store

/-!
# Field resolvers

A resolver computes the value of a field from the object that carries it. It may pause before it
answers, and it answers from the store as it is then. Links are resolvers that follow references to
other nodes.
-/

namespace ContentQuery

open Json (Object)

/-- What a resolver is told when it is called. -/
structure ResolveRequest where
  /-- The object being completed, with the fields completed before this one. -/
  source : Object
  args : Object
  fieldName : String
  parentType : String
  /-- The field's type as declared. -/
  returnType : String
  /-- Path of the page that the query is made for. -/
  path : Option String
  deriving Inhabited

/-- What a resolver does with a request: it pauses some times and then answers, a value or the text
of a failure. -/
structure Reply where
  pauses : Nat
  answer : NodeStore → Except String Json

structure Resolver where
  /-- The reply to a request. Calls of one field are numbered from one on, so a resolver may fail at
  first and succeed later. -/
  reply : (attempt : Nat) → ResolveRequest → Reply

namespace Resolver

/-- A resolver that answers at once from the request and the store. -/
def immediate (answer : ResolveRequest → NodeStore → Except String Json) : Resolver :=
  ⟨fun _ request => ⟨0, answer request⟩⟩

end Resolver

/-- How a link finds the node that a reference means. -/
inductive Link where
  /-- The reference is the id of the node. -/
  | byId
  /-- The first node of a type whose field equals the reference. -/
  | byField (field targetType : String)

namespace Link

/-- The node that a reference means, or null. -/
def follow (link : Link) (store : NodeStore) (reference : Json) : Json :=
  let found := match link with
    | .byId => reference.string?.bind store.node?
    | .byField field targetType =>
      (store.ofType targetType).find? fun n => (n.get? field).any fun v => Json.same v reference
  found.elim .null Node.toJson

/-- The value of a link field: one reference gives a node or null, a list of them the nodes that are
found. -/
def answer (link : Link) (request : ResolveRequest) (store : NodeStore) : Json :=
  match request.source.get? request.fieldName with
  | none | some .null => .null
  | some (.array references) =>
    .array ((references.map (link.follow store)).filter fun v => !v.isNull)
  | some reference => link.follow store reference

def resolver (link : Link) : Resolver :=
  .immediate fun request store => .ok (link.answer request store)

end Link

end ContentQuery
