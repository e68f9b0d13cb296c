import ContentQuery.Schema.Registry
import ContentQuery.Schema.Error

/-!
# Schema definitions and their registry

A schema lists object types and enums as they are declared. `Schema.build` gives every field its
kind and attaches resolvers. It fails when a name is declared twice, when a declared type cannot be
read or is not defined, and when a resolver is meant for a field that is not there.

Every node type carries `id`, `parent`, `children` and `internal`; the types that these need are
added when they are not declared.
-/

namespace ContentQuery

structure FieldDefinition where
  name : String
  declared : String
  resolver : Option Resolver
  defaultArgs : Json.Object

/-- A field without resolver and arguments. -/
def FieldDefinition.plain (name declared : String) : FieldDefinition := ⟨name, declared, none, []⟩

structure TypeDefinition where
  name : String
  isNode : Bool
  fields : List FieldDefinition

/-- A resolver meant for a field of a type. -/
structure Attachment where
  typeName : String
  field : String
  resolver : Resolver

structure Schema where
  types : List TypeDefinition
  enums : List EnumType
  attachments : List Attachment

/-! ## The node interface -/

namespace NodeInterface

def nodeType : String := "Node"

def internalType : String := "Internal"

/-- Fields of every node type. `parent` and `children` hold ids and lead to nodes. -/
def fields : List FieldDefinition := [
  .plain "id" "ID!",
  ⟨"parent", nodeType, some Link.byId.resolver, []⟩,
  ⟨"children", "[Node!]!", some Link.byId.resolver, []⟩,
  .plain "internal" "Internal!"]

def nodeDefinition : TypeDefinition := ⟨nodeType, true, []⟩

def internalDefinition : TypeDefinition := ⟨internalType, false, [
  .plain "content" "String",
  .plain "contentDigest" "String!",
  .plain "description" "String",
  .plain "fieldOwners" "[String]",
  .plain "ignoreType" "Boolean",
  .plain "mediaType" "String",
  .plain "owner" "String!",
  .plain "type" "String!"]⟩

end NodeInterface

/-- Fields of a type as declared, and the node fields that a node type does not declare itself. -/
def TypeDefinition.allFields (t : TypeDefinition) : List FieldDefinition :=
  if t.isNode then
    t.fields ++ NodeInterface.fields.filter fun f => !t.fields.any (·.name == f.name)
  else t.fields

namespace Schema

def empty : Schema := ⟨[], [], []⟩

def attach (s : Schema) (a : Attachment) : Schema :=
  { s with attachments := s.attachments ++ [a] }

/-- Adds a definition unless a type of its name is declared. -/
def addMissing (t : TypeDefinition) (types : List TypeDefinition) : List TypeDefinition :=
  if types.any (·.name == t.name) then types else types ++ [t]

/-- The declared types and those of the node interface. -/
def allTypes (s : Schema) : List TypeDefinition :=
  addMissing NodeInterface.internalDefinition (addMissing NodeInterface.nodeDefinition s.types)

/-- The first name that is declared twice, given the names declared before. -/
def repeatedName? : List String → List String → Option String
  | _, [] => none
  | before, name :: rest =>
    if before.contains name then some name else repeatedName? (name :: before) rest

/-- The kind that a declared type names: a built-in scalar first, then an enum, then an object. -/
def kindOf? (objects enums : List String) (d : DeclaredType) : Option FieldKind :=
  match ScalarType.ofName? d.name with
  | some scalar => some (if d.list then .leafList (.scalar scalar) else .leaf (.scalar scalar))
  | none =>
    if enums.contains d.name then
      some (if d.list then .leafList (.enum d.name) else .leaf (.enum d.name))
    else if objects.contains d.name then
      some (if d.list then .objectList d.name else .object d.name)
    else none

/-- A field with its kind. -/
def buildField (objects enums : List String) (typeName : String) (f : FieldDefinition) :
    Except SchemaError Field :=
  let place := typeName ++ "." ++ f.name
  match DeclaredType.parse f.declared with
  | .error fault => .error (.malformed place (.declared f.declared fault))
  | .ok d =>
    match kindOf? objects enums d with
    | none => .error (.malformed place (.undefinedType d.name))
    | some kind => .ok ⟨f.name, f.declared, kind, f.resolver, f.defaultArgs⟩

/-- Fields of a type, given the names of those before. -/
def buildFields (objects enums : List String) (typeName : String) :
    List String → List FieldDefinition → Except SchemaError (List Field)
  | _, [] => .ok []
  | before, f :: rest =>
    if before.contains f.name then
      .error (.malformed (typeName ++ "." ++ f.name) .repeatedField)
    else do
      let field ← buildField objects enums typeName f
      let more ← buildFields objects enums typeName (f.name :: before) rest
      return field :: more

def buildType (objects enums : List String) (t : TypeDefinition) :
    Except SchemaError ObjectType := do
  let fields ← buildFields objects enums t.name [] t.allFields
  return ⟨t.name, t.isNode, fields⟩

/-- Puts a resolver on the field that it is meant for. -/
def applyAttachment (types : List ObjectType) (a : Attachment) :
    Except SchemaError (List ObjectType) :=
  match types.find? (·.name == a.typeName) with
  | none => .error (.unknownType a.typeName)
  | some t =>
    if t.fields.any (·.name == a.field) then
      .ok (types.map fun u =>
        if u.name == a.typeName then
          { u with fields := u.fields.map fun f =>
              if f.name == a.field then { f with resolver := some a.resolver } else f }
        else u)
    else .error (.unknownField a.typeName a.field)

/-- The registry of a schema. -/
def build (s : Schema) : Except SchemaError Registry := do
  let enumNames := s.enums.map (·.name)
  if let some name := repeatedName? [] enumNames then throw (.duplicateType name)
  let objectNames := s.allTypes.map (·.name)
  if let some name := repeatedName? enumNames objectNames then throw (.duplicateType name)
  let types ← s.allTypes.mapM (buildType objectNames enumNames)
  let types ← s.attachments.foldlM applyAttachment types
  return ⟨types, s.enums⟩

end Schema

end ContentQuery
