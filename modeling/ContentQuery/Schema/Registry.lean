import ContentQuery.Schema.Kind
import ContentQuery.Schema.Resolver

/-!
# The type registry

Object types with their fields, found by name, and the enums beside them.
-/

namespace ContentQuery

structure Field where
  name : String
  /-- The type as declared, such as `[Node!]!`. -/
  declared : String
  kind : FieldKind
  resolver : Option Resolver
  /-- Arguments handed to the resolver. -/
  defaultArgs : Json.Object

structure ObjectType where
  name : String
  /-- Values of the type are nodes and carry the node fields. -/
  isNode : Bool
  fields : List Field

def ObjectType.field? (t : ObjectType) (name : String) : Option Field :=
  t.fields.find? (·.name == name)

structure EnumType where
  name : String
  values : List String
  deriving DecidableEq

structure Registry where
  types : List ObjectType
  enums : List EnumType

namespace Registry

def type? (r : Registry) (name : String) : Option ObjectType := r.types.find? (·.name == name)

def enum? (r : Registry) (name : String) : Option EnumType := r.enums.find? (·.name == name)

/-- Names of the object types, in order. -/
def typeNames (r : Registry) : List String := (r.types.map (·.name)).mergeSort (· ≤ ·)

/-- The registry without some of its object types; fields that refer to them remain. -/
def hide (r : Registry) (names : List String) : Registry :=
  { r with types := r.types.filter fun t => !names.contains t.name }

end Registry

end ContentQuery
