/-!
# Field kinds

What a declared field holds: a scalar, an enum value, an object, or a list of one of these. How a
filter treats a field depends on its kind alone.
-/

namespace ContentQuery

inductive ScalarType where
  | id
  | string
  | int
  | float
  | boolean
  | date
  /-- Any JSON value; takes no filter operators. -/
  | json
  deriving DecidableEq, Repr

namespace ScalarType

def name : ScalarType → String
  | .id => "ID"
  | .string => "String"
  | .int => "Int"
  | .float => "Float"
  | .boolean => "Boolean"
  | .date => "Date"
  | .json => "JSON"

def all : List ScalarType := [.id, .string, .int, .float, .boolean, .date, .json]

def ofName? (name : String) : Option ScalarType := all.find? (·.name == name)

end ScalarType

/-- The type of a value without members: a scalar or an enum. -/
inductive LeafType where
  | scalar (type : ScalarType)
  | enum (name : String)
  deriving DecidableEq, Repr

inductive FieldKind where
  | leaf (type : LeafType)
  | object (typeName : String)
  | leafList (type : LeafType)
  | objectList (typeName : String)
  deriving DecidableEq, Repr

namespace FieldKind

def isList : FieldKind → Bool
  | .leafList _ | .objectList _ => true
  | _ => false

/-- A single Boolean, no list. -/
def isBoolean (k : FieldKind) : Bool := k == .leaf (.scalar .boolean)

/-- The object type that the field refers to. -/
def objectType? : FieldKind → Option String
  | .object name | .objectList name => some name
  | _ => none

/-- The type of the field's values or of their elements. -/
def leafType? : FieldKind → Option LeafType
  | .leaf type | .leafList type => some type
  | _ => none

end FieldKind

end ContentQuery
