import ContentQuery.Schema.Kind

/-!
# Filter operators

Which operators a leaf field takes depends on its type alone.
-/

namespace ContentQuery

inductive Operator where
  | eq
  | ne
  | gt
  | gte
  | lt
  | lte
  | oneOf
  | noneOf
  | regex
  | glob
  deriving DecidableEq, Repr

namespace Operator

/-- The operator as it is written in a filter. -/
def name : Operator → String
  | .eq => "eq"
  | .ne => "ne"
  | .gt => "gt"
  | .gte => "gte"
  | .lt => "lt"
  | .lte => "lte"
  | .oneOf => "in"
  | .noneOf => "nin"
  | .regex => "regex"
  | .glob => "glob"

def all : List Operator := [.eq, .ne, .gt, .gte, .lt, .lte, .oneOf, .noneOf, .regex, .glob]

def ofName? (name : String) : Option Operator := all.find? (·.name == name)

def equality : List Operator := [.eq, .ne, .oneOf, .noneOf]

def textual : List Operator := [.eq, .ne, .oneOf, .noneOf, .regex, .glob]

def ordered : List Operator := [.eq, .ne, .gt, .gte, .lt, .lte, .oneOf, .noneOf]

end Operator

/-- The operators of a leaf type; opaque JSON takes none. -/
def LeafType.operators : LeafType → List Operator
  | .enum _ => Operator.equality
  | .scalar .id | .scalar .boolean => Operator.equality
  | .scalar .string => Operator.textual
  | .scalar .int | .scalar .float | .scalar .date => Operator.ordered
  | .scalar .json => []

/-- The operators of a field; objects take none, lists those of their elements. -/
def FieldKind.operators (k : FieldKind) : List Operator := (k.leafType?.map (·.operators)).getD []

end ContentQuery
