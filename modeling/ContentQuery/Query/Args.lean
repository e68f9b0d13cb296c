import ContentQuery.Filter.Basic

/-!
# Query arguments

A query may carry a filter, a sort, and bounds on which part of the answer to return; projections ask
for the values at a path of the answer.
-/

namespace ContentQuery

inductive Direction where
  | ascending
  | descending
  deriving DecidableEq, Repr

namespace Direction

def name : Direction → String
  | .ascending => "ASC"
  | .descending => "DESC"

/-- Reads a direction in upper or lower case. -/
def parse (text : String) : Except Rejection Direction :=
  let lower := String.ofList (text.toList.map Char.toLower)
  if lower = "asc" then .ok .ascending
  else if lower = "desc" then .ok .descending
  else .error (.malformed (.sortOrder text))

/-- An ordering read in this direction. -/
def apply : Direction → Ordering → Ordering
  | .ascending, o => o
  | .descending, o => o.swap

end Direction

structure SortKey where
  path : String
  direction : Direction
  deriving DecidableEq, Repr

/-- Keys in order of weight. -/
abbrev SortSpec := List SortKey

namespace SortSpec

/-- A sort as written: the fields, and the directions of the first of them. -/
structure Written where
  fields : List String := []
  order : Option (List String) := none

def reader : Json.RecordReader Written where
  name := "RawSort"
  required := 1
  members := [
    ("fields", fun w v => return { w with fields := ← Json.oneOrMany "OneOrMany" v }),
    ("order", fun w v => return { w with order := ← Json.optional (Json.oneOrMany "OneOrMany") v })]

/-- Pairs fields with directions; a field without one ascends. -/
def ofFields : List String → List String → Except Rejection SortSpec
  | [], _ => .ok []
  | path :: paths, orders => do
    if path.isEmpty then throw (.malformed .emptySortField)
    let direction ← match orders with
      | [] => pure .ascending
      | text :: _ => Direction.parse text
    return ⟨path, direction⟩ :: (← ofFields paths orders.tail)

/-- Reads a sort. -/
def ofJson (v : Json) : Except Rejection SortSpec :=
  match reader.read {} v with
  | .error e => .error (.malformed (.sort e))
  | .ok w =>
    let orders := w.order.getD []
    if orders.length > w.fields.length then
      .error (.malformed (.surplusOrders orders.length w.fields.length))
    else ofFields w.fields orders

def paths (s : SortSpec) : List String := s.map (·.path)

end SortSpec

/-- What to compute from the nodes of an answer. -/
inductive Projection where
  /-- The different values at a path. -/
  | distinct (path : String)
  /-- The nodes that share a value at a path. -/
  | group (path : String)
  deriving DecidableEq, Repr

def Projection.path : Projection → String
  | .distinct path | .group path => path

structure QueryArgs where
  filter : Option Filter := none
  sort : Option SortSpec := none
  skip : Option Nat := none
  limit : Option Nat := none
  deriving Inhabited

namespace QueryArgs

/-- Arguments whose filter and sort are still to be read. -/
structure Written where
  filter : Option Json := none
  sort : Option Json := none
  skip : Option Nat := none
  limit : Option Nat := none

def reader : Json.RecordReader Written where
  name := "RawArgs"
  required := 0
  members := [
    ("filter", fun w v => return { w with filter := ← Json.optional pure v }),
    ("sort", fun w v => return { w with sort := ← Json.optional pure v }),
    ("skip", fun w v => return { w with skip := ← Json.optional (Json.asCount "usize") v }),
    ("limit", fun w v => return { w with limit := ← Json.optional (Json.asCount "usize") v })]

/-- Reads arguments; members of other names are passed over. -/
def ofJson (v : Json) : Except Rejection QueryArgs :=
  match reader.read {} v with
  | .error e => .error (.malformed (.arguments e))
  | .ok w => do
    let filter ← w.filter.mapM Filter.ofJson
    let sort ← w.sort.mapM SortSpec.ofJson
    return { filter, sort, skip := w.skip, limit := w.limit }

end QueryArgs

end ContentQuery
