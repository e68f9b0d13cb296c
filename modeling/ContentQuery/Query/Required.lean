import ContentQuery.Node.Path
import ContentQuery.Query.Args

/-!
# Required fields

The fields that a query reads, as a tree of names. Each name stands once among its siblings, in order
of first request, and asking for a field below another refines it: a whole field that is also asked
for in part is required in part.
-/

namespace ContentQuery

/-- A required field, and the fields required inside it: none if it is required whole. -/
structure RequiredField where
  name : String
  inner : List RequiredField
  deriving Inhabited

abbrev RequiredFields := List RequiredField

namespace RequiredField

/-- The field is required whole. -/
def isLeaf (f : RequiredField) : Bool := f.inner.isEmpty

mutual

def decEq : (a b : RequiredField) → Decidable (a = b)
  | ⟨a, inner⟩, ⟨b, other⟩ =>
    match String.decEq a b, decEqAll inner other with
    | isTrue h, isTrue h' => isTrue (by rw [h, h'])
    | isFalse h, _ => isFalse fun e => h (RequiredField.mk.inj e).1
    | _, isFalse h => isFalse fun e => h (RequiredField.mk.inj e).2

def decEqAll : (as bs : List RequiredField) → Decidable (as = bs)
  | [], [] => isTrue rfl
  | [], _ :: _ => isFalse (by simp)
  | _ :: _, [] => isFalse (by simp)
  | a :: as, b :: bs =>
    match decEq a b, decEqAll as bs with
    | isTrue h, isTrue h' => isTrue (by rw [h, h'])
    | isFalse h, _ => isFalse fun e => h (List.cons.inj e).1
    | _, isFalse h => isFalse fun e => h (List.cons.inj e).2

end

instance : DecidableEq RequiredField := decEq

end RequiredField

namespace RequiredFields

/-- Changes what is required inside the field of a name, which is added at the end if it is not
there yet. -/
def alter (name : String) (change : RequiredFields → RequiredFields) :
    RequiredFields → RequiredFields
  | [] => [⟨name, change []⟩]
  | f :: rest =>
    if f.name = name then ⟨name, change f.inner⟩ :: rest else f :: alter name change rest

mutual

/-- Adds a field, with what is required inside it. -/
def insert : RequiredField → RequiredFields → RequiredFields
  | ⟨name, inner⟩, set => alter name (insertAll inner) set

/-- Adds fields one by one. -/
def insertAll : List RequiredField → RequiredFields → RequiredFields
  | [], set => set
  | f :: rest, set => insertAll rest (insert f set)

end

/-- All that either set requires, in the order of the first and then of the second. -/
def merge (set other : RequiredFields) : RequiredFields := insertAll other set

/-- The set that requires one field, named step by step. -/
def ofSteps : List String → RequiredFields
  | [] => []
  | step :: rest => [⟨step, ofSteps rest⟩]

def addPath (set : RequiredFields) (path : String) : RequiredFields :=
  set.merge (ofSteps (Path.steps path))

mutual

/-- Adds the fields that an entry of a filter names. What is said about the elements of a list counts
for the field that holds the list. -/
def addEntry : FilterEntry → RequiredFields → RequiredFields
  | .field name inner, set => insert ⟨name, addFilter inner []⟩ set
  | .elemMatch inner, set => addFilter inner set
  | .operator .., set => set

/-- Adds the fields that a filter names. -/
def addFilter : Filter → RequiredFields → RequiredFields
  | [], set => set
  | entry :: rest, set => addFilter rest (addEntry entry set)

end

/-- The fields that a query reads: its filter first, then its sort, then its projections. -/
def forQuery (filter : Option Filter) (sort : Option SortSpec) (projections : List Projection) :
    RequiredFields :=
  let paths := (sort.getD []).paths ++ projections.map (·.path)
  paths.foldl addPath (addFilter (filter.getD []) [])

def get? (set : RequiredFields) (name : String) : Option RequiredField :=
  set.find? (·.name == name)

def names (set : RequiredFields) : List String := set.map (·.name)

mutual

/-- The text of a set, such as `{a{b,c},d}`. -/
def text (set : RequiredFields) : String := "\x7b" ++ String.intercalate "," (texts set) ++ "\x7d"

def texts : List RequiredField → List String
  | [] => []
  | ⟨name, inner⟩ :: rest => (if inner.isEmpty then name else name ++ text inner) :: texts rest

end

end RequiredFields

end ContentQuery
