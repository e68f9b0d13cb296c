import ContentQuery.Filter.Operator
import ContentQuery.Schema.Error
import ContentQuery.Schema.Registry

/-!
# Filter shapes

The shape of a type says which of its fields a filter may name, and what it may say about each: the
operators of a leaf, or the shape of a nested type. Fields about which nothing can be said are left
out, so a type may end up without a shape worth mentioning.

Shapes are derived depth first and kept in a memo. A type that refers back to one under derivation
keeps the reference, since that one is not known to be empty.
-/

namespace ContentQuery

/-- What a filter may say about a field. -/
inductive ShapeField where
  | operators (ops : List Operator)
  | object (typeName : String)
  /-- A list of objects: element filters and the fields of the type. -/
  | objectList (typeName : String)
  deriving DecidableEq, Repr

structure Shape where
  typeName : String
  /-- Fields in declaration order. -/
  fields : List (String × ShapeField)
  deriving DecidableEq, Repr

namespace Shape

/-- Name of the filter input of a type. -/
def inputName (typeName : String) : String := typeName ++ "FilterInput"

def name (s : Shape) : String := inputName s.typeName

def field? (s : Shape) (name : String) : Option ShapeField := s.fields.lookup name

def fieldNames (s : Shape) : List String := s.fields.map Prod.fst

/-- Names that a filter on a list of such objects may use. -/
def listFieldNames (s : Shape) : List String := "elemMatch" :: s.fieldNames

def isEmpty (s : Shape) : Bool := s.fields.isEmpty

def fieldJson : ShapeField → Json
  | .operators ops => .array (ops.map fun op => .string op.name)
  | .object typeName => .object [("type", .string (inputName typeName))]
  | .objectList typeName =>
    .object [("type", .string (typeName ++ "FilterListInput")),
      ("elemMatch", .string (inputName typeName))]

def toJson (s : Shape) : Json :=
  .object [("name", .string s.name),
    ("fields", .object (Json.Object.ofList (s.fields.map fun (name, field) =>
      (name, fieldJson field))))]

end Shape

/-- Shapes derived so far, latest first. -/
abbrev ShapeMemo := List Shape

namespace ShapeMemo

def shape? (memo : ShapeMemo) (typeName : String) : Option Shape :=
  memo.find? (·.typeName == typeName)

/-- Number of derivations. -/
def derivations (memo : ShapeMemo) : Nat := memo.length

end ShapeMemo

namespace Shape

/-- A type that a field refers to and that is not there is a fault of the field. -/
def blame (typeName field : String) : SchemaError → SchemaError
  | .unknownType _ => .unknownField typeName field
  | e => e

/-- What a field contributes to the shape of its type. `derive` derives the shape of a nested type,
and `stack` are the types under derivation. -/
def ofField (derive : ShapeMemo → String → ShapeMemo × Except SchemaError Shape)
    (typeName : String) (stack : List String) (memo : ShapeMemo) (field : Field) :
    ShapeMemo × Except SchemaError (Option ShapeField) :=
  let nested (inner : String) (reference : ShapeField) :=
    if stack.contains inner then (memo, .ok (some reference))
    else match derive memo inner with
      | (memo, .ok shape) => (memo, .ok (if shape.isEmpty then none else some reference))
      | (memo, .error e) => (memo, .error (blame typeName field.name e))
  match field.kind with
  | .leaf _ | .leafList _ =>
    let ops := field.kind.operators
    (memo, .ok (if ops.isEmpty then none else some (.operators ops)))
  | .object inner => nested inner (.object inner)
  | .objectList inner => nested inner (.objectList inner)

/-- The fields of a shape. What was derived before a failure stays in the memo. -/
def ofFields (derive : ShapeMemo → String → ShapeMemo × Except SchemaError Shape)
    (typeName : String) (stack : List String) :
    ShapeMemo → List Field → ShapeMemo × Except SchemaError (List (String × ShapeField))
  | memo, [] => (memo, .ok [])
  | memo, field :: rest =>
    match ofField derive typeName stack memo field with
    | (memo, .error e) => (memo, .error e)
    | (memo, .ok shaped) =>
      match ofFields derive typeName stack memo rest with
      | (memo, .error e) => (memo, .error e)
      | (memo, .ok fields) => (memo, .ok (shaped.toList.map (field.name, ·) ++ fields))

/-- Derives the shape of a type while those of `stack` are under derivation. The fuel bounds the
number of types on the stack. -/
def deriveFrom (r : Registry) :
    Nat → List String → ShapeMemo → String → ShapeMemo × Except SchemaError Shape
  | 0, _, memo, typeName => (memo, .error (.unknownType typeName))
  | fuel + 1, stack, memo, typeName =>
    match memo.shape? typeName with
    | some shape => (memo, .ok shape)
    | none =>
      match r.type? typeName with
      | none => (memo, .error (.unknownType typeName))
      | some t =>
        let stack := typeName :: stack
        match ofFields (deriveFrom r fuel stack) typeName stack memo t.fields with
        | (memo, .error e) => (memo, .error e)
        | (memo, .ok fields) =>
          let shape : Shape := { typeName, fields }
          (shape :: memo, .ok shape)

/-- The shape of a type, and the memo with all that was derived for it. No more types can be under
derivation than there are. -/
def derive (r : Registry) (memo : ShapeMemo) (typeName : String) :
    ShapeMemo × Except SchemaError Shape :=
  deriveFrom r (r.types.length + 1) [] memo typeName

end Shape

end ContentQuery
