import ContentQuery.Filter.Basic
import ContentQuery.Filter.Predicate
import ContentQuery.Schema.Registry

/-!
# Compiling filters

A filter on a type compiles to a predicate: nested fields become dotted paths, and each operator
becomes a test that suits the kind of its field. On a list field, equality asks for membership and a
set of values for a common element; equality with null asks whether the value is missing.
-/

namespace ContentQuery

namespace Registry

/-- An object type, or the rejection of a query for it. -/
def typeOrReject (r : Registry) (name : String) : Except Rejection ObjectType :=
  match r.type? name with
  | some t => .ok t
  | none => .error (.unknownType name)

/-- The kind of the field that the steps lead to from a type. Rejections name the path as a whole
and the type it starts from. -/
def kindAlong (r : Registry) (typeName path : String) : ObjectType → List String →
    Except Rejection FieldKind
  | _, [] => .error (.unknownField typeName path)
  | t, step :: rest =>
    match t.field? step with
    | none => .error (.unknownField typeName path)
    | some field =>
      if rest.isEmpty then .ok field.kind
      else match field.kind.objectType? with
        | none => .error (.conflict path (.noNestedFields step))
        | some inner =>
          match r.typeOrReject inner with
          | .ok t => kindAlong r typeName path t rest
          | .error e => .error e

/-- The kind of the field at a dotted path. Fields on the way must be objects or lists of them. -/
def kindAt (r : Registry) (typeName path : String) : Except Rejection FieldKind := do
  kindAlong r typeName path (← r.typeOrReject typeName) (Path.steps path)

end Registry

namespace Filter

/-- The values of a set operator. -/
def valueSet (op : Operator) (path : String) : Json → Except Rejection (List Json)
  | .array vs => .ok vs
  | _ => .error (.operand path (.notList op.name))

/-- The test that an operator of a field's own set stands for. -/
def knownTest (kind : FieldKind) (path : String) (operand : Json) :
    Operator → Except Rejection Test
  | .glob =>
    match GlobPattern.ofJson operand with
    | .ok p => .ok (.glob p)
    | .error e => .error (.operand path (.pattern e))
  | .regex =>
    match RegexPattern.ofJson operand with
    | .ok p => .ok (.regex p)
    | .error e => .error (.operand path (.pattern e))
  | .eq =>
    .ok (if operand.isNull then .missing else if kind.isList then .contains operand else .eq operand)
  | .ne =>
    .ok (if operand.isNull then .present
      else if kind.isList then .containsNone [operand]
      else .ne operand)
  | .oneOf => do
    let vs ← valueSet .oneOf path operand
    return if kind.isList then .containsAny vs else .oneOf vs
  | .noneOf => do
    let vs ← valueSet .noneOf path operand
    return if kind.isList then .containsNone vs else .noneOf vs kind.isBoolean
  | .lt => .ok (.lt operand)
  | .lte => .ok (.lte operand)
  | .gt => .ok (.gt operand)
  | .gte => .ok (.gte operand)

/-- The test that an operator stands for on a field. An unknown operator is passed on, but only on a
field that takes operators. -/
def testFor (field : Field) (path name : String) (operand : Json) : Except Rejection Test :=
  let allowed := field.kind.operators
  if allowed.isEmpty then .error (.conflict path (.noOperators field.declared name))
  else match Operator.ofName? name with
    | none => .ok (.unknown name operand)
    | some op =>
      if allowed.contains op then knownTest field.kind path operand op
      else .error (.conflict path (.unsupportedOperator name field.declared))

mutual

/-- Adds the conditions of a filter on an object of a type. -/
def compileObject (r : Registry) (t : ObjectType) : Filter → Predicate → Except Rejection Predicate
  | [], out => .ok out
  | .field name inner :: rest, out =>
    match t.field? name with
    | none => .error (.unknownField t.name name)
    | some field =>
      match compileField r field name inner out with
      | .ok out => compileObject r t rest out
      | .error e => .error e
  | .elemMatch _ :: _, _ => .error (.conflict t.name .elementsOfObject)
  | .operator name _ :: _, _ => .error (.malformed (.strayOperator name t.name))

/-- Adds the conditions of a filter on a field, which stands at `path`. -/
def compileField (r : Registry) (field : Field) (path : String) : Filter → Predicate →
    Except Rejection Predicate
  | [], out => .ok out
  | .operator name operand :: rest, out =>
    match testFor field path name operand with
    | .ok test => compileField r field path rest (out.addTest path test)
    | .error e => .error e
  | .elemMatch inner :: rest, out =>
    match field.kind with
    | .objectList element =>
      match r.typeOrReject element with
      | .error e => .error e
      | .ok t =>
        match compileObject r t inner [] with
        | .ok nested => compileField r field path rest (out.addElements path nested)
        | .error e => .error e
    | _ => .error (.conflict path (.elementsOfField field.declared))
  | .field name inner :: rest, out =>
    match field.kind.objectType? with
    | none => .error (.conflict path (.noNestedField field.declared name))
    | some typeName =>
      match r.typeOrReject typeName with
      | .error e => .error e
      | .ok t =>
        match t.field? name with
        | none => .error (.unknownField t.name (Path.child path name))
        | some child =>
          match compileField r child (Path.child path name) inner out with
          | .ok out => compileField r field path rest out
          | .error e => .error e

end

/-- Compiles a filter on a type. -/
def compile (r : Registry) (typeName : String) (filter : Filter) : Except Rejection Predicate := do
  let t ← r.typeOrReject typeName
  return (← compileObject r t filter []).relaxed

end Filter

end ContentQuery
