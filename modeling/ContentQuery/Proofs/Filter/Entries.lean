import ContentQuery.Filter.Compile
import ContentQuery.Proofs.Schema.Built

/-!
# Compiling one entry

A filter compiles if its first entry does and the rest does after it. For each kind of entry it is said
here once when that is so and what is added to the predicate, so that what holds of all that compiles is
shown by going through the filter, and not through the compiler.
-/

namespace ContentQuery

namespace Registry

variable {r : Registry} {name : String} {t : ObjectType}

theorem typeOrReject_eq_ok_iff : r.typeOrReject name = .ok t ↔ r.type? name = some t := by
  unfold typeOrReject
  cases r.type? name with
  | none => simp
  | some found => simp

theorem type?_of_typeOrReject (h : r.typeOrReject name = .ok t) : r.type? name = some t :=
  typeOrReject_eq_ok_iff.mp h

theorem typeOrReject_of_type? (h : r.type? name = some t) : r.typeOrReject name = .ok t :=
  typeOrReject_eq_ok_iff.mpr h

end Registry

namespace Filter

variable {r : Registry} {t : ObjectType} {field : Field} {path : String} {rest : Filter}
  {out p : Predicate}

/-! ## Filters on objects -/

theorem compileObject_nil : compileObject r t [] out = .ok p ↔ out = p := by
  rw [compileObject, Except.ok.injEq]

/-- On an object, an entry is a filter on one of its fields. -/
theorem compileObject_cons {entry : FilterEntry} :
    compileObject r t (entry :: rest) out = .ok p ↔
      ∃ name inner field next, entry = .field name inner ∧ t.field? name = some field ∧
        compileField r field name inner out = .ok next ∧ compileObject r t rest next = .ok p := by
  cases entry with
  | field name inner =>
      rw [compileObject]
      cases hfield : t.field? name with
      | none => simp [hfield]
      | some field =>
          cases hinner : compileField r field name inner out with
          | ok next => simp [hfield, hinner]
          | error e => simp [hfield, hinner]
  | elemMatch inner => simp [compileObject]
  | operator name operand => simp [compileObject]

/-! ## Filters on fields -/

theorem compileField_nil : compileField r field path [] out = .ok p ↔ out = p := by
  rw [compileField, Except.ok.injEq]

/-- An operator is a test on the path. -/
theorem compileField_operator {name : String} {operand : Json} :
    compileField r field path (.operator name operand :: rest) out = .ok p ↔
      ∃ test, testFor field path name operand = .ok test ∧
        compileField r field path rest (out.addTest path test) = .ok p := by
  rw [compileField]
  cases testFor field path name operand with
  | ok test => simp
  | error e => simp

/-- A filter on elements is compiled on its own, into an empty predicate. -/
theorem compileField_elemMatch {inner : Filter} :
    compileField r field path (.elemMatch inner :: rest) out = .ok p ↔
      ∃ element t nested, field.kind = .objectList element ∧ r.type? element = some t ∧
        compileObject r t inner [] = .ok nested ∧
        compileField r field path rest (out.addElements path nested) = .ok p := by
  rw [compileField]
  cases field.kind with
  | objectList element =>
      cases htype : r.type? element with
      | none => simp [Registry.typeOrReject, htype]
      | some t =>
          cases hinner : compileObject r t inner [] with
          | ok nested => simp [Registry.typeOrReject, htype, hinner]
          | error e => simp [Registry.typeOrReject, htype, hinner]
  | _ => simp

/-- A filter on a nested field goes on at the path of that field. -/
theorem compileField_field {name : String} {inner : Filter} :
    compileField r field path (.field name inner :: rest) out = .ok p ↔
      ∃ typeName t child next, field.kind.objectType? = some typeName ∧
        r.type? typeName = some t ∧ t.field? name = some child ∧
        compileField r child (Path.child path name) inner out = .ok next ∧
        compileField r field path rest next = .ok p := by
  rw [compileField]
  cases field.kind.objectType? with
  | none => simp
  | some typeName =>
      cases htype : r.type? typeName with
      | none => simp [Registry.typeOrReject, htype]
      | some t =>
          cases hchild : t.field? name with
          | none => simp [Registry.typeOrReject, htype, hchild]
          | some child =>
              cases hinner : compileField r child (Path.child path name) inner out with
              | ok next => simp [Registry.typeOrReject, htype, hchild, hinner]
              | error e => simp [Registry.typeOrReject, htype, hchild, hinner]

/-- Once all is added, every test is relaxed. -/
theorem compile_eq_ok_iff {typeName : String} {filter : Filter} :
    compile r typeName filter = .ok p ↔
      ∃ t compiled, r.type? typeName = some t ∧ compileObject r t filter [] = .ok compiled ∧
        compiled.relaxed = p := by
  rw [compile, bind_eq_ok]
  simp only [bind_eq_ok, Registry.typeOrReject_eq_ok_iff, pure, Except.pure, Except.ok.injEq,
    exists_and_left]

end Filter

end ContentQuery
