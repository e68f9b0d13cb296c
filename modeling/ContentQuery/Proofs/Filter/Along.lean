import ContentQuery.Proofs.Filter.Conforming

/-!
# Filters at the end of a path

A filter on a nested field is written as filters inside each other, one for each name on the way. All of
them come down to one: what stands at the end is compiled for the field there, with the dotted path of
the names (**`Filter.compile_along`**). An operator that the field takes becomes a test of its own, which
a body satisfies when the operator accepts some slot of the path (**`Filter.compile_operator`**).
-/

namespace ContentQuery

/-! ## Fields by their names -/

namespace Registry

/-- The field that names lead to from a field. -/
def fieldBelow? (r : Registry) (field : Field) : List String → Option Field
  | [] => some field
  | name :: rest => do
    let t ← r.type? (← field.kind.objectType?)
    r.fieldBelow? (← t.field? name) rest

/-- The field that names lead to from a type. -/
def fieldAt? (r : Registry) (typeName : String) : List String → Option Field
  | [] => none
  | name :: rest => do
    let t ← r.type? typeName
    r.fieldBelow? (← t.field? name) rest

end Registry

/-- The path that names spell. -/
def Path.ofNames (names : List String) : String := names.foldl Path.child ""

theorem Path.ofNames_cons (name : String) (rest : List String) :
    ofNames (name :: rest) = rest.foldl child name := rfl

namespace Filter

/-- A filter on the field at the end of some names. -/
def along (names : List String) (inner : Filter) : Filter :=
  names.foldr (fun name inner => [.field name inner]) inner

variable {r : Registry} {field : Field} {inner : Filter}

/-! ## What is compiled -/

/-- **Names on the way** add nothing to a predicate but their path. -/
theorem compileField_along {start : Field} {names : List String}
    (h : r.fieldBelow? start names = some field) (path : String) (out : Predicate) :
    compileField r start path (along names inner) out =
      compileField r field (names.foldl Path.child path) inner out := by
  induction names generalizing start path with
  | nil =>
      obtain rfl := Option.some.inj h
      rfl
  | cons name rest ih =>
      obtain ⟨typeName, hobject, h⟩ := Option.bind_eq_some_iff.mp h
      obtain ⟨t, htype, h⟩ := Option.bind_eq_some_iff.mp h
      obtain ⟨child, hchild, h⟩ := Option.bind_eq_some_iff.mp h
      show compileField r start path [.field name (along rest inner)] out = _
      simp only [compileField, hobject, Registry.typeOrReject_of_type? htype, hchild]
      -- Nothing follows the filter on the child, so what it adds is all that is added.
      rw [ih h, List.foldl_cons]
      split
      · next heq => exact heq.symm
      · next heq => exact heq.symm

variable {typeName : String} {names : List String}

/-- **A filter at the end of a path** is compiled for the field there. -/
theorem compile_along (h : r.fieldAt? typeName names = some field) :
    compile r typeName (along names inner) =
      (compileField r field (Path.ofNames names) inner []).map Predicate.relaxed := by
  cases names with
  | nil => cases h
  | cons name rest =>
      obtain ⟨t, htype, h⟩ := Option.bind_eq_some_iff.mp h
      obtain ⟨start, hstart, h⟩ := Option.bind_eq_some_iff.mp h
      have hobject : compileObject r t (along (name :: rest) inner) [] =
          compileField r field (Path.ofNames (name :: rest)) inner [] := by
        show compileObject r t [.field name (along rest inner)] [] = _
        simp only [compileObject, hstart, compileField_along h, Path.ofNames_cons]
        split
        · next heq => exact heq.symm
        · next heq => exact heq.symm
      rw [compile, Registry.typeOrReject_of_type? htype]
      show (compileObject r t _ []).bind _ = _
      rw [hobject]
      cases compileField r field (Path.ofNames (name :: rest)) inner [] <;> rfl

/-- One operator at the end of a path is one test. -/
theorem compile_operator_eq (h : r.fieldAt? typeName names = some field) (name : String)
    (operand : Json) : compile r typeName (along names [.operator name operand]) =
      (testFor field (Path.ofNames names) name operand).map
        fun test => [.tests (Path.ofNames names) [test.relaxed]] := by
  rw [compile_along h, compileField]
  cases testFor field (Path.ofNames names) name operand with
  | ok test =>
      show (compileField r field (Path.ofNames names) [] _).map Predicate.relaxed = _
      rw [compileField]
      rfl
  | error e => rfl

/-! ## What a body satisfies -/

/-- A field takes its operators by their names. -/
theorem testFor_name {op : Operator} (hop : op ∈ field.kind.operators) (path : String)
    (operand : Json) : testFor field path op.name operand = knownTest field.kind path operand op := by
  have hname : Operator.ofName? op.name = some op := by cases op <;> rfl
  have hsome : ¬ field.kind.operators.isEmpty := by
    rw [List.isEmpty_iff]
    exact List.ne_nil_of_mem hop
  simp only [testFor, if_neg hsome, hname, List.contains_iff_mem.mpr hop, if_true]

/-- **An operator that the field takes** is satisfied by the bodies in which it accepts some slot that
the path reaches. -/
theorem compile_operator (h : r.fieldAt? typeName names = some field) {op : Operator} {operand : Json}
    (hop : op ∈ field.kind.operators) (htakes : op.takes operand) :
    ∃ test, knownTest field.kind (Path.ofNames names) operand op = .ok test ∧
      compile r typeName (along names [.operator op.name operand]) =
        .ok [.tests (Path.ofNames names) [test.relaxed]] ∧
      ∀ body, Predicate.holds body [.tests (Path.ofNames names) [test.relaxed]] =
        (Path.lookup body (Path.ofNames names)).any (op.accepts field.kind operand) := by
  have hname : Operator.ofName? op.name = some op := by cases op <;> rfl
  obtain ⟨test, htest⟩ := (exists_testFor_iff hname htakes).mpr hop
  have hknown : knownTest field.kind (Path.ofNames names) operand op = .ok test := by
    rw [← testFor_name hop]
    exact htest
  refine ⟨test, hknown, ?_, ?_⟩
  · rw [compile_operator_eq h, htest]
    rfl
  · intro body
    have haccepts : test.relaxed.passes = op.accepts field.kind operand :=
      funext (passes_knownTest hknown)
    simp [Predicate.holds, Predicate.holdsCondition, haccepts]

theorem exists_compile_operator (h : r.fieldAt? typeName names = some field) {op : Operator}
    {operand : Json} (hop : op ∈ field.kind.operators) (htakes : op.takes operand) :
    ∃ p, compile r typeName (along names [.operator op.name operand]) = .ok p ∧
      ∀ body, Predicate.holds body p =
        (Path.lookup body (Path.ofNames names)).any (op.accepts field.kind operand) := by
  obtain ⟨test, -, hcompile, hholds⟩ := compile_operator h hop htakes
  exact ⟨_, hcompile, hholds⟩

/-- The marks of the sections of an article. -/
def marks : Field := ⟨"marks", "[Int]", .leafList (.scalar .int), none, []⟩

end Filter

end ContentQuery
