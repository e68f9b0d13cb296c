import ContentQuery.Proofs.Filter.Reading
import ContentQuery.Query.Run

/-!
# Operators nobody knows

A filter may use an operator that nobody knows, at any depth. Compiling passes it on as a test that no
value passes, so a predicate that was evaluated with it would quietly give a wrong answer. It never is:
compiling neither loses nor invents an operator, however tests are gathered and nested, and a run looks
for one before anything is evaluated.

Main results:

* **`Filter.compile_unknowns`**: a compiled filter holds the unknown operators of the filter, no more
  and no fewer.
* **`NodeSource.run_eq_error_iff`**: a run fails on the first unknown operator, and on nothing else.
* **`Predicate.evaluate?_eq_some`**: without unknown operators, evaluation never needs its fallback.
-/

namespace ContentQuery

/-! ## Unknown operators of a filter -/

/-- How the operators are written. -/
def Operator.names : List String := all.map name

theorem Operator.ofName?_eq_none_iff {name : String} : ofName? name = none ↔ name ∉ names := by
  simp [ofName?, names, List.find?_eq_none]

theorem Operator.ofName?_isNone {name : String} : (ofName? name).isNone ↔ name ∉ names := by
  rw [Option.isNone_iff_eq_none, ofName?_eq_none_iff]

namespace Filter

mutual

/-- The operators written in a filter, at any depth. -/
def operatorNames : Filter → List String
  | [] => []
  | entry :: rest => operatorNamesIn entry ++ operatorNames rest

def operatorNamesIn : FilterEntry → List String
  | .operator name _ => [name]
  | .elemMatch inner | .field _ inner => operatorNames inner

end

/-- The operators that nobody knows. -/
def unknowns (filter : Filter) : List String :=
  filter.operatorNames.filter fun name => (Operator.ofName? name).isNone

def unknownsIn (entry : FilterEntry) : List String :=
  (operatorNamesIn entry).filter fun name => (Operator.ofName? name).isNone

theorem mem_unknowns {filter : Filter} {name : String} :
    name ∈ filter.unknowns ↔ name ∈ filter.operatorNames ∧ name ∉ Operator.names := by
  rw [unknowns, List.mem_filter, Operator.ofName?_isNone]

theorem unknowns_eq_nil_iff {filter : Filter} :
    filter.unknowns = [] ↔ ∀ name ∈ filter.operatorNames, name ∈ Operator.names := by
  simp [List.eq_nil_iff_forall_not_mem, mem_unknowns]

@[simp]
theorem unknowns_nil : unknowns [] = [] := by
  simp [unknowns, operatorNames]

theorem unknowns_cons (entry : FilterEntry) (rest : Filter) :
    unknowns (entry :: rest) = unknownsIn entry ++ unknowns rest := by
  simp [unknowns, unknownsIn, operatorNames]

@[simp]
theorem unknownsIn_field (name : String) (inner : Filter) :
    unknownsIn (.field name inner) = inner.unknowns := by
  simp [unknowns, unknownsIn, operatorNamesIn]

@[simp]
theorem unknownsIn_elemMatch (inner : Filter) : unknownsIn (.elemMatch inner) = inner.unknowns := by
  simp [unknowns, unknownsIn, operatorNamesIn]

theorem unknownsIn_operator_of_none {name : String} (h : Operator.ofName? name = none)
    (operand : Json) : unknownsIn (.operator name operand) = [name] := by
  simp [unknownsIn, operatorNamesIn, h]

theorem unknownsIn_operator_of_some {name : String} {op : Operator}
    (h : Operator.ofName? name = some op) (operand : Json) :
    unknownsIn (.operator name operand) = [] := by
  simp [unknownsIn, operatorNamesIn, h]

end Filter

/-! ## Unknown operators of a predicate -/

@[simp]
theorem Test.unknown?_relaxed (test : Test) : test.relaxed.unknown? = test.unknown? := by
  unfold relaxed
  split <;> rfl

namespace Predicate

mutual

/-- The tests of a predicate, at any depth. -/
def allTests : Predicate → List Test
  | [] => []
  | c :: rest => allTestsIn c ++ allTests rest

def allTestsIn : Condition → List Test
  | .tests _ ts => ts
  | .elements _ inner => allTests inner

end

/-- The operators that nobody knows. -/
def unknowns (p : Predicate) : List String := p.allTests.filterMap Test.unknown?

def unknownsIn (c : Condition) : List String := (allTestsIn c).filterMap Test.unknown?

theorem unknowns_eq_nil_iff {p : Predicate} :
    p.unknowns = [] ↔ ∀ test ∈ p.allTests, test.unknown? = none := by
  rw [unknowns, List.filterMap_eq_nil_iff]

@[simp]
theorem unknowns_nil : unknowns [] = [] := by
  simp [unknowns, allTests]

theorem unknowns_cons (c : Condition) (rest : Predicate) :
    unknowns (c :: rest) = unknownsIn c ++ unknowns rest := by
  simp [unknowns, unknownsIn, allTests]

theorem unknowns_append (p q : Predicate) : unknowns (p ++ q) = unknowns p ++ unknowns q := by
  induction p with
  | nil => simp
  | cons c rest ih => rw [List.cons_append, unknowns_cons, ih, unknowns_cons, List.append_assoc]

@[simp]
theorem unknownsIn_tests (path : String) (ts : List Test) :
    unknownsIn (.tests path ts) = ts.filterMap Test.unknown? := by
  simp [unknownsIn, allTestsIn]

@[simp]
theorem unknownsIn_elements (path : String) (inner : Predicate) :
    unknownsIn (.elements path inner) = inner.unknowns := by
  simp [unknowns, unknownsIn, allTestsIn]

mutual

/-- **Nothing is overlooked.** The operator that a predicate is rejected for is the first of all its
unknown ones. -/
theorem unknown?_eq_head? (p : Predicate) : p.unknown? = p.unknowns.head? := by
  cases p with
  | nil => rw [unknown?, unknowns_nil, List.head?_nil]
  | cons c rest =>
      rw [unknown?, unknownIn?_eq_head? c, unknown?_eq_head? rest, unknowns_cons, List.head?_append]

theorem unknownIn?_eq_head? (c : Condition) : unknownIn? c = (unknownsIn c).head? := by
  cases c with
  | tests path ts => rw [unknownIn?, unknownsIn_tests, List.head?_filterMap]
  | elements path inner => rw [unknownIn?, unknown?_eq_head? inner, unknownsIn_elements]

end

theorem unknown?_eq_none_iff {p : Predicate} : p.unknown? = none ↔ p.unknowns = [] := by
  rw [unknown?_eq_head?, List.head?_eq_none_iff]

theorem mem_unknowns_of_unknown? {p : Predicate} {operator : String}
    (h : p.unknown? = some operator) : operator ∈ p.unknowns := by
  rw [unknown?_eq_head?] at h
  exact List.mem_of_mem_head? h

/-- Wherever a test is put, its operator is there once more. -/
theorem unknowns_addTest (path : String) (test : Test) (p : Predicate) :
    (addTest path test p).unknowns.Perm (p.unknowns ++ test.unknown?.toList) := by
  have htest : [test].filterMap Test.unknown? = test.unknown?.toList := by
    cases h : test.unknown? <;> simp [h]
  induction p with
  | nil => simp [addTest, unknowns_cons, htest]
  | cons c rest ih =>
      have hlater : (unknownsIn c ++ (addTest path test rest).unknowns).Perm
          (unknownsIn c ++ (unknowns rest ++ test.unknown?.toList)) := ih.append_left _
      cases c with
      | elements q inner =>
          simp only [addTest]
          rw [unknowns_cons, unknowns_cons, List.append_assoc]
          exact hlater
      | tests q ts =>
          rw [addTest]
          split
          · rw [unknowns_cons, unknowns_cons, unknownsIn_tests, unknownsIn_tests,
              List.filterMap_append, htest, List.append_assoc, List.append_assoc]
            exact List.perm_append_comm.append_left _
          · rw [unknowns_cons, unknowns_cons, List.append_assoc]
            exact hlater

theorem unknowns_addElements (p : Predicate) (path : String) (inner : Predicate) :
    (addElements p path inner).unknowns = p.unknowns ++ inner.unknowns := by
  rw [addElements, unknowns_append, unknowns_cons, unknownsIn_elements, unknowns_nil,
    List.append_nil]

mutual

theorem unknowns_relaxed (p : Predicate) : p.relaxed.unknowns = p.unknowns := by
  cases p with
  | nil => rw [relaxed]
  | cons c rest =>
      rw [relaxed, unknowns_cons, unknownsIn_relaxedCondition c, unknowns_relaxed rest,
        unknowns_cons]

theorem unknownsIn_relaxedCondition (c : Condition) :
    unknownsIn (relaxedCondition c) = unknownsIn c := by
  cases c with
  | tests path ts =>
      rw [relaxedCondition, unknownsIn_tests, unknownsIn_tests, List.filterMap_map]
      simp only [Function.comp_def, Test.unknown?_relaxed]
  | elements path inner =>
      rw [relaxedCondition, unknownsIn_elements, unknownsIn_elements, unknowns_relaxed inner]

end

end Predicate

/-! ## Compiling passes operators on -/

namespace Filter

/-- An operator of a field's own set becomes a test that is known. -/
theorem unknown?_of_knownTest {kind : FieldKind} {path : String} {operand : Json} {op : Operator}
    {test : Test} (h : knownTest kind path operand op = .ok test) : test.unknown? = none := by
  cases op with
  | eq | ne =>
      obtain rfl := Except.ok.inj h
      split
      · rfl
      · split <;> rfl
  | oneOf =>
      obtain rfl := test_of_valueSet (f := fun vs =>
        if kind.isList then .containsAny vs else .oneOf vs) h
      split <;> rfl
  | noneOf =>
      obtain rfl := test_of_valueSet (f := fun vs =>
        if kind.isList then .containsNone vs else .noneOf vs kind.isBoolean) h
      split <;> rfl
  | regex | glob =>
      simp only [knownTest] at h
      split at h
      · obtain rfl := Except.ok.inj h
        rfl
      · cases h
  | lt | lte | gt | gte =>
      obtain rfl := Except.ok.inj h
      rfl

/-- The test that stands for an operator is unknown exactly when the operator is. -/
theorem unknown?_of_testFor {field : Field} {path name : String} {operand : Json} {test : Test}
    (h : testFor field path name operand = .ok test) :
    test.unknown?.toList = unknownsIn (.operator name operand) := by
  unfold testFor at h
  dsimp only at h
  split at h
  · cases h
  · split at h
    · rename_i hname
      obtain rfl := Except.ok.inj h
      rw [unknownsIn_operator_of_none hname]
      rfl
    · rename_i op hname
      split at h
      · rw [unknown?_of_knownTest h, unknownsIn_operator_of_some hname]
        rfl
      · cases h

mutual

/-- Compiling a filter on an object adds its unknown operators to those of the predicate. -/
theorem compileObject_unknowns {r : Registry} {t : ObjectType} (filter : Filter)
    {out p : Predicate} (h : compileObject r t filter out = .ok p) :
    p.unknowns.Perm (out.unknowns ++ filter.unknowns) := by
  cases filter with
  | nil =>
      obtain rfl := compileObject_nil.mp h
      simp
  | cons entry rest =>
      obtain ⟨name, inner, field, next, rfl, -, hnext, h⟩ := compileObject_cons.mp h
      rw [unknowns_cons, unknownsIn_field, ← List.append_assoc]
      exact (compileObject_unknowns rest h).trans
        ((compileField_unknowns inner hnext).append_right _)
termination_by sizeOf filter

/-- Compiling a filter on a field adds its unknown operators to those of the predicate. -/
theorem compileField_unknowns {r : Registry} {field : Field} {path : String} (filter : Filter)
    {out p : Predicate} (h : compileField r field path filter out = .ok p) :
    p.unknowns.Perm (out.unknowns ++ filter.unknowns) := by
  cases filter with
  | nil =>
      obtain rfl := compileField_nil.mp h
      simp
  | cons entry rest =>
      rw [unknowns_cons, ← List.append_assoc]
      cases entry with
      | operator name operand =>
          obtain ⟨test, htest, h⟩ := compileField_operator.mp h
          rw [← unknown?_of_testFor htest]
          exact (compileField_unknowns rest h).trans
            ((Predicate.unknowns_addTest path test out).append_right _)
      | elemMatch inner =>
          obtain ⟨element, t, nested, -, -, hnested, h⟩ := compileField_elemMatch.mp h
          -- The element filter is compiled into an empty predicate.
          have hinner : nested.unknowns.Perm (unknowns inner) :=
            compileObject_unknowns inner hnested
          rw [unknownsIn_elemMatch]
          refine (compileField_unknowns rest h).trans ?_
          rw [Predicate.unknowns_addElements]
          exact (hinner.append_left _).append_right _
      | field name inner =>
          obtain ⟨typeName, t, child, next, -, -, -, hnext, h⟩ := compileField_field.mp h
          rw [unknownsIn_field]
          exact (compileField_unknowns rest h).trans
            ((compileField_unknowns inner hnext).append_right _)
termination_by sizeOf filter

end

/-- **Compiling passes operators on.** A compiled filter holds the unknown operators of the filter,
at whatever depth they stand, no more and no fewer. -/
theorem compile_unknowns {r : Registry} {typeName : String} {filter : Filter} {p : Predicate}
    (h : compile r typeName filter = .ok p) : p.unknowns.Perm filter.unknowns := by
  obtain ⟨t, compiled, -, hcompiled, rfl⟩ := compile_eq_ok_iff.mp h
  rw [Predicate.unknowns_relaxed]
  exact compileObject_unknowns filter hcompiled

theorem unknowns_eq_nil_of_compile {r : Registry} {typeName : String} {filter : Filter}
    {p : Predicate} (h : compile r typeName filter = .ok p) :
    p.unknowns = [] ↔ filter.unknowns = [] := by
  rw [← List.length_eq_zero_iff, ← List.length_eq_zero_iff, (compile_unknowns h).length_eq]

end Filter

/-! ## Evaluation without a fallback -/

namespace Test

/-- What a test says of a slot. An operator nobody knows says nothing. -/
def verdict? (test : Test) (slot : Slot) : Option Bool :=
  if test.unknown?.isSome then none else some (test.passes slot)

theorem verdict?_of_unknown? {test : Test} (h : test.unknown? = none) (slot : Slot) :
    test.verdict? slot = some (test.passes slot) := by
  simp [verdict?, h]

end Test

namespace Predicate

mutual

/-- Evaluates a predicate in the order of `holds`, as far as it takes to know the outcome. There is
none when a test is met that says nothing. -/
def evaluate? (body : Json.Object) : Predicate → Option Bool
  | [] => some true
  | c :: rest =>
    match evaluateCondition? body c with
    | some true => evaluate? body rest
    | outcome => outcome

def evaluateCondition? (body : Json.Object) : Condition → Option Bool
  | .tests path ts => ts.allM fun test => (Path.lookup body path).anyM test.verdict?
  | .elements path inner =>
    (Path.lookup body path).anyM fun slot =>
      slot.elements.anyM fun element => evaluate? element inner

end

theorem anyM_eq_some {α : Type} {question : α → Option Bool} {answer : α → Bool} {l : List α}
    (h : ∀ a ∈ l, question a = some (answer a)) : l.anyM question = some (l.any answer) := by
  induction l with
  | nil => rfl
  | cons a rest ih =>
      have hrest := ih fun b hb => h b (List.mem_cons_of_mem a hb)
      rw [List.anyM, h a List.mem_cons_self, List.any_cons]
      cases answer a with
      | true => rfl
      | false => exact hrest

theorem allM_eq_some {α : Type} {question : α → Option Bool} {answer : α → Bool} {l : List α}
    (h : ∀ a ∈ l, question a = some (answer a)) : l.allM question = some (l.all answer) := by
  induction l with
  | nil => rfl
  | cons a rest ih =>
      have hrest := ih fun b hb => h b (List.mem_cons_of_mem a hb)
      rw [List.allM, h a List.mem_cons_self, List.all_cons]
      cases answer a with
      | true => exact hrest
      | false => rfl

mutual

/-- **The fallback is never needed.** Without unknown operators every test that evaluation meets says
yes or no. -/
theorem evaluate?_eq_some {p : Predicate} (h : p.unknowns = []) (body : Json.Object) :
    p.evaluate? body = some (p.holds body) := by
  cases p with
  | nil => rfl
  | cons c rest =>
      rw [unknowns_cons, List.append_eq_nil_iff] at h
      rw [evaluate?, evaluateCondition?_eq_some h.1, evaluate?_eq_some h.2, holds]
      cases holdsCondition body c <;> rfl

theorem evaluateCondition?_eq_some {c : Condition} (h : unknownsIn c = []) (body : Json.Object) :
    evaluateCondition? body c = some (holdsCondition body c) := by
  cases c with
  | tests path ts =>
      rw [unknownsIn_tests, List.filterMap_eq_nil_iff] at h
      exact allM_eq_some fun test htest =>
        anyM_eq_some fun slot _ => test.verdict?_of_unknown? (h test htest) slot
  | elements path inner =>
      rw [unknownsIn_elements] at h
      exact anyM_eq_some fun slot _ =>
        anyM_eq_some fun element _ => evaluate?_eq_some h element

end

/-- An operator nobody knows is met, and evaluation has nothing to say. -/
example : evaluate? [] [.tests "title" [.missing, .unknown "near" .null]] = none := by
  decide +kernel

end Predicate

/-! ## Running -/

namespace NodeSource

variable (source : NodeSource) (p : Predicate) (sort : Option SortSpec) (firstOnly : Bool)

theorem run_eq_error {operator : String} (h : p.unknown? = some operator) :
    source.run p sort firstOnly = .error ⟨operator⟩ := by
  rw [run, h]

theorem exists_run_eq_ok (h : p.unknown? = none) : ∃ run, source.run p sort firstOnly = .ok run := by
  unfold NodeSource.run
  rw [h]
  exact ⟨_, rfl⟩

/-- A run fails on the first operator that nobody knows, and on nothing else. -/
theorem run_eq_error_iff {operator : String} :
    source.run p sort firstOnly = .error ⟨operator⟩ ↔ p.unknown? = some operator := by
  refine ⟨fun h => ?_, source.run_eq_error p sort firstOnly⟩
  cases hunknown : p.unknown? with
  | none =>
      obtain ⟨run, hrun⟩ := source.exists_run_eq_ok p sort firstOnly hunknown
      rw [hrun] at h
      cases h
  | some first =>
      rw [source.run_eq_error p sort firstOnly hunknown] at h
      cases h
      rfl

end NodeSource

end ContentQuery
