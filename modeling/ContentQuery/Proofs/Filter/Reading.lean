import ContentQuery.Filter.Compile
import ContentQuery.Filter.Match
import ContentQuery.Proofs.Filter.Entries
import ContentQuery.Proofs.Filter.Steps

/-!
# Filters mean what they say

A filter is compiled before it meets a body: nested fields become dotted paths, operators on one path
are gathered in one condition, and a final pass relaxes `ne true`. None of this shows in the outcome.
The reading of a filter goes through the tree as it was written and steps through the body alongside,
one field name at a time.

Main results:

* **`Filter.compileObject_reads` / `Filter.compileField_reads`**: adding a filter to a predicate adds
  its reading to what the predicate asks for.
* **`Filter.holds_compile`**: a body satisfies a compiled filter exactly when the filter reads true of
  it.
-/

namespace ContentQuery

/-! ## The reading of a filter -/

/-- Asks about the value in a slot. Where the member is absent the answer is given, and where the path
leads nowhere it is no. -/
def Slot.asks (ifAbsent : Bool) (question : Json → Bool) : Slot → Bool
  | .value v => question v
  | .absent => ifAbsent
  | .unreachable => false

/-- What an operator with its operand says about a slot of a field of some kind.

Equality with null asks whether anything is there. On a list field, equality is membership and a set
of values is met by a common element. A field that differs from `true` need not be reachable at all;
any other `ne`, and `nin` on all but a Boolean, passes where the member is absent. -/
def Operator.accepts (kind : FieldKind) (operand : Json) (op : Operator) (slot : Slot) : Bool :=
  match op with
  | .eq =>
    if operand.isNull then slot.present?.isNone
    else if kind.isList then slot.asks false fun v => v.items.any fun item => item.equals operand
    else slot.asks false fun v => v.equals operand
  | .ne =>
    if operand.isNull then slot.present?.isSome
    else if kind.isList then slot.asks true fun v => !v.items.any fun item => operand.equals item
    else if operand.isTrue then !slot.present?.any Json.isTrue
    else slot.asks true fun v => !v.equals operand
  | .oneOf =>
    if kind.isList then slot.asks false fun v => v.items.any fun item => item.isAmong operand.items
    else slot.asks false fun v => v.isAmong operand.items
  | .noneOf =>
    if kind.isList then slot.asks true fun v => !v.items.any fun item => item.isAmong operand.items
    else slot.asks (!kind.isBoolean) fun v => !v.isAmong operand.items
  | .lt => slot.asks false fun v => (v.compare? operand).any Ordering.isLT
  | .lte => slot.asks false fun v => (v.compare? operand).any Ordering.isLE
  | .gt => slot.asks false fun v => (v.compare? operand).any Ordering.isGT
  | .gte => slot.asks false fun v => (v.compare? operand).any Ordering.isGE
  | .regex => slot.asks false fun v => (RegexPattern.ofJson operand).toOption.any (·.isMatch v)
  | .glob => slot.asks false fun v => (GlobPattern.ofJson operand).toOption.any (·.isMatch v)

/-- Where in a body a filter stands. -/
inductive Scope where
  /-- An object of a type: the body, or an element of a list. -/
  | root (t : ObjectType) (object : Json.Object)
  /-- The slots in which a field was reached. -/
  | field (f : Field) (slots : List Slot)

namespace Scope

/-- The type whose fields a filter may name. -/
def type? (r : Registry) : Scope → Option ObjectType
  | .root t _ => some t
  | .field f _ => f.kind.objectType?.bind r.type?

/-- What the name of a field steps to. -/
def step (name : String) : Scope → List Slot
  | .root _ object => [.member name object]
  | .field _ slots => slots.flatMap (Slot.step name)

def child? (r : Registry) (name : String) (scope : Scope) : Option Scope :=
  ((scope.type? r).bind (·.field? name)).map fun f => .field f (scope.step name)

/-- The objects that an element filter may meet. -/
def elements (r : Registry) (scope : Scope) : List Scope :=
  match scope, scope.type? r with
  | .field _ slots, some t => (slots.flatMap Slot.elements).map (.root t)
  | _, _ => []

/-- Does an operator hold on one of the slots? An operator nobody knows holds nowhere. -/
def accepts (name : String) (operand : Json) : Scope → Bool
  | .root _ _ => false
  | .field f slots =>
    match Operator.ofName? name with
    | some op => slots.any (op.accepts f.kind operand)
    | none => false

end Scope

namespace Filter

mutual

/-- The reading of a filter: every entry has to hold. -/
def readsAt (r : Registry) (scope : Scope) : Filter → Bool
  | [] => true
  | entry :: rest => readsEntry r scope entry && readsAt r scope rest

def readsEntry (r : Registry) (scope : Scope) : FilterEntry → Bool
  | .operator name operand => scope.accepts name operand
  | .elemMatch inner => (scope.elements r).any fun element => readsAt r element inner
  | .field name inner => (scope.child? r name).any fun child => readsAt r child inner

end

/-- The reading of a filter on a type. -/
def reads (r : Registry) (typeName : String) (filter : Filter) (body : Json.Object) : Bool :=
  (r.type? typeName).any fun t => readsAt r (.root t body) filter

end Filter

/-- A name that stands in a path as a step of its own. -/
def PlainName (name : String) : Prop := name ≠ "" ∧ '.' ∉ name.toList

def ObjectType.PlainNames (t : ObjectType) : Prop := ∀ field ∈ t.fields, PlainName field.name

def Registry.PlainNames (r : Registry) : Prop := ∀ t ∈ r.types, t.PlainNames

instance (name : String) : Decidable (PlainName name) :=
  inferInstanceAs (Decidable (name ≠ "" ∧ '.' ∉ name.toList))

instance (t : ObjectType) : Decidable t.PlainNames :=
  inferInstanceAs (Decidable (∀ field ∈ t.fields, PlainName field.name))

instance (r : Registry) : Decidable r.PlainNames :=
  inferInstanceAs (Decidable (∀ t ∈ r.types, t.PlainNames))

theorem ObjectType.PlainNames.field {t : ObjectType} (h : t.PlainNames) {name : String}
    {field : Field} (hfield : t.field? name = some field) : PlainName name := by
  have hname : field.name = name := by simpa using List.find?_some hfield
  rw [← hname]
  exact h field (List.mem_of_find?_eq_some hfield)

theorem Registry.PlainNames.type {r : Registry} (h : r.PlainNames) {name : String} {t : ObjectType}
    (ht : r.type? name = some t) : t.PlainNames := h t (List.mem_of_find?_eq_some ht)

/-! ## What a predicate gains -/

namespace Predicate

/-- **Gathering is invisible.** A predicate with one more test asks for what it asked before and for
the test, wherever the test is put. -/
theorem holds_addTest (body : Json.Object) (path : String) (test : Test) (p : Predicate) :
    holds body (addTest path test p) =
      (holds body p && (Path.lookup body path).any test.passes) := by
  induction p with
  | nil => simp [addTest, holds, holdsCondition]
  | cons c rest ih =>
      cases c with
      | tests q ts =>
          unfold addTest
          split
          · rename_i heq
            subst heq
            simp only [holds, holdsCondition, List.all_append, List.all_cons, List.all_nil,
              Bool.and_true]
            ac_rfl
          · rw [holds, ih, holds, Bool.and_assoc]
      | elements q inner => simp only [addTest, holds, ih, Bool.and_assoc]

theorem holds_append (body : Json.Object) (p q : Predicate) :
    holds body (p ++ q) = (holds body p && holds body q) := by
  induction p with
  | nil => simp [holds]
  | cons c rest ih => rw [List.cons_append, holds, ih, holds, Bool.and_assoc]

theorem relaxed_addTest (path : String) (test : Test) (p : Predicate) :
    relaxed (addTest path test p) = addTest path test.relaxed (relaxed p) := by
  induction p with
  | nil => simp [addTest, relaxed, relaxedCondition]
  | cons c rest ih =>
      cases c with
      | tests q ts =>
          by_cases heq : q = path
          · simp [addTest, relaxed, relaxedCondition, heq]
          · simp [addTest, relaxed, relaxedCondition, heq, ih]
      | elements q inner => simp [addTest, relaxed, relaxedCondition, ih]

theorem relaxed_append (p q : Predicate) : relaxed (p ++ q) = relaxed p ++ relaxed q := by
  induction p with
  | nil => rfl
  | cons c rest ih => rw [List.cons_append, relaxed, ih, relaxed, List.cons_append]

theorem holds_relaxed_addElements (body : Json.Object) (path : String) (inner p : Predicate) :
    holds body (relaxed (addElements p path inner)) =
      (holds body (relaxed p) && (Path.lookup body path).any fun slot =>
        slot.elements.any fun element => holds element (relaxed inner)) := by
  rw [addElements, relaxed_append, holds_append]
  simp [relaxed, relaxedCondition, holds, holdsCondition]

end Predicate

/-! ## What a test says -/

namespace Filter

/-- A set operator has a list of values, or there is no test. -/
theorem test_of_valueSet {op : Operator} {path : String} {operand : Json} {f : List Json → Test}
    {test : Test} (h : (do let vs ← valueSet op path operand; return f vs) = Except.ok test) :
    f operand.items = test := by
  cases operand with
  | array items => exact Except.ok.inj h
  | _ => cases h

theorem relaxed_ne {v : Json} (h : ¬v.isTrue) : (Test.ne v).relaxed = .ne v := by
  unfold Test.relaxed
  split
  · rename_i heq
    cases heq
    exact absurd rfl h
  · rfl

theorem eq_true_of_isTrue {v : Json} (h : v.isTrue) : v = .bool true := by
  unfold Json.isTrue at h
  split at h
  · rfl
  · cases h

/-- **A leaf means its operator.** The test that stands for an operator of the field's own set passes
on a slot, once relaxed, exactly when the operator says so. -/
theorem passes_knownTest {kind : FieldKind} {path : String} {operand : Json} {op : Operator}
    {test : Test} (h : knownTest kind path operand op = .ok test) (slot : Slot) :
    test.relaxed.passes slot = op.accepts kind operand slot := by
  cases op with
  | eq =>
      obtain rfl := Except.ok.inj h
      by_cases hnull : operand.isNull
      · rw [if_pos hnull]
        simp only [Operator.accepts, if_pos hnull]
        rcases slot with (_ | _) | _ | _ <;> rfl
      · by_cases hlist : kind.isList
        · simp only [Operator.accepts, if_neg hnull, if_pos hlist]
          cases slot <;> rfl
        · simp only [Operator.accepts, if_neg hnull, if_neg hlist]
          cases slot <;> rfl
  | ne =>
      -- The test that is relaxed is the one against `true` on a field that is no list.
      obtain rfl := Except.ok.inj h
      by_cases hnull : operand.isNull
      · simp only [Operator.accepts, if_pos hnull]
        rcases slot with (_ | _) | _ | _ <;> rfl
      · by_cases hlist : kind.isList
        · simp only [Operator.accepts, if_neg hnull, if_pos hlist]
          cases slot with
          | value v => simp [Test.relaxed, Test.passes, Test.passesOn, Slot.asks, Json.isAmong]
          | _ => rfl
        · simp only [Operator.accepts, if_neg hnull, if_neg hlist]
          by_cases htrue : operand.isTrue
          · rw [if_pos htrue, eq_true_of_isTrue htrue]
            rcases slot with (_ | _) | _ | _ <;> rfl
          · rw [if_neg htrue, relaxed_ne htrue]
            cases slot <;> rfl
  | oneOf =>
      obtain rfl := test_of_valueSet (f := fun vs =>
        if kind.isList then .containsAny vs else .oneOf vs) h
      by_cases hlist : kind.isList
      · simp only [Operator.accepts, if_pos hlist]
        cases slot <;> rfl
      · simp only [Operator.accepts, if_neg hlist]
        cases slot <;> rfl
  | noneOf =>
      obtain rfl := test_of_valueSet (f := fun vs =>
        if kind.isList then .containsNone vs else .noneOf vs kind.isBoolean) h
      by_cases hlist : kind.isList
      · simp only [Operator.accepts, if_pos hlist]
        cases slot <;> rfl
      · simp only [Operator.accepts, if_neg hlist]
        cases slot <;> rfl
  | regex =>
      unfold knownTest at h
      cases hpattern : RegexPattern.ofJson operand with
      | error e => rw [hpattern] at h; cases h
      | ok p =>
          rw [hpattern] at h
          obtain rfl := Except.ok.inj h
          rw [Operator.accepts, hpattern]
          cases slot <;> rfl
  | glob =>
      unfold knownTest at h
      cases hpattern : GlobPattern.ofJson operand with
      | error e => rw [hpattern] at h; cases h
      | ok p =>
          rw [hpattern] at h
          obtain rfl := Except.ok.inj h
          rw [Operator.accepts, hpattern]
          cases slot <;> rfl
  | lt | lte | gt | gte =>
      obtain rfl := Except.ok.inj h
      cases slot with
      | value v =>
          -- Values that do not compare pass no bound; the other three orders are looked up.
          show _ = Option.any _ (v.compare? operand)
          simp only [Test.relaxed, Test.passes, Test.passesOn]
          rcases v.compare? operand with _ | (_ | _ | _) <;> rfl
      | _ => rfl

/-- The test of an operator nobody knows passes nowhere. -/
theorem any_passes_testFor {field : Field} {path name : String} {operand : Json} {test : Test}
    (h : testFor field path name operand = .ok test) (slots : List Slot) :
    slots.any test.relaxed.passes = (Scope.field field slots).accepts name operand := by
  by_cases hnone : field.kind.operators.isEmpty
  · simp only [testFor, if_pos hnone] at h
    cases h
  · simp only [testFor, if_neg hnone] at h
    rw [Scope.accepts]
    cases hop : Operator.ofName? name with
    | none =>
        rw [hop] at h
        obtain rfl := Except.ok.inj h
        have hnowhere : ∀ slot, (Test.unknown name operand).passes slot = false := by
          intro slot
          cases slot <;> rfl
        simp [Test.relaxed, hnowhere]
    | some op =>
        simp only [hop] at h
        by_cases hallowed : field.kind.operators.contains op
        · rw [if_pos hallowed] at h
          exact congrArg slots.any (funext fun slot => passes_knownTest h slot)
        · rw [if_neg hallowed] at h
          cases h

/-! ## The compiled filter -/

mutual

/-- Compiling a filter on an object adds its reading to what the predicate asks for. -/
theorem compileObject_reads {r : Registry} (hr : r.PlainNames) {t : ObjectType} (ht : t.PlainNames)
    (body : Json.Object) (filter : Filter) {out p : Predicate}
    (h : compileObject r t filter out = .ok p) :
    Predicate.holds body p.relaxed =
      (Predicate.holds body out.relaxed && readsAt r (.root t body) filter) := by
  cases filter with
  | nil =>
      obtain rfl := compileObject_nil.mp h
      simp [readsAt]
  | cons entry rest =>
      obtain ⟨name, inner, field, next, rfl, hfield, hnext, h⟩ := compileObject_cons.mp h
      have hname := ht.field hfield
      -- The first step of a path is the only one, since the name has no dot.
      have hchild : (Scope.root t body).child? r name =
          some (.field field (Path.lookup body name)) := by
        rw [Path.lookup_of_not_mem hname.2]
        simp [Scope.child?, Scope.type?, Scope.step, hfield]
      rw [readsAt, readsEntry, compileObject_reads hr ht body rest h,
        compileField_reads hr field hname.1 body inner hnext, hchild, Option.any_some,
        Bool.and_assoc]
termination_by sizeOf filter

/-- Compiling a filter on a field adds its reading in the slots that the path reaches. -/
theorem compileField_reads {r : Registry} (hr : r.PlainNames) (field : Field) {path : String}
    (hpath : path ≠ "") (body : Json.Object) (filter : Filter) {out p : Predicate}
    (h : compileField r field path filter out = .ok p) :
    Predicate.holds body p.relaxed =
      (Predicate.holds body out.relaxed &&
        readsAt r (.field field (Path.lookup body path)) filter) := by
  cases filter with
  | nil =>
      obtain rfl := compileField_nil.mp h
      simp [readsAt]
  | cons entry rest =>
      rw [readsAt]
      cases entry with
      | operator name operand =>
          obtain ⟨test, htest, h⟩ := compileField_operator.mp h
          rw [readsEntry, compileField_reads hr field hpath body rest h, Predicate.relaxed_addTest,
            Predicate.holds_addTest, any_passes_testFor htest, Bool.and_assoc]
      | elemMatch inner =>
          obtain ⟨element, t, nested, hkind, ht, hnested, h⟩ := compileField_elemMatch.mp h
          have helements : (Scope.field field (Path.lookup body path)).elements r =
              ((Path.lookup body path).flatMap Slot.elements).map (.root t) := by
            simp [Scope.elements, Scope.type?, hkind, FieldKind.objectType?, ht]
          -- The element filter is compiled on its own, into an empty predicate.
          have hreads : ∀ element, Predicate.holds element (Predicate.relaxed nested) =
              readsAt r (.root t element) inner := by
            intro element
            rw [compileObject_reads hr (hr.type ht) element inner hnested]
            rfl
          rw [readsEntry, compileField_reads hr field hpath body rest h,
            Predicate.holds_relaxed_addElements, helements, Bool.and_assoc]
          simp only [hreads, List.any_map, List.any_flatMap, Function.comp_def]
      | field name inner =>
          obtain ⟨typeName, t, child, next, hobject, ht, hchild, hnext, h⟩ :=
            compileField_field.mp h
          have hname := (hr.type ht).field hchild
          -- The dotted path is walked as a whole, the reading takes one step more.
          have hscope : (Scope.field field (Path.lookup body path)).child? r name =
              some (.field child (Path.lookup body (Path.child path name))) := by
            rw [Path.lookup_child hpath hname.2]
            simp [Scope.child?, Scope.type?, Scope.step, hobject, ht, hchild]
          rw [readsEntry, compileField_reads hr field hpath body rest h,
            compileField_reads hr child (Path.child_ne_empty hname.1) body inner hnext, hscope,
            Option.any_some, Bool.and_assoc]
termination_by sizeOf filter

end

/-- **A compiled filter means what was written.** In a registry whose field names stand in paths as
steps of their own, a body satisfies a compiled filter exactly when the filter reads true of it. -/
theorem holds_compile {r : Registry} (hr : r.PlainNames) {typeName : String} {filter : Filter}
    {p : Predicate} (h : compile r typeName filter = .ok p) (body : Json.Object) :
    Predicate.holds body p = reads r typeName filter body := by
  unfold compile at h
  cases htype : r.typeOrReject typeName with
  | error e => rw [htype] at h; cases h
  | ok t =>
      rw [htype] at h
      have ht := Registry.type?_of_typeOrReject htype
      cases hobject : compileObject r t filter [] with
      | error e => simp only [bind, Except.bind, hobject] at h; cases h
      | ok compiled =>
          simp only [bind, Except.bind, hobject] at h
          obtain rfl := Except.ok.inj h
          rw [compileObject_reads hr (hr.type ht) body filter hobject, reads, ht]
          rfl

/-! ### An article with sections -/

/-- Articles have sections, and sections have marks. -/
def articleTypes : Registry where
  types := [
    ⟨"Article", true, [
      ⟨"draft", "Boolean", .leaf (.scalar .boolean), none, []⟩,
      ⟨"sections", "[Section]", .objectList "Section", none, []⟩]⟩,
    ⟨"Section", false, [⟨"marks", "[Int]", .leafList (.scalar .int), none, []⟩]⟩]
  enums := []

/-- No draft, with a section that has the mark 7 and a section that lacks the mark 3. -/
def published : Filter := [
  .field "draft" [.operator "ne" (.bool true)],
  .field "sections" [
    .elemMatch [.field "marks" [.operator "in" (.array [.ofNat 7])]],
    .field "marks" [.operator "ne" (.ofNat 3)]]]

/-- An article with two sections that does not say whether it is a draft. -/
def twoSections : Json.Object := [
  ("sections", .array [
    .object [("marks", .array [.ofNat 3, .ofNat 7])],
    .object [("marks", .ofNat 5)]])]

theorem holds_compile_published :
    ∃ p, articleTypes.PlainNames ∧ compile articleTypes "Article" published = .ok p ∧
      Predicate.holds twoSections p = reads articleTypes "Article" published twoSections ∧
      reads articleTypes "Article" published twoSections = true := by
  have hnames : articleTypes.PlainNames := by decide
  have hcompile : compile articleTypes "Article" published = .ok [
      .tests "draft" [.notTrue],
      .elements "sections" [.tests "marks" [.containsAny [.ofNat 7]]],
      .tests "sections.marks" [.containsNone [.ofNat 3]]] := by
    simp only [compile, compileObject, compileField, published]
    rfl
  exact ⟨_, hnames, hcompile, holds_compile hnames hcompile twoSections, by decide⟩

end Filter

end ContentQuery
