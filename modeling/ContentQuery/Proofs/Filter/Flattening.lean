import ContentQuery.Proofs.Filter.Along

/-!
# Element filters are stricter than flattened ones

What is said under `elemMatch` has to hold of one element as a whole. Said of the list itself, each part
of it may hold of another element. So a body that satisfies the first satisfies the second
(**`Filter.holds_flattened`**), however deep fields and element filters are nested in it.

The reading of a filter only ever asks whether some slot will do, so it goes on holding where more slots
are reached (`Filter.readsAt_mono`); and what a name steps to from an element is among what it steps to
from the list (`Slot.member_mem_step`).
-/

namespace ContentQuery

theorem flatMap_subset_flatMap {α β : Type} {f : α → List β} {as bs : List α} (h : as ⊆ bs) :
    as.flatMap f ⊆ bs.flatMap f := by
  intro b hb
  obtain ⟨a, ha, hb⟩ := List.mem_flatMap.mp hb
  exact List.mem_flatMap.mpr ⟨a, h ha, hb⟩

/-! ## Names on the way -/

theorem Registry.PlainNames.of_fieldBelow? {r : Registry} (hr : r.PlainNames) {start field : Field}
    {names : List String} (h : r.fieldBelow? start names = some field) :
    ∀ name ∈ names, PlainName name := by
  induction names generalizing start with
  | nil => exact fun _ hmem => nomatch hmem
  | cons name rest ih =>
      obtain ⟨typeName, -, h⟩ := Option.bind_eq_some_iff.mp h
      obtain ⟨t, htype, h⟩ := Option.bind_eq_some_iff.mp h
      obtain ⟨child, hchild, h⟩ := Option.bind_eq_some_iff.mp h
      exact List.forall_mem_cons.mpr ⟨(hr.type htype).field hchild, ih h⟩

/-- Names that lead to a field spell a path that is not empty. -/
theorem Registry.PlainNames.ofNames_ne_empty {r : Registry} (hr : r.PlainNames) {typeName : String}
    {names : List String} {field : Field} (h : r.fieldAt? typeName names = some field) :
    Path.ofNames names ≠ "" := by
  have hchild : ∀ (rest : List String) (path : String), path ≠ "" →
      (∀ name ∈ rest, PlainName name) → rest.foldl Path.child path ≠ "" := by
    intro rest
    induction rest with
    | nil => exact fun path hpath _ => hpath
    | cons name rest ih =>
        intro path _ hrest
        obtain ⟨hname, hrest⟩ := List.forall_mem_cons.mp hrest
        exact ih _ (Path.child_ne_empty hname.1) hrest
  cases names with
  | nil => cases h
  | cons name rest =>
      obtain ⟨t, htype, h⟩ := Option.bind_eq_some_iff.mp h
      obtain ⟨start, hstart, h⟩ := Option.bind_eq_some_iff.mp h
      exact hchild rest name ((hr.type htype).field hstart).1 (hr.of_fieldBelow? h)

namespace Filter

variable {r : Registry} {field : Field}

/-! ## Where a filter compiles -/

/-- Whether there is a test for an operator does not depend on the path, nor does the test. -/
theorem testFor_of_path {path name : String} {operand : Json} {test : Test}
    (h : testFor field path name operand = .ok test) (path' : String) :
    testFor field path' name operand = .ok test := by
  unfold testFor at h ⊢
  dsimp only at h ⊢
  split at h
  · cases h
  · rename_i hsome
    rw [if_neg hsome]
    split at h
    · exact h
    · rename_i op _
      split at h
      · rename_i hallowed
        rw [if_pos hallowed]
        cases op with
        | oneOf | noneOf =>
            cases operand with
            | array vs => exact h
            | _ => cases h
        | regex =>
            unfold knownTest at h ⊢
            cases hpattern : RegexPattern.ofJson operand with
            | error e => rw [hpattern] at h; cases h
            | ok p => rw [hpattern] at h; exact h
        | glob =>
            unfold knownTest at h ⊢
            cases hpattern : GlobPattern.ofJson operand with
            | error e => rw [hpattern] at h; cases h
            | ok p => rw [hpattern] at h; exact h
        | _ => exact h
      · cases h

mutual

/-- Whether a filter compiles does not depend on what was compiled before. -/
theorem exists_compileObject {t : ObjectType} (filter : Filter) {out p : Predicate}
    (h : compileObject r t filter out = .ok p) (out' : Predicate) :
    ∃ p', compileObject r t filter out' = .ok p' := by
  cases filter with
  | nil => exact ⟨out', compileObject_nil.mpr rfl⟩
  | cons entry rest =>
      obtain ⟨name, inner, f, next, rfl, hfield, hnext, h⟩ := compileObject_cons.mp h
      obtain ⟨next', hnext'⟩ := exists_compileField inner hnext name out'
      obtain ⟨p', hp'⟩ := exists_compileObject rest h next'
      exact ⟨p', compileObject_cons.mpr ⟨name, inner, f, next', rfl, hfield, hnext', hp'⟩⟩
termination_by sizeOf filter

/-- Nor does it depend on the path of the field. -/
theorem exists_compileField {f : Field} {path : String} (filter : Filter) {out p : Predicate}
    (h : compileField r f path filter out = .ok p) (path' : String) (out' : Predicate) :
    ∃ p', compileField r f path' filter out' = .ok p' := by
  cases filter with
  | nil => exact ⟨out', compileField_nil.mpr rfl⟩
  | cons entry rest =>
      cases entry with
      | operator name operand =>
          obtain ⟨test, htest, h⟩ := compileField_operator.mp h
          obtain ⟨p', hp'⟩ := exists_compileField rest h path' (out'.addTest path' test)
          exact ⟨p', compileField_operator.mpr ⟨test, testFor_of_path htest path', hp'⟩⟩
      | elemMatch inner =>
          obtain ⟨element, t, nested, hkind, ht, hnested, h⟩ := compileField_elemMatch.mp h
          obtain ⟨p', hp'⟩ := exists_compileField rest h path' (out'.addElements path' nested)
          exact ⟨p', compileField_elemMatch.mpr ⟨element, t, nested, hkind, ht, hnested, hp'⟩⟩
      | field name inner =>
          obtain ⟨typeName, t, child, next, hobject, ht, hchild, hnext, h⟩ := compileField_field.mp h
          obtain ⟨next', hnext'⟩ := exists_compileField inner hnext (Path.child path' name) out'
          obtain ⟨p', hp'⟩ := exists_compileField rest h path' next'
          exact ⟨p', compileField_field.mpr
            ⟨typeName, t, child, next', hobject, ht, hchild, hnext', hp'⟩⟩
termination_by sizeOf filter

end

/-- **A filter on the elements of a list** may be said of the list itself. -/
theorem exists_compileField_of_object {typeName : String} {t : ObjectType}
    (hobject : field.kind.objectType? = some typeName) (htype : r.type? typeName = some t)
    (filter : Filter) {out p : Predicate} (h : compileObject r t filter out = .ok p) (path : String)
    (out' : Predicate) : ∃ p', compileField r field path filter out' = .ok p' := by
  induction filter generalizing out out' with
  | nil => exact ⟨out', compileField_nil.mpr rfl⟩
  | cons entry rest ih =>
      obtain ⟨name, inner, child, next, rfl, hchild, hnext, h⟩ := compileObject_cons.mp h
      obtain ⟨next', hnext'⟩ := exists_compileField inner hnext (Path.child path name) out'
      obtain ⟨p', hp'⟩ := ih h next'
      exact ⟨p', compileField_field.mpr
        ⟨typeName, t, child, next', hobject, htype, hchild, hnext', hp'⟩⟩

/-! ## More slots -/

mutual

/-- **A filter that holds in some slots** holds wherever these and more are reached. -/
theorem readsAt_mono {f : Field} {slots slots' : List Slot} (h : slots ⊆ slots') (filter : Filter)
    (hreads : readsAt r (.field f slots) filter) : readsAt r (.field f slots') filter := by
  cases filter with
  | nil => rfl
  | cons entry rest =>
      rw [readsAt, Bool.and_eq_true] at hreads ⊢
      exact ⟨readsEntry_mono h entry hreads.1, readsAt_mono h rest hreads.2⟩
termination_by sizeOf filter

theorem readsEntry_mono {f : Field} {slots slots' : List Slot} (h : slots ⊆ slots')
    (entry : FilterEntry) (hreads : readsEntry r (.field f slots) entry) :
    readsEntry r (.field f slots') entry := by
  cases entry with
  | operator name operand =>
      rw [readsEntry, Scope.accepts] at hreads ⊢
      split at hreads
      · rename_i op _
        obtain ⟨slot, hslot, haccepts⟩ := List.any_eq_true.mp hreads
        exact List.any_eq_true.mpr ⟨slot, h hslot, haccepts⟩
      · cases hreads
  | elemMatch inner =>
      rw [readsEntry, List.any_eq_true] at hreads ⊢
      obtain ⟨element, helement, hinner⟩ := hreads
      refine ⟨element, ?_, hinner⟩
      unfold Scope.elements at helement ⊢
      cases htype : Scope.type? r (.field f slots) with
      | none => rw [htype] at helement; cases helement
      | some t =>
          have htype' : Scope.type? r (.field f slots') = some t := htype
          rw [htype] at helement
          rw [htype']
          exact List.map_subset _ (flatMap_subset_flatMap h) helement
  | field name inner =>
      rw [readsEntry, Option.any_eq_true] at hreads ⊢
      obtain ⟨child, hchild, hinner⟩ := hreads
      obtain ⟨f', hf', rfl⟩ := Option.map_eq_some_iff.mp hchild
      have hsteps : slots.flatMap (Slot.step name) ⊆ slots'.flatMap (Slot.step name) :=
        flatMap_subset_flatMap h
      exact ⟨.field f' (slots'.flatMap (Slot.step name)), Option.map_eq_some_iff.mpr ⟨f', hf', rfl⟩,
        readsAt_mono hsteps inner hinner⟩
termination_by sizeOf entry

end

end Filter

/-! ## Elements of a list -/

theorem Json.step_subset_stepItems {name : String} {items : List Json} {item : Json}
    (h : item ∈ items) : item.step name ⊆ Json.stepItems name items := by
  induction items with
  | nil => cases h
  | cons first rest ih =>
      rw [Json.stepItems]
      rcases List.mem_cons.mp h with rfl | hrest
      · exact List.subset_append_left _ _
      · exact fun slot hslot => List.mem_append_right _ (ih hrest hslot)

/-- **The member of an element** is among what its name steps to from the list. -/
theorem Slot.member_mem_step {slot : Slot} {element : Json.Object} (h : element ∈ slot.elements)
    (name : String) : Slot.member name element ∈ slot.step name := by
  cases slot with
  | value v =>
      cases v with
      | object members =>
          obtain rfl := List.mem_singleton.mp h
          exact List.mem_singleton_self _
      | array items =>
          obtain ⟨item, hitem, hobject⟩ := List.mem_filterMap.mp h
          have hmember : Slot.member name element ∈ item.step name := by
            cases item with
            | object members =>
                obtain rfl := Option.some.inj hobject
                exact List.mem_singleton_self _
            | _ => cases hobject
          cases items with
          | nil => cases hitem
          | cons first rest => exact Json.step_subset_stepItems hitem hmember
      | _ => cases h
  | absent => cases h
  | unreachable => cases h

namespace Filter

variable {r : Registry} {field : Field}

/-- What holds of an element holds in the slots of its list. -/
theorem readsAt_of_element {typeName : String} {t : ObjectType}
    (hobject : field.kind.objectType? = some typeName) (htype : r.type? typeName = some t)
    {slots : List Slot} {element : Json.Object} (helement : element ∈ slots.flatMap Slot.elements)
    (filter : Filter) (hreads : readsAt r (.root t element) filter) :
    readsAt r (.field field slots) filter := by
  induction filter with
  | nil => rfl
  | cons entry rest ih =>
      rw [readsAt, Bool.and_eq_true] at hreads ⊢
      refine ⟨?_, ih hreads.2⟩
      have hentry := hreads.1
      cases entry with
      | operator name operand => rw [readsEntry] at hentry; cases hentry
      | elemMatch inner => rw [readsEntry] at hentry; cases hentry
      | field name inner =>
          rw [readsEntry, Option.any_eq_true] at hentry ⊢
          obtain ⟨child, hchild, hinner⟩ := hentry
          obtain ⟨f, hf, rfl⟩ := Option.map_eq_some_iff.mp hchild
          obtain ⟨slot, hslot, helement⟩ := List.mem_flatMap.mp helement
          have hmember : Slot.member name element ∈ slots.flatMap (Slot.step name) :=
            List.mem_flatMap.mpr ⟨slot, hslot, Slot.member_mem_step helement name⟩
          have hstep : [Slot.member name element] ⊆ slots.flatMap (Slot.step name) :=
            List.cons_subset.mpr ⟨hmember, List.nil_subset _⟩
          have htype' : Scope.type? r (.field field slots) = some t := by
            rw [Scope.type?, hobject]
            exact htype
          refine ⟨.field f (slots.flatMap (Slot.step name)), ?_, readsAt_mono hstep inner hinner⟩
          rw [Scope.child?, htype']
          exact Option.map_eq_some_iff.mpr ⟨f, hf, rfl⟩

/-! ## The flattened filter -/

variable {typeName element : String} {names : List String} {inner : Filter} {nested : Predicate}

/-- **Said of one element, said of the list.** Whatever compiles for the elements of a list of objects
may stand under `elemMatch` or be said of the list itself, and a body that satisfies the first satisfies
the second. -/
theorem holds_flattened (hr : r.PlainNames) (hfield : r.fieldAt? typeName names = some field)
    (hkind : field.kind = .objectList element) (hinner : compile r element inner = .ok nested) :
    ∃ p q, compile r typeName (along names [.elemMatch inner]) = .ok p ∧
      compile r typeName (along names inner) = .ok q ∧
      ∀ body, Predicate.holds body p → Predicate.holds body q := by
  obtain ⟨t, htype, hinner⟩ := bind_eq_ok.mp hinner
  obtain ⟨compiled, hcompiled, -⟩ := bind_eq_ok.mp hinner
  have ht := Registry.type?_of_typeOrReject htype
  have hobject : field.kind.objectType? = some element := by rw [hkind]; rfl
  have hpath := hr.ofNames_ne_empty hfield
  have helements : compileField r field (Path.ofNames names) [.elemMatch inner] [] =
      .ok (Predicate.addElements [] (Path.ofNames names) compiled) := by
    rw [compileField, hkind]
    simp only [htype, hcompiled, compileField]
  obtain ⟨flat, hflat⟩ :=
    exists_compileField_of_object hobject ht inner hcompiled (Path.ofNames names) []
  refine ⟨_, flat.relaxed, by rw [compile_along hfield, helements]; rfl,
    by rw [compile_along hfield, hflat]; rfl, ?_⟩
  intro body hholds
  rw [compileField_reads hr field hpath body _ helements, readsAt, readsEntry] at hholds
  rw [compileField_reads hr field hpath body _ hflat]
  simp only [Bool.and_eq_true, List.any_eq_true] at hholds ⊢
  refine ⟨hholds.1, ?_⟩
  obtain ⟨⟨scope, hscope, hreads⟩, -⟩ := hholds.2
  have hscopes : Scope.elements r (.field field (Path.lookup body (Path.ofNames names))) =
      ((Path.lookup body (Path.ofNames names)).flatMap Slot.elements).map (.root t) := by
    simp [Scope.elements, Scope.type?, hobject, ht]
  rw [hscopes] at hscope
  obtain ⟨object, hobject', rfl⟩ := List.mem_map.mp hscope
  exact readsAt_of_element hobject ht hobject' inner hreads

/-! ### An article with marks -/

/-- A section that has the mark 7, not the mark 3. -/
def onlySeven : Filter := [
  .field "marks" [.operator "in" (.array [.ofNat 7]), .operator "ne" (.ofNat 3)]]

theorem holds_flattened_marks :
    articleTypes.PlainNames ∧
      articleTypes.fieldAt? "Article" ["sections"] =
        some ⟨"sections", "[Section]", .objectList "Section", none, []⟩ ∧
      compile articleTypes "Section" onlySeven =
        .ok [.tests "marks" [.containsAny [.ofNat 7], .containsNone [.ofNat 3]]] ∧
      ∃ p q, compile articleTypes "Article" (along ["sections"] [.elemMatch onlySeven]) = .ok p ∧
        compile articleTypes "Article" (along ["sections"] onlySeven) = .ok q ∧
        ∀ body, Predicate.holds body p → Predicate.holds body q := by
  have hnames : articleTypes.PlainNames := by decide
  have hfield : articleTypes.fieldAt? "Article" ["sections"] =
      some ⟨"sections", "[Section]", .objectList "Section", none, []⟩ := rfl
  have hinner : compile articleTypes "Section" onlySeven =
      .ok [.tests "marks" [.containsAny [.ofNat 7], .containsNone [.ofNat 3]]] := by
    simp only [compile, compileObject, compileField, onlySeven]
    rfl
  exact ⟨hnames, hfield, hinner, holds_flattened hnames hfield rfl hinner⟩

-- One section has the mark 7 and another one lacks the mark 3, but no section does both.
example :
    Predicate.holds twoSections
      [.elements "sections" [.tests "marks" [.containsAny [.ofNat 7], .containsNone [.ofNat 3]]]] =
        false ∧
    Predicate.holds twoSections
      [.tests "sections.marks" [.containsAny [.ofNat 7], .containsNone [.ofNat 3]]] = true := by
  decide

end Filter

end ContentQuery
