import ContentQuery.Proofs.Filter.Reading
import ContentQuery.Proofs.Filter.Shapes

/-!
# Filters that fit the shape of a type

The shape of a type says which fields a filter on it may name, and what it may say about each
(`Shape.admits`). Shapes and filters go through the schema independently of each other, shapes once and
for all types, filters along the tree as it was written. They agree: a filter that says something
wherever it goes compiles exactly when the shapes admit it (**`Filter.compile_iff_admits`**).
-/

namespace ContentQuery

/-! ## Filters that shapes admit -/

/-- Can the operator be used with the operand? A set operator takes a list, and a pattern has to be
one. -/
def Operator.takes (operand : Json) : Operator → Bool
  | .oneOf | .noneOf => operand.array?.isSome
  | .regex => (RegexPattern.ofJson operand).toOption.isSome
  | .glob => (GlobPattern.ofJson operand).toOption.isSome
  | _ => true

namespace Filter

mutual

/-- Does the filter say something wherever it goes? It holds no empty filter inside, and operators
only that are known and take their operands. -/
def sensible : Filter → Bool
  | [] => true
  | entry :: rest => sensibleEntry entry && sensible rest

def sensibleEntry : FilterEntry → Bool
  | .operator name operand => (Operator.ofName? name).any (Operator.takes operand)
  | .elemMatch inner | .field _ inner => !inner.isEmpty && sensible inner

end

end Filter

/-- Does the shape list the field, and does what it says about the field pass? -/
def Shape.lists (shape : Shape) (name : String) (passes : ShapeField → Bool) : Bool :=
  shape.fields.any fun (listed, described) => listed == name && passes described

mutual

/-- Is each entry a field that the shape lists, and does it hold what the shape says about it? Shapes of
nested types are looked up by name. -/
def Shape.admits (shapes : String → Except SchemaError Shape) (shape : Shape) : Filter → Bool
  | [] => true
  | entry :: rest => shape.admitsEntry shapes entry && shape.admits shapes rest

def Shape.admitsEntry (shapes : String → Except SchemaError Shape) (shape : Shape) :
    FilterEntry → Bool
  | .field name inner => shape.lists name fun described => described.admits shapes inner
  | _ => false

/-- Does what the shape says about a field allow each entry? -/
def ShapeField.admits (shapes : String → Except SchemaError Shape) (described : ShapeField) :
    Filter → Bool
  | [] => true
  | entry :: rest => described.admitsEntry shapes entry && described.admits shapes rest

/-- Operators have to be listed. Inside an object or a list of objects stand fields of the nested type,
and a list may also have element filters on that type. -/
def ShapeField.admitsEntry (shapes : String → Except SchemaError Shape) (described : ShapeField) :
    FilterEntry → Bool
  | .operator name _ =>
    match described with
    | .operators ops => (Operator.ofName? name).any ops.contains
    | _ => false
  | .field name inner =>
    match described with
    | .operators _ => false
    | .object nested | .objectList nested =>
      (shapes nested).toOption.any fun shape =>
        shape.lists name fun described => described.admits shapes inner
  | .elemMatch inner =>
    match described with
    | .objectList nested => (shapes nested).toOption.any fun shape => shape.admits shapes inner
    | _ => false

end

/-! ## Shapes that a registry gives -/

/-- What is said about a field suits a kind. -/
def ShapeField.Suits (kind : FieldKind) : ShapeField → Prop
  | .operators ops => ops = kind.operators
  | .object nested => kind = .object nested
  | .objectList nested => kind = .objectList nested

namespace Registry

variable {r : Registry}

/-- What the shape of a type says about a field suits the kind of the field. -/
theorem suits_of_shapeField? {f : Field} {described : ShapeField}
    (h : r.shapeField? f = some described) : described.Suits f.kind := by
  unfold shapeField? at h
  split at h <;> rename_i hkind <;> split at h <;> cases h
  · rfl
  · rfl
  · exact hkind
  · exact hkind

theorem shapeField?_of_mem_operators {f : Field} {op : Operator} (h : op ∈ f.kind.operators) :
    r.shapeField? f = some (.operators f.kind.operators) := by
  unfold shapeField?
  cases hkind : f.kind with
  | leaf type | leafList type =>
      rw [hkind] at h
      exact if_neg (List.ne_nil_of_mem h)
  | object nested | objectList nested => rw [hkind] at h; cases h

/-- What the shape of a type says about one of its fields. -/
theorem lists_shapeOf (hr : r.WellFormed) {typeName : String} {t : ObjectType}
    (ht : r.type? typeName = some t) (name : String) (passes : ShapeField → Bool) :
    (r.shapeOf t).lists name passes =
      (t.field? name).any fun f => (r.shapeField? f).any passes := by
  rw [Bool.eq_iff_iff, Shape.lists, List.any_eq_true, Option.any_eq_true]
  constructor
  · rintro ⟨⟨listed, described⟩, hmem, hpasses⟩
    obtain ⟨f, hf, hname, hdescribed⟩ := mem_shapeOf_iff.mp hmem
    obtain ⟨hlisted, hpasses⟩ := Bool.and_eq_true_iff.mp hpasses
    have hfield : t.field? name = some f :=
      (hr.field?_eq_some_iff ht).mpr ⟨hf, hname.trans (beq_iff_eq.mp hlisted)⟩
    exact ⟨f, hfield, by rw [hdescribed]; exact hpasses⟩
  · rintro ⟨f, hfield, hpasses⟩
    obtain ⟨hf, hname⟩ := (hr.field?_eq_some_iff ht).mp hfield
    obtain ⟨described, hdescribed, hpasses⟩ := (Option.any_eq_true _ _).mp hpasses
    exact ⟨(f.name, described), mem_shapeOf_iff.mpr ⟨f, hf, rfl, hdescribed⟩, by simp [hname, hpasses]⟩

/-- A type whose shape lists a field is not barren. -/
theorem not_barren_of_lists {typeName : String} {t : ObjectType} (ht : r.type? typeName = some t)
    {name : String} {passes : ShapeField → Bool} (h : (r.shapeOf t).lists name passes) :
    ¬r.Barren typeName := by
  rw [← isEmpty_shapeOf_iff ht, Shape.isEmpty, List.isEmpty_iff]
  intro hempty
  rw [Shape.lists, hempty] at h
  cases h

/-- Nor is a type about which a filter says something. -/
theorem not_barren_of_admits {shapes : String → Except SchemaError Shape} {typeName : String}
    {t : ObjectType} (ht : r.type? typeName = some t) {filter : Filter} (hne : filter ≠ [])
    (h : (r.shapeOf t).admits shapes filter) : ¬r.Barren typeName := by
  cases filter with
  | nil => exact absurd rfl hne
  | cons entry rest =>
      rw [Shape.admits, Bool.and_eq_true] at h
      cases entry with
      | field name inner =>
          rw [Shape.admitsEntry] at h
          exact not_barren_of_lists ht h.1
      | _ => cases h.1

/-- The shape of a type keeps a reference to one that is not barren. -/
theorem exists_shapeField? {f : Field} {nested : String} (hobject : f.kind.objectType? = some nested)
    (hnested : ¬r.Barren nested) : ∃ described, r.shapeField? f = some described ∧
      (described = .object nested ∨ described = .objectList nested) := by
  unfold shapeField?
  cases hkind : f.kind <;> rw [hkind] at hobject <;> cases hobject
  · exact ⟨_, if_neg hnested, .inl rfl⟩
  · exact ⟨_, if_neg hnested, .inr rfl⟩

end Registry

/-! ## Compiling -/

namespace Filter

/-- An operator that takes its operand stands for a test where the field has the operator. -/
theorem exists_testFor_iff {field : Field} {path name : String} {operand : Json} {op : Operator}
    (hop : Operator.ofName? name = some op) (htakes : op.takes operand) :
    (∃ test, testFor field path name operand = .ok test) ↔ op ∈ field.kind.operators := by
  have hknown : ∃ test, knownTest field.kind path operand op = .ok test := by
    cases op with
    | oneOf | noneOf =>
        cases operand with
        | array vs => exact ⟨_, rfl⟩
        | _ => cases htakes
    | regex =>
        rcases hpattern : RegexPattern.ofJson operand with e | p
        · simp [Operator.takes, hpattern, Except.toOption] at htakes
        · exact ⟨.regex p, by rw [knownTest, hpattern]⟩
    | glob =>
        rcases hpattern : GlobPattern.ofJson operand with e | p
        · simp [Operator.takes, hpattern, Except.toOption] at htakes
        · exact ⟨.glob p, by rw [knownTest, hpattern]⟩
    | _ => exact ⟨_, rfl⟩
  unfold testFor
  simp only [hop, List.contains_iff_mem, List.isEmpty_iff]
  by_cases hmem : op ∈ field.kind.operators
  · rw [if_neg (List.ne_nil_of_mem hmem), if_pos hmem]
    exact iff_of_true hknown hmem
  · rw [if_neg hmem]
    refine iff_of_false ?_ hmem
    rintro ⟨test, htest⟩
    split at htest <;> cases htest

variable {r : Registry} {shapes : String → Except SchemaError Shape}

/-- The first entry of a filter on a field compiles or fails on its own, and the rest follows. -/
theorem exists_compileField_cons_iff {f : Field} {path : String} {entry : FilterEntry} {rest : Filter}
    {out : Predicate}
    (hrest : ∀ out, (∃ p, compileField r f path rest out = .ok p) ↔
      rest = [] ∨ (r.shapeField? f).any (·.admits shapes rest))
    (hstop : ∀ p, compileField r f path (entry :: rest) out = .ok p →
      ∃ described, r.shapeField? f = some described ∧ described.admitsEntry shapes entry)
    (hstep : ∀ described, r.shapeField? f = some described → described.admitsEntry shapes entry →
      ∃ out', compileField r f path (entry :: rest) out = compileField r f path rest out') :
    (∃ p, compileField r f path (entry :: rest) out = .ok p) ↔
      (r.shapeField? f).any (·.admits shapes (entry :: rest)) := by
  -- Once something is said about the field, it is said about an empty rest too.
  have hadmits : ∀ described, r.shapeField? f = some described →
      ∀ out, (∃ p, compileField r f path rest out = .ok p) ↔ described.admits shapes rest := by
    intro described hdescribed out
    rw [hrest, hdescribed, Option.any_some, or_iff_right_of_imp]
    rintro rfl
    rw [ShapeField.admits]
  rw [Option.any_eq_true]
  constructor
  · rintro ⟨p, hp⟩
    obtain ⟨described, hdescribed, hentry⟩ := hstop p hp
    obtain ⟨out', hout⟩ := hstep described hdescribed hentry
    have hmore := (hadmits described hdescribed out').mp ⟨p, hout ▸ hp⟩
    exact ⟨described, hdescribed, by rw [ShapeField.admits, hentry, hmore]; rfl⟩
  · rintro ⟨described, hdescribed, hall⟩
    rw [ShapeField.admits, Bool.and_eq_true] at hall
    obtain ⟨out', hout⟩ := hstep described hdescribed hall.1
    rw [hout]
    exact (hadmits described hdescribed out').mpr hall.2

mutual

/-- A filter on an object compiles exactly when the shape of the type admits it. -/
theorem exists_compileObject_iff (hr : r.WellFormed)
    (hshapes : ∀ typeName t, r.type? typeName = some t → shapes typeName = .ok (r.shapeOf t))
    {typeName : String} {t : ObjectType} (ht : r.type? typeName = some t) (filter : Filter)
    (hfilter : sensible filter) (out : Predicate) :
    (∃ p, compileObject r t filter out = .ok p) ↔ (r.shapeOf t).admits shapes filter := by
  cases filter with
  | nil => simp [compileObject, Shape.admits]
  | cons entry rest =>
      rw [sensible, Bool.and_eq_true] at hfilter
      rw [Shape.admits, Bool.and_eq_true]
      cases entry with
      | field name inner =>
          have hinner := hfilter.1
          rw [sensibleEntry, Bool.and_eq_true] at hinner
          rw [Shape.admitsEntry, Registry.lists_shapeOf hr ht, compileObject]
          cases hfield : t.field? name with
          | none => simp
          | some f =>
              have hf := ((hr.field?_eq_some_iff ht).mp hfield).1
              have hcompiles := exists_compileField_iff hr hshapes ht hf inner hinner.2 name out
              rw [or_iff_right (by simpa using hinner.1)] at hcompiles
              rw [Option.any_some, ← hcompiles]
              rcases hnext : compileField r f name inner out with e | next
              · simp [hnext]
              · simp only [hnext, exists_compileObject_iff hr hshapes ht rest hfilter.2 next]
                simp
      | elemMatch inner => simp [compileObject, Shape.admitsEntry]
      | operator name operand => simp [compileObject, Shape.admitsEntry]
termination_by sizeOf filter

/-- A filter on a field compiles exactly when it is empty or admitted by what the shape says about the
field. -/
theorem exists_compileField_iff (hr : r.WellFormed)
    (hshapes : ∀ typeName t, r.type? typeName = some t → shapes typeName = .ok (r.shapeOf t))
    {typeName : String} {t : ObjectType} (ht : r.type? typeName = some t) {f : Field}
    (hf : f ∈ t.fields) (filter : Filter) (hfilter : sensible filter) (path : String)
    (out : Predicate) :
    (∃ p, compileField r f path filter out = .ok p) ↔
      filter = [] ∨ (r.shapeField? f).any (·.admits shapes filter) := by
  cases filter with
  | nil => simp [compileField]
  | cons entry rest =>
      rw [sensible, Bool.and_eq_true] at hfilter
      rw [or_iff_right (List.cons_ne_nil entry rest)]
      apply exists_compileField_cons_iff
        (exists_compileField_iff hr hshapes ht hf rest hfilter.2 path)
      · -- What compiles is admitted.
        intro p hp
        cases entry with
        | operator name operand =>
            have hentry := hfilter.1
            rw [sensibleEntry, Option.any_eq_true] at hentry
            obtain ⟨op, hop, htakes⟩ := hentry
            obtain ⟨test, htest, -⟩ := compileField_operator.mp hp
            have hmem := (exists_testFor_iff hop htakes).mp ⟨test, htest⟩
            refine ⟨_, Registry.shapeField?_of_mem_operators hmem, ?_⟩
            simp [ShapeField.admitsEntry, hop, hmem]
        | elemMatch inner =>
            have hinner := hfilter.1
            rw [sensibleEntry, Bool.and_eq_true] at hinner
            obtain ⟨element, t', nested, hkind, ht', hnested, -⟩ := compileField_elemMatch.mp hp
            have hadmits : (r.shapeOf t').admits shapes inner :=
              (exists_compileObject_iff hr hshapes ht' inner hinner.2 []).mp ⟨nested, hnested⟩
            have hbarren := Registry.not_barren_of_admits ht' (by simpa using hinner.1) hadmits
            refine ⟨.objectList element, by simp [Registry.shapeField?, hkind, hbarren], ?_⟩
            rw [ShapeField.admitsEntry, hshapes element t' ht']
            exact hadmits
        | field name inner =>
            have hinner := hfilter.1
            rw [sensibleEntry, Bool.and_eq_true] at hinner
            obtain ⟨nested, t', child, next, hobject, ht', hfield, hnext, -⟩ :=
              compileField_field.mp hp
            have hchild := ((hr.field?_eq_some_iff ht').mp hfield).1
            have hadmits := (exists_compileField_iff hr hshapes ht' hchild inner hinner.2
              (Path.child path name) out).mp ⟨next, hnext⟩
            have hlists : (r.shapeOf t').lists name (·.admits shapes inner) := by
              rw [Registry.lists_shapeOf hr ht', hfield]
              exact hadmits.resolve_left (by simpa using hinner.1)
            obtain ⟨described, hdescribed, rfl | rfl⟩ :=
              Registry.exists_shapeField? hobject (Registry.not_barren_of_lists ht' hlists)
            all_goals
              refine ⟨_, hdescribed, ?_⟩
              rw [ShapeField.admitsEntry, hshapes nested t' ht']
              exact hlists
      · -- What is admitted compiles.
        intro described hdescribed hentry
        have hsuits := Registry.suits_of_shapeField? hdescribed
        cases entry with
        | operator name operand =>
            have hsensible := hfilter.1
            rw [sensibleEntry, Option.any_eq_true] at hsensible
            obtain ⟨op, hop, htakes⟩ := hsensible
            cases described with
            | operators ops =>
                obtain rfl := hsuits
                rw [ShapeField.admitsEntry, hop, Option.any_some, List.contains_iff_mem] at hentry
                obtain ⟨test, htest⟩ : ∃ test, testFor f path name operand = .ok test :=
                  (exists_testFor_iff hop htakes).mpr hentry
                exact ⟨out.addTest path test, by rw [compileField, htest]⟩
            | _ => cases hentry
        | elemMatch inner =>
            have hinner := hfilter.1
            rw [sensibleEntry, Bool.and_eq_true] at hinner
            cases described with
            | objectList nested =>
                have hobject : f.kind.objectType? = some nested := by rw [hsuits]; rfl
                obtain ⟨t', ht'⟩ := hr.exists_type ht hf hobject
                rw [ShapeField.admitsEntry, hshapes nested t' ht'] at hentry
                obtain ⟨compiled, hcompiled⟩ :=
                  (exists_compileObject_iff hr hshapes ht' inner hinner.2 []).mpr hentry
                refine ⟨out.addElements path compiled, ?_⟩
                rw [compileField, show f.kind = .objectList nested from hsuits]
                simp only [Registry.typeOrReject_of_type? ht', hcompiled]
            | _ => cases hentry
        | field name inner =>
            have hinner := hfilter.1
            rw [sensibleEntry, Bool.and_eq_true] at hinner
            cases described with
            | operators ops => cases hentry
            | object nested | objectList nested =>
                have hobject : f.kind.objectType? = some nested := by rw [hsuits]; rfl
                obtain ⟨t', ht'⟩ := hr.exists_type ht hf hobject
                rw [ShapeField.admitsEntry, hshapes nested t' ht'] at hentry
                replace hentry : (r.shapeOf t').lists name (·.admits shapes inner) := hentry
                rw [Registry.lists_shapeOf hr ht', Option.any_eq_true] at hentry
                obtain ⟨child, hfield, hadmits⟩ := hentry
                have hchild := ((hr.field?_eq_some_iff ht').mp hfield).1
                obtain ⟨next, hnext⟩ := (exists_compileField_iff hr hshapes ht' hchild inner
                  hinner.2 (Path.child path name) out).mpr (.inr hadmits)
                refine ⟨next, ?_⟩
                rw [compileField]
                simp only [hobject, Registry.typeOrReject_of_type? ht', hfield, hnext]
termination_by sizeOf filter

end

/-- **The shapes admit what compiles.** In a registry that was built, whatever shapes were asked for
before, a sensible filter on a type compiles exactly when there is a shape of the type and the shape
admits the filter. -/
theorem compile_iff_admits {s : Schema} {r : Registry} (hbuild : s.build = .ok r) {memo : ShapeMemo}
    (hmemo : ShapeMemo.Reachable r memo) (typeName : String) (filter : Filter)
    (hfilter : sensible filter) :
    (∃ p, compile r typeName filter = .ok p) ↔
      ∃ shape, (Shape.derive r memo typeName).2 = .ok shape ∧
        shape.admits (fun nested => (Shape.derive r memo nested).2) filter := by
  have hr := Schema.wellFormed_of_build hbuild
  have hfaithful := hmemo.faithful hr
  unfold compile Registry.typeOrReject
  cases ht : r.type? typeName with
  | none => simp [bind, Except.bind, Shape.derive_eq_error hfaithful ht]
  | some t =>
      have hshapes : ∀ nested t', r.type? nested = some t' →
          (Shape.derive r memo nested).2 = .ok (r.shapeOf t') := fun _ _ ht' =>
        (Shape.derive_eq hr hfaithful ht').2
      have hcompiles := exists_compileObject_iff hr hshapes ht filter hfilter []
      rw [hshapes typeName t ht]
      constructor
      · rintro ⟨p, hp⟩
        obtain ⟨_, ⟨⟩, hp⟩ := bind_eq_ok.mp hp
        obtain ⟨compiled, hcompiled, -⟩ := bind_eq_ok.mp hp
        exact ⟨_, rfl, hcompiles.mp ⟨compiled, hcompiled⟩⟩
      · rintro ⟨_, ⟨⟩, hadmits⟩
        obtain ⟨compiled, hcompiled⟩ := hcompiles.mpr hadmits
        exact ⟨_, bind_eq_ok.mpr ⟨t, rfl, bind_eq_ok.mpr ⟨compiled, hcompiled, rfl⟩⟩⟩

/-! ### Parts of parts -/

/-- Parts have parts, and notes about which filters have nothing to say. -/
def partSchema : Schema where
  types := [⟨"Part", false,
    [.plain "name" "String!", .plain "parts" "[Part!]", .plain "notes" "JSON"]⟩]
  enums := []
  attachments := []

/-- A part with a part that has a part of some name. -/
def partInPart : Filter := [
  .field "parts" [.elemMatch [.field "parts" [.field "name" [.operator "eq" (.string "bolt")]]]]]

/-- A part with notes. -/
def withNotes : Filter := [.field "notes" [.operator "ne" .null]]

def partRegistry : Registry := partSchema.build.toOption.getD ⟨[], []⟩

theorem build_partSchema : partSchema.build = .ok partRegistry :=
  Schema.build_of_isSome (by decide +kernel)

/-- Whether the shapes of the registry of parts admit a filter on parts. -/
def admitsPart (filter : Filter) : Bool :=
  (Shape.derive partRegistry [] "Part").2.toOption.any fun shape =>
    shape.admits (fun nested => (Shape.derive partRegistry [] nested).2) filter

theorem admitsPart_iff (filter : Filter) : admitsPart filter ↔
    ∃ shape, (Shape.derive partRegistry [] "Part").2 = .ok shape ∧
      shape.admits (fun nested => (Shape.derive partRegistry [] nested).2) filter := by
  unfold admitsPart
  cases (Shape.derive partRegistry [] "Part").2 <;> simp [Except.toOption]

theorem compile_iff_admits_parts :
    partSchema.build = .ok partRegistry ∧ sensible partInPart ∧ sensible withNotes ∧
      (∃ p, compile partRegistry "Part" partInPart = .ok p) ∧
      ¬∃ p, compile partRegistry "Part" withNotes = .ok p := by
  refine ⟨build_partSchema, by decide, by decide, ?_, ?_⟩
  · rw [compile_iff_admits build_partSchema .empty "Part" partInPart (by decide),
      ← admitsPart_iff]
    decide +kernel
  · rw [compile_iff_admits build_partSchema .empty "Part" withNotes (by decide),
      ← admitsPart_iff]
    decide +kernel

end Filter

end ContentQuery
