import ContentQuery.Proofs.Filter.Derivations

/-!
# Types on the way

Filters, dotted paths and shapes follow the references of a registry from the type that they are for.
Each of them looks the types on the way up by name. In a well-formed registry they are all there, so
that none but the first can be missing (**`Registry.WellFormed.gapless`**).
-/

namespace ContentQuery

namespace Registry

variable {r : Registry}

/-- The type that a field leads to is there. -/
theorem WellFormed.exists_typeOrReject (hr : r.WellFormed) {t : ObjectType} (ht : t ∈ r.types) {f : Field}
    (hf : f ∈ t.fields) {nested : String} (hnested : f.kind.objectType? = some nested) :
    ∃ t', r.typeOrReject nested = .ok t' ∧ t' ∈ r.types := by
  obtain ⟨t', ht'⟩ := Option.isSome_iff_exists.mp (hr.closed t ht f hf nested hnested)
  exact ⟨t', by simp [Registry.typeOrReject, ht'], mem_of_type? ht'⟩

/-- Each step of a path leads from one type of the registry to another. -/
theorem kindAlong_ne_unknownType (hr : r.WellFormed) {typeName path : String} {steps : List String}
    {t : ObjectType} (ht : t ∈ r.types) (name : String) :
    r.kindAlong typeName path t steps ≠ .error (.unknownType name) := by
  induction steps generalizing t with
  | nil => simp [kindAlong]
  | cons step rest ih =>
      rw [kindAlong]
      cases hfield : t.field? step with
      | none => simp
      | some field =>
          dsimp only
          split
          · simp
          · cases hkind : field.kind.objectType? with
            | none => simp
            | some inner =>
                have hmem : field ∈ t.fields := List.mem_of_find?_eq_some hfield
                obtain ⟨t', hthere, ht'⟩ := hr.exists_typeOrReject ht hmem hkind
                dsimp only
                rw [hthere]
                exact ih ht'

end Registry

namespace Filter

variable {r : Registry}

/-- A set operator is refused for its operand only. -/
theorem valueSet_eq_error {op : Operator} {path : String} {operand : Json} {e : Rejection}
    (h : valueSet op path operand = .error e) : ∃ fault, e = .operand path fault := by
  cases operand with
  | array vs => cases h
  | _ => exact ⟨_, (Except.error.inj h).symm⟩

/-- An operator that suits its field is refused for its operand only. -/
theorem knownTest_eq_error {kind : FieldKind} {path : String} {operand : Json} {op : Operator}
    {e : Rejection} (h : knownTest kind path operand op = .error e) :
    ∃ fault, e = .operand path fault := by
  cases op with
  | glob | regex =>
      rw [knownTest] at h
      split at h
      · cases h
      · exact ⟨_, (Except.error.inj h).symm⟩
  | oneOf | noneOf =>
      rw [knownTest] at h
      rcases bind_eq_error.mp h with hset | ⟨vs, -, h⟩
      · exact valueSet_eq_error hset
      · cases h
  | _ => cases h

theorem testFor_ne_unknownType (field : Field) (path operator : String) (operand : Json)
    (name : String) : testFor field path operator operand ≠ .error (.unknownType name) := by
  unfold testFor
  dsimp only
  split
  · simp
  · split
    · simp
    · split
      · intro h
        obtain ⟨fault, hfault⟩ := knownTest_eq_error h
        cases hfault
      · simp

mutual

/-- Whatever a filter goes into is a type of the registry, so the types of its fields are there. -/
theorem compileObject_ne_unknownType (hr : r.WellFormed) {t : ObjectType} (ht : t ∈ r.types)
    (filter : Filter) (out : Predicate) (name : String) :
    compileObject r t filter out ≠ .error (.unknownType name) := by
  match filter with
  | [] => simp [compileObject]
  | .elemMatch inner :: rest => simp [compileObject]
  | .operator operator operand :: rest => simp [compileObject]
  | .field step inner :: rest =>
      rw [compileObject]
      cases hfield : t.field? step with
      | none => simp
      | some field =>
          have hmem : field ∈ t.fields := List.mem_of_find?_eq_some hfield
          have hinner := compileField_ne_unknownType hr ht hmem step inner out name
          dsimp only
          cases hcompiled : compileField r field step inner out with
          | error e => exact fun h => hinner (hcompiled.trans h)
          | ok next => exact compileObject_ne_unknownType hr ht rest next name
termination_by sizeOf filter

theorem compileField_ne_unknownType (hr : r.WellFormed) {t : ObjectType} (ht : t ∈ r.types)
    {field : Field} (hfield : field ∈ t.fields) (path : String) (filter : Filter) (out : Predicate)
    (name : String) : compileField r field path filter out ≠ .error (.unknownType name) := by
  match filter with
  | [] => simp [compileField]
  | .operator operator operand :: rest =>
      rw [compileField]
      have htest := testFor_ne_unknownType field path operator operand name
      cases hcompiled : testFor field path operator operand with
      | error e =>
          intro h
          obtain rfl := Except.error.inj h
          exact htest hcompiled
      | ok test => exact compileField_ne_unknownType hr ht hfield path rest _ name
  | .elemMatch inner :: rest =>
      rw [compileField]
      -- Only a list of objects has elements of a type; other fields are refused for what they are.
      cases hkind : field.kind with
      | objectList element =>
          obtain ⟨t', hthere, ht'⟩ := hr.exists_typeOrReject ht hfield (by rw [hkind]; rfl)
          dsimp only
          rw [hthere]
          have hinner := compileObject_ne_unknownType hr ht' inner [] name
          dsimp only
          cases hcompiled : compileObject r t' inner [] with
          | error e => exact fun h => hinner (hcompiled.trans h)
          | ok nested => exact compileField_ne_unknownType hr ht hfield path rest _ name
      | _ => simp
  | .field step inner :: rest =>
      rw [compileField]
      cases hkind : field.kind.objectType? with
      | none => simp
      | some typeName =>
          obtain ⟨t', hthere, ht'⟩ := hr.exists_typeOrReject ht hfield hkind
          dsimp only
          rw [hthere]
          dsimp only
          cases hchild : t'.field? step with
          | none => simp
          | some child =>
              have hmem : child ∈ t'.fields := List.mem_of_find?_eq_some hchild
              have hinner :=
                compileField_ne_unknownType hr ht' hmem (Path.child path step) inner out name
              dsimp only
              cases hcompiled : compileField r child (Path.child path step) inner out with
              | error e => exact fun h => hinner (hcompiled.trans h)
              | ok next => exact compileField_ne_unknownType hr ht hfield path rest next name
termination_by sizeOf filter

end

end Filter

/-- Nobody who follows references comes to a type that is not there, unless it is the one that was
asked for. -/
structure Registry.Gapless (r : Registry) : Prop where
  compile : ∀ typeName filter name, Filter.compile r typeName filter = .error (.unknownType name) ↔
    name = typeName ∧ r.type? typeName = none
  kindAt : ∀ typeName path name, r.kindAt typeName path = .error (.unknownType name) ↔
    name = typeName ∧ r.type? typeName = none
  /-- This is all that can go wrong when a shape is derived. -/
  derive : ∀ asked typeName e, (Shape.derive r (ShapeMemo.after r asked) typeName).2 = .error e ↔
    e = .unknownType typeName ∧ r.type? typeName = none

namespace Registry

variable {r : Registry}

theorem typeOrReject_eq_error_iff {typeName : String} {e : Rejection} :
    r.typeOrReject typeName = .error e ↔ e = .unknownType typeName ∧ r.type? typeName = none := by
  unfold typeOrReject
  cases r.type? typeName with
  | none => simp [eq_comm]
  | some t => simp

theorem WellFormed.gapless (hr : r.WellFormed) : r.Gapless where
  compile typeName filter name := by
    rw [Filter.compile, bind_eq_error, typeOrReject_eq_error_iff, Rejection.unknownType.injEq]
    refine or_iff_left ?_
    rintro ⟨t, ht, h⟩
    rcases bind_eq_error.mp h with hcompiled | ⟨_, -, ⟨⟩⟩
    have hmem : t ∈ r.types := mem_of_type? (type?_of_typeOrReject ht)
    exact Filter.compileObject_ne_unknownType hr hmem filter [] name hcompiled
  kindAt typeName path name := by
    rw [Registry.kindAt, bind_eq_error, typeOrReject_eq_error_iff, Rejection.unknownType.injEq]
    refine or_iff_left ?_
    rintro ⟨t, ht, h⟩
    have hmem : t ∈ r.types := mem_of_type? (type?_of_typeOrReject ht)
    exact kindAlong_ne_unknownType hr hmem name h
  derive asked typeName e := by
    have hmemo := (ShapeMemo.reachable_after (r := r) asked).faithful hr
    cases ht : r.type? typeName with
    | none => simp [Shape.derive_eq_error hmemo ht, eq_comm]
    | some t => simp [(Shape.derive_eq hr hmemo ht).2]

end Registry

end ContentQuery
