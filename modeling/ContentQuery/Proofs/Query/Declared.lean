import ContentQuery.Engine.Basic
import ContentQuery.Proofs.Filter.Reading

/-!
# Checked queries ask for declared fields

A query is checked before anything is resolved. What the check lets through names declared fields
only, at every depth (`Registry.DeclaresAll`), so that whether resolvers are needed can always be told
(`Query.needsResolution_ok`): no query fails later for a field or a type that is not there.
-/

namespace ContentQuery

namespace Registry

variable {r : Registry}

mutual

/-- The field is declared by the type, and what is required inside it by the type it leads to. A field
that leads to no type is required whole. -/
def Declares (r : Registry) (t : ObjectType) : RequiredField → Prop
  | ⟨name, inner⟩ =>
    ∃ field, t.field? name = some field ∧
      (inner ≠ [] → ∃ nested t', field.kind.objectType? = some nested ∧
        r.type? nested = some t' ∧ DeclaresAll r t' inner)

def DeclaresAll (r : Registry) (t : ObjectType) : List RequiredField → Prop
  | [] => True
  | f :: rest => Declares r t f ∧ DeclaresAll r t rest

end

/-- What is required inside a field is declared by the type that the field leads to. -/
def DeclaresInside (r : Registry) (field : Field) (inner : RequiredFields) : Prop :=
  inner ≠ [] → ∃ nested t', field.kind.objectType? = some nested ∧
    r.type? nested = some t' ∧ r.DeclaresAll t' inner

theorem declares_iff {t : ObjectType} {name : String} {inner : List RequiredField} :
    r.Declares t ⟨name, inner⟩ ↔ ∃ field, t.field? name = some field ∧ r.DeclaresInside field inner := by
  rw [Declares]
  rfl

theorem DeclaresAll.of_mem {t : ObjectType} {fields : List RequiredField}
    (h : r.DeclaresAll t fields) {f : RequiredField} (hmem : f ∈ fields) : r.Declares t f := by
  induction fields with
  | nil => cases hmem
  | cons first rest ih =>
      rcases List.mem_cons.mp hmem with rfl | hmem
      · exact h.1
      · exact ih h.2 hmem

theorem DeclaresInside.of_type {field : Field} {inner : RequiredFields} {nested : String}
    {t' : ObjectType} (hnested : field.kind.objectType? = some nested)
    (ht : r.type? nested = some t') (h : r.DeclaresAll t' inner) : r.DeclaresInside field inner :=
  fun _ => ⟨nested, t', hnested, ht, h⟩

theorem DeclaresInside.all {field : Field} {inner : RequiredFields} {nested : String}
    {t' : ObjectType} (h : r.DeclaresInside field inner)
    (hnested : field.kind.objectType? = some nested) (ht : r.type? nested = some t') :
    r.DeclaresAll t' inner := by
  by_cases hinner : inner = []
  · subst hinner
    trivial
  · obtain ⟨other, t'', hother, ht'', hall⟩ := h hinner
    rw [hnested] at hother
    obtain rfl := Option.some.inj hother
    rw [ht] at ht''
    obtain rfl := Option.some.inj ht''
    exact hall

/-- A field that leads to no type is required whole. -/
theorem DeclaresInside.eq_nil {field : Field} {inner : RequiredFields}
    (h : r.DeclaresInside field inner) (hleaf : field.kind.objectType? = none) : inner = [] := by
  cases inner with
  | nil => rfl
  | cons f rest =>
      obtain ⟨nested, t', hnested, -⟩ := h (List.cons_ne_nil f rest)
      rw [hleaf] at hnested
      cases hnested

/-- Whether resolvers are needed can be told where all fields are declared. -/
theorem needsResolver_ok {t : ObjectType} {fields : List RequiredField}
    (h : r.DeclaresAll t fields) : ∃ needs, r.needsResolver t fields = .ok needs := by
  match fields with
  | [] => exact ⟨false, by rw [needsResolver]⟩
  | ⟨name, inner⟩ :: rest =>
      rw [DeclaresAll, declares_iff] at h
      obtain ⟨⟨field, hfield, hinside⟩, hrest⟩ := h
      simp only [needsResolver, fieldNeedsResolver, hfield]
      by_cases hresolver : field.resolver.isSome
      · exact ⟨true, by rw [if_pos hresolver]⟩
      · rw [if_neg hresolver]
        obtain ⟨more, hmore⟩ := needsResolver_ok hrest
        rw [hmore]
        by_cases hinner : inner = []
        · subst hinner
          cases field.kind.objectType? <;> exact ⟨more, rfl⟩
        · obtain ⟨nested, t', hnested, ht', hall⟩ := hinside hinner
          obtain ⟨needs, hneeds⟩ := needsResolver_ok hall
          have hnonempty : ¬inner.isEmpty := by simpa using hinner
          simp only [hnested, if_neg hnonempty, ht', hneeds]
          cases needs
          · exact ⟨more, rfl⟩
          · exact ⟨true, rfl⟩
termination_by sizeOf fields

end Registry

/-! ## Gathering required fields -/

namespace RequiredFields

variable {r : Registry}

/-- Changing what is required inside one field keeps all fields declared, if the change keeps what it
is given declared. -/
theorem declares_alter {t : ObjectType} {field : Field} {name : String}
    (hfield : t.field? name = some field) {change : RequiredFields → RequiredFields}
    (hchange : ∀ inner, r.DeclaresInside field inner → r.DeclaresInside field (change inner))
    {set : RequiredFields} (h : r.DeclaresAll t set) : r.DeclaresAll t (alter name change set) := by
  induction set with
  | nil =>
      refine ⟨Registry.declares_iff.mpr ⟨field, hfield, hchange [] ?_⟩, trivial⟩
      exact fun hne => absurd rfl hne
  | cons f rest ih =>
      obtain ⟨hf, hrest⟩ := h
      rw [alter]
      split
      · rename_i hname
        obtain ⟨declared, inner⟩ := f
        obtain ⟨other, hother, hinside⟩ := Registry.declares_iff.mp hf
        rw [show declared = name from hname, hfield] at hother
        obtain rfl := Option.some.inj hother
        exact ⟨Registry.declares_iff.mpr ⟨field, hfield, hchange inner hinside⟩, hrest⟩
      · exact ⟨hf, ih hrest⟩

mutual

theorem declares_insert {t : ObjectType} (f : RequiredField) (hf : r.Declares t f)
    {set : RequiredFields} (h : r.DeclaresAll t set) : r.DeclaresAll t (insert f set) := by
  match f with
  | ⟨name, inner⟩ =>
      obtain ⟨field, hfield, hinside⟩ := Registry.declares_iff.mp hf
      rw [insert]
      refine declares_alter hfield (fun given hgiven => ?_) h
      intro hne
      by_cases hinner : inner = []
      · subst hinner
        exact hgiven hne
      · obtain ⟨nested, t', hnested, ht', hall⟩ := hinside hinner
        exact ⟨nested, t', hnested, ht', declares_insertAll inner hall (hgiven.all hnested ht')⟩
termination_by sizeOf f

/-- **Merging** declared fields gives declared fields. -/
theorem declares_insertAll {t : ObjectType} (fields : List RequiredField)
    (hfields : r.DeclaresAll t fields) {set : RequiredFields} (h : r.DeclaresAll t set) :
    r.DeclaresAll t (insertAll fields set) := by
  match fields with
  | [] => exact h
  | f :: rest =>
      rw [insertAll]
      exact declares_insertAll rest hfields.2 (declares_insert f hfields.1 h)
termination_by sizeOf fields

end

/-- The steps of a path that leads to a field are declared. -/
theorem declares_ofSteps {typeName path : String} {t : ObjectType} {steps : List String}
    {kind : FieldKind} (h : r.kindAlong typeName path t steps = .ok kind) :
    r.DeclaresAll t (ofSteps steps) := by
  induction steps generalizing t with
  | nil => cases h
  | cons step rest ih =>
      rw [Registry.kindAlong] at h
      cases hfield : t.field? step with
      | none => rw [hfield] at h; cases h
      | some field =>
          simp only [hfield] at h
          refine ⟨Registry.declares_iff.mpr ⟨field, hfield, ?_⟩, trivial⟩
          by_cases hrest : rest.isEmpty
          · obtain rfl := List.isEmpty_iff.mp hrest
            exact fun hne => absurd rfl hne
          · rw [if_neg hrest] at h
            cases hnested : field.kind.objectType? with
            | none => simp [hnested] at h
            | some nested =>
                simp only [hnested] at h
                cases htype : r.typeOrReject nested with
                | error e => simp [htype] at h
                | ok t' =>
                    rw [htype] at h
                    exact .of_type hnested (Registry.type?_of_typeOrReject htype) (ih h)

theorem declares_foldl_addPath {typeName : String} {t : ObjectType}
    (ht : r.typeOrReject typeName = .ok t) (paths : List String)
    (hpaths : Engine.checkPaths r typeName paths = .ok ()) {set : RequiredFields}
    (h : r.DeclaresAll t set) : r.DeclaresAll t (paths.foldl addPath set) := by
  induction paths generalizing set with
  | nil => exact h
  | cons path rest ih =>
      rw [Engine.checkPaths] at hpaths
      obtain ⟨kind, hkind, hpaths⟩ := bind_eq_ok.mp hpaths
      rw [Registry.kindAt, ht] at hkind
      exact ih hpaths (declares_insertAll _ (declares_ofSteps hkind) h)

mutual

/-- A filter on an object that compiles names declared fields. -/
theorem declares_addFilter_of_compileObject {t : ObjectType} (filter : Filter) {out p : Predicate}
    (hcompile : Filter.compileObject r t filter out = .ok p) {set : RequiredFields}
    (h : r.DeclaresAll t set) : r.DeclaresAll t (addFilter filter set) := by
  match filter with
  | [] => exact h
  | entry :: rest =>
      obtain ⟨name, inner, field, next, rfl, hfield, hnext, hcompile⟩ :=
        Filter.compileObject_cons.mp hcompile
      rw [addFilter, addEntry]
      apply declares_addFilter_of_compileObject rest hcompile
      apply declares_insert _ _ h
      rw [Registry.declares_iff]
      refine ⟨field, hfield, declares_addFilter_of_compileField inner hnext ?_⟩
      exact fun hne => absurd rfl hne
termination_by sizeOf filter

/-- A filter on a field that compiles names declared fields inside it. -/
theorem declares_addFilter_of_compileField {field : Field} {path : String} (filter : Filter)
    {out p : Predicate} (hcompile : Filter.compileField r field path filter out = .ok p)
    {set : RequiredFields} (h : r.DeclaresInside field set) :
    r.DeclaresInside field (addFilter filter set) := by
  match filter with
  | [] => exact h
  | .operator _ _ :: rest =>
      obtain ⟨test, -, hcompile⟩ := Filter.compileField_operator.mp hcompile
      rw [addFilter, addEntry]
      exact declares_addFilter_of_compileField rest hcompile h
  | .elemMatch inner :: rest =>
      obtain ⟨element, t, nested, hkind, ht, hnested, hcompile⟩ :=
        Filter.compileField_elemMatch.mp hcompile
      have hobject : field.kind.objectType? = some element := by rw [hkind]; rfl
      rw [addFilter, addEntry]
      apply declares_addFilter_of_compileField rest hcompile
      apply Registry.DeclaresInside.of_type hobject ht
      exact declares_addFilter_of_compileObject inner hnested (h.all hobject ht)
  | .field name inner :: rest =>
      obtain ⟨typeName, t, child, next, hobject, ht, hchild, hnext, hcompile⟩ :=
        Filter.compileField_field.mp hcompile
      rw [addFilter, addEntry]
      apply declares_addFilter_of_compileField rest hcompile
      apply Registry.DeclaresInside.of_type hobject ht
      apply declares_insert _ _ (h.all hobject ht)
      rw [Registry.declares_iff]
      refine ⟨child, hchild, declares_addFilter_of_compileField inner hnext ?_⟩
      exact fun hne => absurd rfl hne
termination_by sizeOf filter

end

end RequiredFields

/-! ## Checked queries -/

namespace Query

theorem of_check {r : Registry} {q : Query} {p : Predicate} (h : Engine.check r q = .ok p) :
    Filter.compile r q.typeName (q.args.filter.getD []) = .ok p ∧
      Engine.checkPaths r q.typeName (q.args.sort.getD []).paths = .ok () ∧
      Engine.checkPaths r q.typeName (q.projections.map (·.path)) = .ok () := by
  obtain ⟨predicate, hfilter, h⟩ := bind_eq_ok.mp h
  obtain ⟨_, hsort, h⟩ := bind_eq_ok.mp h
  obtain ⟨_, hprojections, h⟩ := bind_eq_ok.mp h
  obtain rfl := Except.ok.inj h
  exact ⟨hfilter, hsort, hprojections⟩

/-- A query that passes the check requires declared fields of a type that is there. -/
theorem declares_required {r : Registry} {q : Query} {p : Predicate}
    (h : Engine.check r q = .ok p) :
    ∃ t, r.type? q.typeName = some t ∧ r.DeclaresAll t q.required := by
  obtain ⟨hcompile, hsort, hprojections⟩ := of_check h
  obtain ⟨t, compiled, ht, hobject, -⟩ := Filter.compile_eq_ok_iff.mp hcompile
  have htype := Registry.typeOrReject_of_type? ht
  refine ⟨t, ht, ?_⟩
  rw [required, RequiredFields.forQuery, List.foldl_append]
  apply RequiredFields.declares_foldl_addPath htype _ hprojections
  apply RequiredFields.declares_foldl_addPath htype _ hsort
  exact RequiredFields.declares_addFilter_of_compileObject _ hobject trivial

/-- **Whether a checked query needs resolvers can be told.** -/
theorem needsResolution_ok {r : Registry} {q : Query} {p : Predicate}
    (h : Engine.check r q = .ok p) :
    ∃ needs, r.needsResolution q.typeName q.required = .ok needs := by
  obtain ⟨t, ht, hdeclares⟩ := declares_required h
  rw [Registry.needsResolution, ht]
  exact Registry.needsResolver_ok hdeclares

end Query

end ContentQuery
