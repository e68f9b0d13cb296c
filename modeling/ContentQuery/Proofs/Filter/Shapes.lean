import ContentQuery.Filter.Shape
import ContentQuery.Proofs.Schema.Built
import Mathlib.Data.List.Perm.Subperm
import Mathlib.Logic.Relation

/-!
# One shape for each type

Shapes are derived depth first, with a memo, and a reference back to a type under derivation is kept
before it is known what becomes of that type. None of this shows in the result. A type is barren if
no chain of fields leads from it to a field with operators and none goes on for ever, and the shape of
a type leaves out the fields that have no operators and the references to barren types
(`Registry.shapeOf`). Whatever was derived before, this is the shape that a type gets if it gets one.

A registry may lack a type that a field refers to, and then the derivation fails, but what was derived
before it failed is kept. All that a derivation does, whether or not it fails, is in one invariant of
the recursion (**`Shape.deriveFrom_derives`**). Where no type is lacking, every type gets its shape
(**`Shape.derive_eq`**).
-/

namespace ContentQuery

/-! ## Barren types -/

namespace Registry

variable {r : Registry}

/-- A type about which no filter has anything to say: its fields have no operators, and those that
lead to another type lead to a barren one. -/
inductive Barren (r : Registry) : String → Prop
  | intro {typeName : String} {t : ObjectType} : r.type? typeName = some t →
      (∀ f ∈ t.fields, f.kind.operators = []) →
      (∀ f ∈ t.fields, ∀ nested, f.kind.objectType? = some nested → Barren r nested) →
      Barren r typeName

/-- A field of the one type leads to the other. -/
def RefersTo (r : Registry) (typeName nested : String) : Prop :=
  ∃ t, r.type? typeName = some t ∧ ∃ f ∈ t.fields, f.kind.objectType? = some nested

theorem Barren.refersTo {typeName nested : String} (h : r.Barren typeName)
    (hrefers : r.RefersTo typeName nested) : r.Barren nested := by
  obtain ⟨ht, -, hnested⟩ := h
  obtain ⟨t', ht', f, hf, hkind⟩ := hrefers
  rw [ht] at ht'
  obtain rfl := Option.some.inj ht'
  exact hnested f hf nested hkind

theorem Barren.transGen {typeName nested : String} (h : r.Barren typeName)
    (hrefers : Relation.TransGen r.RefersTo typeName nested) : r.Barren nested := by
  induction hrefers with
  | single hfirst => exact h.refersTo hfirst
  | tail _ hlast ih => exact ih.refersTo hlast

/-- A type that leads back to itself is not barren. -/
theorem not_barren_of_cycle {typeName : String}
    (hcycle : Relation.TransGen r.RefersTo typeName typeName) : ¬r.Barren typeName := by
  intro h
  induction h with
  | @intro typeName t ht _ _ ih =>
      -- The first step of the cycle leads to a type with the same cycle.
      rcases Relation.TransGen.head'_iff.mp hcycle with ⟨next, hfirst, hrest⟩
      have hnext : Relation.TransGen r.RefersTo next next :=
        Relation.TransGen.tail' hrest hfirst
      obtain ⟨t', ht', f, hf, hkind⟩ := hfirst
      rw [ht] at ht'
      obtain rfl := Option.some.inj ht'
      exact ih f hf next hkind hnext

/-! ## Where fields lead -/

/-- The one type is the other, or fields lead from the first to the second. -/
abbrev LeadsTo (r : Registry) : String → String → Prop := Relation.ReflTransGen r.RefersTo

/-- Fields lead from the type to one that leads back to itself. -/
def Circles (r : Registry) (typeName : String) : Prop :=
  ∃ reached, r.LeadsTo typeName reached ∧ Relation.TransGen r.RefersTo reached reached

/-- Fields lead from the type to one that is not there, by way of types that are not kept. -/
inductive Breaks (r : Registry) (kept : List String) : String → Prop
  | missing {typeName : String} : r.type? typeName = none → Breaks r kept typeName
  | via {typeName nested : String} : typeName ∉ kept → r.RefersTo typeName nested →
      Breaks r kept nested → Breaks r kept typeName

theorem RefersTo.isSome {typeName nested : String} (h : r.RefersTo typeName nested) :
    (r.type? typeName).isSome := by
  obtain ⟨t, ht, -⟩ := h
  rw [ht]
  rfl

theorem isSome_of_transGen {typeName nested : String}
    (h : Relation.TransGen r.RefersTo typeName nested) : (r.type? typeName).isSome := by
  obtain ⟨next, hfirst, -⟩ := Relation.TransGen.head'_iff.mp h
  exact hfirst.isSome

theorem Circles.head {typeName nested : String} (h : r.Circles nested)
    (hrefers : r.RefersTo typeName nested) : r.Circles typeName := by
  obtain ⟨reached, hleads, hcycle⟩ := h
  exact ⟨reached, hleads.head hrefers, hcycle⟩

/-- What is kept can only help. -/
theorem Breaks.anti {kept more : List String} {typeName : String} (hsubset : kept ⊆ more)
    (h : r.Breaks more typeName) : r.Breaks kept typeName := by
  induction h with
  | missing ht => exact .missing ht
  | via hnew hrefers _ ih => exact .via (fun hmem => hnew (hsubset hmem)) hrefers ih

/-- With nothing kept, a type breaks if fields lead from it to one that is not there. -/
theorem breaks_nil_iff {typeName : String} :
    r.Breaks [] typeName ↔ ∃ gap, r.LeadsTo typeName gap ∧ r.type? gap = none := by
  constructor
  · intro h
    induction h with
    | @missing name ht => exact ⟨name, .refl, ht⟩
    | via _ hrefers _ ih =>
        obtain ⟨gap, hleads, hgap⟩ := ih
        exact ⟨gap, hleads.head hrefers, hgap⟩
  · rintro ⟨gap, hleads, hgap⟩
    induction hleads using Relation.ReflTransGen.head_induction_on with
    | refl => exact .missing hgap
    | head hrefers _ ih => exact .via List.not_mem_nil hrefers ih

/-! ## The shape of a type -/

open Classical in
/-- What a field contributes to the shape of its type. -/
noncomputable def shapeField? (r : Registry) (f : Field) : Option ShapeField :=
  match f.kind with
  | .leaf _ | .leafList _ =>
    if f.kind.operators = [] then none else some (.operators f.kind.operators)
  | .object nested => if r.Barren nested then none else some (.object nested)
  | .objectList nested => if r.Barren nested then none else some (.objectList nested)

/-- The shape of a type, its fields in declaration order. -/
noncomputable def shapeOf (r : Registry) (t : ObjectType) : Shape where
  typeName := t.name
  fields := t.fields.filterMap fun f => (r.shapeField? f).map (f.name, ·)

theorem shapeField?_eq_none_iff {f : Field} : r.shapeField? f = none ↔
    f.kind.operators = [] ∧ ∀ nested, f.kind.objectType? = some nested → r.Barren nested := by
  unfold shapeField?
  cases hkind : f.kind with
  | leaf type | leafList type => simp [FieldKind.objectType?]
  | object nested | objectList nested =>
      simp [FieldKind.objectType?, FieldKind.operators, FieldKind.leafType?]

/-- A type with an empty shape is a barren one. -/
theorem isEmpty_shapeOf_iff {typeName : String} {t : ObjectType} (ht : r.type? typeName = some t) :
    (r.shapeOf t).isEmpty ↔ r.Barren typeName := by
  have hfields : (r.shapeOf t).isEmpty ↔ ∀ f ∈ t.fields, r.shapeField? f = none := by
    simp [Shape.isEmpty, shapeOf, List.filterMap_eq_nil_iff]
  rw [hfields]
  constructor
  · intro h
    exact ⟨ht, fun f hf => (shapeField?_eq_none_iff.mp (h f hf)).1,
      fun f hf => (shapeField?_eq_none_iff.mp (h f hf)).2⟩
  · rintro ⟨ht', hoperators, hnested⟩ f hf
    rw [ht] at ht'
    obtain rfl := Option.some.inj ht'
    exact shapeField?_eq_none_iff.mpr ⟨hoperators f hf, hnested f hf⟩

theorem mem_shapeOf_iff {t : ObjectType} {name : String} {described : ShapeField} :
    (name, described) ∈ (r.shapeOf t).fields ↔
      ∃ f ∈ t.fields, f.name = name ∧ r.shapeField? f = some described := by
  simp only [shapeOf, List.mem_filterMap, Option.map_eq_some_iff, Prod.mk.injEq]
  constructor
  · rintro ⟨f, hf, _, hdescribed, rfl, rfl⟩
    exact ⟨f, hf, rfl, hdescribed⟩
  · rintro ⟨f, hf, rfl, hdescribed⟩
    exact ⟨f, hf, described, hdescribed, rfl, rfl⟩

end Registry

/-! ## Memos -/

namespace ShapeMemo

/-- What was derived so far are shapes of types. -/
def Faithful (r : Registry) (memo : ShapeMemo) : Prop :=
  ∀ shape ∈ memo, ∃ t, r.type? shape.typeName = some t ∧ shape = r.shapeOf t

/-- The types that shapes were derived for. -/
def names (memo : ShapeMemo) : List String := memo.map (·.typeName)

theorem shape?_eq_none_iff {memo : ShapeMemo} {typeName : String} :
    memo.shape? typeName = none ↔ typeName ∉ memo.names := by
  simp [shape?, names, List.find?_eq_none]

theorem Faithful.of_shape? {r : Registry} {memo : ShapeMemo} (h : memo.Faithful r)
    {typeName : String} {shape : Shape} (hfound : memo.shape? typeName = some shape) :
    typeName ∈ memo.names ∧ ∃ t, r.type? typeName = some t ∧ shape = r.shapeOf t := by
  have hname : shape.typeName = typeName := by simpa using List.find?_some hfound
  have hmem : shape ∈ memo := List.mem_of_find?_eq_some hfound
  exact ⟨List.mem_map.mpr ⟨shape, hmem, hname⟩, hname ▸ h shape hmem⟩

theorem Faithful.isSome {r : Registry} {memo : ShapeMemo} (h : memo.Faithful r) {name : String}
    (hname : name ∈ memo.names) : (r.type? name).isSome := by
  obtain ⟨shape, hshape, rfl⟩ := List.mem_map.mp hname
  obtain ⟨t, ht, -⟩ := h shape hshape
  rw [ht]
  rfl

/-- Shapes of types, and types are only kept in spite of a gap if they lead into a cycle. -/
structure Sound (r : Registry) (memo : ShapeMemo) : Prop where
  faithful : memo.Faithful r
  circles : ∀ name ∈ memo.names, r.Breaks [] name → r.Circles name

/-- While the types of `stack` are under derivation, every other type was derived once or not at
all. -/
structure Tidy (stack : List String) (memo : ShapeMemo) : Prop where
  distinct : memo.names.Nodup
  underway : ∀ name ∈ stack, name ∉ memo.names

/-- Nothing is forgotten, and what is added is under a type. -/
structure Grows (r : Registry) (root : String) (memo memo' : ShapeMemo) : Prop where
  kept : ∀ name ∈ memo.names, name ∈ memo'.names
  under : ∀ name ∈ memo'.names, name ∈ memo.names ∨ r.LeadsTo root name

/-- What a new type refers to was derived, or is under derivation. -/
def Closes (r : Registry) (stack : List String) (memo memo' : ShapeMemo) : Prop :=
  ∀ name ∈ memo'.names, name ∉ memo.names → ∀ nested, r.RefersTo name nested →
    nested ∈ memo'.names ∨ nested ∈ stack

variable {r : Registry} {root : String} {stack : List String} {memo memo' memo'' : ShapeMemo}

theorem Grows.refl (r : Registry) (root : String) (memo : ShapeMemo) : Grows r root memo memo :=
  ⟨fun _ h => h, fun _ h => .inl h⟩

theorem Grows.trans (h : Grows r root memo memo') (h' : Grows r root memo' memo'') :
    Grows r root memo memo'' where
  kept name hname := h'.kept name (h.kept name hname)
  under name hname := by
    rcases h'.under name hname with hmid | hunder
    · exact h.under name hmid
    · exact .inr hunder

theorem Grows.of_refersTo {typeName : String} (hrefers : r.RefersTo typeName root)
    (h : Grows r root memo memo') : Grows r typeName memo memo' where
  kept := h.kept
  under name hname := (h.under name hname).imp_right fun hleads => hleads.head hrefers

theorem Closes.refl (r : Registry) (stack : List String) (memo : ShapeMemo) :
    Closes r stack memo memo := fun _ hname hnew => absurd hname hnew

theorem Closes.trans (h : Closes r stack memo memo') (h' : Closes r stack memo' memo'')
    (hkept : ∀ name ∈ memo'.names, name ∈ memo''.names) : Closes r stack memo memo'' := by
  intro name hname hnew nested hrefers
  by_cases hmid : name ∈ memo'.names
  · exact (h name hmid hnew nested hrefers).imp_left (hkept nested)
  · exact h' name hname hmid nested hrefers

theorem Tidy.push {typeName : String} (h : memo.Tidy stack) (hnew : typeName ∉ memo.names) :
    memo.Tidy (typeName :: stack) :=
  ⟨h.distinct, List.forall_mem_cons.mpr ⟨hnew, h.underway⟩⟩

end ShapeMemo

/-! ## Deriving -/

namespace SchemaError

/-- Something is wrong with a field. -/
def OfField (e : SchemaError) : Prop := ∃ typeName field, e = .unknownField typeName field

end SchemaError

namespace Shape

variable {r : Registry}

/-- The types under derivation are different types, each of which leads to the one that is next. -/
structure Underway (r : Registry) (stack : List String) (typeName : String) : Prop where
  distinct : (typeName :: stack).Nodup
  leads : ∀ name ∈ stack, Relation.TransGen r.RefersTo name typeName

/-- No more types are under derivation than there are. -/
theorem Underway.length_lt {stack : List String} {typeName : String}
    (h : Underway r stack typeName) (hthere : (r.type? typeName).isSome) :
    stack.length < r.types.length := by
  have hsubset : typeName :: stack ⊆ r.types.map (·.name) := by
    intro name hname
    have hregistered : (r.type? name).isSome := by
      rcases List.mem_cons.mp hname with rfl | hstack
      · exact hthere
      · exact Registry.isSome_of_transGen (h.leads name hstack)
    obtain ⟨t, ht⟩ := Option.isSome_iff_exists.mp hregistered
    exact List.mem_map.mpr ⟨t, Registry.mem_of_type? ht, Registry.name_of_type? ht⟩
  have hlength := (List.subperm_of_subset h.distinct hsubset).length_le
  rw [List.length_map, List.length_cons] at hlength
  exact hlength

/-- A type that leads back to one under derivation is on a cycle. -/
theorem Underway.cycle {stack : List String} {typeName nested : String}
    (h : Underway r stack typeName) (hrefers : r.RefersTo typeName nested)
    (hmem : nested ∈ typeName :: stack) : Relation.TransGen r.RefersTo nested nested := by
  rcases List.mem_cons.mp hmem with rfl | hstack
  · exact .single hrefers
  · exact (h.leads nested hstack).tail hrefers

theorem Underway.push {stack : List String} {typeName nested : String}
    (h : Underway r stack typeName) (hrefers : r.RefersTo typeName nested)
    (hmem : nested ∉ typeName :: stack) : Underway r (typeName :: stack) nested where
  distinct := List.nodup_cons.mpr ⟨hmem, h.distinct⟩
  leads := by
    refine List.forall_mem_cons.mpr ⟨.single hrefers, fun name hname => ?_⟩
    exact (h.leads name hname).tail hrefers

/-- What a derivation comes to while the types of `stack` are under derivation. -/
structure Derived (r : Registry) (stack : List String) (memo : ShapeMemo) (typeName : String)
    (result : ShapeMemo × Except SchemaError Shape) : Prop where
  sound : result.1.Sound r
  tidy : memo.Tidy stack → result.1.Tidy stack
  grows : ShapeMemo.Grows r typeName memo result.1
  ok : ∀ shape, result.2 = .ok shape →
    (∃ t, r.type? typeName = some t ∧ shape = r.shapeOf t) ∧ typeName ∈ result.1.names ∧
      ShapeMemo.Closes r stack memo result.1
  error : ∀ e, result.2 = .error e → r.Breaks memo.names typeName ∧
    ((r.type? typeName).isSome → e.OfField) ∧
    (r.type? typeName = none → e = .unknownType typeName)

/-- Derives shapes as it should, as long as the types under derivation lead to the type. -/
def Derives (r : Registry) (stack : List String)
    (derive : ShapeMemo → String → ShapeMemo × Except SchemaError Shape) : Prop :=
  ∀ memo typeName, memo.Sound r → Underway r stack typeName →
    Derived r stack memo typeName (derive memo typeName)

/-- What some fields of a type come to while the types of `stack` are under derivation, the type
itself among them. -/
structure Gathered {α : Type} (r : Registry) (typeName : String) (stack : List String)
    (memo : ShapeMemo) (fields : List Field) (expected : α)
    (result : ShapeMemo × Except SchemaError α) : Prop where
  sound : result.1.Sound r
  tidy : memo.Tidy stack → result.1.Tidy stack
  grows : ShapeMemo.Grows r typeName memo result.1
  ok : ∀ a, result.2 = .ok a → a = expected ∧ ShapeMemo.Closes r stack memo result.1 ∧
    ∀ f ∈ fields, ∀ nested, f.kind.objectType? = some nested →
      nested ∈ result.1.names ∨ nested ∈ stack
  error : ∀ e, result.2 = .error e → e.OfField ∧
    ∃ f ∈ fields, ∃ nested, f.kind.objectType? = some nested ∧ r.Breaks memo.names nested

section Under

variable {stack : List String} {typeName : String} {t : ObjectType}
  {derive : ShapeMemo → String → ShapeMemo × Except SchemaError Shape} {memo : ShapeMemo}

/-- A field that refers to no type, or to one under derivation, is decided at once. -/
theorem gathered_at_once {α : Type} {f : Field} {a : α} (hmemo : memo.Sound r)
    (hstack : ∀ nested, f.kind.objectType? = some nested → nested ∈ stack) :
    Gathered r typeName stack memo [f] a (memo, .ok a) where
  sound := hmemo
  tidy := id
  grows := .refl r typeName memo
  ok := by
    rintro _ ⟨⟩
    exact ⟨rfl, .refl r stack memo, by simpa using fun nested hkind => .inr (hstack nested hkind)⟩
  error := nofun

open Classical in
/-- A reference is kept if it leads to a type under derivation, and else if that type has a shape. -/
theorem gathered_nested (ht : r.type? typeName = some t) (hunderway : Underway r stack typeName)
    (hderives : Derives r (typeName :: stack) derive) {f : Field} (hf : f ∈ t.fields)
    {nested : String} (hkind : f.kind.objectType? = some nested) (reference : ShapeField)
    (hmemo : memo.Sound r) :
    Gathered r typeName (typeName :: stack) memo [f]
      (if r.Barren nested then none else some reference)
      (if (typeName :: stack).contains nested then (memo, .ok (some reference))
        else match derive memo nested with
          | (memo, .ok shape) => (memo, .ok (if shape.isEmpty then none else some reference))
          | (memo, .error e) => (memo, .error (blame typeName f.name e))) := by
  have hrefers : r.RefersTo typeName nested := ⟨t, ht, f, hf, hkind⟩
  by_cases hmem : nested ∈ typeName :: stack
  · rw [if_pos (List.contains_iff_mem.mpr hmem),
      if_neg (Registry.not_barren_of_cycle (hunderway.cycle hrefers hmem))]
    refine gathered_at_once hmemo fun nested' hkind' => ?_
    rw [hkind] at hkind'
    exact Option.some.inj hkind' ▸ hmem
  · rw [if_neg fun h => hmem (List.contains_iff_mem.mp h)]
    have hderived := hderives memo nested hmemo (hunderway.push hrefers hmem)
    generalize derive memo nested = result at hderived
    obtain ⟨memo', e | shape⟩ := result
    · refine ⟨hderived.sound, hderived.tidy, hderived.grows.of_refersTo hrefers, nofun, ?_⟩
      rintro _ ⟨⟩
      obtain ⟨hbreaks, hfield, hmissing⟩ := hderived.error e rfl
      refine ⟨?_, f, List.mem_singleton_self f, nested, hkind, hbreaks⟩
      cases hnested : r.type? nested with
      | none =>
          rw [hmissing hnested]
          exact ⟨typeName, f.name, rfl⟩
      | some t' =>
          obtain ⟨owner, name, rfl⟩ := hfield (by rw [hnested]; rfl)
          exact ⟨owner, name, rfl⟩
    · obtain ⟨⟨t', ht', rfl⟩, hnames, hcloses⟩ := hderived.ok shape rfl
      refine ⟨hderived.sound, hderived.tidy, hderived.grows.of_refersTo hrefers, ?_, nofun⟩
      rintro _ ⟨⟩
      refine ⟨by simp only [Registry.isEmpty_shapeOf_iff ht'], hcloses, ?_⟩
      intro f' hf' nested' hkind'
      obtain rfl := List.mem_singleton.mp hf'
      rw [hkind] at hkind'
      exact .inl (Option.some.inj hkind' ▸ hnames)

theorem ofField_gathered (ht : r.type? typeName = some t) (hunderway : Underway r stack typeName)
    (hderives : Derives r (typeName :: stack) derive) {f : Field} (hf : f ∈ t.fields)
    (hmemo : memo.Sound r) :
    Gathered r typeName (typeName :: stack) memo [f] (r.shapeField? f)
      (ofField derive typeName (typeName :: stack) memo f) := by
  unfold ofField Registry.shapeField?
  cases hkind : f.kind with
  | leaf type | leafList type =>
      simp only [List.isEmpty_iff]
      exact gathered_at_once hmemo (by simp [hkind, FieldKind.objectType?])
  | object nested | objectList nested =>
      exact gathered_nested ht hunderway hderives hf (by rw [hkind]; rfl) _ hmemo

theorem ofFields_gathered (ht : r.type? typeName = some t) (hunderway : Underway r stack typeName)
    (hderives : Derives r (typeName :: stack) derive) {fields : List Field}
    (hfields : ∀ f ∈ fields, f ∈ t.fields) (hmemo : memo.Sound r) :
    Gathered r typeName (typeName :: stack) memo fields
      (fields.filterMap fun f => (r.shapeField? f).map (f.name, ·))
      (ofFields derive typeName (typeName :: stack) memo fields) := by
  induction fields generalizing memo with
  | nil =>
      refine ⟨hmemo, id, .refl r typeName memo, ?_, nofun⟩
      rintro _ ⟨⟩
      exact ⟨rfl, .refl r _ memo, by simp⟩
  | cons f rest ih =>
      obtain ⟨hf, hrest⟩ := List.forall_mem_cons.mp hfields
      have hfirst := ofField_gathered ht hunderway hderives hf hmemo
      rw [ofFields]
      generalize ofField derive typeName (typeName :: stack) memo f = result at hfirst
      obtain ⟨memo', e | shaped⟩ := result
      · refine ⟨hfirst.sound, hfirst.tidy, hfirst.grows, nofun, ?_⟩
        rintro _ ⟨⟩
        obtain ⟨hfield, f', hf', hbreaks⟩ := hfirst.error e rfl
        obtain rfl := List.mem_singleton.mp hf'
        exact ⟨hfield, f', List.mem_cons_self, hbreaks⟩
      · obtain ⟨rfl, hcloses, hplaced⟩ := hfirst.ok shaped rfl
        have hothers := ih hrest hfirst.sound
        dsimp only at hothers ⊢
        generalize ofFields derive typeName (typeName :: stack) memo' rest = result at hothers
        obtain ⟨memo'', e | more⟩ := result
        · refine ⟨hothers.sound, hothers.tidy ∘ hfirst.tidy, hfirst.grows.trans hothers.grows, nofun,
            ?_⟩
          rintro _ ⟨⟩
          obtain ⟨hfield, f', hf', nested, hkind, hbreaks⟩ := hothers.error e rfl
          exact ⟨hfield, f', List.mem_cons_of_mem f hf', nested, hkind,
            hbreaks.anti hfirst.grows.kept⟩
        · obtain ⟨rfl, hcloses', hplaced'⟩ := hothers.ok more rfl
          refine ⟨hothers.sound, hothers.tidy ∘ hfirst.tidy, hfirst.grows.trans hothers.grows, ?_,
            nofun⟩
          rintro _ ⟨⟩
          refine ⟨?_, hcloses.trans hcloses' hothers.grows.kept,
            List.forall_mem_cons.mpr ⟨fun nested hkind => ?_, hplaced'⟩⟩
          · cases hdescribed : r.shapeField? f <;> simp [hdescribed]
          · exact (hplaced f (List.mem_singleton_self f) nested hkind).imp_left
              (hothers.grows.kept nested)

end Under

/-- A type whose fields are all placed can be kept: in spite of a gap only if it leads into a cycle. -/
theorem circles_of_placed {stack : List String} {typeName : String} {t : ObjectType}
    {memo : ShapeMemo} (ht : r.type? typeName = some t) (hunderway : Underway r stack typeName)
    (hmemo : memo.Sound r)
    (hplaced : ∀ f ∈ t.fields, ∀ nested, f.kind.objectType? = some nested →
      nested ∈ memo.names ∨ nested ∈ typeName :: stack)
    (hbreaks : r.Breaks [] typeName) : r.Circles typeName := by
  cases hbreaks with
  | missing hnone => rw [ht] at hnone; cases hnone
  | @via _ nested _ hrefers hnested =>
      obtain ⟨t', ht', f, hf, hkind⟩ := id hrefers
      rw [ht] at ht'
      obtain rfl := Option.some.inj ht'
      rcases hplaced f hf nested hkind with hmem | hmem
      · exact (hmemo.circles nested hmem hnested).head hrefers
      · exact ⟨nested, .single hrefers, hunderway.cycle hrefers hmem⟩

theorem derived_missing {stack : List String} {memo : ShapeMemo} {typeName : String}
    (hmemo : memo.Sound r) (ht : r.type? typeName = none) :
    Derived r stack memo typeName (memo, .error (.unknownType typeName)) := by
  refine ⟨hmemo, id, .refl r typeName memo, nofun, ?_⟩
  rintro _ ⟨⟩
  refine ⟨.missing ht, fun hthere => ?_, fun _ => rfl⟩
  rw [ht] at hthere
  cases hthere

/-- Once its fields are there, the type is kept. -/
theorem derived_whole {stack : List String} {memo memo' : ShapeMemo} {typeName : String}
    {t : ObjectType} (ht : r.type? typeName = some t) (hunderway : Underway r stack typeName)
    (hnew : typeName ∉ memo.names) (hsound : memo'.Sound r)
    (htidy : memo.Tidy (typeName :: stack) → memo'.Tidy (typeName :: stack))
    (hgrows : ShapeMemo.Grows r typeName memo memo')
    (hcloses : ShapeMemo.Closes r (typeName :: stack) memo memo')
    (hplaced : ∀ f ∈ t.fields, ∀ nested, f.kind.objectType? = some nested →
      nested ∈ memo'.names ∨ nested ∈ typeName :: stack) :
    Derived r stack memo typeName (r.shapeOf t :: memo', .ok (r.shapeOf t)) := by
  have htype : (r.shapeOf t).typeName = typeName := Registry.name_of_type? ht
  have hnames : ShapeMemo.names (r.shapeOf t :: memo') = typeName :: memo'.names := by
    rw [ShapeMemo.names, List.map_cons, htype]
    rfl
  -- What was on the stack below the type still is, and the type itself is derived now.
  have hbelow : ∀ nested, nested ∈ memo'.names ∨ nested ∈ typeName :: stack →
      nested ∈ typeName :: memo'.names ∨ nested ∈ stack := by
    intro nested h
    simp only [List.mem_cons] at h ⊢
    tauto
  constructor
  case sound =>
    refine ⟨List.forall_mem_cons.mpr ⟨⟨t, htype ▸ ht, rfl⟩, hsound.faithful⟩, ?_⟩
    rw [hnames]
    exact List.forall_mem_cons.mpr
      ⟨circles_of_placed ht hunderway hsound hplaced, hsound.circles⟩
  case tidy =>
    intro htidy'
    obtain ⟨hdistinct, hothers⟩ := htidy (htidy'.push hnew)
    constructor
    · rw [hnames]
      exact List.nodup_cons.mpr ⟨hothers typeName List.mem_cons_self, hdistinct⟩
    · intro name hstack hmem
      rw [hnames] at hmem
      rcases List.mem_cons.mp hmem with rfl | hmem
      · exact (List.nodup_cons.mp hunderway.distinct).1 hstack
      · exact hothers name (List.mem_cons_of_mem _ hstack) hmem
  case grows =>
    constructor
    · intro name hname
      rw [hnames]
      exact List.mem_cons_of_mem _ (hgrows.kept name hname)
    · intro name hname
      rw [hnames] at hname
      rcases List.mem_cons.mp hname with rfl | hname
      · exact .inr .refl
      · exact hgrows.under name hname
  case ok =>
    rintro _ ⟨⟩
    refine ⟨⟨t, ht, rfl⟩, ?_, ?_⟩
    · rw [hnames]
      exact List.mem_cons_self
    · intro name hname hfresh nested hrefers
      rw [hnames] at hname ⊢
      rcases List.mem_cons.mp hname with rfl | hname
      · obtain ⟨t', ht', f, hf, hkind⟩ := hrefers
        rw [ht] at ht'
        obtain rfl := Option.some.inj ht'
        exact hbelow nested (hplaced f hf nested hkind)
      · exact hbelow nested (hcloses name hname hfresh nested hrefers)
  case error => nofun

/-- **All that a derivation does**, whether or not it fails, as long as the fuel is enough for the types
that are not under derivation. -/
theorem deriveFrom_derives (fuel : Nat) {stack : List String}
    (hfuel : r.types.length < fuel + stack.length) : Derives r stack (deriveFrom r fuel stack) := by
  induction fuel generalizing stack with
  | zero =>
      intro memo typeName hmemo hunderway
      refine derived_missing hmemo (Option.not_isSome_iff_eq_none.mp fun hthere => ?_)
      have := hunderway.length_lt hthere
      omega
  | succ fuel ih =>
      intro memo typeName hmemo hunderway
      rw [deriveFrom]
      cases hfound : memo.shape? typeName with
      | some shape =>
          obtain ⟨hmem, htype⟩ := hmemo.faithful.of_shape? hfound
          refine ⟨hmemo, id, .refl r typeName memo, ?_, nofun⟩
          rintro _ ⟨⟩
          exact ⟨htype, hmem, .refl r stack memo⟩
      | none =>
          have hnew : typeName ∉ memo.names := ShapeMemo.shape?_eq_none_iff.mp hfound
          cases ht : r.type? typeName with
          | none => exact derived_missing hmemo ht
          | some t =>
              have hmore : r.types.length < fuel + (typeName :: stack).length := by
                rw [List.length_cons]
                omega
              have hfields := ofFields_gathered ht hunderway (ih hmore) (fun f hf => hf) hmemo
              dsimp only
              generalize ofFields (deriveFrom r fuel (typeName :: stack)) typeName
                (typeName :: stack) memo t.fields = result at hfields
              obtain ⟨memo', e | fields⟩ := result
              · refine ⟨hfields.sound, fun htidy => ?_, hfields.grows, nofun, ?_⟩
                · obtain ⟨hdistinct, hunderway'⟩ := hfields.tidy (htidy.push hnew)
                  exact ⟨hdistinct, fun name hname => hunderway' name (List.mem_cons_of_mem _ hname)⟩
                · rintro _ ⟨⟩
                  obtain ⟨hfield, f, hf, nested, hkind, hbreaks⟩ := hfields.error e rfl
                  refine ⟨.via hnew ⟨t, ht, f, hf, hkind⟩ hbreaks, fun _ => hfield, fun hnone => ?_⟩
                  rw [ht] at hnone
                  cases hnone
              · obtain ⟨rfl, hcloses, hplaced⟩ := hfields.ok fields rfl
                have hshape : Shape.mk typeName (t.fields.filterMap fun f =>
                    (r.shapeField? f).map (f.name, ·)) = r.shapeOf t := by
                  rw [Registry.shapeOf, Registry.name_of_type? ht]
                dsimp only
                rw [hshape]
                exact derived_whole ht hunderway hnew hfields.sound hfields.tidy hfields.grows hcloses
                  hplaced

/-- **A derivation** that starts with no type under derivation. -/
theorem derived_derive {memo : ShapeMemo} (hmemo : memo.Sound r) (typeName : String) :
    Derived r [] memo typeName (derive r memo typeName) :=
  deriveFrom_derives (r.types.length + 1) (by simp) memo typeName hmemo ⟨by simp, by simp⟩

end Shape

/-! ## Registries without gaps -/

theorem Registry.WellFormed.not_breaks {r : Registry} (hr : r.WellFormed) {kept : List String}
    {typeName : String} (hthere : (r.type? typeName).isSome) : ¬r.Breaks kept typeName := by
  intro h
  induction h with
  | missing ht => rw [ht] at hthere; cases hthere
  | via _ hrefers _ ih =>
      obtain ⟨t, ht, f, hf, hkind⟩ := hrefers
      exact ih (hr.closed t (Registry.mem_of_type? ht) f hf _ hkind)

theorem ShapeMemo.Faithful.sound {r : Registry} (hr : r.WellFormed) {memo : ShapeMemo}
    (h : memo.Faithful r) : memo.Sound r :=
  ⟨h, fun _ hname hbreaks => absurd hbreaks (hr.not_breaks (h.isSome hname))⟩

namespace Shape

variable {r : Registry}

/-- **A type has one shape**, whatever was derived before. -/
theorem derive_eq (hr : r.WellFormed) {memo : ShapeMemo} (hmemo : memo.Faithful r)
    {typeName : String} {t : ObjectType} (ht : r.type? typeName = some t) :
    (derive r memo typeName).1.Faithful r ∧ (derive r memo typeName).2 = .ok (r.shapeOf t) := by
  have hderived := derived_derive (hmemo.sound hr) typeName
  refine ⟨hderived.sound.faithful, ?_⟩
  cases hresult : (derive r memo typeName).2 with
  | error e =>
      have hbreaks := (hderived.error e hresult).1
      exact absurd hbreaks (hr.not_breaks (by rw [ht]; rfl))
  | ok shape =>
      obtain ⟨⟨t', ht', rfl⟩, -⟩ := hderived.ok shape hresult
      rw [ht] at ht'
      rw [Option.some.inj ht']

/-- A type that is not there has no shape. -/
theorem derive_eq_error {memo : ShapeMemo} (hmemo : memo.Faithful r) {typeName : String}
    (ht : r.type? typeName = none) :
    derive r memo typeName = (memo, .error (.unknownType typeName)) := by
  have hfound : memo.shape? typeName = none := by
    cases hfound : memo.shape? typeName with
    | none => rfl
    | some shape =>
        obtain ⟨-, t, ht', -⟩ := hmemo.of_shape? hfound
        rw [ht] at ht'
        cases ht'
  rw [derive, deriveFrom]
  simp only [hfound, ht]

end Shape

namespace ShapeMemo

/-- What has been derived after some types were asked for. -/
inductive Reachable (r : Registry) : ShapeMemo → Prop
  | empty : Reachable r []
  | derive {memo : ShapeMemo} (typeName : String) :
      Reachable r memo → Reachable r (Shape.derive r memo typeName).1

theorem Reachable.faithful {r : Registry} (hr : r.WellFormed) {memo : ShapeMemo}
    (h : Reachable r memo) : memo.Faithful r := by
  induction h with
  | empty => simp [Faithful]
  | @derive memo typeName _ ih =>
      cases ht : r.type? typeName with
      | none =>
          rw [Shape.derive_eq_error ih ht]
          exact ih
      | some t => exact (Shape.derive_eq hr ih ht).1

end ShapeMemo

end ContentQuery
