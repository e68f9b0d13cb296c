import ContentQuery.Proofs.Filter.Conforming
import Mathlib.Data.Set.Card

/-!
# What is derived, and how often

A type is fruitful if its fields lead to a type with operators or into a cycle. In a registry that was
built, the shapes of all other types are empty (**`Registry.not_barren_iff`**): chains of fields that
never turn in a circle come to an end, since there are only so many types.

What was derived for a type and all that is under it is a set of types that is closed under references
once no type is under derivation (`ShapeMemo.Settled`). So the types derived are those that the types
asked for lead to, each of them once (**`Shape.derive_after`**).
-/

namespace ContentQuery

/-! ## Fruitful types -/

namespace Registry

variable {r : Registry} {typeName : String}

/-- Does some field of the type take operators? -/
def HasOperators (r : Registry) (typeName : String) : Prop :=
  ∃ t, r.type? typeName = some t ∧ ∃ f ∈ t.fields, f.kind.operators ≠ []

/-- Fields lead from the type to one with operators, or to one that leads back to itself. -/
def Fruitful (r : Registry) (typeName : String) : Prop :=
  ∃ reached, r.LeadsTo typeName reached ∧
    (r.HasOperators reached ∨ Relation.TransGen r.RefersTo reached reached)

theorem Barren.not_hasOperators (h : r.Barren typeName) : ¬ r.HasOperators typeName := by
  obtain ⟨ht, hoperators, -⟩ := h
  rintro ⟨t', ht', f, hf, hsome⟩
  rw [ht] at ht'
  obtain rfl := Option.some.inj ht'
  exact hsome (hoperators f hf)

theorem Fruitful.not_barren (h : r.Fruitful typeName) : ¬ r.Barren typeName := by
  intro hbarren
  obtain ⟨reached, hleads, hfruit⟩ := h
  have hreached : r.Barren reached := by
    rcases Relation.reflTransGen_iff_eq_or_transGen.mp hleads with rfl | htrans
    · exact hbarren
    · exact hbarren.transGen htrans
  rcases hfruit with hoperators | hcycle
  · exact hreached.not_hasOperators hoperators
  · exact not_barren_of_cycle hcycle hreached

/-- Where fields lead from a type that is there, types are there. -/
theorem isSome_of_leadsTo (hr : r.WellFormed) {reached : String} (hleads : r.LeadsTo typeName reached)
    (ht : (r.type? typeName).isSome) : (r.type? reached).isSome := by
  induction hleads with
  | refl => exact ht
  | tail _ hlast _ =>
      obtain ⟨t, ht, f, hf, hkind⟩ := hlast
      exact hr.closed t (mem_of_type? ht) f hf _ hkind

/-- **Without a cycle, chains of fields end.** So the types under a type may be told one after the
other, each after those that it refers to. -/
theorem wellFounded_of_not_fruitful (hr : r.WellFormed) (ht : (r.type? typeName).isSome)
    (h : ¬ r.Fruitful typeName) :
    WellFounded fun a b : {reached // r.LeadsTo typeName reached} => r.RefersTo b.1 a.1 := by
  have hfinite : Finite {reached // r.LeadsTo typeName reached} := by
    apply ((r.types.map (·.name)).finite_toSet.subset ?_).to_subtype
    intro reached hleads
    obtain ⟨t, ht⟩ := Option.isSome_iff_exists.mp (isSome_of_leadsTo hr hleads ht)
    exact List.mem_map.mpr ⟨t, mem_of_type? ht, name_of_type? ht⟩
  let below (a b : {reached // r.LeadsTo typeName reached}) : Prop :=
    Relation.TransGen r.RefersTo b.1 a.1
  have htrans : IsTrans _ below := ⟨fun _ _ _ hab hbc => hbc.trans hab⟩
  have hirrefl : Std.Irrefl below := ⟨fun a hcycle => h ⟨a.1, a.2, .inr hcycle⟩⟩
  have hbelow : WellFounded below := Finite.wellFounded_of_trans_of_irrefl below
  exact Subrelation.wf (fun hrefers => .single hrefers) hbelow

theorem barren_of_not_fruitful (hr : r.WellFormed) (ht : (r.type? typeName).isSome)
    (h : ¬ r.Fruitful typeName) : r.Barren typeName := by
  have hall : ∀ reached : {reached // r.LeadsTo typeName reached}, r.Barren reached.1 := by
    intro reached
    induction reached using (wellFounded_of_not_fruitful hr ht h).induction with
    | _ reached ih =>
        obtain ⟨name, hleads⟩ := reached
        obtain ⟨t, htype⟩ := Option.isSome_iff_exists.mp (isSome_of_leadsTo hr hleads ht)
        refine ⟨htype, ?_, ?_⟩
        · intro f hf
          by_contra hoperators
          exact h ⟨name, hleads, .inl ⟨t, htype, f, hf, hoperators⟩⟩
        · intro f hf nested hkind
          have hrefers : r.RefersTo name nested := ⟨t, htype, f, hf, hkind⟩
          exact ih ⟨nested, hleads.tail hrefers⟩ hrefers
  exact hall ⟨typeName, .refl⟩

/-- **A type that is there is barren or fruitful.** -/
theorem not_barren_iff (hr : r.WellFormed) (ht : (r.type? typeName).isSome) :
    ¬ r.Barren typeName ↔ r.Fruitful typeName := by
  constructor
  · intro h
    by_contra hfruitful
    exact h (barren_of_not_fruitful hr ht hfruitful)
  · exact Fruitful.not_barren

/-- The shape of a type tells of a field that takes operators or leads to a fruitful type. -/
def Tells (r : Registry) (f : Field) : Prop :=
  f.kind.operators ≠ [] ∨ ∃ nested, f.kind.objectType? = some nested ∧ r.Fruitful nested

end Registry

/-- What a shape says about a field that it tells of. -/
def Field.described (f : Field) : ShapeField :=
  match f.kind with
  | .leaf _ | .leafList _ => .operators f.kind.operators
  | .object nested => .object nested
  | .objectList nested => .objectList nested

namespace Registry

variable {r : Registry}

open Classical in
theorem shapeField?_eq (hr : r.WellFormed) {t : ObjectType} (ht : t ∈ r.types) {f : Field}
    (hf : f ∈ t.fields) : r.shapeField? f = if r.Tells f then some f.described else none := by
  have hnested : ∀ nested, f.kind.objectType? = some nested →
      (¬ r.Barren nested ↔ r.Fruitful nested) := by
    intro nested hkind
    exact not_barren_iff hr (hr.closed t ht f hf nested hkind)
  have htells : r.Tells f ↔ r.shapeField? f ≠ none := by
    rw [Ne, shapeField?_eq_none_iff, Tells, not_and_or, not_forall]
    refine or_congr_right (exists_congr fun nested => ?_)
    rw [Classical.not_imp]
    exact and_congr_right fun hkind => (hnested nested hkind).symm
  by_cases h : r.Tells f
  · rw [if_pos h]
    have hsome := htells.mp h
    unfold shapeField? at hsome ⊢
    unfold Field.described
    cases hkind : f.kind with
    | leaf type | leafList type | object nested | objectList nested =>
        simp only [hkind] at hsome ⊢
        split at hsome
        · exact absurd rfl hsome
        · next hkept => rw [if_neg hkept]
  · rw [if_neg h]
    by_contra hsome
    exact h (htells.mpr hsome)

end Registry

/-! ## What has been derived -/

namespace ShapeMemo

/-- While the types of `stack` are under derivation, every other type was derived once or not at all,
and so was, if a type was derived, every type that it refers to. -/
structure Settled (r : Registry) (stack : List String) (memo : ShapeMemo) : Prop where
  distinct : memo.names.Nodup
  underway : ∀ name ∈ stack, name ∉ memo.names
  closed : ∀ name ∈ memo.names, ∀ nested, r.RefersTo name nested →
    nested ∈ memo.names ∨ nested ∈ stack

end ShapeMemo

/-- **A derivation settles what is under its type.** -/
theorem Shape.derive_settles {r : Registry} (hr : r.WellFormed) {memo : ShapeMemo}
    (hmemo : memo.Faithful r) (hsettled : memo.Settled r []) {typeName : String} {t : ObjectType}
    (ht : r.type? typeName = some t) :
    (derive r memo typeName).1.Settled r [] ∧ typeName ∈ (derive r memo typeName).1.names ∧
      ShapeMemo.Grows r typeName memo (derive r memo typeName).1 := by
  have hderived := derived_derive (hmemo.sound hr) typeName
  obtain ⟨-, hmem, hcloses⟩ := hderived.ok _ (derive_eq hr hmemo ht).2
  obtain ⟨hdistinct, hunderway⟩ := hderived.tidy ⟨hsettled.distinct, hsettled.underway⟩
  refine ⟨⟨hdistinct, hunderway, fun name hname nested hrefers => ?_⟩, hmem, hderived.grows⟩
  by_cases hold : name ∈ memo.names
  · exact (hsettled.closed name hold nested hrefers).imp_left (hderived.grows.kept nested)
  · exact hcloses name hname hold nested hrefers

/-! ## Types asked for -/

namespace ShapeMemo

/-- What has been derived after some types were asked for, one after the other. -/
def after (r : Registry) (asked : List String) : ShapeMemo :=
  asked.foldl (fun memo typeName => (Shape.derive r memo typeName).1) []

variable {r : Registry}

theorem after_append (asked : List String) (typeName : String) :
    after r (asked ++ [typeName]) = (Shape.derive r (after r asked) typeName).1 := by
  rw [after, List.foldl_append]
  rfl

theorem reachable_after (asked : List String) : Reachable r (after r asked) := by
  induction asked using List.reverseRecOn with
  | nil => exact .empty
  | append_singleton asked typeName ih =>
      rw [after_append]
      exact .derive typeName ih

theorem Settled.mem_of_leadsTo {memo : ShapeMemo} (h : memo.Settled r []) {root name : String}
    (hroot : root ∈ memo.names) (hleads : r.LeadsTo root name) : name ∈ memo.names := by
  induction hleads with
  | refl => exact hroot
  | tail _ hlast ih => exact (h.closed _ ih _ hlast).resolve_right List.not_mem_nil

/-- **What is derived is what the types asked for lead to**, each type once. -/
theorem settled_after (hr : r.WellFormed) (asked : List String) :
    (after r asked).Settled r [] ∧ ∀ name, name ∈ (after r asked).names ↔
      (r.type? name).isSome ∧ ∃ root ∈ asked, r.LeadsTo root name := by
  induction asked using List.reverseRecOn with
  | nil =>
      refine ⟨⟨List.nodup_nil, by simp, ?_⟩, by simp [after, names]⟩
      intro name hname
      cases hname
  | append_singleton asked typeName ih =>
      obtain ⟨hsettled, hmem⟩ := ih
      have hfaithful := (reachable_after asked).faithful hr
      rw [after_append]
      cases ht : r.type? typeName with
      | none =>
          rw [Shape.derive_eq_error hfaithful ht]
          refine ⟨hsettled, fun name => ?_⟩
          rw [hmem name]
          refine and_congr_right fun hname => ?_
          -- A type that is not there leads to itself alone, which is not there.
          have hnowhere : ¬ r.LeadsTo typeName name := by
            intro hleads
            rcases Relation.ReflTransGen.cases_head hleads with rfl | ⟨next, ⟨t, ht', -⟩, -⟩
            · rw [ht] at hname
              cases hname
            · rw [ht] at ht'
              cases ht'
          simp [or_and_right, exists_or, hnowhere]
      | some t =>
          obtain ⟨hsettled', hderived, hgrows⟩ := Shape.derive_settles hr hfaithful hsettled ht
          refine ⟨hsettled', fun name => ⟨?_, ?_⟩⟩
          · intro hname
            rcases hgrows.under name hname with hold | hleads
            · obtain ⟨hthere, root, hroot, hleads⟩ := (hmem name).mp hold
              exact ⟨hthere, root, List.mem_append_left _ hroot, hleads⟩
            · have hthere : (r.type? typeName).isSome := by rw [ht]; rfl
              exact ⟨Registry.isSome_of_leadsTo hr hleads hthere, typeName, by simp, hleads⟩
          · rintro ⟨hthere, root, hroot, hleads⟩
            rcases List.mem_append.mp hroot with hroot | hlast
            · exact hgrows.kept name ((hmem name).mpr ⟨hthere, root, hroot, hleads⟩)
            · obtain rfl := List.mem_singleton.mp hlast
              exact hsettled'.mem_of_leadsTo hderived hleads

end ShapeMemo

namespace Shape

open Classical in
/-- **One shape a type, each type once.** Whatever types were asked for before, the shape of a type is
derived: it lists, in the order of their declaration, the fields that have operators and those that
lead to a type that is fruitful, and it is not empty if the type itself is. And as many shapes have
been derived as there are types that the types asked for lead to. -/
theorem derive_after {s : Schema} {r : Registry} (hbuild : s.build = .ok r) (asked : List String) :
    (∀ typeName t, r.type? typeName = some t → ∃ shape,
      (derive r (ShapeMemo.after r asked) typeName).2 = .ok shape ∧ shape.typeName = typeName ∧
      shape.fields = (t.fields.filter fun f => r.Tells f).map (fun f => (f.name, f.described)) ∧
      (¬ shape.isEmpty ↔ r.Fruitful typeName)) ∧
    (ShapeMemo.after r asked).derivations =
      {name | (r.type? name).isSome ∧ ∃ root ∈ asked, r.LeadsTo root name}.ncard := by
  have hr := Schema.wellFormed_of_build hbuild
  constructor
  · intro typeName t ht
    have hmemo := (ShapeMemo.reachable_after (r := r) asked).faithful hr
    refine ⟨r.shapeOf t, (derive_eq hr hmemo ht).2, Registry.name_of_type? ht, ?_, ?_⟩
    · rw [Registry.shapeOf, ← List.filterMap_eq_map, ← List.filterMap_eq_filter,
        List.filterMap_filterMap]
      apply List.filterMap_congr
      intro f hf
      rw [Registry.shapeField?_eq hr (Registry.mem_of_type? ht) hf]
      by_cases htells : r.Tells f <;> simp [htells, Option.guard]
    · rw [Registry.isEmpty_shapeOf_iff ht]
      exact Registry.not_barren_iff hr (by rw [ht]; rfl)
  · obtain ⟨hsettled, hmem⟩ := ShapeMemo.settled_after hr asked
    have hset : {name | (r.type? name).isSome ∧ ∃ root ∈ asked, r.LeadsTo root name} =
        ((ShapeMemo.after r asked).names.toFinset : Set String) := by
      ext name
      rw [List.coe_toFinset]
      exact (hmem name).symm
    rw [hset, Set.ncard_coe_finset, List.toFinset_card_of_nodup hsettled.distinct]
    exact (List.length_map _).symm

/-! ### A wheel with its axle -/

/-- Wheels have an axle and axles have wheels, and a label of which nothing is known. -/
def wheelSchema : Schema where
  types := [
    ⟨"Wheel", false, [.plain "axle" "Axle", .plain "notes" "JSON"]⟩,
    ⟨"Axle", false, [.plain "wheels" "[Wheel!]", .plain "label" "Label"]⟩,
    ⟨"Label", false, [.plain "text" "JSON"]⟩]
  enums := []
  attachments := []

def wheelRegistry : Registry := wheelSchema.build.toOption.getD ⟨[], []⟩

theorem build_wheelSchema : wheelSchema.build = .ok wheelRegistry :=
  Schema.build_of_isSome (by decide +kernel)

/-- When the wheel has been derived, the axle has its wheels and no label, and it leads on to fields with
operators or round in a cycle. -/
theorem derive_after_wheel :
    wheelSchema.build = .ok wheelRegistry ∧
      (∃ shape, (derive wheelRegistry (ShapeMemo.after wheelRegistry ["Wheel"]) "Axle").2 = .ok shape ∧
        shape.typeName = "Axle" ∧ shape.fields = [("wheels", .objectList "Wheel")] ∧
        wheelRegistry.Fruitful "Axle") ∧
      (ShapeMemo.after wheelRegistry ["Wheel"]).derivations =
        {name | (wheelRegistry.type? name).isSome ∧
          ∃ root ∈ ["Wheel"], wheelRegistry.LeadsTo root name}.ncard := by
  obtain ⟨hshapes, hderivations⟩ := derive_after build_wheelSchema ["Wheel"]
  obtain ⟨t, ht⟩ : ∃ t, wheelRegistry.type? "Axle" = some t :=
    Option.isSome_iff_exists.mp (by decide +kernel)
  obtain ⟨shape, hderive, htypeName, -, hfruitful⟩ := hshapes "Axle" t ht
  have hfields : (derive wheelRegistry (ShapeMemo.after wheelRegistry ["Wheel"]) "Axle").2.toOption.map
      (·.fields) = some [("wheels", .objectList "Wheel")] := by
    decide +kernel
  rw [hderive] at hfields
  have hfields : shape.fields = [("wheels", .objectList "Wheel")] := Option.some.inj hfields
  have hnonempty : ¬shape.isEmpty := by simp [isEmpty, hfields]
  exact ⟨build_wheelSchema, ⟨shape, hderive, htypeName, hfields, hfruitful.mp hnonempty⟩, hderivations⟩

-- The wheel leads to itself, so that it keeps its axle; the label is derived and left out.
example : (ShapeMemo.after wheelRegistry ["Wheel", "Spoke", "Wheel"]).derivations = 3 ∧
    (derive wheelRegistry [] "Axle").2.toOption.map (·.fields) =
      some [("wheels", .objectList "Wheel")] := by
  decide +kernel

end Shape

end ContentQuery
