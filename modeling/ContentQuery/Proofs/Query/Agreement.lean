import ContentQuery.Filter.Match
import ContentQuery.Json.Order
import ContentQuery.Proofs.Filter.Steps
import ContentQuery.Query.Projection
import ContentQuery.Query.Required
import ContentQuery.Query.Sorting
import Mathlib.Data.List.Forall2

/-!
# Bodies that agree on some fields

Two bodies agree on a set of required fields if nothing that the set names tells them apart: what is
required whole is the same in both, and what is required in part agrees member by member, through lists
as through objects. They may differ in everything else.

What a walk along a path meets in two such bodies agrees as well, as long as the path is part of the
set (`RequiredFields.Within`). An entry of the set may be finer than the path: where only the end of
the path is an object, two bodies may hold different ones there, which are the same once they are
hollowed out (`Json.hollow`).
-/

namespace ContentQuery

open Json (Object)

/-! ## Agreement -/

namespace Json

mutual

/-- Objects are related, and so are lists item by item; any other value is the same. -/
def Agrees (P : Object → Object → Prop) : Json → Json → Prop
  | .object a, .object b => P a b
  | .array vs, .array ws => AllAgree P vs ws
  | v, w => v = w

def AllAgree (P : Object → Object → Prop) : List Json → List Json → Prop
  | [], [] => True
  | v :: vs, w :: ws => Agrees P v w ∧ AllAgree P vs ws
  | _, _ => False

end

end Json

namespace RequiredFields

mutual

/-- Both bodies lack the field, or they have values that agree on what is required inside it. -/
def FieldAgrees : RequiredField → Object → Object → Prop
  | ⟨name, inner⟩, a, b =>
    match a.get? name, b.get? name with
    | none, none => True
    | some v, some w => if inner.isEmpty then v = w else v.Agrees (Agree inner) w
    | _, _ => False

/-- The bodies agree on all required fields. -/
def Agree : RequiredFields → Object → Object → Prop
  | [], _, _ => True
  | f :: rest, a, b => FieldAgrees f a b ∧ Agree rest a b

end

/-- The values agree on what is required inside them. Where nothing is, they are required whole. -/
def ValuesAgree (inner : RequiredFields) (v w : Json) : Prop :=
  if inner.isEmpty then v = w else v.Agrees (Agree inner) w

theorem valuesAgree_nil {v w : Json} : ValuesAgree [] v w ↔ v = w := Iff.rfl

theorem valuesAgree_of_ne_nil {inner : RequiredFields} (h : inner ≠ []) {v w : Json} :
    ValuesAgree inner v w ↔ v.Agrees (Agree inner) w := by
  cases inner with
  | nil => exact absurd rfl h
  | cons f rest => rfl

/-- A required field is in neither body, or in both with values that agree. -/
theorem Agree.get? {set : RequiredFields} {a b : Object} (h : Agree set a b) {name : String}
    {inner : RequiredFields} (hmem : ⟨name, inner⟩ ∈ set) :
    Option.Rel (ValuesAgree inner) (a.get? name) (b.get? name) := by
  induction set with
  | nil => cases hmem
  | cons f rest ih =>
      obtain ⟨hf, hrest⟩ := h
      rcases List.mem_cons.mp hmem with rfl | hmem
      · rw [FieldAgrees] at hf
        cases ha : Object.get? name a <;> cases hb : Object.get? name b
        · exact .none
        · simp [ha, hb] at hf
        · simp [ha, hb] at hf
        · simp only [ha, hb] at hf
          exact .some hf
      · exact ih hrest hmem

end RequiredFields

/-- Slots of one sort, whose values agree on what is required inside them. -/
inductive Slot.Agree (inner : RequiredFields) : Slot → Slot → Prop
  | value {v w : Json} (h : inner.ValuesAgree v w) : Slot.Agree inner (.value v) (.value w)
  | absent : Slot.Agree inner .absent .absent
  | unreachable : Slot.Agree inner .unreachable .unreachable

/-- What is required whole is the same. -/
theorem Slot.Agree.eq {s s' : Slot} (h : Slot.Agree [] s s') : s = s' := by
  cases h with
  | value h => exact congrArg Slot.value h
  | absent => rfl
  | unreachable => rfl

theorem RequiredFields.Agree.member {set : RequiredFields} {a b : Object} (h : set.Agree a b)
    {name : String} {inner : RequiredFields} (hmem : ⟨name, inner⟩ ∈ set) :
    Slot.Agree inner (.member name a) (.member name b) := by
  have hget := h.get? hmem
  unfold Slot.member
  generalize Object.get? name a = x at hget ⊢
  generalize Object.get? name b = y at hget ⊢
  cases hget with
  | some hvalues => exact .value hvalues
  | none => exact .absent

/-! ## Objects inside values that agree -/

namespace Json

variable {P : Object → Object → Prop} {v w : Json}

/-- Values that agree are two objects, two lists, or one value that is neither. -/
theorem Agrees.cases (h : v.Agrees P w) :
    (∃ a b, v = .object a ∧ w = .object b ∧ P a b) ∨
      (∃ vs ws, v = .array vs ∧ w = .array ws ∧ AllAgree P vs ws) ∨
        (v = w ∧ v.object? = none ∧ v.array? = none) := by
  cases v with
  | object a =>
      cases w with
      | object b => exact .inl ⟨a, b, rfl, rfl, h⟩
      | _ => cases h
  | array vs =>
      cases w with
      | array ws => exact .inr (.inl ⟨vs, ws, rfl, rfl, h⟩)
      | _ => cases h
  | null | bool _ | number _ | string _ =>
      refine .inr (.inr ⟨?_, rfl, rfl⟩)
      cases w <;> exact h

theorem allAgree_iff {vs ws : List Json} :
    AllAgree P vs ws ↔ List.Forall₂ (Agrees P) vs ws := by
  induction vs generalizing ws with
  | nil => cases ws <;> simp [AllAgree]
  | cons v vs ih => cases ws <;> simp [AllAgree, ih]

theorem spread_of_leaf (hobject : v.object? = none) (harray : v.array? = none) :
    v.spread = [none] := by
  cases v with
  | object _ => cases hobject
  | array _ => cases harray
  | _ => rfl

mutual

/-- Values that agree stand for as many objects on the way along a path, and for related ones. -/
theorem Agrees.spread {v w : Json} (h : v.Agrees P w) :
    List.Forall₂ (Option.Rel P) v.spread w.spread := by
  rcases h.cases with ⟨a, b, rfl, rfl, hab⟩ | ⟨vs, ws, rfl, rfl, hitems⟩ | ⟨rfl, hobject, harray⟩
  · exact .cons (.some hab) .nil
  · cases vs with
    | nil =>
        cases ws with
        | nil => exact .cons .none .nil
        | cons w ws => cases hitems
    | cons v vs =>
        cases ws with
        | nil => cases hitems
        | cons w ws => exact List.rel_append hitems.1.spread (AllAgree.spreadItems hitems.2)
  · rw [spread_of_leaf hobject harray]
    exact .cons .none .nil
termination_by sizeOf v

theorem AllAgree.spreadItems {vs ws : List Json} (h : AllAgree P vs ws) :
    List.Forall₂ (Option.Rel P) (spreadItems vs) (spreadItems ws) := by
  cases vs with
  | nil =>
      cases ws with
      | nil => exact .nil
      | cons w ws => cases h
  | cons v vs =>
      cases ws with
      | nil => cases h
      | cons w ws => exact List.rel_append h.1.spread (AllAgree.spreadItems h.2)
termination_by sizeOf vs

end

theorem Agrees.object? (h : v.Agrees P w) : Option.Rel P v.object? w.object? := by
  rcases h.cases with ⟨a, b, rfl, rfl, hab⟩ | ⟨vs, ws, rfl, rfl, -⟩ | ⟨rfl, hobject, -⟩
  · exact .some hab
  · exact .none
  · rw [hobject]
    exact .none

/-- Steps to a member that is required in part of values that agree. -/
theorem Agrees.step {inner : RequiredFields} (h : v.Agrees inner.Agree w) {name : String}
    {more : RequiredFields} (hmem : ⟨name, more⟩ ∈ inner) :
    List.Forall₂ (Slot.Agree more) (v.step name) (w.step name) := by
  rw [Json.step_eq_spread, Json.step_eq_spread]
  apply List.rel_flatMap h.spread
  intro x y hxy
  cases hxy with
  | none => exact .cons .unreachable .nil
  | some hagree =>
      simp only [Path.walk_single]
      exact .cons (hagree.member hmem) .nil

end Json

namespace Slot

variable {inner : RequiredFields} {s s' : Slot}

theorem Agree.step (h : Slot.Agree inner s s') {name : String} {more : RequiredFields}
    (hmem : ⟨name, more⟩ ∈ inner) :
    List.Forall₂ (Slot.Agree more) (s.step name) (s'.step name) := by
  cases h with
  | value h =>
      rw [RequiredFields.valuesAgree_of_ne_nil (List.ne_nil_of_mem hmem)] at h
      exact h.step hmem
  | absent => exact .cons .unreachable .nil
  | unreachable => exact .cons .unreachable .nil

theorem elements_of_leaf {v : Json} (hobject : v.object? = none) (harray : v.array? = none) :
    (Slot.value v).elements = [] := by
  cases v with
  | object _ => cases hobject
  | array _ => cases harray
  | _ => rfl

/-- The objects that an element condition meets agree. -/
theorem Agree.elements (h : Slot.Agree inner s s') :
    List.Forall₂ inner.Agree s.elements s'.elements := by
  cases h with
  | @value v w h =>
      by_cases hinner : inner = []
      · -- Nothing is required inside an element, so nothing can tell two of them apart.
        subst hinner
        obtain rfl := RequiredFields.valuesAgree_nil.mp h
        exact List.forall₂_same.mpr fun _ _ => trivial
      · rw [RequiredFields.valuesAgree_of_ne_nil hinner] at h
        rcases h.cases with ⟨a, b, rfl, rfl, hab⟩ | ⟨vs, ws, rfl, rfl, hitems⟩ |
          ⟨rfl, hobject, harray⟩
        · exact .cons hab .nil
        · exact List.rel_filterMap (fun _ _ hitem => hitem.object?) (Json.allAgree_iff.mp hitems)
        · rw [elements_of_leaf hobject harray]
          exact .nil
  | absent => exact .nil
  | unreachable => exact .nil

end Slot

/-! ## Values without their objects -/

namespace Json

mutual

/-- The value with no members left in any object. -/
def hollow : Json → Json
  | .object _ => .object []
  | .array items => .array (hollowAll items)
  | v => v

def hollowAll : List Json → List Json
  | [] => []
  | v :: rest => v.hollow :: hollowAll rest

end

mutual

/-- Values that agree are the same once they are hollowed out. -/
theorem Agrees.hollow {P : Object → Object → Prop} {v w : Json} (h : v.Agrees P w) :
    v.hollow = w.hollow := by
  rcases h.cases with ⟨a, b, rfl, rfl, -⟩ | ⟨vs, ws, rfl, rfl, hitems⟩ | ⟨rfl, -, -⟩
  · rfl
  · rw [Json.hollow, Json.hollow, AllAgree.hollowAll hitems]
  · rfl
termination_by sizeOf v

theorem AllAgree.hollowAll {P : Object → Object → Prop} {vs ws : List Json}
    (h : AllAgree P vs ws) : hollowAll vs = hollowAll ws := by
  cases vs with
  | nil =>
      cases ws with
      | nil => rfl
      | cons w ws => cases h
  | cons v vs =>
      cases ws with
      | nil => cases h
      | cons w ws => rw [Json.hollowAll, Json.hollowAll, h.1.hollow, AllAgree.hollowAll h.2]
termination_by sizeOf vs

end

mutual

/-- The order of values is told by all but their objects. -/
theorem order_hollow (v w : Json) : order v.hollow w.hollow = order v w := by
  cases v with
  | array vs =>
      cases w with
      | array ws => exact orderItems_hollowAll vs ws
      | _ => rfl
  | _ => cases w <;> rfl
termination_by sizeOf v

theorem orderItems_hollowAll (vs ws : List Json) :
    orderItems (hollowAll vs) (hollowAll ws) = orderItems vs ws := by
  cases vs with
  | nil => cases ws <;> rfl
  | cons v vs =>
      cases ws with
      | nil => rfl
      | cons w ws =>
          rw [hollowAll, hollowAll, orderItems, orderItems, order_hollow v w,
            orderItems_hollowAll vs ws]
termination_by sizeOf vs

end

theorem filter_isScalar_hollowAll (vs : List Json) :
    (hollowAll vs).filter isScalar = vs.filter isScalar := by
  induction vs with
  | nil => rfl
  | cons v vs ih => cases v <;> simp [hollowAll, hollow, isScalar, List.filter_cons, ih]

/-- An object counts for nothing among the scalars of a value. -/
theorem scalars_hollow (v : Json) : v.hollow.scalars = v.scalars := by
  cases v with
  | array items => exact filter_isScalar_hollowAll items
  | _ => rfl

end Json

theorem RequiredFields.ValuesAgree.hollow {inner : RequiredFields} {v w : Json}
    (h : inner.ValuesAgree v w) : v.hollow = w.hollow := by
  by_cases hinner : inner = []
  · subst hinner
    exact congrArg Json.hollow (valuesAgree_nil.mp h)
  · exact ((valuesAgree_of_ne_nil hinner).mp h).hollow

namespace Slot

def hollow : Slot → Slot
  | .value v => .value v.hollow
  | slot => slot

/-- The scalars at a slot. -/
def scalars : Slot → List Json
  | .value v => v.scalars
  | _ => []

theorem scalars_hollow (s : Slot) : s.hollow.scalars = s.scalars := by
  cases s with
  | value v => exact Json.scalars_hollow v
  | _ => rfl

theorem present?_hollow (s : Slot) : s.hollow.present? = s.present?.map Json.hollow := by
  cases s with
  | value v => cases v <;> rfl
  | _ => rfl

theorem rank_hollow (s : Slot) : s.hollow.rank = s.rank := by
  cases s with
  | value v => cases v <;> rfl
  | _ => rfl

theorem order_hollow (s s' : Slot) : order s.hollow s'.hollow = order s s' := by
  unfold order
  rw [present?_hollow, present?_hollow, rank_hollow, rank_hollow]
  cases s.present? with
  | none => rfl
  | some v =>
      cases s'.present? with
      | none => rfl
      | some w => exact Json.order_hollow v w

theorem Agree.hollow {inner : RequiredFields} {s s' : Slot} (h : Slot.Agree inner s s') :
    s.hollow = s'.hollow := by
  cases h with
  | value h => exact congrArg Slot.value h.hollow
  | absent => rfl
  | unreachable => rfl

end Slot

/-! ## Sets that require at least as much -/

namespace RequiredFields

mutual

/-- The set requires the field, and inside it at least what is required there. -/
def FieldWithin : RequiredField → RequiredFields → Prop
  | ⟨name, inner⟩, set => ∃ more, ⟨name, more⟩ ∈ set ∧ Within inner more

def Within : RequiredFields → RequiredFields → Prop
  | [], _ => True
  | f :: rest, set => FieldWithin f set ∧ Within rest set

end

theorem within_iff {fields set : RequiredFields} :
    Within fields set ↔ ∀ f ∈ fields, FieldWithin f set := by
  induction fields with
  | nil => simp [Within]
  | cons f rest ih => simp [Within, ih]

mutual

theorem FieldWithin.trans {f : RequiredField} {set other : RequiredFields}
    (h : FieldWithin f set) (hset : Within set other) : FieldWithin f other := by
  match f with
  | ⟨name, inner⟩ =>
      obtain ⟨more, hmem, hinner⟩ := h
      obtain ⟨most, hmost, hmore⟩ := within_iff.mp hset _ hmem
      exact ⟨most, hmost, hinner.trans hmore⟩
termination_by sizeOf f

theorem Within.trans {fields set other : RequiredFields} (h : Within fields set)
    (hset : Within set other) : Within fields other := by
  match fields with
  | [] => trivial
  | f :: rest => exact ⟨h.1.trans hset, Within.trans h.2 hset⟩
termination_by sizeOf fields

end

mutual

theorem fieldWithin_of_mem {f : RequiredField} {set : RequiredFields} (h : f ∈ set) :
    FieldWithin f set := by
  match f with
  | ⟨name, inner⟩ => exact ⟨inner, h, within_of_subset (List.Subset.refl inner)⟩
termination_by sizeOf f

theorem within_of_subset {fields set : RequiredFields} (h : fields ⊆ set) : Within fields set := by
  match fields with
  | [] => trivial
  | f :: rest =>
      exact ⟨fieldWithin_of_mem (List.cons_subset.mp h).1,
        within_of_subset (List.cons_subset.mp h).2⟩
termination_by sizeOf fields

end

theorem Within.refl (set : RequiredFields) : Within set set :=
  within_of_subset (List.Subset.refl set)

/-! ### Gathering requires no less -/

theorem within_alter {name : String} {change : RequiredFields → RequiredFields}
    (hchange : ∀ inner, Within inner (change inner)) (set : RequiredFields) :
    Within set (alter name change set) := by
  induction set with
  | nil => trivial
  | cons f rest ih =>
      rw [alter]
      split
      · rename_i hname
        obtain ⟨declared, inner⟩ := f
        obtain rfl : declared = name := hname
        refine ⟨⟨change inner, List.mem_cons_self, hchange inner⟩, ?_⟩
        exact within_of_subset (List.subset_cons_self ..)
      · refine ⟨fieldWithin_of_mem List.mem_cons_self, ?_⟩
        exact ih.trans (within_of_subset (List.subset_cons_self ..))

theorem exists_mem_alter (name : String) (change : RequiredFields → RequiredFields)
    (set : RequiredFields) : ∃ inner, ⟨name, change inner⟩ ∈ alter name change set := by
  induction set with
  | nil => exact ⟨[], List.mem_cons_self⟩
  | cons f rest ih =>
      rw [alter]
      split
      · exact ⟨f.inner, List.mem_cons_self⟩
      · obtain ⟨inner, hmem⟩ := ih
        exact ⟨inner, List.mem_cons_of_mem f hmem⟩

mutual

/-- Adding a field requires it and all that was required. -/
theorem within_insert (f : RequiredField) (set : RequiredFields) :
    FieldWithin f (insert f set) ∧ Within set (insert f set) := by
  match f with
  | ⟨name, inner⟩ =>
      rw [insert]
      obtain ⟨given, hmem⟩ := exists_mem_alter name (insertAll inner) set
      refine ⟨⟨insertAll inner given, hmem, (within_insertAll inner given).1⟩, ?_⟩
      exact within_alter (fun given => (within_insertAll inner given).2) set
termination_by sizeOf f

theorem within_insertAll (fields : List RequiredField) (set : RequiredFields) :
    Within fields (insertAll fields set) ∧ Within set (insertAll fields set) := by
  match fields with
  | [] => exact ⟨trivial, Within.refl set⟩
  | f :: rest =>
      rw [insertAll]
      obtain ⟨hf, hset⟩ := within_insert f set
      obtain ⟨hrest, hmore⟩ := within_insertAll rest (insert f set)
      exact ⟨⟨hf.trans hmore, hrest⟩, hset.trans hmore⟩
termination_by sizeOf fields

end

theorem within_addPath (set : RequiredFields) (path : String) :
    Within (ofSteps (Path.steps path)) (addPath set path) ∧ Within set (addPath set path) :=
  within_insertAll _ set

theorem within_foldl_addPath (paths : List String) (set : RequiredFields) :
    (∀ path ∈ paths, Within (ofSteps (Path.steps path)) (paths.foldl addPath set)) ∧
      Within set (paths.foldl addPath set) := by
  induction paths generalizing set with
  | nil => exact ⟨fun _ hmem => absurd hmem List.not_mem_nil, Within.refl set⟩
  | cons first rest ih =>
      obtain ⟨hpaths, hset⟩ := ih (addPath set first)
      refine ⟨fun path hmem => ?_, (within_addPath set first).2.trans hset⟩
      rcases List.mem_cons.mp hmem with rfl | hmem
      · exact (within_addPath set path).1.trans hset
      · exact hpaths path hmem

mutual

theorem within_addEntry (entry : FilterEntry) (set : RequiredFields) :
    Within set (addEntry entry set) := by
  cases entry with
  | field name inner => exact (within_insert _ set).2
  | elemMatch inner => exact within_addFilter inner set
  | operator _ _ => exact Within.refl set
termination_by sizeOf entry

theorem within_addFilter (filter : Filter) (set : RequiredFields) :
    Within set (addFilter filter set) := by
  cases filter with
  | nil => exact Within.refl set
  | cons entry rest => exact (within_addEntry entry set).trans (within_addFilter rest _)
termination_by sizeOf filter

end

end RequiredFields

/-! ## What a path meets -/

namespace RequiredFields

variable {set : RequiredFields} {a b : Object}

/-- The first step of a required path leads to a field of the set, in which the others are required. -/
theorem Within.head {name : String} {rest : List String} (h : (ofSteps (name :: rest)).Within set) :
    ∃ inner, ⟨name, inner⟩ ∈ set ∧ (ofSteps rest).Within inner := h.1

theorem ne_nil_of_within {name : String} {rest : List String}
    (h : (ofSteps (name :: rest)).Within set) : set ≠ [] := by
  obtain ⟨inner, hmem, -⟩ := h.head
  exact List.ne_nil_of_mem hmem

/-- What a required path meets without fan-out is the same in both bodies, up to objects. -/
theorem Agree.walkDirect_hollow {steps : List String} (h : set.Agree a b)
    (hsteps : (ofSteps steps).Within set) :
    (Path.walkDirect steps a).hollow = (Path.walkDirect steps b).hollow := by
  induction steps generalizing set a b with
  | nil => rfl
  | cons name rest ih =>
      obtain ⟨inner, hmem, hrest⟩ := hsteps.head
      have hget := h.get? hmem
      cases rest with
      | nil =>
          have hwalk : ∀ body, Path.walkDirect [name] body = Slot.member name body := by
            intro body
            cases hget : Object.get? name body <;> simp only [Path.walkDirect, Slot.member, hget]
          rw [hwalk, hwalk]
          exact (h.member hmem).hollow
      | cons second rest =>
          simp only [Path.walkDirect]
          generalize Object.get? name a = x at hget ⊢
          generalize Object.get? name b = y at hget ⊢
          cases hget with
          | none => rfl
          | some hvalues =>
              rw [valuesAgree_of_ne_nil (ne_nil_of_within hrest)] at hvalues
              rcases hvalues.cases with ⟨c, d, rfl, rfl, hcd⟩ | ⟨vs, ws, rfl, rfl, -⟩ | ⟨rfl, hv, -⟩
              · exact ih hcd hrest
              · rfl
              · rfl

/-- What a required path meets with fan-out is the same in both bodies, up to objects. -/
theorem Agree.walk_hollow {steps : List String} (h : set.Agree a b)
    (hsteps : (ofSteps steps).Within set) :
    (Path.walk steps a).map Slot.hollow = (Path.walk steps b).map Slot.hollow := by
  induction steps generalizing set a b with
  | nil => rfl
  | cons name rest ih =>
      obtain ⟨inner, hmem, hrest⟩ := hsteps.head
      have hget := h.get? hmem
      cases rest with
      | nil =>
          rw [Path.walk_single, Path.walk_single]
          exact congrArg (fun slot => [slot]) (h.member hmem).hollow
      | cons second rest =>
          simp only [Path.walk]
          generalize Object.get? name a = x at hget ⊢
          generalize Object.get? name b = y at hget ⊢
          cases hget with
          | none => rfl
          | some hvalues =>
              rw [valuesAgree_of_ne_nil (ne_nil_of_within hrest)] at hvalues
              simp only [List.map_flatMap]
              -- One object after the other, both values stand for the same number of them.
              rw [← List.forall₂_eq_eq_eq]
              apply List.rel_flatMap hvalues.spread
              intro p q hpq
              rw [List.forall₂_eq_eq_eq]
              cases hpq with
              | none => rfl
              | some hagree => exact ih hagree hrest

end RequiredFields

end ContentQuery
