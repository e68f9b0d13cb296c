import ContentQuery.Proofs.Query.Merging
import Mathlib.Data.List.Nodup

/-!
# Required fields, level by level

A set of required fields is seen level by level: below each path of names stand the names required
there, in some order (`RequiredFields.inside`). A set in which each name stands once among its siblings
is known by its levels (`RequiredFields.eq_of_names`), and merging works on each level by itself: what
both sets name there, each name where it comes first (`RequiredFields.names_inside_merge`). So merging
is idempotent (**`RequiredFields.merge_self`**) and associative (**`RequiredFields.merge_assoc`**).
-/

namespace ContentQuery

/-! ## First occurrences -/

section FirstOccurrences

variable {α : Type} [BEq α] [LawfulBEq α]

theorem filter_eraseDups (p : α → Bool) (as : List α) :
    as.eraseDups.filter p = (as.filter p).eraseDups := by
  match as with
  | [] => rfl
  | a :: rest =>
      have ih := filter_eraseDups p (rest.filter fun b => !b == a)
      rw [List.eraseDups_cons, List.filter_cons, ih, List.filter_filter]
      by_cases ha : p a
      · rw [if_pos ha, List.filter_cons_of_pos ha, List.eraseDups_cons, List.filter_filter]
        simp only [Bool.and_comm]
      · -- What `p` lets through is not `a` anyway.
        rw [if_neg ha, List.filter_cons_of_neg ha]
        congr 1
        apply List.filter_congr
        intro b _
        by_cases hb : b = a
        · simp [hb, ha]
        · simp [hb]
termination_by as.length
decreasing_by exact Nat.lt_succ_of_le (List.length_filter_le _ _)

theorem nodup_eraseDups (as : List α) : as.eraseDups.Nodup := by
  match as with
  | [] => simp
  | a :: rest =>
      rw [List.eraseDups_cons, List.nodup_cons]
      refine ⟨?_, nodup_eraseDups _⟩
      simp [List.mem_eraseDups]
termination_by as.length
decreasing_by exact Nat.lt_succ_of_le (List.length_filter_le _ _)

theorem eraseDups_of_nodup {as : List α} (h : as.Nodup) : as.eraseDups = as := by
  induction as with
  | nil => rfl
  | cons a rest ih =>
      obtain ⟨hnew, hrest⟩ := List.nodup_cons.mp h
      have hothers : rest.filter (fun b => !b == a) = rest := by
        apply List.filter_eq_self.mpr
        intro b hb
        have hne : b ≠ a := fun heq => hnew (heq ▸ hb)
        simpa using hne
      rw [List.eraseDups_cons, hothers, ih hrest]

theorem eraseDups_eraseDups_append (as bs : List α) :
    (as.eraseDups ++ bs).eraseDups = (as ++ bs).eraseDups := by
  have hsame : bs.removeAll as.eraseDups = bs.removeAll as := by
    apply List.filter_congr
    intro b _
    simp [List.mem_eraseDups]
  rw [List.eraseDups_append, List.eraseDups_append, eraseDups_of_nodup (nodup_eraseDups as), hsame]

theorem eraseDups_append_eraseDups (as bs : List α) :
    (as ++ bs.eraseDups).eraseDups = (as ++ bs).eraseDups := by
  have hleft : bs.eraseDups.removeAll as = (bs.removeAll as).eraseDups := filter_eraseDups _ bs
  rw [List.eraseDups_append, List.eraseDups_append, hleft,
    eraseDups_of_nodup (nodup_eraseDups (bs.removeAll as))]

end FirstOccurrences

namespace RequiredFields

variable {set other third : RequiredFields} {name step : String}
  {change : RequiredFields → RequiredFields}

/-! ## Levels -/

/-- What is required inside the field of a name; nothing if there is no such field. -/
def under (set : RequiredFields) (name : String) : RequiredFields :=
  (set.get? name).elim [] (·.inner)

/-- What is required inside the field at the end of the steps. -/
def inside : List String → RequiredFields → RequiredFields
  | [], set => set
  | step :: rest, set => inside rest (set.under step)

@[simp] theorem under_nil (name : String) : under [] name = [] := rfl

@[simp] theorem inside_nil (set : RequiredFields) : inside [] set = set := rfl

@[simp] theorem inside_cons (step : String) (rest : List String) (set : RequiredFields) :
    inside (step :: rest) set = inside rest (set.under step) := rfl

theorem inside_empty (steps : List String) : inside steps [] = [] := by
  induction steps with
  | nil => rfl
  | cons step rest ih => exact ih

theorem under_cons (name : String) (inner : List RequiredField) (rest : RequiredFields)
    (step : String) :
    under (⟨name, inner⟩ :: rest) step = if name = step then inner else under rest step := by
  rw [under, get?, List.find?_cons]
  by_cases h : name = step
  · simp [h]
  · rw [if_neg h, beq_false_of_ne h]
    rfl

theorem under_of_not_mem (h : name ∉ names set) : set.under name = [] := by
  induction set with
  | nil => rfl
  | cons f rest ih =>
      obtain ⟨declared, inner⟩ := f
      rw [names_cons, List.mem_cons, not_or] at h
      rw [under_cons, if_neg (Ne.symm h.1), ih h.2]

theorem Distinct.nodup_names (h : Distinct set) : (names set).Nodup := by
  induction set with
  | nil => exact List.nodup_nil
  | cons f rest ih =>
      obtain ⟨declared, inner⟩ := f
      obtain ⟨hnew, -, hrest⟩ := distinct_cons.mp h
      exact List.nodup_cons.mpr ⟨hnew, ih hrest⟩

theorem Distinct.under (h : Distinct set) (name : String) : Distinct (set.under name) := by
  induction set with
  | nil => exact distinct_nil
  | cons f rest ih =>
      obtain ⟨declared, inner⟩ := f
      obtain ⟨-, hinner, hrest⟩ := distinct_cons.mp h
      rw [under_cons]
      split
      · exact hinner
      · exact ih hrest

theorem Distinct.inside (h : Distinct set) (steps : List String) :
    Distinct (RequiredFields.inside steps set) := by
  induction steps generalizing set with
  | nil => exact h
  | cons step rest ih => exact ih (h.under step)

/-- **A set is known by its levels.** -/
theorem eq_of_names {set other : RequiredFields} (h : Distinct set) (hother : Distinct other)
    (hnames : ∀ steps, names (inside steps set) = names (inside steps other)) : set = other := by
  match set, other with
  | [], [] => rfl
  | [], _ :: _ => exact absurd (hnames []) (by simp [names])
  | _ :: _, [] => exact absurd (hnames []) (by simp [names])
  | ⟨name, inner⟩ :: rest, ⟨name', inner'⟩ :: rest' =>
      obtain ⟨hnew, hinner, hrest⟩ := distinct_cons.mp h
      obtain ⟨hnew', hinner', hrest'⟩ := distinct_cons.mp hother
      obtain ⟨rfl, htail⟩ : name = name' ∧ names rest = names rest' := by simpa using hnames []
      have heq : inner = inner' := by
        apply eq_of_names hinner hinner'
        intro steps
        simpa [under_cons] using hnames (name :: steps)
      have heqRest : rest = rest' := by
        apply eq_of_names hrest hrest'
        intro steps
        cases steps with
        | nil => exact htail
        | cons step steps =>
            by_cases hstep : name = step
            · subst hstep
              rw [inside_cons, inside_cons, under_of_not_mem hnew, under_of_not_mem hnew']
            · simpa [under_cons, hstep] using hnames (step :: steps)
      rw [heq, heqRest]
termination_by sizeOf set

theorem distinct_ofSteps (steps : List String) : Distinct (ofSteps steps) := by
  induction steps with
  | nil => exact distinct_nil
  | cons step rest ih => exact distinct_cons.mpr ⟨List.not_mem_nil, ih, distinct_nil⟩

theorem alter_ne_nil : alter name change set ≠ [] := by
  cases set with
  | nil => exact List.cons_ne_nil _ _
  | cons f rest =>
      rw [alter]
      split <;> exact List.cons_ne_nil _ _

theorem insertAll_ne_nil (fields : List RequiredField) (h : set ≠ []) : insertAll fields set ≠ [] := by
  induction fields generalizing set with
  | nil => exact h
  | cons f rest ih =>
      obtain ⟨name, inner⟩ := f
      rw [insertAll, insert]
      exact ih alter_ne_nil

/-! ## Merging, level by level -/

theorem under_alter : (alter name change set).under step =
    if name = step then change (set.under name) else set.under step := by
  induction set with
  | nil =>
      rw [alter, under_cons]
      rfl
  | cons f rest ih =>
      obtain ⟨declared, inner⟩ := f
      rw [alter]
      by_cases hname : declared = name
      · subst hname
        rw [if_pos rfl, under_cons, under_cons, if_pos rfl]
        by_cases hstep : declared = step
        · simp [hstep]
        · rw [if_neg hstep, if_neg hstep, under_cons, if_neg hstep]
      · rw [if_neg hname, under_cons, under_cons, under_cons, ih, if_neg hname]
        by_cases hstep : declared = step
        · subst hstep
          simp [Ne.symm hname]
        · simp [hstep]

/-- What both sets require inside a field is merged. -/
theorem under_insertAll {fields : List RequiredField} (h : Distinct fields) :
    (insertAll fields set).under step = insertAll (under fields step) (set.under step) := by
  induction fields generalizing set with
  | nil => rfl
  | cons f rest ih =>
      obtain ⟨name, inner⟩ := f
      obtain ⟨hnew, -, hrest⟩ := distinct_cons.mp h
      rw [insertAll, ih hrest, insert, under_alter, under_cons]
      split
      · rename_i hstep
        rw [← hstep, under_of_not_mem hnew, insertAll]
      · rfl

theorem names_insertAll {fields : List RequiredField} (h : Distinct set) :
    names (insertAll fields set) = (names set ++ names fields).eraseDups := by
  induction fields generalizing set with
  | nil =>
      show names set = (names set ++ []).eraseDups
      rw [List.append_nil, eraseDups_of_nodup h.nodup_names]
  | cons f rest ih =>
      obtain ⟨name, inner⟩ := f
      have hfirst : names (insert ⟨name, inner⟩ set) = (names set ++ [name]).eraseDups := by
        rw [insert, names_alter, List.eraseDups_append, eraseDups_of_nodup h.nodup_names]
        by_cases hmem : name ∈ names set <;> simp [List.removeAll, hmem, List.eraseDups_cons]
      rw [insertAll, ih (distinct_insert _ h), hfirst, eraseDups_eraseDups_append, names_cons,
        List.append_assoc, List.singleton_append]

theorem distinct_merge (h : Distinct set) (other : RequiredFields) : Distinct (set.merge other) :=
  distinct_insertAll other h

/-- **Merging** takes the names of both sets on each level, each where it comes first. -/
theorem names_inside_merge (h : Distinct set) (hother : Distinct other) (steps : List String) :
    names (inside steps (set.merge other)) =
      (names (inside steps set) ++ names (inside steps other)).eraseDups := by
  induction steps generalizing set other with
  | nil => exact names_insertAll h
  | cons step rest ih =>
      rw [inside_cons, merge, under_insertAll hother]
      exact ih (h.under step) (hother.under step)

/-- **Merging a set with itself** changes nothing. -/
theorem merge_self (h : Distinct set) : set.merge set = set := by
  apply eq_of_names (distinct_merge h set) h
  intro steps
  have hnodup : (names (inside steps set)).Nodup := (h.inside steps).nodup_names
  have hnothing : (names (inside steps set)).removeAll (names (inside steps set)) = [] := by
    simp [List.removeAll]
  rw [names_inside_merge h h, List.eraseDups_append, eraseDups_of_nodup hnodup, hnothing,
    List.eraseDups_nil, List.append_nil]

/-- **Merging** three sets comes to the same in both groupings. -/
theorem merge_assoc (h : Distinct set) (hother : Distinct other) (hthird : Distinct third) :
    (set.merge other).merge third = set.merge (other.merge third) := by
  apply eq_of_names (distinct_merge (distinct_merge h other) third)
    (distinct_merge h (other.merge third))
  intro steps
  rw [names_inside_merge (distinct_merge h other) hthird, names_inside_merge h hother,
    names_inside_merge h (distinct_merge hother third), names_inside_merge hother hthird,
    eraseDups_eraseDups_append, eraseDups_append_eraseDups, List.append_assoc]

end RequiredFields

end ContentQuery
