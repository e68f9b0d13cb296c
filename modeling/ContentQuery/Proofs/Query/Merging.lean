import ContentQuery.Query.Required

/-!
# Sets of required fields

In a set of required fields each name stands once among its siblings, at every depth
(`RequiredFields.Distinct`). All ways to gather fields keep it so
(**`RequiredFields.distinct_forQuery`**), and fields that are new to a set are put behind the others, as
they are (**`RequiredFields.merge_eq_append`**).
-/

namespace ContentQuery.RequiredFields

/-- Each name stands once among its siblings, at every depth. -/
def Distinct : RequiredFields → Prop
  | [] => True
  | ⟨name, inner⟩ :: rest => name ∉ names rest ∧ Distinct inner ∧ Distinct rest

variable {set : RequiredFields} {name : String} {change : RequiredFields → RequiredFields}

@[simp] theorem names_cons (f : RequiredField) (rest : List RequiredField) :
    names (f :: rest) = f.name :: names rest := rfl

theorem distinct_nil : Distinct [] := by
  rw [Distinct]
  trivial

theorem distinct_cons {inner rest : List RequiredField} : Distinct (⟨name, inner⟩ :: rest) ↔
    name ∉ names rest ∧ Distinct inner ∧ Distinct rest := by
  rw [Distinct]

/-! ## Adding a field -/

theorem names_alter (set : RequiredFields) : names (alter name change set) =
    if name ∈ names set then names set else names set ++ [name] := by
  induction set with
  | nil => simp [alter, names]
  | cons f rest ih =>
      rw [alter]
      by_cases hname : f.name = name
      · simp [hname]
      · rw [if_neg hname, names_cons, names_cons, ih]
        by_cases hmem : name ∈ names rest
        · simp [hmem]
        · simp [hmem, Ne.symm hname]

/-- A field that is not there yet is put at the end. -/
theorem alter_eq_append (h : name ∉ names set) : alter name change set = set ++ [⟨name, change []⟩] := by
  induction set with
  | nil => rfl
  | cons f rest ih =>
      rw [names_cons, List.mem_cons, not_or] at h
      rw [alter, if_neg (Ne.symm h.1), ih h.2, List.cons_append]

theorem distinct_alter (hchange : ∀ inner, Distinct inner → Distinct (change inner))
    (h : Distinct set) : Distinct (alter name change set) := by
  induction set with
  | nil =>
      rw [alter]
      exact distinct_cons.mpr ⟨List.not_mem_nil, hchange [] distinct_nil, distinct_nil⟩
  | cons f rest ih =>
      obtain ⟨declared, inner⟩ := f
      obtain ⟨hnew, hinner, hrest⟩ := distinct_cons.mp h
      rw [alter]
      split
      · rename_i hname
        obtain rfl : declared = name := hname
        exact distinct_cons.mpr ⟨hnew, hchange inner hinner, hrest⟩
      · rename_i hname
        refine distinct_cons.mpr ⟨?_, hinner, ih hrest⟩
        -- The name that is added is another one.
        rw [names_alter]
        split
        · exact hnew
        · intro hmem
          rcases List.mem_append.mp hmem with hmem | hmem
          · exact hnew hmem
          · exact hname (List.mem_singleton.mp hmem)

mutual

theorem distinct_insert (f : RequiredField) {set : RequiredFields} (h : Distinct set) :
    Distinct (insert f set) := by
  match f with
  | ⟨name, inner⟩ =>
      rw [insert]
      apply distinct_alter _ h
      intro given hgiven
      exact distinct_insertAll inner hgiven
termination_by sizeOf f

theorem distinct_insertAll (fields : List RequiredField) {set : RequiredFields}
    (h : Distinct set) : Distinct (insertAll fields set) := by
  match fields with
  | [] => exact h
  | f :: rest =>
      rw [insertAll]
      exact distinct_insertAll rest (distinct_insert f h)
termination_by sizeOf fields

end

/-! ## What a query requires -/

mutual

theorem distinct_addEntry (entry : FilterEntry) {set : RequiredFields} (h : Distinct set) :
    Distinct (addEntry entry set) := by
  match entry with
  | .field name inner =>
      rw [addEntry]
      exact distinct_insert _ h
  | .elemMatch inner =>
      rw [addEntry]
      exact distinct_addFilter inner h
  | .operator name operand => exact h
termination_by sizeOf entry

theorem distinct_addFilter (filter : Filter) {set : RequiredFields} (h : Distinct set) :
    Distinct (addFilter filter set) := by
  match filter with
  | [] => exact h
  | entry :: rest =>
      rw [addFilter]
      exact distinct_addFilter rest (distinct_addEntry entry h)
termination_by sizeOf filter

end

/-- **What a query requires** has each name once among its siblings. -/
theorem distinct_forQuery (filter : Option Filter) (sort : Option SortSpec)
    (projections : List Projection) : Distinct (forQuery filter sort projections) := by
  have hpaths : ∀ (paths : List String) (set : RequiredFields), Distinct set →
      Distinct (paths.foldl addPath set) := by
    intro paths
    induction paths with
    | nil => exact fun set h => h
    | cons path rest ih => exact fun set h => ih _ (distinct_insertAll _ h)
  exact hpaths _ _ (distinct_addFilter _ distinct_nil)

/-! ## Merging -/

/-- Fields that are gathered into a set in which none of them stands yet are put at its end. -/
theorem insertAll_eq_append (fields : List RequiredField) {set : RequiredFields}
    (h : Distinct fields) (hnew : ∀ name ∈ names fields, name ∉ names set) :
    insertAll fields set = set ++ fields := by
  match fields with
  | [] => rw [insertAll, List.append_nil]
  | ⟨name, inner⟩ :: rest =>
      obtain ⟨hname, hinner, hrest⟩ := distinct_cons.mp h
      obtain ⟨hfirst, hothers⟩ := List.forall_mem_cons.mp hnew
      have hwhole : insertAll inner [] = inner := by
        rw [insertAll_eq_append inner hinner (fun _ _ => List.not_mem_nil), List.nil_append]
      have hinsert : insert ⟨name, inner⟩ set = set ++ [⟨name, inner⟩] := by
        rw [insert, alter_eq_append hfirst, hwhole]
      rw [insertAll, hinsert, insertAll_eq_append rest hrest, List.append_assoc, List.singleton_append]
      intro other hother hmem
      simp only [names, List.map_append, List.mem_append, List.map_singleton,
        List.mem_singleton] at hmem
      rcases hmem with hmem | rfl
      · exact hothers other hother hmem
      · exact hname hother
termination_by sizeOf fields

/-- **Sets without a name in common** are merged by putting one behind the other. -/
theorem merge_eq_append {other : RequiredFields} (h : Distinct other)
    (hnew : ∀ name ∈ names other, name ∉ names set) : set.merge other = set ++ other :=
  insertAll_eq_append other h hnew

end ContentQuery.RequiredFields
