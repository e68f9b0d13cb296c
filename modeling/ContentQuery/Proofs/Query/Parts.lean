import ContentQuery.Proofs.Query.Levels

/-!
# Whole fields and fields in part

A set of required fields keeps no note of whether a field is required whole or in part: it is whole if
nothing is required inside it. Here each field carries that note (`Requirement`), and sets are gathered
by the rules for a field that is asked for in both ways: in part outweighs whole, in whichever order
they come. The notes say what can be read off the set (**`Requirement.forQuery_eq_noted`**), so that no
field is ever required in part with no part of it.
-/

namespace ContentQuery

/-- A required field with a note: whether it is required whole or in part. -/
inductive Requirement where
  | whole (name : String)
  | part (name : String) (inner : List Requirement)

namespace Requirement

def name : Requirement → String
  | .whole name | .part name _ => name

/-- Of two requirements on one field the later one is heeded if it is in part: parts are joined, and a
whole field gives way to its parts. -/
def settle (join : List Requirement → List Requirement) : (later earlier : Requirement) → Requirement
  | .whole _, earlier => earlier
  | .part name _, .part _ given => .part name (join given)
  | .part name inner, .whole _ => .part name inner

/-- Puts a requirement where one on its field stands, or else at the end. -/
def place (r : Requirement) (join : List Requirement → List Requirement) :
    List Requirement → List Requirement
  | [] => [r]
  | other :: rest =>
    if other.name = r.name then settle join r other :: rest else other :: place r join rest

mutual

def insert : Requirement → List Requirement → List Requirement
  | .whole name, set => place (.whole name) id set
  | .part name inner, set => place (.part name inner) (insertAll inner) set

def insertAll : List Requirement → List Requirement → List Requirement
  | [], set => set
  | r :: rest, set => insertAll rest (insert r set)

end

def ofSteps : List String → List Requirement
  | [] => []
  | [step] => [.whole step]
  | step :: rest => [.part step (ofSteps rest)]

def addPath (set : List Requirement) (path : String) : List Requirement :=
  insertAll (ofSteps (Path.steps path)) set

mutual

def addEntry : FilterEntry → List Requirement → List Requirement
  | .field name inner, set =>
    let nested := addFilter inner []
    insert (if nested.isEmpty then .whole name else .part name nested) set
  | .elemMatch inner, set => addFilter inner set
  | .operator .., set => set

def addFilter : Filter → List Requirement → List Requirement
  | [], set => set
  | entry :: rest, set => addFilter rest (addEntry entry set)

end

/-- What a query requires, with notes. -/
def forQuery (filter : Option Filter) (sort : Option SortSpec) (projections : List Projection) :
    List Requirement :=
  let paths := (sort.getD []).paths ++ projections.map (·.path)
  paths.foldl addPath (addFilter (filter.getD []) [])

/-! ## Notes that can be read off -/

mutual

/-- The field with a note: whole if nothing is required inside it. -/
def noted : RequiredField → Requirement
  | ⟨name, inner⟩ => if inner.isEmpty then .whole name else .part name (allNoted inner)

def allNoted : List RequiredField → List Requirement
  | [] => []
  | f :: rest => noted f :: allNoted rest

end

mutual

/-- No field is required in part with no part of it. -/
def Filled : Requirement → Prop
  | .whole _ => True
  | .part _ inner => inner ≠ [] ∧ AllFilled inner

def AllFilled : List Requirement → Prop
  | [] => True
  | r :: rest => Filled r ∧ AllFilled rest

end

variable {set : RequiredFields} {f : RequiredField}

theorem noted_of_ne_nil {name : String} {inner : List RequiredField} (h : inner ≠ []) :
    noted ⟨name, inner⟩ = .part name (allNoted inner) := by
  rw [noted, if_neg (by simpa using h)]

@[simp] theorem name_noted (f : RequiredField) : (noted f).name = f.name := by
  obtain ⟨name, inner⟩ := f
  rw [noted]
  split <;> rfl

@[simp] theorem allNoted_nil : allNoted [] = [] := rfl

@[simp] theorem allNoted_cons (f : RequiredField) (rest : List RequiredField) :
    allNoted (f :: rest) = noted f :: allNoted rest := rfl

mutual

theorem filled_noted (f : RequiredField) : Filled (noted f) := by
  match f with
  | ⟨name, []⟩ => trivial
  | ⟨name, first :: rest⟩ => exact ⟨List.cons_ne_nil _ _, allFilled_allNoted (first :: rest)⟩
termination_by sizeOf f

theorem allFilled_allNoted (fields : List RequiredField) : AllFilled (allNoted fields) := by
  match fields with
  | [] => trivial
  | f :: rest => exact ⟨filled_noted f, allFilled_allNoted rest⟩
termination_by sizeOf fields

end

/-! ## Gathering with notes -/

/-- Inserting into no field leaves what is inserted. -/
theorem insertAll_nil {inner : List RequiredField} (h : RequiredFields.Distinct inner) :
    RequiredFields.insertAll inner [] = inner :=
  RequiredFields.insertAll_eq_append inner h fun _ _ => List.not_mem_nil

theorem settle_noted {name : String} {inner : List RequiredField}
    (hinner : RequiredFields.Distinct inner) (hname : f.name = name)
    {join : List Requirement → List Requirement}
    (hjoin : ∀ given, join (allNoted given) = allNoted (RequiredFields.insertAll inner given)) :
    settle join (noted ⟨name, inner⟩) (noted f) =
      noted ⟨name, RequiredFields.insertAll inner f.inner⟩ := by
  obtain ⟨declared, given⟩ := f
  obtain rfl : declared = name := hname
  by_cases hwhole : inner = []
  · subst hwhole
    rfl
  · rw [noted_of_ne_nil hwhole]
    by_cases hgiven : given = []
    · subst hgiven
      rw [insertAll_nil hinner, noted_of_ne_nil hwhole]
      rfl
    · rw [noted_of_ne_nil hgiven, noted_of_ne_nil (RequiredFields.insertAll_ne_nil inner hgiven),
        ← hjoin]
      rfl

theorem place_noted {name : String} {inner : List RequiredField}
    (hinner : RequiredFields.Distinct inner) {join : List Requirement → List Requirement}
    (hjoin : ∀ given, join (allNoted given) = allNoted (RequiredFields.insertAll inner given)) :
    place (noted ⟨name, inner⟩) join (allNoted set) =
      allNoted (RequiredFields.alter name (RequiredFields.insertAll inner) set) := by
  induction set with
  | nil =>
      rw [RequiredFields.alter, insertAll_nil hinner]
      rfl
  | cons f rest ih =>
      rw [allNoted_cons, place, name_noted, name_noted, RequiredFields.alter]
      by_cases hname : f.name = name
      · rw [if_pos hname, if_pos hname, settle_noted hinner hname hjoin, allNoted_cons]
      · rw [if_neg hname, if_neg hname, ih, allNoted_cons]

mutual

theorem insert_noted (f : RequiredField) (h : RequiredFields.Distinct f.inner)
    (set : RequiredFields) : insert (noted f) (allNoted set) = allNoted (set.insert f) := by
  match f with
  | ⟨name, []⟩ => exact place_noted h fun _ => rfl
  | ⟨name, first :: rest⟩ => exact place_noted h (insertAll_noted (first :: rest) h)
termination_by sizeOf f

/-- **Gathering** fields with notes gathers the same fields, with the notes that can be read off. -/
theorem insertAll_noted (fields : List RequiredField) (h : RequiredFields.Distinct fields)
    (set : RequiredFields) :
    insertAll (allNoted fields) (allNoted set) = allNoted (RequiredFields.insertAll fields set) := by
  match fields with
  | [] => rfl
  | ⟨name, inner⟩ :: rest =>
      obtain ⟨-, hinner, hrest⟩ := RequiredFields.distinct_cons.mp h
      rw [allNoted_cons, insertAll, insert_noted ⟨name, inner⟩ hinner, insertAll_noted rest hrest,
        RequiredFields.insertAll]
termination_by sizeOf fields

end

theorem ofSteps_noted (steps : List String) :
    ofSteps steps = allNoted (RequiredFields.ofSteps steps) := by
  induction steps with
  | nil => rfl
  | cons step rest ih =>
      cases rest with
      | nil => rfl
      | cons next rest =>
          rw [ofSteps, ih]
          · rfl
          · exact List.cons_ne_nil next rest

theorem foldl_addPath_noted (paths : List String) (set : RequiredFields) :
    paths.foldl addPath (allNoted set) = allNoted (paths.foldl RequiredFields.addPath set) := by
  induction paths generalizing set with
  | nil => rfl
  | cons path rest ih =>
      have hpath : addPath (allNoted set) path = allNoted (set.addPath path) := by
        rw [addPath, ofSteps_noted]
        exact insertAll_noted _ (RequiredFields.distinct_ofSteps _) set
      rw [List.foldl_cons, List.foldl_cons, hpath, ih]

mutual

theorem addEntry_noted (entry : FilterEntry) (set : RequiredFields) :
    addEntry entry (allNoted set) = allNoted (RequiredFields.addEntry entry set) := by
  match entry with
  | .field name inner =>
      have hnested : addFilter inner [] = allNoted (RequiredFields.addFilter inner []) :=
        addFilter_noted inner []
      have hdistinct := RequiredFields.distinct_addFilter inner RequiredFields.distinct_nil
      rw [RequiredFields.addEntry, ← insert_noted ⟨name, RequiredFields.addFilter inner []⟩ hdistinct,
        addEntry, hnested, noted]
      cases RequiredFields.addFilter inner [] <;> rfl
  | .elemMatch inner =>
      rw [addEntry, RequiredFields.addEntry]
      exact addFilter_noted inner set
  | .operator name operand => rfl
termination_by sizeOf entry

theorem addFilter_noted (filter : Filter) (set : RequiredFields) :
    addFilter filter (allNoted set) = allNoted (RequiredFields.addFilter filter set) := by
  match filter with
  | [] => rfl
  | entry :: rest =>
      rw [addFilter, RequiredFields.addFilter, addEntry_noted entry, addFilter_noted rest]
termination_by sizeOf filter

end

/-- **What a query requires** is whole where nothing is required inside it, by the rules for fields
that are asked for whole and in part. -/
theorem forQuery_eq_noted (filter : Option Filter) (sort : Option SortSpec)
    (projections : List Projection) :
    forQuery filter sort projections =
      allNoted (RequiredFields.forQuery filter sort projections) := by
  rw [forQuery, RequiredFields.forQuery, ← foldl_addPath_noted, ← addFilter_noted]
  rfl

end Requirement

end ContentQuery
