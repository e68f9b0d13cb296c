import ContentQuery.Engine.Basic
import ContentQuery.Proofs.Filter.Steps
import ContentQuery.Proofs.Query.Parts

/-!
# Required fields are an ordered trie

A query asks for paths: those of the names in its filter, those it sorts by and those of its
projections (`Query.paths`). What it requires is the trie of these paths, with the names on each level
in the order in which they are first asked for (`RequiredFields.Gathers`). Every way of gathering
fields adds paths at the end of those gathered before, so the trie follows step by step, and with it
that the paths of the trie are the beginnings of those asked for
(`RequiredFields.Gathers.exists_leads_iff`) and that a field is required whole where none of them goes
on (`RequiredFields.Gathers.isLeaf_iff`). The main statement is **`Query.required_trie`**.
-/

namespace ContentQuery

/-! ## Paths that are asked for -/

mutual

/-- Paths of the names in an entry of a filter. What is said about the elements of a list is said at
the path of the list. -/
def FilterEntry.paths : FilterEntry → List (List String)
  | .field name inner => [name] :: (Filter.paths inner).map (name :: ·)
  | .elemMatch inner => Filter.paths inner
  | .operator .. => []

/-- Paths of the names in a filter, in its order. -/
def Filter.paths : List FilterEntry → List (List String)
  | [] => []
  | entry :: rest => entry.paths ++ Filter.paths rest

end

/-- The paths that a query asks for: by its filter, by its sort, and by its projections. -/
def Query.paths (q : Query) : List (List String) :=
  Filter.paths (q.args.filter.getD []) ++
    ((q.args.sort.getD []).paths ++ q.projections.map (·.path)).map Path.steps

namespace RequiredFields

variable {set other : RequiredFields} {name : String} {steps : List String}
  {paths more : List (List String)}

/-- The names with which paths go on past the given steps, in the order of the paths. -/
def following (steps : List String) (paths : List (List String)) : List String :=
  paths.filterMap fun path => if steps <+: path then path[steps.length]? else none

theorem following_append (steps : List String) (paths more : List (List String)) :
    following steps (paths ++ more) = following steps paths ++ following steps more :=
  List.filterMap_append

theorem prefix_concat_iff {path : List String} :
    steps ++ [name] <+: path ↔ steps <+: path ∧ path[steps.length]? = some name := by
  constructor
  · rintro ⟨rest, rfl⟩
    simp
  · rintro ⟨⟨rest, rfl⟩, hname⟩
    cases rest with
    | nil => simp at hname
    | cons next rest =>
        obtain rfl : next = name := by simpa using hname
        exact ⟨rest, by simp⟩

/-- A name follows where a path goes on with it. -/
theorem mem_following : name ∈ following steps paths ↔ ∃ path ∈ paths, steps ++ [name] <+: path := by
  simp [following, prefix_concat_iff]

theorem exists_prefix_concat_iff {path : List String} :
    (∃ name, steps ++ [name] <+: path) ↔ steps <+: path ∧ steps ≠ path := by
  constructor
  · rintro ⟨name, rest, rfl⟩
    simp
  · rintro ⟨⟨rest, rfl⟩, hne⟩
    cases rest with
    | nil => simp at hne
    | cons name rest => exact ⟨name, rest, by simp⟩

/-- Nothing follows where no path goes on. -/
theorem following_eq_nil_iff :
    following steps paths = [] ↔ ¬∃ path ∈ paths, steps <+: path ∧ steps ≠ path := by
  simp only [List.eq_nil_iff_forall_not_mem, mem_following, ← exists_prefix_concat_iff]
  grind

theorem following_map_cons (name step : String) (rest : List String) (paths : List (List String)) :
    following (step :: rest) (paths.map (name :: ·)) =
      if step = name then following rest paths else [] := by
  rw [following, List.filterMap_map]
  by_cases hstep : step = name
  · simp only [hstep, if_true, following]
    congr 1
    funext path
    simp [List.cons_prefix_cons]
  · simp [hstep, List.cons_prefix_cons]

/-- **The set gathers the paths**: on each level it has the names with which they go on, each where it
comes first. -/
structure Gathers (set : RequiredFields) (paths : List (List String)) : Prop where
  distinct : set.Distinct
  levels : ∀ steps, names (inside steps set) = (following steps paths).eraseDups

theorem gathers_nil : Gathers [] [] := by
  refine ⟨distinct_nil, ?_⟩
  intro steps
  rw [inside_empty]
  rfl

/-- **Merging** gathers the paths of one set and then those of the other. -/
theorem Gathers.merge (h : set.Gathers paths) (hother : other.Gathers more) :
    (set.merge other).Gathers (paths ++ more) := by
  refine ⟨distinct_merge h.distinct other, ?_⟩
  intro steps
  rw [names_inside_merge h.distinct hother.distinct, h.levels, hother.levels, following_append,
    eraseDups_eraseDups_append, eraseDups_append_eraseDups]

/-- A field gathers its own path and, inside it, those that go on from it. -/
theorem Gathers.field (h : set.Gathers paths) (name : String) :
    Gathers [⟨name, set⟩] ([name] :: paths.map (name :: ·)) := by
  refine ⟨distinct_cons.mpr ⟨List.not_mem_nil, h.distinct, distinct_nil⟩, ?_⟩
  intro steps
  cases steps with
  | nil =>
      -- The name comes first with its own path, and again with each path that goes on from it.
      have hnames : following [] ([name] :: paths.map (name :: ·)) =
          name :: paths.map fun _ => name := by
        simp [following]
      have hothers : (paths.map fun _ => name).filter (fun b => !b == name) = [] := by
        simp
      rw [inside_nil, hnames, List.eraseDups_cons, hothers]
      rfl
  | cons step rest =>
      have hfollowing : following (step :: rest) ([name] :: paths.map (name :: ·)) =
          following (step :: rest) (paths.map (name :: ·)) := by
        simp [following, List.cons_prefix_cons]
      rw [inside_cons, under_cons, hfollowing, following_map_cons]
      by_cases hstep : name = step
      · rw [if_pos hstep, if_pos hstep.symm, h.levels]
      · rw [if_neg hstep, if_neg (Ne.symm hstep), under_nil, inside_empty]
        rfl

/-- A path that is the beginning of the next one adds nothing. -/
theorem Gathers.of_prefix {path next : List String} (h : set.Gathers (path :: next :: paths))
    (hunder : path <+: next) : set.Gathers (next :: paths) := by
  refine ⟨h.distinct, ?_⟩
  intro steps
  rw [h.levels]
  have hsplit : ∀ (first : List String) (rest : List (List String)),
      following steps (first :: rest) = following steps [first] ++ following steps rest :=
    fun first rest => following_append steps [first] rest
  rw [hsplit path, hsplit next]
  by_cases hname : ∃ name, steps ++ [name] <+: path
  · obtain ⟨name, hname⟩ := hname
    have hpath : following steps [path] = [name] := by
      simp [following, prefix_concat_iff.mp hname]
    have hnext : following steps [next] = [name] := by
      simp [following, prefix_concat_iff.mp (hname.trans hunder)]
    rw [hpath, hnext]
    simp [List.eraseDups_cons]
  · have hpath : following steps [path] = [] := by
      apply following_eq_nil_iff.mpr
      rintro ⟨other, hother, hproper⟩
      obtain rfl := List.mem_singleton.mp hother
      exact hname (exists_prefix_concat_iff.mpr hproper)
    rw [hpath, List.nil_append]

theorem gathers_ofSteps {steps : List String} (h : steps ≠ []) :
    Gathers (ofSteps steps) [steps] := by
  induction steps with
  | nil => exact absurd rfl h
  | cons step rest ih =>
      cases rest with
      | nil => exact gathers_nil.field step
      | cons next rest =>
          apply Gathers.of_prefix ((ih (List.cons_ne_nil next rest)).field step)
          simp [List.cons_prefix_cons]

theorem Gathers.foldl_addPath (h : set.Gathers paths) (asked : List String) :
    (asked.foldl addPath set).Gathers (paths ++ asked.map Path.steps) := by
  induction asked generalizing set paths with
  | nil => simpa using h
  | cons path rest ih =>
      have hpath := h.merge (gathers_ofSteps (Path.steps_ne_nil path))
      rw [List.foldl_cons, List.map_cons, List.append_cons]
      exact ih hpath

mutual

theorem Gathers.addEntry (entry : FilterEntry) {set : RequiredFields} {paths : List (List String)}
    (h : set.Gathers paths) : (addEntry entry set).Gathers (paths ++ entry.paths) := by
  match entry with
  | .field name inner =>
      have hinner := (gathers_nil.addFilter inner).field name
      exact h.merge hinner
  | .elemMatch inner =>
      rw [RequiredFields.addEntry, FilterEntry.paths]
      exact h.addFilter inner
  | .operator name operand =>
      rw [RequiredFields.addEntry, FilterEntry.paths, List.append_nil]
      exact h
termination_by sizeOf entry

/-- **A filter** adds the paths of the names in it. -/
theorem Gathers.addFilter (filter : Filter) {set : RequiredFields} {paths : List (List String)}
    (h : set.Gathers paths) : (addFilter filter set).Gathers (paths ++ Filter.paths filter) := by
  match filter with
  | [] =>
      rw [RequiredFields.addFilter, Filter.paths, List.append_nil]
      exact h
  | entry :: rest =>
      rw [RequiredFields.addFilter, Filter.paths, ← List.append_assoc]
      exact (h.addEntry entry).addFilter rest
termination_by sizeOf filter

end

/-- **What a query requires** gathers the paths that it asks for. -/
theorem gathers_required (q : Query) : q.required.Gathers q.paths := by
  have hfilter := gathers_nil.addFilter (q.args.filter.getD [])
  exact hfilter.foldl_addPath _

/-! ## The fields of a set -/

/-- The path leads to the field. -/
inductive Leads : RequiredFields → List String → RequiredField → Prop
  | here {set : RequiredFields} {f : RequiredField} : f ∈ set → Leads set [f.name] f
  | into {set : RequiredFields} {f g : RequiredField} {steps : List String} : f ∈ set →
      Leads f.inner steps g → Leads set (f.name :: steps) g

theorem leads_cons_iff {g : RequiredField} {step : String} (h : steps ≠ []) :
    Leads set (step :: steps) g ↔ ∃ f ∈ set, f.name = step ∧ Leads f.inner steps g := by
  constructor
  · intro hleads
    cases hleads with
    | here hf => exact absurd rfl h
    | @into _ f _ _ hf hnested => exact ⟨f, hf, rfl, hnested⟩
  · rintro ⟨f, hf, rfl, hnested⟩
    exact .into hf hnested

theorem Distinct.under_of_mem (h : Distinct set) {f : RequiredField} (hf : f ∈ set) :
    set.under f.name = f.inner := by
  induction set with
  | nil => cases hf
  | cons first rest ih =>
      obtain ⟨name, inner⟩ := first
      obtain ⟨hnew, -, hrest⟩ := distinct_cons.mp h
      rcases List.mem_cons.mp hf with rfl | hf
      · rw [under_cons, if_pos rfl]
      · have hne : name ≠ f.name := fun heq => hnew (heq ▸ List.mem_map_of_mem hf)
        rw [under_cons, if_neg hne, ih hrest hf]

theorem Distinct.inner_of_mem (h : Distinct set) {f : RequiredField} (hf : f ∈ set) :
    Distinct f.inner := h.under_of_mem hf ▸ h.under f.name

theorem exists_mem_of_under (h : set.under name ≠ []) :
    ∃ f ∈ set, f.name = name ∧ f.inner = set.under name := by
  unfold under at h ⊢
  cases hf : set.get? name with
  | none => exact absurd (by rw [hf]; rfl) h
  | some f => exact ⟨f, List.mem_of_find?_eq_some hf, by simpa using List.find?_some hf, rfl⟩

/-- What is required inside a field is what the set requires below its path. -/
theorem Leads.inner_eq {f : RequiredField} (hleads : Leads set steps f) (h : Distinct set) :
    f.inner = inside steps set := by
  induction hleads with
  | here hf => exact (h.under_of_mem hf).symm
  | into hf _ ih => rw [ih (h.inner_of_mem hf), inside_cons, h.under_of_mem hf]

/-- A path leads to a field if its last name stands on the level of the others. -/
theorem exists_leads_concat_iff (h : Distinct set) :
    (∃ f, Leads set (steps ++ [name]) f) ↔ name ∈ names (inside steps set) := by
  induction steps generalizing set with
  | nil =>
      constructor
      · rintro ⟨f, hleads⟩
        cases hleads with
        | here hf => exact List.mem_map_of_mem hf
        | into _ hnested => cases hnested
      · intro hname
        obtain ⟨f, hf, rfl⟩ := List.mem_map.mp hname
        exact ⟨f, .here hf⟩
  | cons step rest ih =>
      have hlast : rest ++ [name] ≠ [] := List.append_ne_nil_of_right_ne_nil rest (List.cons_ne_nil _ _)
      rw [inside_cons, ← ih (h.under step)]
      simp only [List.cons_append, leads_cons_iff hlast]
      constructor
      · rintro ⟨g, f, hf, rfl, hleads⟩
        exact ⟨g, h.under_of_mem hf ▸ hleads⟩
      · rintro ⟨g, hleads⟩
        have hne : set.under step ≠ [] := by
          intro hnil
          rw [hnil] at hleads
          generalize rest ++ [name] = path at hleads
          cases hleads <;> contradiction
        obtain ⟨f, hf, hname, hinner⟩ := exists_mem_of_under hne
        exact ⟨g, f, hf, hname, hinner ▸ hleads⟩

theorem Gathers.exists_leads_iff (h : set.Gathers paths) (path : List String) :
    (∃ f, Leads set path f) ↔ path ≠ [] ∧ ∃ asked ∈ paths, path <+: asked := by
  rcases List.eq_nil_or_concat path with rfl | ⟨steps, name, rfl⟩
  · refine iff_of_false ?_ (fun hpath => hpath.1 rfl)
    rintro ⟨f, hleads⟩
    cases hleads
  · rw [List.concat_eq_append, exists_leads_concat_iff h.distinct, h.levels, List.mem_eraseDups,
      mem_following]
    simp

theorem Gathers.isLeaf_iff (h : set.Gathers paths) {f : RequiredField} (hleads : Leads set steps f) :
    f.isLeaf ↔ ¬∃ asked ∈ paths, steps <+: asked ∧ steps ≠ asked := by
  have hnames : names f.inner = (following steps paths).eraseDups := by
    rw [hleads.inner_eq h.distinct, h.levels]
  rw [← following_eq_nil_iff, RequiredField.isLeaf, List.isEmpty_iff]
  constructor
  · intro hinner
    rw [hinner] at hnames
    apply List.eq_nil_iff_forall_not_mem.mpr
    intro name hname
    have hmem : name ∈ (following steps paths).eraseDups := List.mem_eraseDups.mpr hname
    rw [← hnames] at hmem
    cases hmem
  · intro hfollowing
    rw [hfollowing] at hnames
    exact List.map_eq_nil_iff.mp hnames

end RequiredFields

open RequiredFields

/-- **What a query requires is an ordered trie** of the paths that it asks for. Each name stands once
among its siblings, no field is required in part with no part of it, the paths of the trie are the
beginnings of those asked for, a field is required whole if none of them goes on below it, and the
names on each level stand in the order in which they are first asked for. So sets that queries require
are merged with the same result in any grouping, a set with itself changes nothing, and the order of
merging does not matter to the paths. -/
theorem Query.required_trie (q q' q'' : Query) :
    q.required.Distinct ∧
      (Requirement.forQuery q.args.filter q.args.sort q.projections =
          Requirement.allNoted q.required ∧
        Requirement.AllFilled (Requirement.forQuery q.args.filter q.args.sort q.projections)) ∧
      (∀ path, (∃ f, q.required.Leads path f) ↔ path ≠ [] ∧ ∃ asked ∈ q.paths, path <+: asked) ∧
      (∀ path f, q.required.Leads path f →
        (f.isLeaf ↔ ¬∃ asked ∈ q.paths, path <+: asked ∧ path ≠ asked)) ∧
      (∀ path, names (inside path q.required) = (following path q.paths).eraseDups) ∧
      q.required.merge q.required = q.required ∧
      (q.required.merge q'.required).merge q''.required =
        q.required.merge (q'.required.merge q''.required) ∧
      ∀ path, (∃ f, (q.required.merge q'.required).Leads path f) ↔
        ∃ f, (q'.required.merge q.required).Leads path f := by
  have h := gathers_required q
  have h' := gathers_required q'
  have h'' := gathers_required q''
  have hnoted : Requirement.forQuery q.args.filter q.args.sort q.projections =
      Requirement.allNoted q.required := Requirement.forQuery_eq_noted _ _ _
  refine ⟨h.distinct, ⟨hnoted, ?_⟩, h.exists_leads_iff, ?_, h.levels, merge_self h.distinct,
    merge_assoc h.distinct h'.distinct h''.distinct, ?_⟩
  · rw [hnoted]
    exact Requirement.allFilled_allNoted q.required
  · intro path f hleads
    exact h.isLeaf_iff hleads
  · intro path
    rw [(h.merge h').exists_leads_iff, (h'.merge h).exists_leads_iff]
    simp only [List.mem_append, or_comm]

end ContentQuery
