import ContentQuery.Proofs.Index.Narrowing
import ContentQuery.Proofs.Query.Agreement
import ContentQuery.Proofs.Query.Declared
import ContentQuery.Query.Run

/-!
# Required fields suffice

A query is answered from its required fields alone. Whatever else two lists of nodes hold, the query
picks the same positions of both, finds the same values at its projections, and groups the same
positions, as long as the bodies agree on what the query requires, one by one
(**`Query.shows_eq_of_agree`**).

The required fields are gathered by one walk through the query, and they are read by others: the tests
of the compiled filter, the keys of the sort, and the scalars of the projections. For the filter, the
walks are put side by side on its reading (`Filter.readsAt_field`). A test only stands where nothing
more can be required, since the kind of its field leads to no type, so it meets the same values. The
sort and the projections may meet objects that agree in part only, but these all count alike.
-/

namespace ContentQuery

/-! ## The filter -/

/-- Related lists have an element with a property together. -/
theorem any_eq_of_forall₂ {α β : Type} {R : α → β → Prop} {f : α → Bool} {g : β → Bool}
    {as : List α} {bs : List β} (h : List.Forall₂ R as bs) (hfg : ∀ a b, R a b → f a = g b) :
    as.any f = bs.any g := by
  induction h with
  | nil => rfl
  | @cons a b as bs hab _ ih => rw [List.any_cons, List.any_cons, hfg a b hab, ih]

namespace Filter

variable {r : Registry}

/-- Tests are for fields that lead to no type. -/
theorem objectType?_of_testFor {field : Field} {path name : String} {operand : Json} {test : Test}
    (h : testFor field path name operand = .ok test) : field.kind.objectType? = none := by
  cases hkind : field.kind with
  | leaf _ | leafList _ => rfl
  | object _ | objectList _ =>
      have hnone : field.kind.operators.isEmpty := by rw [hkind]; rfl
      simp only [testFor, if_pos hnone] at h
      cases h

mutual

/-- A compiled filter on an object reads the same of objects that agree on what it requires. -/
theorem readsAt_root {t : ObjectType} (filter : Filter) {out p : Predicate}
    (hcompile : compileObject r t filter out = .ok p) {set required : RequiredFields}
    (hwithin : (RequiredFields.addFilter filter set).Within required)
    (hdeclares : r.DeclaresAll t required) {a b : Json.Object} (h : required.Agree a b) :
    readsAt r (.root t a) filter = readsAt r (.root t b) filter := by
  match filter with
  | [] => rfl
  | entry :: rest =>
      obtain ⟨name, inner, field, next, rfl, hfield, hnext, hcompile⟩ :=
        compileObject_cons.mp hcompile
      rw [RequiredFields.addFilter, RequiredFields.addEntry] at hwithin
      obtain ⟨more, hmem, hinner⟩ := (RequiredFields.within_insert
        ⟨name, RequiredFields.addFilter inner []⟩ set).1.trans
        ((RequiredFields.within_addFilter rest _).trans hwithin)
      obtain ⟨other, hother, hinside⟩ := Registry.declares_iff.mp (hdeclares.of_mem hmem)
      rw [hfield] at hother
      obtain rfl := Option.some.inj hother
      have hchild : ∀ object, (Scope.root t object).child? r name =
          some (.field field [.member name object]) := by
        intro object
        simp [Scope.child?, Scope.type?, Scope.step, hfield]
      have hslots := List.Forall₂.cons (h.member hmem) .nil
      rw [readsAt, readsAt, readsEntry, readsEntry, hchild, hchild, Option.any_some,
        Option.any_some, readsAt_field inner hnext hinner hinside hslots,
        readsAt_root rest hcompile hwithin hdeclares h]
termination_by sizeOf filter

/-- A compiled filter on a field reads the same in slots that agree on what it requires. -/
theorem readsAt_field {field : Field} {path : String} (filter : Filter) {out p : Predicate}
    (hcompile : compileField r field path filter out = .ok p) {set required : RequiredFields}
    (hwithin : (RequiredFields.addFilter filter set).Within required)
    (hdeclares : r.DeclaresInside field required) {slots slots' : List Slot}
    (h : List.Forall₂ (Slot.Agree required) slots slots') :
    readsAt r (.field field slots) filter = readsAt r (.field field slots') filter := by
  match filter with
  | [] => rfl
  | .operator name operand :: rest =>
      obtain ⟨test, htest, -⟩ := compileField_operator.mp hcompile
      -- Nothing can be required inside such a field, so the slots are the same.
      obtain rfl := hdeclares.eq_nil (objectType?_of_testFor htest)
      have hslots : slots = slots' := by
        rw [← List.forall₂_eq_eq_eq]
        exact h.imp fun _ _ hslot => hslot.eq
      rw [hslots]
  | .elemMatch inner :: rest =>
      obtain ⟨element, t, nested, hkind, ht, hnested, hcompile⟩ :=
        compileField_elemMatch.mp hcompile
      rw [RequiredFields.addFilter, RequiredFields.addEntry] at hwithin
      have hobject : field.kind.objectType? = some element := by rw [hkind]; rfl
      have helements : ∀ slots, (Scope.field field slots).elements r =
          (slots.flatMap Slot.elements).map (.root t) := by
        intro slots
        simp [Scope.elements, Scope.type?, hobject, ht]
      have hinner := (RequiredFields.within_addFilter rest _).trans hwithin
      have hobjects := List.rel_flatMap h fun _ _ hslot => Slot.Agree.elements hslot
      rw [readsAt, readsAt, readsEntry, readsEntry, helements, helements, List.any_map,
        List.any_map, readsAt_field rest hcompile hwithin hdeclares h]
      congr 1
      apply any_eq_of_forall₂ hobjects
      intro a b hab
      exact readsAt_root inner hnested hinner (hdeclares.all hobject ht) hab
  | .field name inner :: rest =>
      obtain ⟨typeName, t, child, next, hobject, ht, hfield, hnext, hcompile⟩ :=
        compileField_field.mp hcompile
      rw [RequiredFields.addFilter, RequiredFields.addEntry] at hwithin
      obtain ⟨more, hmem, hinner⟩ := (RequiredFields.within_insert
        ⟨name, RequiredFields.addFilter inner []⟩ set).1.trans
        ((RequiredFields.within_addFilter rest _).trans hwithin)
      obtain ⟨other, hother, hinside⟩ :=
        Registry.declares_iff.mp ((hdeclares.all hobject ht).of_mem hmem)
      rw [hfield] at hother
      obtain rfl := Option.some.inj hother
      have hchild : ∀ slots, (Scope.field field slots).child? r name =
          some (.field child (slots.flatMap (Slot.step name))) := by
        intro slots
        simp [Scope.child?, Scope.type?, Scope.step, hobject, ht, hfield]
      have hslots := List.rel_flatMap h fun _ _ hslot => Slot.Agree.step hslot hmem
      rw [readsAt, readsAt, readsEntry, readsEntry, hchild, hchild, Option.any_some,
        Option.any_some, readsAt_field inner hnext hinner hinside hslots,
        readsAt_field rest hcompile hwithin hdeclares h]
termination_by sizeOf filter

end

end Filter

/-! ## What is looked at -/

namespace Query

variable {r : Registry} {q : Query} {p : Predicate}

/-- **The predicate** of a checked query looks at required fields only. -/
theorem holds_eq_of_agree (hr : r.PlainNames) (hcheck : Engine.check r q = .ok p)
    {a b : Json.Object} (h : q.required.Agree a b) : p.holds a = p.holds b := by
  obtain ⟨hcompile, -, -⟩ := of_check hcheck
  obtain ⟨t, compiled, ht, hobject, rfl⟩ := Filter.compile_eq_ok_iff.mp hcompile
  obtain ⟨t', ht', hdeclares⟩ := declares_required hcheck
  rw [ht] at ht'
  obtain rfl := Option.some.inj ht'
  have hplain := hr.type ht
  have hwithin : (RequiredFields.addFilter (q.args.filter.getD []) []).Within q.required :=
    (RequiredFields.within_foldl_addPath _ _).2
  rw [Filter.compileObject_reads hr hplain a _ hobject,
    Filter.compileObject_reads hr hplain b _ hobject,
    Filter.readsAt_root _ hobject hwithin hdeclares h]
  rfl

theorem within_required {path : String}
    (hpath : path ∈ (q.args.sort.getD []).paths ++ q.projections.map (·.path)) :
    (RequiredFields.ofSteps (Path.steps path)).Within q.required :=
  (RequiredFields.within_foldl_addPath _ _).1 path hpath

/-- **The sort** looks at required fields only. -/
theorem resolve_hollow_of_agree {a b : Json.Object} (h : q.required.Agree a b) {path : String}
    (hpath : path ∈ (q.args.sort.getD []).paths) :
    (Path.resolve a path).hollow = (Path.resolve b path).hollow :=
  h.walkDirect_hollow (within_required (List.mem_append_left _ hpath))

/-- **The projections** look at required fields only. -/
theorem scalarsAt_eq_of_agree {n m : Node} (h : q.required.Agree n.body m.body)
    {projection : Projection} (hprojection : projection ∈ q.projections) :
    n.scalarsAt projection.path = m.scalarsAt projection.path := by
  have hpath := List.mem_map_of_mem (f := Projection.path) hprojection
  have hlookup := h.walk_hollow (within_required (List.mem_append_right _ hpath))
  -- Hollow slots have the same scalars, so those of a node can be read off its hollow slots.
  have hscalars : ∀ n : Node, n.scalarsAt projection.path =
      ((Path.lookup n.body projection.path).map Slot.hollow).flatMap Slot.scalars := by
    intro n
    rw [List.flatMap_map]
    simp only [Slot.scalars_hollow]
    rfl
  rw [hscalars, hscalars]
  exact congrArg _ hlookup

end Query

/-- The order by some keys is told by what these meet, up to objects. -/
theorem SortSpec.order_eq {spec : SortSpec} {a a' b b' : Json.Object}
    (ha : ∀ path ∈ spec.paths, (Path.resolve a path).hollow = (Path.resolve a' path).hollow)
    (hb : ∀ path ∈ spec.paths, (Path.resolve b path).hollow = (Path.resolve b' path).hollow) :
    spec.order a b = spec.order a' b' := by
  induction spec with
  | nil => rfl
  | cons key rest ih =>
      have hkey : key.order a b = key.order a' b' := by
        rw [SortKey.order, SortKey.order, ← Slot.order_hollow, ha key.path List.mem_cons_self,
          hb key.path List.mem_cons_self, Slot.order_hollow]
      rw [order, order, hkey, ih (fun path hmem => ha path (List.mem_cons_of_mem _ hmem))
        (fun path hmem => hb path (List.mem_cons_of_mem _ hmem))]

/-! ## Nodes that stand for each other -/

/-- Sorting keeps lists related, if the comparisons cannot tell related elements apart. -/
theorem forall₂_mergeSort {α β : Type} {R : α → β → Prop} {le : α → α → Bool} {le' : β → β → Bool}
    (hle : ∀ a b c d, R a b → R c d → le a c = le' b d) {as : List α} {bs : List β}
    (h : List.Forall₂ R as bs) : List.Forall₂ R (as.mergeSort le) (bs.mergeSort le') := by
  obtain ⟨hlength, hzip⟩ := List.forall₂_iff_zip.mp h
  -- Both are sorted as the first and the second parts of their pairs.
  have hfst : (as.zip bs).map Prod.fst = as := List.map_fst_zip (Nat.le_of_eq hlength)
  have hsnd : (as.zip bs).map Prod.snd = bs := List.map_snd_zip (Nat.le_of_eq hlength.symm)
  have hleft := List.map_mergeSort (f := Prod.fst) (l := as.zip bs)
    (r := fun x y => le x.1 y.1) (s := le) fun _ _ _ _ => rfl
  have hright := List.map_mergeSort (f := Prod.snd) (l := as.zip bs)
    (r := fun x y => le x.1 y.1) (s := le') fun x hx y hy => hle _ _ _ _ (hzip hx) (hzip hy)
  rw [hfst] at hleft
  rw [hsnd] at hright
  rw [← hleft, ← hright, List.forall₂_map_left_iff, List.forall₂_map_right_iff,
    List.forall₂_same]
  intro pair hpair
  exact hzip (List.mem_mergeSort.mp hpair)

theorem rel_head? {α β : Type} {R : α → β → Prop} {as : List α} {bs : List β}
    (h : List.Forall₂ R as bs) : Option.Rel R as.head? bs.head? := by
  cases h with
  | nil => exact .none
  | cons hab _ => exact .some hab

/-- What running a predicate over some nodes comes to. -/
theorem NodeSource.run_plain (nodes : List Node) (p : Predicate) (sort : Option SortSpec)
    (firstOnly : Bool) :
    ((plain nodes).run p sort firstOnly).map Run.answer =
      match p.unknown? with
      | some operator => .error ⟨operator⟩
      | none =>
        let sorted := (sort.getD []).sort (nodes.filter fun n => p.holds n.body)
        .ok (if firstOnly then .one sorted.head? else .many sorted) := by
  have hfound : (Run.scan (plain nodes) (Run.candidates? (plain nodes) p)).filter
      (fun n => p.holds n.body) = nodes.filter fun n => p.holds n.body :=
    Run.filter_scan_candidates? (sound_plain nodes) p
  unfold NodeSource.run
  cases p.unknown? with
  | some operator => rfl
  | none => simp only [Except.map, hfound]

/-- Nodes with one stamp, which agree on what is required. -/
structure Node.Twin (required : RequiredFields) (n m : Node) : Prop where
  stamp : n.stamp = m.stamp
  agree : required.Agree n.body m.body

namespace Answer

/-- Answers of one sort, whose nodes are related one by one. -/
inductive Related (R : Node → Node → Prop) : Answer → Answer → Prop
  | many {nodes nodes' : List Node} (h : List.Forall₂ R nodes nodes') :
      Related R (.many nodes) (.many nodes')
  | one {node node' : Option Node} (h : Option.Rel R node node') : Related R (.one node) (.one node')

variable {R : Node → Node → Prop} {a b : Answer}

theorem Related.nodes (h : Related R a b) : List.Forall₂ R a.nodes b.nodes := by
  cases h with
  | many h => exact h
  | one h =>
      cases h with
      | some h => exact .cons h .nil
      | none => exact .nil

theorem Related.paginate (h : Related R a b) (skip limit : Option Nat) :
    Related R (a.paginate skip limit) (b.paginate skip limit) := by
  cases h with
  | many h =>
      cases limit with
      | none => exact .many (List.forall₂_drop _ h)
      | some n => exact .many (List.forall₂_take _ (List.forall₂_drop _ h))
  | one h => exact .one h

end Answer

namespace Query

variable {r : Registry} {q : Query} {p : Predicate} {nodes nodes' : List Node}

/-- A query that looks alike at related nodes selects related ones. -/
theorem run_related {R : Node → Node → Prop}
    (hholds : ∀ n m, R n m → p.holds n.body = p.holds m.body)
    (hsort : ∀ n m n' m', R n m → R n' m' →
      (q.args.sort.getD []).notAfter n n' = (q.args.sort.getD []).notAfter m m')
    (h : List.Forall₂ R nodes nodes') :
    (∃ e, ((NodeSource.plain nodes).run p q.args.sort q.firstOnly).map Run.answer = .error e ∧
        ((NodeSource.plain nodes').run p q.args.sort q.firstOnly).map Run.answer = .error e) ∨
      ∃ a b, ((NodeSource.plain nodes).run p q.args.sort q.firstOnly).map Run.answer = .ok a ∧
        ((NodeSource.plain nodes').run p q.args.sort q.firstOnly).map Run.answer = .ok b ∧
          Answer.Related R a b := by
  rw [NodeSource.run_plain, NodeSource.run_plain]
  cases p.unknown? with
  | some operator => exact .inl ⟨_, rfl, rfl⟩
  | none =>
      refine .inr ⟨_, _, rfl, rfl, ?_⟩
      have hfound := List.rel_filter (p := fun n => p.holds n.body) (q := fun n => p.holds n.body)
        (fun n m hnm => by simp [hholds n m hnm]) h
      have hsorted := forall₂_mergeSort hsort hfound
      by_cases hfirst : q.firstOnly
      · simp only [if_pos hfirst]
        exact .one (rel_head? hsorted)
      · simp only [if_neg hfirst]
        exact .many hsorted

end Query

namespace Group

variable {required : RequiredFields}

/-- Groups of one value, whose nodes stand for each other one by one. -/
structure Twin (required : RequiredFields) (g g' : Group) : Prop where
  value : g.value = g'.value
  nodes : List.Forall₂ (Node.Twin required) g.nodes g'.nodes

theorem Twin.add {n m : Node} (hnm : n.Twin required m) (value : Json) {groups groups' : List Group}
    (h : List.Forall₂ (Twin required) groups groups') :
    List.Forall₂ (Twin required) (add value n groups) (add value m groups') := by
  induction h with
  | nil => exact .cons ⟨rfl, .cons hnm .nil⟩ .nil
  | @cons g g' rest rest' hg hrest ih =>
      rw [Group.add, Group.add, hg.value]
      split
      · exact .cons ⟨rfl, List.rel_append hg.nodes (.cons hnm .nil)⟩ hrest
      · exact .cons hg ih

/-- Nodes that stand for each other are put into the same groups. -/
theorem Twin.addNode {path : String} {n m : Node} (hnm : n.Twin required m)
    (hscalars : n.scalarsAt path = m.scalarsAt path) {groups groups' : List Group}
    (h : List.Forall₂ (Twin required) groups groups') :
    List.Forall₂ (Twin required) (addNode path groups n) (addNode path groups' m) := by
  rw [Group.addNode, Group.addNode, hscalars]
  generalize List.foldl _ [] (m.scalarsAt path) = values
  induction values generalizing groups groups' with
  | nil => exact h
  | cons v rest ih => exact ih (Twin.add hnm v h)

end Group

/-- Nodes that stand for each other, and have the same scalars at a path, make the same groups. -/
theorem groupNodes_twin {required : RequiredFields} {path : String} {nodes nodes' : List Node}
    (h : List.Forall₂ (Node.Twin required) nodes nodes')
    (hscalars : ∀ n m, Node.Twin required n m → n.scalarsAt path = m.scalarsAt path) :
    List.Forall₂ (Group.Twin required) (groupNodes nodes path) (groupNodes nodes' path) := by
  apply forall₂_mergeSort
  · intro a b c d hab hcd
    rw [hab.value, hcd.value]
  · exact List.rel_foldl
      (fun _ _ hgroups n m hnm => Group.Twin.addNode hnm (hscalars n m hnm) hgroups) .nil h

/-- Nodes that stand for each other have the same values. -/
theorem distinctValues_twin {required : RequiredFields} {path : String} {nodes nodes' : List Node}
    (h : List.Forall₂ (Node.Twin required) nodes nodes')
    (hscalars : ∀ n m, Node.Twin required n m → n.scalarsAt path = m.scalarsAt path) :
    distinctValues nodes path = distinctValues nodes' path := by
  have hvalues : nodes.flatMap (·.scalarsAt path) = nodes'.flatMap (·.scalarsAt path) := by
    rw [← List.forall₂_eq_eq_eq]
    apply List.rel_flatMap h
    intro n m hnm
    rw [List.forall₂_eq_eq_eq]
    exact hscalars n m hnm
  rw [distinctValues, distinctValues, hvalues]

/-! ## What a query shows -/

/-- The nodes, each stamped with its position. -/
def numbered (nodes : List Node) : List Node := nodes.mapIdx fun i n => { n with stamp := i }

/-- What a query shows of some nodes. -/
structure Query.Shown where
  /-- Positions of the nodes that it selects, in the order of the answer. -/
  positions : List Nat
  /-- The different values at the path of each projection. -/
  values : List (List Json)
  /-- For each projection, the values at its path and the positions of the nodes that share them. -/
  groups : List (List (Json × List Nat))

/-- What a query shows of an answer. Its projections see the part of the answer that is asked for. -/
def Query.shown (q : Query) (answer : Answer) : Shown :=
  let kept := (answer.paginate q.args.skip q.args.limit).nodes
  { positions := answer.nodes.map (·.stamp)
    values := q.projections.map fun projection => distinctValues kept projection.path
    groups := q.projections.map fun projection =>
      (groupNodes kept projection.path).map fun g => (g.value, g.nodes.map (·.stamp)) }

/-- Runs a query over nodes that are stamped with their positions. -/
def Query.shows (q : Query) (p : Predicate) (nodes : List Node) : Except UnknownOperator Shown :=
  ((NodeSource.plain (numbered nodes)).run p q.args.sort q.firstOnly).map fun run =>
    q.shown run.answer

namespace Query

variable {r : Registry} {q : Query} {p : Predicate} {nodes nodes' : List Node}

theorem shows_eq_map : q.shows p nodes =
    (((NodeSource.plain (numbered nodes)).run p q.args.sort q.firstOnly).map Run.answer).map
      q.shown := by
  unfold shows
  cases (NodeSource.plain (numbered nodes)).run p q.args.sort q.firstOnly <;> rfl

theorem of_mem_zip_numbered {n m : Node} (h : (n, m) ∈ nodes.zip (numbered nodes)) :
    nodes[m.stamp]? = some n ∧ n.body = m.body := by
  obtain ⟨i, hi, heq⟩ := List.getElem_of_mem h
  rw [List.getElem_zip] at heq
  obtain ⟨rfl, rfl⟩ := Prod.mk.inj heq
  simp [numbered]

theorem numbered_twin {required : RequiredFields}
    (h : List.Forall₂ (fun n m : Node => required.Agree n.body m.body) nodes nodes') :
    List.Forall₂ (Node.Twin required) (numbered nodes) (numbered nodes') := by
  obtain ⟨hlength, hget⟩ := List.forall₂_iff_get.mp h
  refine List.forall₂_iff_get.mpr ⟨by simp [numbered, hlength], ?_⟩
  intro i hi hi'
  have hagree := hget i (by simpa [numbered] using hi) (by simpa [numbered] using hi')
  simp only [List.get_eq_getElem] at hagree ⊢
  simp only [numbered, List.getElem_mapIdx]
  exact ⟨rfl, hagree⟩

/-- The same is shown of answers whose nodes stand for each other. -/
theorem shown_twin {a b : Answer} (h : Answer.Related (Node.Twin q.required) a b) :
    q.shown a = q.shown b := by
  have hstamps : ∀ {nodes nodes' : List Node}, List.Forall₂ (Node.Twin q.required) nodes nodes' →
      nodes.map (·.stamp) = nodes'.map (·.stamp) := by
    intro nodes nodes' hnodes
    rw [← List.forall₂_eq_eq_eq, List.forall₂_map_left_iff, List.forall₂_map_right_iff]
    exact hnodes.imp fun _ _ hnm => hnm.stamp
  have hkept := (h.paginate q.args.skip q.args.limit).nodes
  have hscalars : ∀ projection ∈ q.projections, ∀ n m, Node.Twin q.required n m →
      n.scalarsAt projection.path = m.scalarsAt projection.path :=
    fun projection hprojection n m hnm => scalarsAt_eq_of_agree hnm.agree hprojection
  unfold shown
  rw [Shown.mk.injEq]
  refine ⟨hstamps h.nodes, ?_, ?_⟩
  · apply List.map_congr_left
    intro projection hprojection
    exact distinctValues_twin hkept (hscalars projection hprojection)
  · apply List.map_congr_left
    intro projection hprojection
    have hgroups := groupNodes_twin hkept (hscalars projection hprojection)
    rw [← List.forall₂_eq_eq_eq, List.forall₂_map_left_iff, List.forall₂_map_right_iff]
    exact hgroups.imp fun g g' hg => by rw [hg.value, hstamps hg.nodes]

/-- The positions that a query shows are where the nodes of its answer stand. -/
theorem positions_shows {shown : Shown} (h : q.shows p nodes = .ok shown) :
    ∃ run, (NodeSource.plain nodes).run p q.args.sort q.firstOnly = .ok run ∧
      run.answer.nodes.map some = shown.positions.map (nodes[·]?) := by
  have hnodes : List.Forall₂ (fun n m : Node => nodes[m.stamp]? = some n ∧ n.body = m.body)
      nodes (numbered nodes) :=
    List.forall₂_iff_zip.mpr ⟨by simp [numbered], of_mem_zip_numbered⟩
  have hrelated := run_related (q := q) (p := p)
    (fun n m hnm => by rw [hnm.2])
    (fun n m n' m' hnm hnm' => by rw [SortSpec.notAfter, SortSpec.notAfter, hnm.2, hnm'.2]) hnodes
  rw [shows_eq_map] at h
  rcases hrelated with ⟨e, -, herror⟩ | ⟨a, b, hplain, hnumbered, hab⟩
  · rw [herror] at h
    cases h
  · rw [hnumbered] at h
    obtain rfl := Except.ok.inj h
    cases hrun : (NodeSource.plain nodes).run p q.args.sort q.firstOnly with
    | error e => rw [hrun] at hplain; cases hplain
    | ok run =>
        rw [hrun] at hplain
        obtain rfl := Except.ok.inj hplain
        refine ⟨run, rfl, ?_⟩
        rw [shown, List.map_map, ← List.forall₂_eq_eq_eq, List.forall₂_map_left_iff,
          List.forall₂_map_right_iff]
        exact hab.nodes.imp fun _ _ hnm => hnm.1.symm

/-- **Required fields suffice.** In a registry whose field names stand in paths as steps of their own,
a query that passes the check shows the same of two lists of nodes whose bodies agree, position by
position, on the fields it requires: the same positions in the same order, and at the path of every
projection the same values and the same positions in each group. -/
theorem shows_eq_of_agree (hr : r.PlainNames) (hcheck : Engine.check r q = .ok p)
    (h : List.Forall₂ (fun n m : Node => q.required.Agree n.body m.body) nodes nodes') :
    q.shows p nodes = q.shows p nodes' := by
  have htwins := numbered_twin h
  have hrelated := run_related (q := q) (p := p)
    (fun n m hnm => holds_eq_of_agree hr hcheck hnm.agree)
    (fun n m n' m' hnm hnm' => by
      rw [SortSpec.notAfter, SortSpec.notAfter, SortSpec.order_eq
        (fun _ hpath => resolve_hollow_of_agree hnm.agree hpath)
        (fun _ hpath => resolve_hollow_of_agree hnm'.agree hpath)]) htwins
  rw [shows_eq_map, shows_eq_map]
  rcases hrelated with ⟨e, hleft, hright⟩ | ⟨a, b, hleft, hright, hab⟩
  · rw [hleft, hright]
  · rw [hleft, hright]
    exact congrArg Except.ok (shown_twin hab)

/-! ### Articles with and without a title -/

/-- Articles with the mark 3 in some section, the latest marks first, grouped by their marks. -/
def marked : Query where
  typeName := "Article"
  args := {
    filter := some [.field "sections" [.elemMatch [.field "marks" [.operator "in" (.array [.ofNat 3])]]]]
    sort := some [⟨"draft", .descending⟩] }
  projections := [.group "sections.marks"]

def article (draft : Bool) (sections : List Json) (more : Json.Object) : Node where
  id := "article"
  typeName := "Article"
  digest := ""
  body := ("draft", .bool draft) :: ("sections", .array sections) :: more
  stamp := 0

def untitled : List Node := [
  article false [.object [("marks", .array [.ofNat 3])]] [],
  article true [.object [("marks", .ofNat 3)], .object [("marks", .ofNat 5)]] [],
  article true [] []]

/-- The same articles with titles and with notes in their sections, about which nothing is asked. -/
def titledAndNoted : List Node := [
  article false [.object [("note", .null), ("marks", .array [.ofNat 3])]] [("title", .string "a")],
  article true [.object [("marks", .ofNat 3)], .object [("marks", .ofNat 5), ("note", .ofNat 1)]] [],
  article true [] [("title", .string "b")]]

theorem required_marked : marked.required =
    [⟨"sections", [⟨"marks", []⟩]⟩, ⟨"draft", []⟩] := by decide +kernel

/-- What the filter of the query compiles to. -/
def markedPredicate : Predicate := [.elements "sections" [.tests "marks" [.containsAny [.ofNat 3]]]]

theorem check_marked : Engine.check Filter.articleTypes marked = .ok markedPredicate := by
  have hcompile : Filter.compile Filter.articleTypes marked.typeName
      (marked.args.filter.getD []) = .ok markedPredicate := by
    simp only [Filter.compile, Filter.compileObject, Filter.compileField, marked, Option.getD]
    rfl
  have hsort : Engine.checkPaths Filter.articleTypes marked.typeName
      ["draft"] = .ok () := by
    have hsteps : Path.steps "draft" = ["draft"] := by decide +kernel
    rw [Engine.checkPaths, Registry.kindAt, hsteps]
    rfl
  have hprojections : Engine.checkPaths Filter.articleTypes marked.typeName
      ["sections.marks"] = .ok () := by
    have hsteps : Path.steps "sections.marks" = ["sections", "marks"] := by decide +kernel
    rw [Engine.checkPaths, Registry.kindAt, hsteps]
    rfl
  rw [Engine.check, hcompile]
  simp only [bind, Except.bind]
  rw [show (marked.args.sort.getD []).paths = ["draft"] from rfl, hsort,
    show marked.projections.map (·.path) = ["sections.marks"] from rfl, hprojections]
  rfl

theorem positions_marked :
    (marked.shows markedPredicate untitled).toOption.map Shown.positions = some [1, 0] := by
  have hfound : (numbered untitled).filter (fun n => markedPredicate.holds n.body) =
      (numbered untitled).take 2 := by
    with_unfolding_all rfl
  rw [shows_eq_map, NodeSource.run_plain, hfound]
  have horder : ∀ sections sections', SortSpec.order [⟨"draft", .descending⟩]
      (article false sections []).body (article true sections' []).body = .gt := by
    intro sections sections'
    with_unfolding_all rfl
  have hsorted : (marked.args.sort.getD []).sort ((numbered untitled).take 2) =
      ((numbered untitled).take 2).reverse := by
    simp [marked, SortSpec.sort, numbered, untitled, List.mergeSort,
      SortSpec.notAfter, horder]
  rw [hsorted]
  rfl

theorem shows_marked :
    ∃ p, Filter.articleTypes.PlainNames ∧ Engine.check Filter.articleTypes marked = .ok p ∧
      marked.shows p untitled = marked.shows p titledAndNoted ∧
      (marked.shows p untitled).toOption.map Shown.positions = some [1, 0] := by
  have hnames : Filter.articleTypes.PlainNames := by decide
  have hagree : List.Forall₂ (fun n m : Node => marked.required.Agree n.body m.body)
      untitled titledAndNoted := by
    rw [required_marked]
    refine .cons ?_ (.cons ?_ (.cons ?_ .nil)) <;>
      simp [RequiredFields.Agree, RequiredFields.FieldAgrees, article, Json.Object.get?,
        Json.Agrees, Json.AllAgree]
  exact ⟨_, hnames, check_marked, shows_eq_of_agree hnames check_marked hagree, positions_marked⟩

end Query

end ContentQuery
