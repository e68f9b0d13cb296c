import ContentQuery.Proofs.Filter.Along
import ContentQuery.Proofs.Index.Narrowing

/-!
# Bounds on lists

Equality and sets of values look into a list, element by element, and so does an index. A comparison with
a bound does not: a list never compares with anything.

* **`NodeCollection.mem_between_comparison`**: the positions that an index gives for a comparison are
  those of the nodes that have an element which satisfies it.
* **`Filter.bounds_on_lists`**: a comparison on a list field is satisfied by the values that are no
  lists, and by no list.
-/

namespace ContentQuery

/-! ## Slots that are asked -/

theorem Operator.accepts_comparison {op : Operator} (hop : op ∈ comparisons) (kind : FieldKind)
    (bound : Json) (slot : Slot) : op.accepts kind bound slot = slot.asks false (op.meets bound) := by
  rcases mem_comparisons.mp hop with rfl | rfl | rfl | rfl <;> rfl

section Slots

variable {body : Json.Object} {path : String} {question : Json → Bool}

theorem Path.any_asks_iff : (lookup body path).any (Slot.asks false question) ↔
    ∃ v, Slot.value v ∈ lookup body path ∧ question v := by
  rw [List.any_eq_true]
  constructor
  · rintro ⟨slot, hslot, hasks⟩
    cases slot with
    | value v => exact ⟨v, hslot, hasks⟩
    | absent => cases hasks
    | unreachable => cases hasks
  · rintro ⟨v, hv, hquestion⟩
    exact ⟨.value v, hv, hquestion⟩

theorem Path.any_asks_items_iff :
    (lookup body path).any (Slot.asks false fun w => w.items.any question) ↔
      ∃ v, Element body path v ∧ question v := by
  rw [any_asks_iff]
  constructor
  · rintro ⟨w, hw, hany⟩
    obtain ⟨v, hv, hquestion⟩ := List.any_eq_true.mp hany
    exact ⟨v, ⟨w, hw, hv⟩, hquestion⟩
  · rintro ⟨v, ⟨w, hw, hv⟩, hquestion⟩
    exact ⟨w, hw, List.any_eq_true.mpr ⟨v, hv, hquestion⟩⟩

end Slots

/-! ## What an index records -/

namespace NodeCollection

variable {tree : IndexTree} {nodes : Array Node} {path : String} {op : Operator} {bound : Json}
  {key : IndexKey}

/-- The test of a comparison is narrowed to its range. -/
theorem narrow_comparison (hop : op ∈ Operator.comparisons) {kind : FieldKind} {test : Test}
    (htest : Filter.knownTest kind path bound op = .ok test)
    (hkey : IndexKey.ofJson? bound = some key) :
    narrow tree test = some (tree.between (op.low key) (op.high key)) := by
  rcases Operator.mem_comparisons.mp hop with rfl | rfl | rfl | rfl <;> obtain rfl := Except.ok.inj htest <;>
    simp [narrow, hkey, Operator.low, Operator.high]

/-- **An index** gives for a comparison the nodes with an element that satisfies it. -/
theorem mem_between_comparison (ht : tree.Indexes nodes path) (hop : op ∈ Operator.comparisons)
    (hkey : IndexKey.ofJson? bound = some key) {p : Nat} :
    p ∈ tree.between (op.low key) (op.high key) ↔
      ∃ n, nodes[p]? = some n ∧ ∃ v, Path.Element n.body path v ∧ op.meets bound v := by
  rw [IndexTree.mem_between]
  constructor
  · rintro ⟨a, hlow, hhigh, hp⟩
    obtain ⟨n, hn, ha⟩ := (ht.mem_at a p).mp hp
    obtain ⟨v, hv, hva⟩ := Node.mem_keysAt.mp ha
    exact ⟨n, hn, v, hv, (Operator.meets_iff hop hkey).mpr ⟨a, hva, hlow, hhigh⟩⟩
  · rintro ⟨n, hn, v, hv, hmeets⟩
    obtain ⟨a, hva, hlow, hhigh⟩ := (Operator.meets_iff hop hkey).mp hmeets
    exact ⟨a, hlow, hhigh, (ht.mem_at a p).mpr ⟨n, hn, Node.mem_keysAt.mpr ⟨v, hv, hva⟩⟩⟩

end NodeCollection

/-! ## List fields -/

namespace Filter

variable {r : Registry} {typeName : String} {names : List String} {field : Field}

/-- Equality on a list field looks for an element. -/
theorem exists_compile_eq (hfield : r.fieldAt? typeName names = some field)
    (hlist : field.kind.isList) (hop : Operator.eq ∈ field.kind.operators) {w : Json}
    (hw : ¬ w.isNull) :
    ∃ q, compile r typeName (along names [.operator "eq" w]) = .ok q ∧
      ∀ body, Predicate.holds body q ↔
        ∃ v, Path.Element body (Path.ofNames names) v ∧ v.equals w := by
  have htakes : Operator.eq.takes w := rfl
  obtain ⟨q, hq, hholds⟩ := exists_compile_operator hfield hop htakes
  have haccepts : Operator.eq.accepts field.kind w =
      Slot.asks false fun v => v.items.any fun item => item.equals w := by
    funext slot
    simp [Operator.accepts, hw, hlist]
  refine ⟨q, hq, ?_⟩
  intro body
  rw [hholds, haccepts, Path.any_asks_items_iff]

/-- So does a set of values. -/
theorem exists_compile_in (hfield : r.fieldAt? typeName names = some field)
    (hlist : field.kind.isList) (hop : Operator.oneOf ∈ field.kind.operators) (ws : List Json) :
    ∃ q, compile r typeName (along names [.operator "in" (.array ws)]) = .ok q ∧
      ∀ body, Predicate.holds body q ↔
        ∃ v, Path.Element body (Path.ofNames names) v ∧ v.isAmong ws := by
  have htakes : Operator.oneOf.takes (.array ws) := rfl
  obtain ⟨q, hq, hholds⟩ := exists_compile_operator hfield hop htakes
  have haccepts : Operator.oneOf.accepts field.kind (.array ws) =
      Slot.asks false fun v => v.items.any fun item => item.isAmong ws := by
    funext slot
    simp [Operator.accepts, hlist, Json.items]
  refine ⟨q, hq, ?_⟩
  intro body
  rw [hholds, haccepts, Path.any_asks_items_iff]

theorem relaxed_comparison {kind : FieldKind} {path : String} {bound : Json} {op : Operator}
    {test : Test} (hop : op ∈ Operator.comparisons) (h : knownTest kind path bound op = .ok test) :
    test.relaxed = test := by
  rcases Operator.mem_comparisons.mp hop with rfl | rfl | rfl | rfl <;> obtain rfl := Except.ok.inj h <;> rfl

/-- **Bounds on lists.** A comparison on a list of numbers or dates is satisfied by the values that
compare and are no lists; where the path reaches no list, these are its elements. An index on the path
gives the nodes with an element that satisfies the comparison, and equality and sets of values look for
an element, too. -/
theorem bounds_on_lists (hfield : r.fieldAt? typeName names = some field) {type : ScalarType}
    (hkind : field.kind = .leafList (.scalar type)) (htype : type ∈ [ScalarType.int, .float, .date])
    {op : Operator} (hop : op ∈ Operator.comparisons) (bound : Json) :
    ∃ test, compile r typeName (along names [.operator op.name bound]) =
        .ok [.tests (Path.ofNames names) [test]] ∧
      (∀ body, Predicate.holds body [.tests (Path.ofNames names) [test]] ↔
        ∃ v, Slot.value v ∈ Path.lookup body (Path.ofNames names) ∧ v.array? = none ∧
          op.meets bound v) ∧
      (∀ body, (∀ v, Slot.value v ∈ Path.lookup body (Path.ofNames names) → v.array? = none) →
        (Predicate.holds body [.tests (Path.ofNames names) [test]] ↔
          ∃ v, Path.Element body (Path.ofNames names) v ∧ op.meets bound v)) ∧
      (∀ (c : NodeCollection) (tree : IndexTree), c.build (Path.ofNames names) = .ok tree →
        ∀ key, IndexKey.ofJson? bound = some key →
          ∃ positions, NodeCollection.narrow tree test = some positions ∧
            ∀ p, p ∈ positions ↔ ∃ n, c.nodes[p]? = some n ∧
              ∃ v, Path.Element n.body (Path.ofNames names) v ∧ op.meets bound v) ∧
      (∀ w, ¬ w.isNull →
        ∃ q, compile r typeName (along names [.operator "eq" w]) = .ok q ∧
          ∀ body, Predicate.holds body q ↔
            ∃ v, Path.Element body (Path.ofNames names) v ∧ v.equals w) ∧
      ∀ ws, ∃ q, compile r typeName (along names [.operator "in" (.array ws)]) = .ok q ∧
        ∀ body, Predicate.holds body q ↔
          ∃ v, Path.Element body (Path.ofNames names) v ∧ v.isAmong ws := by
  have hlist : field.kind.isList := by rw [hkind]; rfl
  have hops : field.kind.operators = Operator.ordered := by
    rw [hkind]
    simp only [List.mem_cons, List.not_mem_nil, or_false] at htype
    rcases htype with rfl | rfl | rfl <;> rfl
  have hop' : op ∈ field.kind.operators := by
    rw [hops]
    revert op
    decide
  have htakes : op.takes bound := by
    rcases Operator.mem_comparisons.mp hop with rfl | rfl | rfl | rfl <;> rfl
  obtain ⟨test, htest, hcompile, hholds⟩ := compile_operator hfield hop' htakes
  rw [relaxed_comparison hop htest] at hcompile hholds
  have hiff : ∀ body, Predicate.holds body [.tests (Path.ofNames names) [test]] ↔
      ∃ v, Slot.value v ∈ Path.lookup body (Path.ofNames names) ∧ op.meets bound v := by
    intro body
    have haccepts : op.accepts field.kind bound = Slot.asks false (op.meets bound) :=
      funext (Operator.accepts_comparison hop field.kind bound)
    rw [hholds, haccepts, Path.any_asks_iff]
  refine ⟨test, hcompile, ?_, ?_, ?_, ?_, ?_⟩
  · intro body
    rw [hiff]
    constructor
    · rintro ⟨v, hv, hmeets⟩
      exact ⟨v, hv, Operator.array?_of_meets hmeets, hmeets⟩
    · rintro ⟨v, hv, -, hmeets⟩
      exact ⟨v, hv, hmeets⟩
  · intro body hno
    simp only [hiff, Path.element_iff hno]
  · intro c tree hbuild key hkey
    refine ⟨_, NodeCollection.narrow_comparison hop htest hkey, ?_⟩
    intro p
    exact NodeCollection.mem_between_comparison (NodeCollection.indexes_of_build hbuild) hop hkey
  · intro w hw
    exact exists_compile_eq hfield hlist (hops ▸ by decide) hw
  · intro ws
    exact exists_compile_in hfield hlist (hops ▸ by decide) ws

/-! ### Marks above and below a bound -/

theorem bounds_on_lists_marks :
    articleTypes.fieldAt? "Article" ["sections", "marks"] = some marks ∧
      marks.kind = .leafList (.scalar .int) ∧ ScalarType.int ∈ [ScalarType.int, .float, .date] ∧
      Operator.gt ∈ Operator.comparisons ∧
      ∃ test, compile articleTypes "Article"
          (along ["sections", "marks"] [.operator "gt" (.ofNat 3)]) =
          .ok [.tests "sections.marks" [test]] ∧
        (Predicate.holds twoSections [.tests "sections.marks" [test]] ↔
          ∃ v, Slot.value v ∈ Path.lookup twoSections "sections.marks" ∧ v.array? = none ∧
            Operator.gt.meets (.ofNat 3) v) := by
  have hfield : articleTypes.fieldAt? "Article" ["sections", "marks"] = some marks := rfl
  have hkind : marks.kind = .leafList (.scalar .int) := rfl
  have htype : ScalarType.int ∈ [ScalarType.int, .float, .date] := by decide
  have hop : Operator.gt ∈ Operator.comparisons := by decide
  obtain ⟨test, hcompile, hholds, -⟩ := bounds_on_lists hfield hkind htype hop (.ofNat 3)
  exact ⟨hfield, hkind, htype, hop, test, hcompile, hholds twoSections⟩

/-- **A mark below the bound is passed over** in a list of marks. -/
theorem marks_below_bound :
    ∃ p, compile articleTypes "Article"
        (along ["sections", "marks"] [.operator "lt" (.ofNat 5)]) = .ok p ∧
      Predicate.holds twoSections p = false ∧
      ∃ v, Path.Element twoSections "sections.marks" v ∧ Operator.lt.meets (.ofNat 5) v := by
  have hfield : articleTypes.fieldAt? "Article" ["sections", "marks"] = some marks := rfl
  refine ⟨[.tests "sections.marks" [.lt (.ofNat 5)]], ?_, by decide, .ofNat 3, ?_, by decide⟩
  · rw [compile_operator_eq hfield]
    rfl
  · exact ⟨.array [.ofNat 3, .ofNat 7], .head _, .head _⟩

end Filter

end ContentQuery
