import ContentQuery.Proofs.Filter.Along
import ContentQuery.Proofs.Json.Equality
import ContentQuery.Proofs.Node.Walks

/-!
# What a negative operator leaves out

A condition asks for one slot of its path that passes, and so does its negative. Where a path goes
through a list, one slot may pass the one and another slot the other, so that a body satisfies both.

* **`Filter.null_or_value`**: of `eq null` and `ne null` a body satisfies at least one, and exactly one
  where the path reaches one slot. It satisfies both when some element of a list has the value and
  another one lacks it.
* **`Filter.complement_where_reached`**: where the object that the field belongs to is reached, a body
  satisfies one of `eq` and `ne` and one of `in` and `nin`. Only a Boolean that is absent satisfies
  neither `in` nor `nin`.
-/

namespace ContentQuery

/-! ## Operators of a leaf -/

namespace LeafType

/-- All leaves but opaque JSON have the operators of equality. -/
theorem mem_operators {type : LeafType} (h : type ≠ .scalar .json) {op : Operator}
    (hop : op ∈ Operator.equality) : op ∈ type.operators := by
  have hall : ∀ op ∈ Operator.equality, op ∈ Operator.textual ∧ op ∈ Operator.ordered := by decide
  cases type with
  | enum name => exact hop
  | scalar scalar =>
      cases scalar with
      | id | boolean => exact hop
      | string => exact (hall op hop).1
      | int | float | date => exact (hall op hop).2
      | json => exact absurd rfl h

end LeafType

theorem FieldKind.operators_of_leafType? {kind : FieldKind} {type : LeafType}
    (h : kind.leafType? = some type) : kind.operators = type.operators := by
  rw [operators, h]
  rfl

namespace Json

theorem wellFormed_of_mem_items {v item : Json} (h : v.wellFormed) (hitem : item ∈ v.items) :
    item.wellFormed := by
  cases v with
  | array items => exact wellFormedItems_iff.mp h item hitem
  | _ =>
      obtain rfl := List.mem_singleton.mp hitem
      exact h

theorem equals_true (v : Json) : v.equals (.bool true) = v.isTrue := by
  cases v with
  | bool b => cases b <;> rfl
  | _ => rfl

end Json

namespace Operator

theorem accepts_eq_null (kind : FieldKind) (slot : Slot) :
    accepts kind .null .eq slot ↔ slot.present? = none := Option.isNone_iff_eq_none

theorem accepts_ne_null (kind : FieldKind) (slot : Slot) :
    accepts kind .null .ne slot ↔ slot.present? ≠ none := Option.isSome_iff_ne_none

variable {kind : FieldKind} {operand : Json} {slot : Slot}

/-- **`ne` is what `eq` leaves out**, in every slot that is reached. -/
theorem accepts_ne (hoperand : operand.wellFormed) (hslot : ∀ v, slot = .value v → v.wellFormed)
    (hreached : slot ≠ .unreachable) :
    accepts kind operand .ne slot = !accepts kind operand .eq slot := by
  by_cases hnull : operand.isNull
  · simp only [accepts, if_pos hnull, Option.not_isNone]
  · by_cases hlist : kind.isList
    · simp only [accepts, if_neg hnull, if_pos hlist]
      cases slot with
      | value v =>
          -- The two ask for equality from different sides.
          have hitems : ∀ item ∈ v.items, operand.equals item = item.equals operand := by
            intro item hitem
            exact Json.equals_comm hoperand (Json.wellFormed_of_mem_items (hslot v rfl) hitem)
          have hany : (v.items.any fun item => operand.equals item) =
              v.items.any fun item => item.equals operand := by
            rw [Bool.eq_iff_iff, List.any_eq_true, List.any_eq_true]
            refine exists_congr fun item => and_congr_right fun hitem => ?_
            rw [hitems item hitem]
          exact congrArg not hany
      | absent => rfl
      | unreachable => exact absurd rfl hreached
    · by_cases htrue : operand.isTrue
      · simp only [accepts, if_neg hnull, if_neg hlist, if_pos htrue]
        obtain rfl := Filter.eq_true_of_isTrue htrue
        cases slot with
        | value v =>
            show _ = !v.equals (.bool true)
            rw [Json.equals_true]
            cases v <;> rfl
        | absent => rfl
        | unreachable => rfl
      · simp only [accepts, if_neg hnull, if_neg hlist, if_neg htrue]
        cases slot with
        | value v => rfl
        | absent => rfl
        | unreachable => exact absurd rfl hreached

/-- **`nin` is what `in` leaves out**, in every slot that is reached but that of an absent Boolean. -/
theorem accepts_noneOf (hreached : slot ≠ .unreachable)
    (hslot : ¬ (kind.isBoolean ∧ slot = .absent)) :
    accepts kind operand .noneOf slot = !accepts kind operand .oneOf slot := by
  by_cases hlist : kind.isList
  · simp only [accepts, if_pos hlist]
    cases slot with
    | value v => rfl
    | absent => rfl
    | unreachable => exact absurd rfl hreached
  · simp only [accepts, if_neg hlist]
    cases slot with
    | value v => rfl
    | absent =>
        have hboolean : kind.isBoolean = false := by
          rw [Bool.eq_false_iff]
          intro h
          exact hslot ⟨h, rfl⟩
        rw [hboolean]
        rfl
    | unreachable => exact absurd rfl hreached

/-- An absent Boolean is neither in a set nor outside of it. -/
theorem accepts_absent_boolean (hboolean : kind.isBoolean) :
    accepts kind operand .oneOf .absent = false ∧ accepts kind operand .noneOf .absent = false := by
  have hlist : ¬ kind.isList := by
    rw [eq_of_beq hboolean]
    decide
  simp only [accepts, if_neg hlist, hboolean]
  exact ⟨rfl, rfl⟩

end Operator

/-! ## Slots that are reached -/

namespace Path

variable {names : List String} {body : Json.Object}

/-- What stands at the end of a path is well formed if the body is. -/
theorem wellFormed_of_walkDirect (hbody : (Json.object body).wellFormed) {v : Json}
    (h : walkDirect names body = .value v) : v.wellFormed := by
  induction names generalizing body with
  | nil => cases h
  | cons name rest ih =>
      cases rest with
      | nil =>
          rw [walkDirect] at h
          split at h
          · next hget =>
              obtain rfl := Slot.value.inj h
              exact Json.wellFormed_of_get? hbody hget
          · cases h
      | cons next rest =>
          rw [walkDirect] at h
          · split at h
            · next hget => exact ih (Json.wellFormed_of_get? hbody hget) h
            · cases h
          · exact List.cons_ne_nil next rest

end Path

namespace Filter

variable {r : Registry} {typeName : String} {names : List String} {field : Field}

/-- A field without operators rejects every one. -/
theorem error_of_operators_nil (hfield : r.fieldAt? typeName names = some field)
    (h : field.kind.operators = []) (name : String) (operand : Json) :
    ∃ e, compile r typeName (along names [.operator name operand]) = .error e := by
  rw [compile_operator_eq hfield, testFor, h]
  exact ⟨_, rfl⟩

/-- A body satisfies an operator that compiles if the operator accepts some slot of the path. -/
theorem holds_of_compile_operator (hfield : r.fieldAt? typeName names = some field) {op : Operator}
    {operand : Json} {p : Predicate}
    (h : compile r typeName (along names [.operator op.name operand]) = .ok p) (body : Json.Object) :
    Predicate.holds body p =
      (Path.lookup body (Path.ofNames names)).any (op.accepts field.kind operand) := by
  have hname : Operator.ofName? op.name = some op := by cases op <;> rfl
  rw [compile_operator_eq hfield] at h
  cases htest : testFor field (Path.ofNames names) op.name operand with
  | error e => rw [htest] at h; cases h
  | ok test =>
      rw [htest] at h
      obtain rfl := Except.ok.inj h
      have hpasses := any_passes_testFor htest (Path.lookup body (Path.ofNames names))
      simpa [Predicate.holds, Predicate.holdsCondition, Scope.accepts, hname] using hpasses

/-! ## Null or a value -/

/-- **Null or a value.** On a leaf that takes operators, `eq null` is satisfied where the path reaches a
slot without a value, and `ne null` where it reaches one with a value. A body satisfies at least one of
them, and exactly one if the path meets no list before its last step. -/
theorem null_or_value (hfield : r.fieldAt? typeName names = some field) {type : LeafType}
    (htype : field.kind.leafType? = some type) :
    (type = .scalar .json → ∀ name, ∃ e,
      compile r typeName (along names [.operator name .null]) = .error e) ∧
    (type ≠ .scalar .json → ∃ p q,
      compile r typeName (along names [.operator "eq" .null]) = .ok p ∧
      compile r typeName (along names [.operator "ne" .null]) = .ok q ∧
      ∀ body,
        (Predicate.holds body p ↔
          ∃ slot ∈ Path.lookup body (Path.ofNames names), slot.present? = none) ∧
        (Predicate.holds body q ↔
          ∃ slot ∈ Path.lookup body (Path.ofNames names), slot.present? ≠ none) ∧
        (Predicate.holds body p ∨ Predicate.holds body q) ∧
        (Path.straight (Path.steps (Path.ofNames names)) body →
          (Predicate.holds body p ↔ ¬ Predicate.holds body q))) := by
  have hops := FieldKind.operators_of_leafType? htype
  constructor
  · rintro rfl name
    exact error_of_operators_nil hfield hops name .null
  · intro hjson
    have heq : Operator.eq ∈ field.kind.operators := hops ▸ LeafType.mem_operators hjson (by decide)
    have hne : Operator.ne ∈ field.kind.operators := hops ▸ LeafType.mem_operators hjson (by decide)
    obtain ⟨p, hp, hholds⟩ := exists_compile_operator hfield heq rfl
    obtain ⟨q, hq, hholds'⟩ := exists_compile_operator hfield hne rfl
    refine ⟨p, q, hp, hq, ?_⟩
    intro body
    have hnone : Predicate.holds body p ↔
        ∃ slot ∈ Path.lookup body (Path.ofNames names), slot.present? = none := by
      rw [hholds, List.any_eq_true]
      simp only [Operator.accepts_eq_null]
    have hsome : Predicate.holds body q ↔
        ∃ slot ∈ Path.lookup body (Path.ofNames names), slot.present? ≠ none := by
      rw [hholds', List.any_eq_true]
      simp only [Operator.accepts_ne_null]
    refine ⟨hnone, hsome, ?_, ?_⟩
    · -- Any slot of the path decides for one of the two, and there always is one.
      rw [hnone, hsome]
      obtain ⟨slot, hslot⟩ :=
        List.exists_mem_of_ne_nil _ (Path.lookup_ne_nil body (Path.ofNames names))
      by_cases h : slot.present? = none
      · exact .inl ⟨slot, hslot, h⟩
      · exact .inr ⟨slot, hslot, h⟩
    · intro hstraight
      rw [hnone, hsome, Path.lookup_of_straight hstraight]
      simp

/-! ## One or the other -/

/-- **One or the other.** Where a body has the object that a field belongs to, behind no list, it
satisfies either `eq` or `ne` of an operand and either `in` or `nin` of a set. The one exception is a
Boolean that the object lacks: it satisfies neither `in` nor `nin`. -/
theorem complement_where_reached (hfield : r.fieldAt? typeName names = some field)
    {body : Json.Object} (hbody : (Json.object body).wellFormed)
    (hreached : Path.resolve body (Path.ofNames names) ≠ .unreachable) :
    (∀ operand p q, operand.wellFormed →
      compile r typeName (along names [.operator "eq" operand]) = .ok p →
      compile r typeName (along names [.operator "ne" operand]) = .ok q →
      (Predicate.holds body p ↔ ¬ Predicate.holds body q)) ∧
    (∀ operand p q,
      compile r typeName (along names [.operator "in" operand]) = .ok p →
      compile r typeName (along names [.operator "nin" operand]) = .ok q →
      (¬ (field.kind.isBoolean ∧ Path.resolve body (Path.ofNames names) = .absent) →
        (Predicate.holds body p ↔ ¬ Predicate.holds body q)) ∧
      (field.kind.isBoolean ∧ Path.resolve body (Path.ofNames names) = .absent →
        ¬ Predicate.holds body p ∧ ¬ Predicate.holds body q)) := by
  have hlookup : Path.lookup body (Path.ofNames names) = [Path.resolve body (Path.ofNames names)] :=
    Path.lookup_of_straight (Path.straight_of_walkDirect hreached)
  -- There is one slot, so that an operator holds where it accepts that slot.
  have hholds : ∀ (op : Operator) {operand : Json} {p : Predicate},
      compile r typeName (along names [.operator op.name operand]) = .ok p →
      Predicate.holds body p =
        op.accepts field.kind operand (Path.resolve body (Path.ofNames names)) := by
    intro op operand p h
    rw [holds_of_compile_operator hfield h, hlookup, List.any_cons, List.any_nil, Bool.or_false]
  constructor
  · intro operand p q hoperand hp hq
    have hslot : ∀ v, Path.resolve body (Path.ofNames names) = .value v → v.wellFormed := by
      intro v hv
      exact Path.wellFormed_of_walkDirect hbody hv
    rw [hholds .eq hp, hholds .ne hq, Operator.accepts_ne hoperand hslot hreached]
    simp
  · intro operand p q hp hq
    rw [hholds .oneOf hp, hholds .noneOf hq]
    constructor
    · intro hpresent
      rw [Operator.accepts_noneOf hreached hpresent]
      simp
    · rintro ⟨hboolean, habsent⟩
      rw [habsent]
      simpa using Operator.accepts_absent_boolean hboolean

/-! ### An article without sections -/

/-- One section where a list of them should be. -/
def oneSection : Json.Object := [("sections", .object [("marks", .array [.ofNat 3])])]

theorem complement_where_reached_marks :
    articleTypes.fieldAt? "Article" ["sections", "marks"] = some marks ∧
      (Json.object oneSection).wellFormed ∧
      Path.resolve oneSection (Path.ofNames ["sections", "marks"]) ≠ .unreachable ∧
      ∃ p q,
        compile articleTypes "Article" (along ["sections", "marks"]
          [.operator "eq" (.ofNat 3)]) = .ok p ∧
        compile articleTypes "Article" (along ["sections", "marks"]
          [.operator "ne" (.ofNat 3)]) = .ok q ∧
        (Predicate.holds oneSection p ↔ ¬ Predicate.holds oneSection q) := by
  have hfield : articleTypes.fieldAt? "Article" ["sections", "marks"] = some marks := rfl
  have hbody : (Json.object oneSection).wellFormed := by decide
  have hreached : Path.resolve oneSection (Path.ofNames ["sections", "marks"]) ≠ .unreachable := by
    have hslot : Path.resolve oneSection (Path.ofNames ["sections", "marks"]) =
      .value (.array [.ofNat 3]) := rfl
    rw [hslot]
    exact Slot.noConfusion
  have hp : compile articleTypes "Article" (along ["sections", "marks"] [.operator "eq" (.ofNat 3)]) =
      .ok [.tests "sections.marks" [.contains (.ofNat 3)]] := by
    rw [compile_operator_eq hfield]
    rfl
  have hq : compile articleTypes "Article" (along ["sections", "marks"] [.operator "ne" (.ofNat 3)]) =
      .ok [.tests "sections.marks" [.containsNone [.ofNat 3]]] := by
    rw [compile_operator_eq hfield]
    rfl
  obtain ⟨hone, -⟩ := complement_where_reached hfield hbody hreached
  exact ⟨hfield, hbody, hreached, _, _, hp, hq, hone (.ofNat 3) _ _ (by decide) hp hq⟩

-- An article that does not say whether it is a draft is neither in a set of Booleans nor outside of it.
example : Predicate.holds oneSection [.tests "draft" [.oneOf [.bool false]]] = false ∧
    Predicate.holds oneSection [.tests "draft" [.noneOf [.bool false] true]] = false := by
  decide

/-! ### An article whose sections differ -/

/-- One section has marks, the other one has none. -/
def unevenSections : Json.Object := [
  ("sections", .array [.object [("marks", .array [.ofNat 3])], .object []])]

theorem null_or_value_marks :
    articleTypes.fieldAt? "Article" ["sections", "marks"] = some marks ∧
      ∃ p q,
        compile articleTypes "Article" (along ["sections", "marks"] [.operator "eq" .null]) = .ok p ∧
        compile articleTypes "Article" (along ["sections", "marks"] [.operator "ne" .null]) = .ok q ∧
        (Predicate.holds [("sections", .null)] p ↔ ¬ Predicate.holds [("sections", .null)] q) := by
  have hfield : articleTypes.fieldAt? "Article" ["sections", "marks"] = some marks := rfl
  have htype : marks.kind.leafType? = some (.scalar .int) := rfl
  obtain ⟨p, q, hp, hq, hboth⟩ := (null_or_value hfield htype).2 (by decide)
  obtain ⟨-, -, -, hone⟩ := hboth [("sections", .null)]
  exact ⟨hfield, p, q, hp, hq, hone (by decide)⟩

/-- **Null and a value.** Where sections differ, an article satisfies both `eq null` and `ne null`. -/
theorem null_and_value :
    articleTypes.fieldAt? "Article" ["sections", "marks"] = some marks ∧
      ∃ p q,
        compile articleTypes "Article" (along ["sections", "marks"] [.operator "eq" .null]) = .ok p ∧
        compile articleTypes "Article" (along ["sections", "marks"] [.operator "ne" .null]) = .ok q ∧
        Predicate.holds unevenSections p ∧ Predicate.holds unevenSections q := by
  have hfield : articleTypes.fieldAt? "Article" ["sections", "marks"] = some marks := rfl
  refine ⟨hfield, [.tests "sections.marks" [.missing]], [.tests "sections.marks" [.present]], ?_, ?_, ?_⟩
  · rw [compile_operator_eq hfield]
    rfl
  · rw [compile_operator_eq hfield]
    rfl
  · decide

end Filter

end ContentQuery
