import ContentQuery.Proofs.Query.Merging
import ContentQuery.Proofs.Snapshot.Spending

/-!
# One field after the other

Required fields are completed in their order, each in the object that the ones before it left. So
completing two sets of fields that have no name in common is completing the first and then, in what
comes of it, the second: it is the same work (**`Node.completion_merge`**), and it can end with the same
bodies and errors (`Work.ends_bind_iff`).

Where resolvers are pure, work has one value (`Work.toOption_of_ends`), and the work on required fields
has the value that resolving them afresh gives (**`Completion.toOption_of_ends_fields`**).
-/

namespace ContentQuery

open Json (Object)

namespace Work

variable {S : NodeStore → Prop} {store : NodeStore}

/-! ## Going on with a value -/

theorem bind_assoc (w : Work) (k l : Json → Work) :
    (w.bind k).bind l = w.bind fun v => (k v).bind l := by
  cases w with
  | done v => rfl
  | failed e => rfl
  | call resolver request next =>
      exact congrArg (call resolver request) (funext fun answer => bind_assoc (next answer) k l)
  | waiting pauses answer next =>
      exact congrArg (waiting pauses answer) (funext fun a => bind_assoc (next a) k l)
  | join parts next => exact congrArg (join parts) (funext fun vs => bind_assoc (next vs) k l)
  | crowd number parts next =>
      exact congrArg (crowd number parts) (funext fun vs => bind_assoc (next vs) k l)

theorem EndsAfter.of_bind {parts : List Work} {next : List Json → Work} {k : Json → Work}
    {r r' : Except SnapshotError Json} (h : EndsAfter S parts next r')
    (hnext : ∀ vs, Ends S (next vs) r' → Ends S ((next vs).bind k) r)
    (herror : ∀ e, r' = .error e → r = .error e) :
    EndsAfter S parts (fun vs => (next vs).bind k) r := by
  rcases h with ⟨vs, hvs, h⟩ | ⟨e, he, hfail⟩
  · exact .inl ⟨vs, hvs, hnext vs h⟩
  · exact .inr ⟨e, herror e he, hfail⟩

/-- Work that has a value goes on with it, and work that fails ends what was to follow. -/
theorem ends_bind_of_ends (w : Work) {k : Json → Work} {r r' : Except SnapshotError Json}
    (h : Ends S w r') (hvalue : ∀ v, r' = .ok v → Ends S (k v) r)
    (herror : ∀ e, r' = .error e → r = .error e) : Ends S (w.bind k) r := by
  cases w with
  | done v => exact hvalue v h
  | failed e => exact herror e h
  | call resolver request next =>
      obtain ⟨attempt, store, hS, h⟩ := h
      exact ⟨attempt, store, hS, ends_bind_of_ends (next _) h hvalue herror⟩
  | waiting pauses answer next =>
      obtain ⟨store, hS, h⟩ := h
      exact ⟨store, hS, ends_bind_of_ends (next _) h hvalue herror⟩
  | join parts next =>
      exact EndsAfter.of_bind h (fun vs h => ends_bind_of_ends (next vs) h hvalue herror) herror
  | crowd number parts next =>
      exact EndsAfter.of_bind h (fun vs h => ends_bind_of_ends (next vs) h hvalue herror) herror

/-- **What two works, one after the other, can end with**: what the second can end with after some value
of the first, or a failure of the first. -/
theorem ends_bind_iff (w : Work) {k : Json → Work} {r : Except SnapshotError Json} :
    Ends S (w.bind k) r ↔
      (∃ v, Ends S w (.ok v) ∧ Ends S (k v) r) ∨ ∃ e, r = .error e ∧ Ends S w (.error e) := by
  constructor
  · exact of_ends_bind w
  · rintro (⟨v, hv, hk⟩ | ⟨e, rfl, he⟩)
    · refine ends_bind_of_ends w hv ?_ ?_
      · rintro _ ⟨⟩
        exact hk
      · rintro _ ⟨⟩
    · refine ends_bind_of_ends w he ?_ ?_
      · rintro _ ⟨⟩
      · rintro _ ⟨⟩
        rfl

/-! ## The value of pure work -/

mutual

/-- **Some way to end** there always is. -/
theorem exists_ends (hstore : S store) (w : Work) : ∃ r, Ends S w r := by
  cases w with
  | done v => exact ⟨.ok v, rfl⟩
  | failed e => exact ⟨.error e, rfl⟩
  | call resolver request next =>
      obtain ⟨r, hr⟩ := exists_ends hstore (next ((resolver.reply 1 request).answer store))
      exact ⟨r, 1, store, hstore, hr⟩
  | waiting pauses answer next =>
      obtain ⟨r, hr⟩ := exists_ends hstore (next (answer store))
      exact ⟨r, store, hstore, hr⟩
  | join parts next =>
      rcases exists_allEnd hstore parts with ⟨vs, hvs⟩ | ⟨e, he⟩
      · obtain ⟨r, hr⟩ := exists_ends hstore (next vs)
        exact ⟨r, .inl ⟨vs, hvs, hr⟩⟩
      · exact ⟨.error e, .inr ⟨e, rfl, he⟩⟩
  | crowd number parts next =>
      rcases exists_allEnd hstore parts with ⟨vs, hvs⟩ | ⟨e, he⟩
      · obtain ⟨r, hr⟩ := exists_ends hstore (next vs)
        exact ⟨r, .inl ⟨vs, hvs, hr⟩⟩
      · exact ⟨.error e, .inr ⟨e, rfl, he⟩⟩

theorem exists_allEnd (hstore : S store) (parts : List Work) :
    (∃ vs, AllEnd S parts vs) ∨ ∃ e, AnyFails S parts e := by
  cases parts with
  | nil => exact .inl ⟨[], rfl⟩
  | cons w rest =>
      obtain ⟨r, hr⟩ := exists_ends hstore w
      rcases exists_allEnd hstore rest with ⟨vs, hvs⟩ | ⟨e, he⟩
      · cases r with
        | ok v => exact .inl ⟨v :: vs, v, vs, rfl, hr, hvs⟩
        | error e => exact .inr ⟨e, .inl hr⟩
      · exact .inr ⟨e, .inr he⟩

end

theorem toOption_of_endsAfter {parts : List Work} {next : List Json → Work}
    {r : Except SnapshotError Json} (h : EndsAfter S parts next r)
    (hall : ∀ vs, AllEnd S parts vs → yieldAll store parts = some vs)
    (hfails : ∀ e, AnyFails S parts e → yieldAll store parts = none)
    (hnext : ∀ vs, Ends S (next vs) r → r.toOption = (next vs).yields store) :
    r.toOption = (join parts next).yields store := by
  rw [yields]
  rcases h with ⟨vs, hvs, h⟩ | ⟨e, rfl, hfail⟩
  · rw [hall vs hvs]
    exact hnext vs h
  · rw [hfails e hfail]
    rfl

mutual

/-- **Pure work has one value**, or it fails in any case. -/
theorem toOption_of_ends (hstore : S store) (w : Work) (hw : w.Pure S) {r : Except SnapshotError Json}
    (h : Ends S w r) : r.toOption = w.yields store := by
  cases w with
  | done v =>
      obtain rfl := h
      rw [yields]
      rfl
  | failed e =>
      obtain rfl := h
      rw [yields]
      rfl
  | call resolver request next =>
      obtain ⟨attempt, now, hnow, h⟩ := h
      rw [hw.1 attempt 1 request now store hnow hstore] at h
      rw [yields]
      exact toOption_of_ends hstore (next _) (hw.2 _) h
  | waiting pauses answer next =>
      obtain ⟨now, hnow, h⟩ := h
      rw [hw.1 now store hnow hstore] at h
      rw [yields]
      exact toOption_of_ends hstore (next _) (hw.2 _) h
  | join parts next =>
      exact toOption_of_endsAfter h (fun vs h => yieldAll_of_allEnd hstore parts hw.1 h)
        (fun e h => yieldAll_of_anyFails hstore parts hw.1 h)
        fun vs h => toOption_of_ends hstore (next vs) (hw.2 vs) h
  | crowd number parts next =>
      rw [yields_crowd]
      exact toOption_of_endsAfter h (fun vs h => yieldAll_of_allEnd hstore parts hw.1 h)
        (fun e h => yieldAll_of_anyFails hstore parts hw.1 h)
        fun vs h => toOption_of_ends hstore (next vs) (hw.2 vs) h

theorem yieldAll_of_allEnd (hstore : S store) (parts : List Work) (hparts : AllPure S parts)
    {vs : List Json} (h : AllEnd S parts vs) : yieldAll store parts = some vs := by
  cases parts with
  | nil =>
      obtain rfl := h
      rfl
  | cons w rest =>
      obtain ⟨v, more, rfl, hv, hmore⟩ := h
      rw [yieldAll, ← toOption_of_ends hstore w hparts.1 hv,
        yieldAll_of_allEnd hstore rest hparts.2 hmore]
      rfl

theorem yieldAll_of_anyFails (hstore : S store) (parts : List Work) (hparts : AllPure S parts)
    {e : SnapshotError} (h : AnyFails S parts e) : yieldAll store parts = none := by
  cases parts with
  | nil => exact h.elim
  | cons w rest =>
      rw [yieldAll]
      rcases h with hw | hrest
      · rw [← toOption_of_ends hstore w hparts.1 hw]
        rfl
      · rw [yieldAll_of_anyFails hstore rest hparts.2 hrest]
        cases w.yields store <;> rfl

end

theorem yields_bind (w : Work) (k : Json → Work) :
    (w.bind k).yields store = (w.yields store).bind fun v => (k v).yields store := by
  cases w with
  | done v => rw [bind, yields, Option.bind_some]
  | failed e =>
      rw [bind, yields]
      rfl
  | call resolver request next =>
      rw [bind, yields, yields]
      exact yields_bind (next _) k
  | waiting pauses answer next =>
      rw [bind, yields, yields]
      exact yields_bind (next _) k
  | join parts next | crowd number parts next =>
      rw [bind, yields, yields]
      cases yieldAll store parts with
      | none => rfl
      | some vs => exact yields_bind (next vs) k

end Work

namespace Completion

variable {S : NodeStore → Prop} {store : NodeStore} {c : Completion} {t : ObjectType}

/-! ## The value of required fields -/

mutual

theorem yields_inObjects {complete : Object → Work} {f : Object → Option Object}
    (h : ∀ members, (complete members).yields store = (f members).map .object) (v : Json) :
    (inObjects complete v).yields store = v.mapObjects? f := by
  cases v with
  | object members =>
      rw [inObjects, Json.mapObjects?]
      exact h members
  | array items =>
      rw [inObjects, Json.mapObjects?, Work.yields, yieldAll_inItems h items]
      cases Json.mapItems? f items with
      | none => rfl
      | some vs =>
          show (Work.done _).yields store = _
          rw [Work.yields]
          rfl
  | _ =>
      show (Work.done _).yields store = some _
      rw [Work.yields]

theorem yieldAll_inItems {complete : Object → Work} {f : Object → Option Object}
    (h : ∀ members, (complete members).yields store = (f members).map .object) (items : List Json) :
    Work.yieldAll store (inItems complete items) = Json.mapItems? f items := by
  cases items with
  | nil => rfl
  | cons item rest =>
      rw [inItems, Work.yieldAll, yields_inObjects h item, yieldAll_inItems h rest, Json.mapItems?]
      cases Json.mapObjects? f item <;> cases Json.mapItems? f rest <;> rfl

end

theorem yields_insideWork {field : Field} {inner : List RequiredField}
    {f : ObjectType → Object → Option Object}
    (h : ∀ t members, (c.fields t inner members).yields store = (f t members).map .object) (v : Json) :
    (c.insideWork field inner v).yields store = c.inside? field inner f v := by
  unfold insideWork inside?
  cases field.kind.objectType? with
  | none => rw [Work.yields]
  | some nested =>
      dsimp only
      split
      · rw [Work.yields]
      · cases c.registry.type? nested with
        | none => rw [Work.yields]
        | some t => exact yields_inObjects (h t) v

/-- **Work on required fields has the value** that resolving them afresh gives. -/
theorem yields_fields (c : Completion) (t : ObjectType) (required : List RequiredField)
    (source : Object) :
    (c.fields t required source).yields store = (c.resolve store t required source).map .object := by
  match required with
  | [] => rw [fields, resolve, Work.yields, Option.map_some]
  | ⟨name, inner⟩ :: rest =>
      rw [fields_cons, resolve]
      cases t.field? name with
      | none =>
          dsimp only
          rw [Work.yields]
          rfl
      | some field =>
          have hgoesOn : ∀ v, ((c.insideWork field inner v).bind fun w =>
              c.fields t rest (source.insert name w)).yields store =
                ((c.inside? field inner (fun t => c.resolve store t inner) v).bind fun w =>
                  c.resolve store t rest (source.insert name w)).map .object := by
            intro v
            rw [Work.yields_bind, yields_insideWork (fun t members => yields_fields c t inner members),
              Option.map_bind]
            congr 1
            funext w
            exact yields_fields c t rest (source.insert name w)
          dsimp only
          cases field.resolver with
          | some resolver =>
              dsimp only
              rw [Work.yields]
              cases (resolver.reply 1 (c.request t field name source)).answer store with
              | ok v => exact hgoesOn v
              | error cause =>
                  dsimp only
                  rw [Work.yields]
                  rfl
          | none =>
              dsimp only
              cases source.get? name with
              | some v => exact hgoesOn v
              | none => exact yields_fields c t rest source
termination_by sizeOf required

/-- **With pure resolvers** work on required fields ends with what resolving them afresh gives. -/
theorem toOption_of_ends_fields (hstore : S store) {required : List RequiredField}
    (hpure : c.registry.PureOver S t required) {source : Object} {r : Except SnapshotError Json}
    (h : Work.Ends S (c.fields t required source) r) :
    r.toOption = (c.resolve store t required source).map .object := by
  rw [Work.toOption_of_ends hstore _ (c.pure_fields t required hpure source) h]
  exact c.yields_fields t required source

/-! ## One set after the other -/

/-- **The fields of a longer list** are completed where the first ones have been. -/
theorem fields_append (c : Completion) (t : ObjectType) (first second : List RequiredField)
    (source : Object) : c.fields t (first ++ second) source =
      (c.fields t first source).bind fun v => c.fields t second v.members := by
  induction first generalizing source with
  | nil =>
      rw [List.nil_append, fields.eq_1 c t source]
      rfl
  | cons f rest ih =>
      obtain ⟨name, inner⟩ := f
      rw [List.cons_append, fields_cons, fields_cons]
      cases t.field? name with
      | none => rfl
      | some field =>
          have hgoesOn : ∀ v, ((c.insideWork field inner v).bind fun w =>
              c.fields t (rest ++ second) (source.insert name w)) =
                ((c.insideWork field inner v).bind fun w =>
                  c.fields t rest (source.insert name w)).bind
                    fun v => c.fields t second v.members := by
            intro v
            rw [Work.bind_assoc]
            simp only [ih]
          dsimp only
          cases field.resolver with
          | some resolver =>
              dsimp only
              rw [Work.bind]
              congr 1
              funext answer
              cases answer with
              | ok v => exact hgoesOn v
              | error cause => rfl
          | none =>
              dsimp only
              cases source.get? name with
              | some v => exact hgoesOn v
              | none => exact ih source

theorem resolve_append (c : Completion) (store : NodeStore) (t : ObjectType)
    (first second : List RequiredField) (source : Object) :
    c.resolve store t (first ++ second) source =
      (c.resolve store t first source).bind (c.resolve store t second) := by
  induction first generalizing source with
  | nil => rw [List.nil_append, resolve.eq_1, Option.bind_some]
  | cons f rest ih =>
      obtain ⟨name, inner⟩ := f
      rw [List.cons_append, resolve, resolve]
      cases t.field? name with
      | none => rfl
      | some field =>
          have hgoesOn : ∀ v, ((c.inside? field inner (fun t => c.resolve store t inner) v).bind
              fun w => c.resolve store t (rest ++ second) (source.insert name w)) =
                ((c.inside? field inner (fun t => c.resolve store t inner) v).bind fun w =>
                  c.resolve store t rest (source.insert name w)).bind (c.resolve store t second) := by
            intro v
            rw [Option.bind_assoc]
            simp only [ih]
          dsimp only
          cases field.resolver with
          | some resolver =>
              dsimp only
              cases (resolver.reply 1 (c.request t field name source)).answer store with
              | ok v => exact hgoesOn v
              | error cause => rfl
          | none =>
              dsimp only
              cases source.get? name with
              | some v => exact hgoesOn v
              | none => exact ih source

end Completion

/-- **Two sets without a name in common** are completed one after the other: the second in the body that
the first left. -/
theorem Node.completion_merge (registry : Registry) (path : Option String) (t : ObjectType)
    {first second : RequiredFields} (hsecond : second.Distinct)
    (hnames : ∀ name ∈ second.names, name ∉ first.names) (node : Node) (stamp : Nat) :
    node.completion registry path t (first.merge second) =
      (node.completion registry path t first).bind fun v =>
        (node.withBody v.members stamp).completion registry path t second := by
  rw [completion, RequiredFields.merge_eq_append hsecond hnames, Completion.fields_append]
  rfl

end ContentQuery
