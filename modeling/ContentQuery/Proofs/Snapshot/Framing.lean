import ContentQuery.Proofs.Json.Object
import ContentQuery.Proofs.Snapshot.Sequence

/-!
# What completing leaves alone

Completing required fields writes the members that they name and no others: these keep their values and
their order (`Json.Object.Frames`). What it writes is the value of the field, from its resolver or as it
stands, completed inside by the same rule, in each object that it holds, however deep lists nest; a
field that has neither a resolver nor a value is not written (**`Completion.framed_of_resolve`**).
-/

namespace ContentQuery

open Json (Object)

/-! ## Members that are left alone -/

namespace Json.Object

/-- What is left of an object when members of some names are written: keys stay where they stand, new
ones follow, and all members of other names keep their values and their order. -/
structure Frames (names : List String) (source out : Object) : Prop where
  keys : source.keys <+: out.keys
  others : out.filter (·.1 ∉ names) = source.filter (·.1 ∉ names)

variable {names names' : List String} {source mid out : Object} {key : String} {v : Json}

theorem Frames.refl (names : List String) (source : Object) : Frames names source source :=
  ⟨List.prefix_refl _, rfl⟩

theorem Frames.trans (h : Frames names source mid) (h' : Frames names mid out) :
    Frames names source out :=
  ⟨h.keys.trans h'.keys, h'.others.trans h.others⟩

/-- Where fewer members may be written, more are left alone. -/
theorem Frames.mono (h : Frames names source out) (hnames : names ⊆ names') :
    Frames names' source out := by
  refine ⟨h.keys, ?_⟩
  have hfilter : ∀ members : Object, members.filter (·.1 ∉ names') =
      (members.filter (·.1 ∉ names)).filter (·.1 ∉ names') := by
    intro members
    rw [List.filter_filter]
    apply List.filter_congr
    intro member _
    by_cases hmem : member.1 ∈ names'
    · simp [hmem]
    · have hother : member.1 ∉ names := fun h => hmem (hnames h)
      simp [hmem, hother]
  rw [hfilter out, hfilter source, h.others]

theorem frames_insert (hkey : key ∈ names) : Frames names source (source.insert key v) := by
  constructor
  · rw [keys_insert]
    split
    · exact List.prefix_refl _
    · exact List.prefix_append _ _
  · induction source with
    | nil => simp [insert, hkey]
    | cons member rest ih =>
        obtain ⟨k, w⟩ := member
        rw [insert]
        split
        · rename_i heq
          have hk : k ∈ names := heq ▸ hkey
          simp [hk]
        · rw [List.filter_cons, List.filter_cons, ih]

theorem get?_filter (hkey : key ∉ names) (members : Object) :
    get? key (members.filter (·.1 ∉ names)) = members.get? key := by
  induction members with
  | nil => rfl
  | cons member rest ih =>
      obtain ⟨k, w⟩ := member
      by_cases hk : k ∈ names
      · have hne : k ≠ key := fun heq => hkey (heq ▸ hk)
        rw [List.filter_cons_of_neg (by simpa using hk), ih, get?, if_neg hne]
      · rw [List.filter_cons_of_pos (by simpa using hk), get?, get?, ih]

/-- A member of another name has the value that it had. -/
theorem Frames.get? (h : Frames names source out) (hkey : key ∉ names) :
    out.get? key = source.get? key := by
  rw [← get?_filter hkey out, h.others, get?_filter hkey source]

end Json.Object

/-! ## Objects inside a value -/

namespace Json

variable {f : Object → Option Object} {P : Object → Option Object → Prop}

mutual

theorem completes_of_mapObjects? (hP : ∀ members out, f members = some out → P members (some out))
    (v : Json) {w : Json} (h : v.mapObjects? f = some w) : Completes P v (some w) := by
  cases v with
  | object members =>
      rw [mapObjects?] at h
      obtain ⟨out, hout, rfl⟩ := Option.map_eq_some_iff.mp h
      exact ⟨some out, hP members out hout, rfl⟩
  | array items =>
      rw [mapObjects?] at h
      obtain ⟨vs, hvs, rfl⟩ := Option.map_eq_some_iff.mp h
      exact .inl ⟨vs, allComplete_of_mapItems? hP items hvs, rfl⟩
  | _ => exact h.symm

theorem allComplete_of_mapItems? (hP : ∀ members out, f members = some out → P members (some out))
    (items : List Json) {vs : List Json} (h : mapItems? f items = some vs) :
    AllComplete P items vs := by
  cases items with
  | nil => exact (Option.some.inj h).symm
  | cons item rest =>
      rw [mapItems?] at h
      obtain ⟨v, hv, h⟩ := Option.bind_eq_some_iff.mp h
      obtain ⟨more, hmore, h⟩ := Option.bind_eq_some_iff.mp h
      exact ⟨v, more, (Option.some.inj h).symm, completes_of_mapObjects? hP item hv,
        allComplete_of_mapItems? hP rest hmore⟩

end

end Json

namespace Completion

variable {c : Completion} {store : NodeStore} {t : ObjectType}

theorem inside_of_inside? {field : Field} {inner : List RequiredField}
    {f : ObjectType → Object → Option Object} {P : ObjectType → Object → Option Object → Prop}
    (hP : ∀ t members out, f t members = some out → P t members (some out)) {v w : Json}
    (h : c.inside? field inner f v = some w) : c.Inside field inner P v (some w) := by
  unfold inside? at h
  unfold Inside
  cases hkind : field.kind.objectType? with
  | none =>
      rw [hkind] at h
      exact h.symm
  | some nested =>
      simp only [hkind] at h ⊢
      split
      · rename_i hwhole
        rw [if_pos hwhole] at h
        exact h.symm
      · rename_i hwhole
        rw [if_neg hwhole] at h
        cases htype : c.registry.type? nested with
        | none =>
            rw [htype] at h
            cases h
        | some t =>
            rw [htype] at h
            exact Json.completes_of_mapObjects? (hP t) v h

/-! ## Required fields -/

/-- What is found in an object for each required field, when `before` was required before them. The
value is what the resolver answers that is told of the object with those fields, or what stands there;
and in every object in it the fields required inside are found in the same way, and all other members
left alone. -/
def EachFramed (c : Completion) (store : NodeStore) :
    ObjectType → (before required : List RequiredField) → (source out : Object) → Prop
  | _, _, [], _, _ => True
  | t, before, ⟨name, inner⟩ :: rest, source, out =>
    (∃ field, t.field? name = some field ∧
      let framed (v : Json) : Prop :=
        ∃ w, out.get? name = some w ∧ c.Inside field inner (fun t members out =>
          ∃ completed, out = some completed ∧ members.Frames (RequiredFields.names inner) completed ∧
            EachFramed c store t [] inner members completed) v (some w)
      match field.resolver with
      | some resolver =>
        ∃ mid v, c.resolve store t before source = some mid ∧
          (resolver.reply 1 (c.request t field name mid)).answer store = .ok v ∧ framed v
      | none =>
        match source.get? name with
        | some v => framed v
        | none => out.get? name = none) ∧
    EachFramed c store t (before ++ [⟨name, inner⟩]) rest source out

/-- The required fields of an object are found in the other, and all other members are left alone. -/
structure Framed (c : Completion) (store : NodeStore) (t : ObjectType) (required : RequiredFields)
    (source out : Object) : Prop where
  frames : source.Frames required.names out
  each : c.EachFramed store t [] required source out

theorem frames_of_resolve {required : List RequiredField} {source out : Object}
    (h : c.resolve store t required source = some out) :
    source.Frames (RequiredFields.names required) out := by
  induction required generalizing source with
  | nil =>
      rw [resolve] at h
      obtain rfl := Option.some.inj h
      exact .refl _ _
  | cons f rest ih =>
      obtain ⟨name, inner⟩ := f
      have hrest : RequiredFields.names rest ⊆ name :: RequiredFields.names rest :=
        List.subset_cons_self ..
      rw [resolve] at h
      rw [RequiredFields.names_cons]
      cases hfield : t.field? name with
      | none =>
          rw [hfield] at h
          cases h
      | some field =>
          simp only [hfield] at h
          have hgoesOn : ∀ v, ((c.inside? field inner (fun t => c.resolve store t inner) v).bind
              fun w => c.resolve store t rest (source.insert name w)) = some out →
              source.Frames (name :: RequiredFields.names rest) out := by
            intro v h
            obtain ⟨w, -, h⟩ := Option.bind_eq_some_iff.mp h
            exact (Object.frames_insert List.mem_cons_self).trans ((ih h).mono hrest)
          cases hresolver : field.resolver with
          | some resolver =>
              simp only [hresolver] at h
              split at h
              · exact hgoesOn _ h
              · cases h
          | none =>
              simp only [hresolver] at h
              split at h
              · exact hgoesOn _ h
              · exact (ih h).mono hrest

/-- What one required field makes of an object. -/
theorem resolve_singleton {name : String} {inner : List RequiredField} {source out : Object}
    (h : c.resolve store t [⟨name, inner⟩] source = some out) :
    ∃ field, t.field? name = some field ∧
      let written (v : Json) : Prop :=
        ∃ w, c.inside? field inner (fun t => c.resolve store t inner) v = some w ∧
          out = source.insert name w
      match field.resolver with
      | some resolver =>
        ∃ v, (resolver.reply 1 (c.request t field name source)).answer store = .ok v ∧ written v
      | none =>
        match source.get? name with
        | some v => written v
        | none => out = source := by
  rw [resolve] at h
  cases hfield : t.field? name with
  | none =>
      rw [hfield] at h
      cases h
  | some field =>
      refine ⟨field, rfl, ?_⟩
      simp only [hfield] at h
      have hwritten : ∀ v, ((c.inside? field inner (fun t => c.resolve store t inner) v).bind
          fun w => c.resolve store t [] (source.insert name w)) = some out →
          ∃ w, c.inside? field inner (fun t => c.resolve store t inner) v = some w ∧
            out = source.insert name w := by
        intro v h
        obtain ⟨w, hw, h⟩ := Option.bind_eq_some_iff.mp h
        rw [resolve] at h
        exact ⟨w, hw, (Option.some.inj h).symm⟩
      cases hresolver : field.resolver with
      | some resolver =>
          simp only [hresolver] at h ⊢
          split at h
          · rename_i v hanswer
            exact ⟨v, hanswer, hwritten v h⟩
          · cases h
      | none =>
          simp only [hresolver] at h ⊢
          cases hvalue : source.get? name with
          | some v =>
              simp only [hvalue] at h ⊢
              exact hwritten v h
          | none =>
              simp only [hvalue] at h ⊢
              rw [resolve] at h
              exact (Option.some.inj h).symm

theorem eachFramed_of_resolve (c : Completion) (store : NodeStore) (t : ObjectType)
    {before : List RequiredField} (required : List RequiredField)
    (hrequired : RequiredFields.Distinct required)
    (hnames : ∀ name ∈ RequiredFields.names required, name ∉ RequiredFields.names before)
    {source mid out : Object} (hbefore : c.resolve store t before source = some mid)
    (h : c.resolve store t required mid = some out) :
    c.EachFramed store t before required source out := by
  match required with
  | [] =>
      rw [EachFramed]
      trivial
  | ⟨name, inner⟩ :: rest =>
      obtain ⟨hname, hinner, hrest⟩ := RequiredFields.distinct_cons.mp hrequired
      obtain ⟨hnew, hothers⟩ := List.forall_mem_cons.mp hnames
      -- The field is completed in what those before it left, and the rest in what it leaves.
      rw [← List.singleton_append, resolve_append] at h
      obtain ⟨next, hfirst, hlast⟩ := Option.bind_eq_some_iff.mp h
      have hnext : c.resolve store t (before ++ [⟨name, inner⟩]) source = some next := by
        rw [resolve_append, hbefore, Option.bind_some, hfirst]
      have hkept : out.get? name = next.get? name := (frames_of_resolve hlast).get? hname
      have hfound : mid.get? name = source.get? name := (frames_of_resolve hbefore).get? hnew
      have hframed : ∀ (field : Field) (v : Json), (∃ w,
          c.inside? field inner (fun t => c.resolve store t inner) v = some w ∧
            next = mid.insert name w) →
          ∃ w, out.get? name = some w ∧ c.Inside field inner (fun t members out =>
            ∃ completed, out = some completed ∧
              members.Frames (RequiredFields.names inner) completed ∧
              c.EachFramed store t [] inner members completed) v (some w) := by
        rintro field v ⟨w, hw, rfl⟩
        refine ⟨w, by rw [hkept, Object.get?_insert_self], inside_of_inside? ?_ hw⟩
        intro t' members completed hcompleted
        exact ⟨completed, rfl, frames_of_resolve hcompleted,
          eachFramed_of_resolve c store t' inner hinner (fun _ _ => List.not_mem_nil)
            (by rw [resolve]) hcompleted⟩
      rw [EachFramed]
      constructor
      · obtain ⟨field, hfield, hwritten⟩ := resolve_singleton hfirst
        refine ⟨field, hfield, ?_⟩
        cases hresolver : field.resolver with
        | some resolver =>
            simp only [hresolver] at hwritten ⊢
            obtain ⟨v, hanswer, hwritten⟩ := hwritten
            exact ⟨mid, v, hbefore, hanswer, hframed field v hwritten⟩
        | none =>
            simp only [hresolver] at hwritten ⊢
            rw [hfound] at hwritten
            cases hvalue : source.get? name with
            | some v =>
                simp only [hvalue] at hwritten ⊢
                exact hframed field v hwritten
            | none =>
                simp only [hvalue] at hwritten ⊢
                rw [hkept, hwritten, hfound, hvalue]
      · refine eachFramed_of_resolve c store t rest hrest ?_ hnext hlast
        intro other hother hmem
        simp only [RequiredFields.names, List.map_append, List.mem_append, List.map_singleton,
          List.mem_singleton] at hmem
        rcases hmem with hmem | rfl
        · exact hothers other hother hmem
        · exact hname hother
termination_by sizeOf required

/-- **Completing required fields** writes these and leaves all else alone, at every depth. -/
theorem framed_of_resolve {required : RequiredFields} (hrequired : required.Distinct)
    {source out : Object} (h : c.resolve store t required source = some out) :
    c.Framed store t required source out :=
  ⟨frames_of_resolve h, eachFramed_of_resolve c store t required hrequired
    (fun _ _ => List.not_mem_nil) (by rw [resolve]) h⟩

end Completion

end ContentQuery
