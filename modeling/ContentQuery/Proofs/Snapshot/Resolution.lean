import ContentQuery.Proofs.Snapshot.Outcomes
import ContentQuery.Snapshot.Completion

/-!
# What the required fields resolve to

Completing a node is work that may pause between any two calls of a resolver. This file says what
comes of it without speaking of work:

* **`Completion.Resolves`** relates an object to what its required fields may be resolved to, if every
  resolver answers from one of some stores. Work on a node ends with nothing else
  (`Completion.resolves_of_ends`).
* **`Completion.resolve`** resolves the fields afresh, one call after the other, against one store. If
  the answers of the resolvers depend on the request alone, `Resolves` allows just this
  (`Completion.eq_resolve`).
-/

namespace ContentQuery

open Json (Object)

/-! ## Objects inside a value -/

namespace Json

mutual

/-- Completing each object in a value gives this value, or nothing if that fails for one of them. -/
def Completes (P : Object → Option Object → Prop) : Json → Option Json → Prop
  | .object members, out => ∃ completed, P members completed ∧ out = completed.map .object
  | .array items, out =>
    (∃ vs, AllComplete P items vs ∧ out = some (.array vs)) ∨ (AnyFails P items ∧ out = none)
  | v, out => out = some v

def AllComplete (P : Object → Option Object → Prop) : List Json → List Json → Prop
  | [], vs => vs = []
  | item :: rest, vs =>
    ∃ v more, vs = v :: more ∧ Completes P item (some v) ∧ AllComplete P rest more

def AnyFails (P : Object → Option Object → Prop) : List Json → Prop
  | [] => False
  | item :: rest => Completes P item none ∨ AnyFails P rest

end

mutual

/-- Completes each object in a value; nothing if that fails for one of them. -/
def mapObjects? (f : Object → Option Object) : Json → Option Json
  | .object members => (f members).map .object
  | .array items => (mapItems? f items).map .array
  | v => some v

def mapItems? (f : Object → Option Object) : List Json → Option (List Json)
  | [] => some []
  | item :: rest => do return (← mapObjects? f item) :: (← mapItems? f rest)

end

variable {P : Object → Option Object → Prop}

mutual

/-- Objects that stay as they are leave the value as it is. -/
theorem completes_self (hP : ∀ members, P members (some members)) (v : Json) :
    Completes P v (some v) := by
  cases v with
  | object members => exact ⟨some members, hP members, rfl⟩
  | array items => exact .inl ⟨items, allComplete_self hP items, rfl⟩
  | _ => rfl

theorem allComplete_self (hP : ∀ members, P members (some members)) (items : List Json) :
    AllComplete P items items := by
  cases items with
  | nil => rfl
  | cons item rest => exact ⟨item, rest, rfl, completes_self hP item, allComplete_self hP rest⟩

end

mutual

/-- If objects can be completed in one way only, so can the value. -/
theorem Completes.eq_mapObjects? {f : Object → Option Object}
    (hP : ∀ members out, P members out → out = f members) (v : Json) {out : Option Json}
    (h : Completes P v out) : out = v.mapObjects? f := by
  cases v with
  | object members =>
      obtain ⟨completed, hcompleted, rfl⟩ := h
      rw [hP members completed hcompleted, mapObjects?]
  | array items =>
      rw [mapObjects?]
      rcases h with ⟨vs, hvs, rfl⟩ | ⟨hfail, rfl⟩
      · rw [AllComplete.eq_mapItems? hP items hvs, Option.map_some]
      · rw [AnyFails.eq_mapItems? hP items hfail, Option.map_none]
  | _ => exact h

theorem AllComplete.eq_mapItems? {f : Object → Option Object}
    (hP : ∀ members out, P members out → out = f members) (items : List Json) {vs : List Json}
    (h : AllComplete P items vs) : mapItems? f items = some vs := by
  cases items with
  | nil =>
      obtain rfl := h
      rfl
  | cons item rest =>
      obtain ⟨v, more, rfl, hv, hmore⟩ := h
      rw [mapItems?, ← Completes.eq_mapObjects? hP item hv, AllComplete.eq_mapItems? hP rest hmore]
      rfl

theorem AnyFails.eq_mapItems? {f : Object → Option Object}
    (hP : ∀ members out, P members out → out = f members) (items : List Json)
    (h : AnyFails P items) : mapItems? f items = none := by
  cases items with
  | nil => exact h.elim
  | cons item rest =>
      rw [mapItems?]
      rcases h with hitem | hrest
      · rw [← Completes.eq_mapObjects? hP item hitem]
        rfl
      · rw [AnyFails.eq_mapItems? hP rest hrest]
        cases mapObjects? f item <;> rfl

end

end Json

/-! ## Required fields -/

namespace Completion

/-- The request that a resolver of a field gets. -/
def request (c : Completion) (t : ObjectType) (field : Field) (name : String) (source : Object) :
    ResolveRequest where
  source
  args := field.defaultArgs
  fieldName := name
  parentType := t.name
  returnType := field.declared
  path := c.path

/-- What becomes of the value of a field in which some fields are required, given what becomes of an
object of a type. -/
def Inside (c : Completion) (field : Field) (inner : List RequiredField)
    (P : ObjectType → Object → Option Object → Prop) (v : Json) (out : Option Json) : Prop :=
  match field.kind.objectType? with
  | none => out = some v
  | some nested =>
    if inner.isEmpty || v.isNull then out = some v
    else match c.registry.type? nested with
      | none => out = none
      | some t => v.Completes (P t) out

/-- What the required fields of an object may be resolved to if each resolver answers from a store in
`S`, or nothing if one fails. -/
def Resolves (c : Completion) (S : NodeStore → Prop) :
    ObjectType → List RequiredField → Object → Option Object → Prop
  | _, [], source, out => out = some source
  | t, ⟨name, inner⟩ :: rest, source, out =>
    match t.field? name with
    | none => out = none
    | some field =>
      let goesOn (v : Json) : Prop :=
        (∃ w, c.Inside field inner (fun t => Resolves c S t inner) v (some w) ∧
          Resolves c S t rest (source.insert name w) out) ∨
        (c.Inside field inner (fun t => Resolves c S t inner) v none ∧ out = none)
      match field.resolver with
      | some resolver =>
        ∃ attempt store, S store ∧
          match (resolver.reply attempt (c.request t field name source)).answer store with
          | .ok v => goesOn v
          | .error _ => out = none
      | none =>
        match source.get? name with
        | some v => goesOn v
        | none => Resolves c S t rest source out

/-- What a value of a field leads to: it is completed inside and put in its place, and the other fields
follow; or it cannot be completed. -/
def GoesOn (c : Completion) (S : NodeStore → Prop) (t : ObjectType) (field : Field) (name : String)
    (inner rest : List RequiredField) (source : Object) (v : Json) (out : Option Object) : Prop :=
  (∃ w, c.Inside field inner (fun t => c.Resolves S t inner) v (some w) ∧
    c.Resolves S t rest (source.insert name w) out) ∨
  (c.Inside field inner (fun t => c.Resolves S t inner) v none ∧ out = none)

/-- The value of a field with the fields required inside it, given how an object of a type is
completed. -/
def inside? (c : Completion) (field : Field) (inner : List RequiredField)
    (f : ObjectType → Object → Option Object) (v : Json) : Option Json :=
  match field.kind.objectType? with
  | none => some v
  | some nested =>
    if inner.isEmpty || v.isNull then some v
    else match c.registry.type? nested with
      | none => none
      | some t => v.mapObjects? (f t)

/-- Resolves the required fields of an object one after the other against one store, or gives nothing
if a resolver fails. -/
def resolve (c : Completion) (store : NodeStore) :
    ObjectType → List RequiredField → Object → Option Object
  | _, [], source => some source
  | t, ⟨name, inner⟩ :: rest, source =>
    match t.field? name with
    | none => none
    | some field =>
      let goesOn (v : Json) : Option Object :=
        (c.inside? field inner (fun t => resolve c store t inner) v).bind fun w =>
          resolve c store t rest (source.insert name w)
      match field.resolver with
      | some resolver =>
        match (resolver.reply 1 (c.request t field name source)).answer store with
        | .ok v => goesOn v
        | .error _ => none
      | none =>
        match source.get? name with
        | some v => goesOn v
        | none => resolve c store t rest source

end Completion

/-! ## Resolvers that depend on the request alone -/

/-- The answers of a resolver depend on the request alone: not on how often it was called, nor on the
nodes of the store. How long it pauses is up to it. -/
def Resolver.Pure (resolver : Resolver) : Prop :=
  ∀ request attempt store attempt' store',
    (resolver.reply attempt request).answer store = (resolver.reply attempt' request).answer store'

/-- All resolvers of the required fields, at any depth, depend on the request alone. -/
def Registry.PureFor (r : Registry) : ObjectType → List RequiredField → Prop
  | _, [] => True
  | t, ⟨name, inner⟩ :: rest =>
    (∀ field, t.field? name = some field →
      (∀ resolver, field.resolver = some resolver → resolver.Pure) ∧
      ∀ nested t', field.kind.objectType? = some nested → r.type? nested = some t' →
        PureFor r t' inner) ∧
    PureFor r t rest

namespace Completion

variable {S : NodeStore → Prop}

mutual

theorem completes_of_ends {complete : Object → Work} {P : Object → Option Object → Prop}
    (hP : ∀ members r, Work.Ends S (complete members) r →
      ∃ out, P members out ∧ r.toOption = out.map .object)
    (v : Json) {r : Except SnapshotError Json} (h : Work.Ends S (inObjects complete v) r) :
    Json.Completes P v r.toOption := by
  cases v with
  | object members => exact hP members r h
  | array items =>
      rcases h with ⟨vs, hvs, rfl⟩ | ⟨e, rfl, hfail⟩
      · exact .inl ⟨vs, allComplete_of_allEnd hP items hvs, rfl⟩
      · exact .inr ⟨anyFails_of_anyFails hP items hfail, rfl⟩
  | _ =>
      obtain rfl := h
      rfl

theorem allComplete_of_allEnd {complete : Object → Work} {P : Object → Option Object → Prop}
    (hP : ∀ members r, Work.Ends S (complete members) r →
      ∃ out, P members out ∧ r.toOption = out.map .object)
    (items : List Json) {vs : List Json} (h : Work.AllEnd S (inItems complete items) vs) :
    Json.AllComplete P items vs := by
  cases items with
  | nil => exact h
  | cons item rest =>
      obtain ⟨v, more, rfl, hv, hmore⟩ := h
      exact ⟨v, more, rfl, completes_of_ends hP item hv, allComplete_of_allEnd hP rest hmore⟩

theorem anyFails_of_anyFails {complete : Object → Work} {P : Object → Option Object → Prop}
    (hP : ∀ members r, Work.Ends S (complete members) r →
      ∃ out, P members out ∧ r.toOption = out.map .object)
    (items : List Json) {e : SnapshotError} (h : Work.AnyFails S (inItems complete items) e) :
    Json.AnyFails P items := by
  cases items with
  | nil => exact h
  | cons item rest =>
      exact h.imp (completes_of_ends hP item) (anyFails_of_anyFails hP rest)

end

/-- The work that is left in the value of a field. -/
def insideWork (c : Completion) (field : Field) (inner : List RequiredField) (v : Json) : Work :=
  match field.kind.objectType? with
  | none => .done v
  | some nested =>
    if inner.isEmpty || v.isNull then .done v
    else match c.registry.type? nested with
      | none => .failed (.unknownType nested)
      | some t => inObjects (c.fields t inner) v

theorem fields_cons (c : Completion) (t : ObjectType) (name : String)
    (inner rest : List RequiredField) (source : Object) :
    c.fields t (⟨name, inner⟩ :: rest) source =
      match t.field? name with
      | none => .failed (.unknownField t.name name)
      | some field =>
        let goesOn (v : Json) : Work :=
          (c.insideWork field inner v).bind fun w => c.fields t rest (source.insert name w)
        match field.resolver with
        | some resolver =>
          .call resolver (c.request t field name source) fun
            | .ok v => goesOn v
            | .error cause => .failed (.failure t.name name c.nodeId cause)
        | none =>
          match source.get? name with
          | some v => goesOn v
          | none => c.fields t rest source := by
  rw [fields, field]
  cases t.field? name with
  | none => rfl
  | some field =>
      have hgoesOn : ∀ v, (match field.kind.objectType? with
          | none => c.fields t rest (source.insert name v)
          | some nested =>
            if inner.isEmpty || v.isNull then c.fields t rest (source.insert name v)
            else match c.registry.type? nested with
              | none => .failed (.unknownType nested)
              | some t' => (inObjects (c.fields t' inner) v).bind fun w =>
                c.fields t rest (source.insert name w)) =
          (c.insideWork field inner v).bind fun w => c.fields t rest (source.insert name w) := by
        intro v
        unfold insideWork
        cases field.kind.objectType? with
        | none => rfl
        | some nested =>
            dsimp only
            split
            · rfl
            · cases c.registry.type? nested <;> rfl
      simp only [← hgoesOn]
      rfl

theorem inside_of_ends (c : Completion) {field : Field} {inner : List RequiredField}
    {P : ObjectType → Object → Option Object → Prop}
    (hP : ∀ t members r, Work.Ends S (c.fields t inner members) r →
      ∃ out, P t members out ∧ r.toOption = out.map .object)
    {v : Json} {r : Except SnapshotError Json} (h : Work.Ends S (c.insideWork field inner v) r) :
    c.Inside field inner P v r.toOption := by
  unfold insideWork at h
  unfold Inside
  cases hkind : field.kind.objectType? with
  | none =>
      rw [hkind] at h
      obtain rfl := h
      rfl
  | some nested =>
      simp only [hkind] at h ⊢
      split at h
      · rename_i hwhole
        obtain rfl := h
        rw [if_pos hwhole]
        rfl
      · rename_i hwhole
        rw [if_neg hwhole]
        cases htype : c.registry.type? nested with
        | none =>
            rw [htype] at h
            obtain rfl := h
            rfl
        | some t =>
            rw [htype] at h
            exact completes_of_ends (hP t) v h

/-- **Work on the required fields ends with what these resolve to.** -/
theorem resolves_of_ends (c : Completion) (t : ObjectType) (required : List RequiredField)
    (source : Object) {r : Except SnapshotError Json}
    (h : Work.Ends S (c.fields t required source) r) :
    ∃ out, c.Resolves S t required source out ∧ r.toOption = out.map .object := by
  match required with
  | [] =>
      rw [fields] at h
      obtain rfl := h
      exact ⟨some source, by rw [Resolves], rfl⟩
  | ⟨name, inner⟩ :: rest =>
      rw [fields_cons] at h
      simp only [Resolves]
      cases hfield : t.field? name with
      | none =>
          rw [hfield] at h
          obtain rfl := h
          exact ⟨none, rfl, rfl⟩
      | some field =>
          simp only [hfield] at h ⊢
          -- The recursion goes down into what is required inside the field, and on to the other fields.
          have hgoesOn : ∀ v r, Work.Ends S ((c.insideWork field inner v).bind fun w =>
              c.fields t rest (source.insert name w)) r →
              ∃ out, c.GoesOn S t field name inner rest source v out ∧
                r.toOption = out.map .object := by
            intro v r h
            rcases Work.of_ends_bind _ h with ⟨w, hw, hrest⟩ | ⟨e, rfl, hfail⟩
            · obtain ⟨out, hout, hr⟩ := resolves_of_ends c t rest _ hrest
              have hinside := c.inside_of_ends
                (fun t' members r h => resolves_of_ends c t' inner members h) hw
              exact ⟨out, .inl ⟨w, hinside, hout⟩, hr⟩
            · have hinside := c.inside_of_ends
                (fun t' members r h => resolves_of_ends c t' inner members h) hfail
              exact ⟨none, .inr ⟨hinside, rfl⟩, rfl⟩
          cases hresolver : field.resolver with
          | some resolver =>
              rw [hresolver] at h
              obtain ⟨attempt, store, hS, h⟩ := h
              cases hanswer : (resolver.reply attempt (c.request t field name source)).answer
                  store with
              | ok v =>
                  rw [hanswer] at h
                  obtain ⟨out, hout, hr⟩ := hgoesOn v r h
                  exact ⟨out, ⟨attempt, store, hS, by rw [hanswer]; exact hout⟩, hr⟩
              | error cause =>
                  rw [hanswer] at h
                  obtain rfl := h
                  exact ⟨none, ⟨attempt, store, hS, by rw [hanswer]⟩, rfl⟩
          | none =>
              rw [hresolver] at h
              cases hvalue : source.get? name with
              | some v =>
                  rw [hvalue] at h
                  exact hgoesOn v r h
              | none =>
                  rw [hvalue] at h
                  exact resolves_of_ends c t rest source h
termination_by sizeOf required

/-! ## Resolving afresh -/

theorem Inside.eq_inside? {c : Completion} {field : Field} {inner : List RequiredField}
    {P : ObjectType → Object → Option Object → Prop} {f : ObjectType → Object → Option Object}
    (hP : ∀ nested t, field.kind.objectType? = some nested → c.registry.type? nested = some t →
      ∀ members out, P t members out → out = f t members)
    {v : Json} {out : Option Json} (h : c.Inside field inner P v out) :
    out = c.inside? field inner f v := by
  unfold Inside at h
  unfold inside?
  cases hkind : field.kind.objectType? with
  | none => rw [hkind] at h; exact h
  | some nested =>
      simp only [hkind] at h ⊢
      split
      · rename_i hwhole
        rw [if_pos hwhole] at h
        exact h
      · rename_i hwhole
        rw [if_neg hwhole] at h
        cases htype : c.registry.type? nested with
        | none => rw [htype] at h; exact h
        | some t => rw [htype] at h; exact h.eq_mapObjects? (hP nested t hkind htype)

/-- **Pure resolvers leave no choice.** Fields whose resolvers depend on the request alone resolve to
what resolving them afresh against any one store gives. -/
theorem eq_resolve (c : Completion) (store : NodeStore) (t : ObjectType)
    (required : List RequiredField) (hpure : c.registry.PureFor t required) (source : Object)
    {out : Option Object} (h : c.Resolves S t required source out) :
    out = c.resolve store t required source := by
  match required with
  | [] => rw [Resolves] at h; rw [resolve, h]
  | ⟨name, inner⟩ :: rest =>
      rw [Registry.PureFor] at hpure
      obtain ⟨hfieldPure, hrestPure⟩ := hpure
      rw [Resolves] at h
      rw [resolve]
      cases hfield : t.field? name with
      | none => rw [hfield] at h; exact h
      | some field =>
          simp only [hfield] at h ⊢
          obtain ⟨hresolverPure, hinnerPure⟩ := hfieldPure field hfield
          have hgoesOn : ∀ v, c.GoesOn S t field name inner rest source v out →
              out = (c.inside? field inner (fun t => c.resolve store t inner) v).bind fun w =>
                c.resolve store t rest (source.insert name w) := by
            intro v h
            have hinside : ∀ w, c.Inside field inner (fun t => c.Resolves S t inner) v w →
                w = c.inside? field inner (fun t => c.resolve store t inner) v := fun w hw =>
              hw.eq_inside? fun nested t' hkind htype members out hout =>
                eq_resolve c store t' inner (hinnerPure nested t' hkind htype) members hout
            rcases h with ⟨w, hw, hrest⟩ | ⟨hfail, rfl⟩
            · rw [← hinside _ hw]
              exact eq_resolve c store t rest hrestPure _ hrest
            · rw [← hinside _ hfail]
              rfl
          cases hresolver : field.resolver with
          | some resolver =>
              rw [hresolver] at h
              obtain ⟨attempt, store', _, h⟩ := h
              rw [hresolverPure resolver hresolver _ attempt store' 1 store] at h
              dsimp only
              cases hanswer : (resolver.reply 1 (c.request t field name source)).answer store with
              | ok v => rw [hanswer] at h; exact hgoesOn v h
              | error cause => rw [hanswer] at h; exact h
          | none =>
              rw [hresolver] at h
              dsimp only
              cases hvalue : source.get? name with
              | some v => rw [hvalue] at h; exact hgoesOn v h
              | none => rw [hvalue] at h; exact eq_resolve c store t rest hrestPure source h
termination_by sizeOf required

/-! ## Fields without resolvers -/

/-- A member that is put where it stands changes nothing. -/
theorem insert_get? {source : Object} {name : String} {v : Json} (h : source.get? name = some v) :
    source.insert name v = source := by
  induction source with
  | nil => cases h
  | cons member rest ih =>
      obtain ⟨key, value⟩ := member
      rw [Object.get?] at h
      rw [Object.insert]
      by_cases hkey : key = name
      · rw [if_pos hkey] at h ⊢
        rw [Option.some.inj h]
      · rw [if_neg hkey] at h ⊢
        rw [ih h]

/-- A value stays as it is if the objects inside it may. -/
theorem inside_self {c : Completion} {field : Field} {inner : List RequiredField}
    {P : ObjectType → Object → Option Object → Prop}
    (hP : ∀ nested, field.kind.objectType? = some nested → ¬inner.isEmpty →
      ∃ t, c.registry.type? nested = some t ∧ ∀ members, P t members (some members))
    (v : Json) : c.Inside field inner P v (some v) := by
  unfold Inside
  cases hkind : field.kind.objectType? with
  | none => rfl
  | some nested =>
      dsimp only
      split
      · rfl
      · rename_i hwhole
        have hinner : ¬inner.isEmpty := fun h => hwhole (by simp [h])
        obtain ⟨t, ht, hmembers⟩ := hP nested hkind hinner
        rw [ht]
        exact Json.completes_self hmembers v

/-- **Where no resolver is needed**, the required fields of an object are what they are. -/
theorem resolves_self (c : Completion) (t : ObjectType) (required : List RequiredField)
    (hneeds : c.registry.needsResolver t required = .ok false) (source : Object) :
    c.Resolves S t required source (some source) := by
  match required with
  | [] => rw [Resolves]
  | ⟨name, inner⟩ :: rest =>
      rw [Registry.needsResolver, Registry.fieldNeedsResolver] at hneeds
      rw [Resolves]
      cases hfield : t.field? name with
      | none =>
          rw [hfield] at hneeds
          cases hneeds
      | some field =>
          simp only [hfield] at hneeds ⊢
          cases hresolver : field.resolver with
          | some resolver => simp [hresolver] at hneeds
          | none =>
              simp only [hresolver, Option.isSome_none, Bool.false_eq_true, if_false] at hneeds
              have hrest : c.registry.needsResolver t rest = .ok false := by
                split at hneeds
                · cases hneeds
                · exact hneeds
                · cases hneeds
              have hinside : ∀ v, c.Inside field inner (fun t => c.Resolves S t inner) v (some v) := by
                apply inside_self
                intro nested hkind hinner
                simp only [hkind, if_neg hinner] at hneeds
                cases htype : c.registry.type? nested with
                | none => simp [htype] at hneeds
                | some t' =>
                    simp only [htype] at hneeds
                    refine ⟨t', rfl, fun members => resolves_self c t' inner ?_ members⟩
                    split at hneeds
                    · cases hneeds
                    · assumption
                    · cases hneeds
              cases hvalue : source.get? name with
              | some v =>
                  refine .inl ⟨v, hinside v, ?_⟩
                  rw [insert_get? hvalue]
                  exact resolves_self c t rest hrest source
              | none => exact resolves_self c t rest hrest source
termination_by sizeOf required

end Completion

end ContentQuery
