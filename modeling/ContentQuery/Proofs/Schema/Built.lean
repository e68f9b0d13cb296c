import ContentQuery.Schema.Definition
import Mathlib.Data.List.Nodup
import Mathlib.Data.List.Perm.Basic

/-!
# Registries that were built

Building a registry checks what later stages rely on. A registry that is built holds the types of the
schema, field by field, each with its kind and the last resolver that was attached to it
(`Schema.Builds`), and those are all the cases in which one is built (**`Schema.build_eq_ok_iff`**). So
it is well formed (**`Schema.wellFormed_of_build`**): a type declares each of its fields once, and an
object field leads to a type that is there.
-/

namespace ContentQuery

/-- A computation in two steps succeeds when both do. -/
theorem bind_eq_ok {ε α β : Type} {x : Except ε α} {f : α → Except ε β} {b : β} :
    (x >>= f) = .ok b ↔ ∃ a, x = .ok a ∧ f a = .ok b := by
  cases x <;> simp [bind, Except.bind]

theorem bind_eq_error {ε α β : Type} {x : Except ε α} {f : α → Except ε β} {e : ε} :
    (x >>= f) = .error e ↔ x = .error e ∨ ∃ a, x = .ok a ∧ f a = .error e := by
  cases x <;> simp [bind, Except.bind]

/-- Where names are distinct, whatever has a name is what is found under it. -/
theorem find?_eq_some_iff_of_nodup {α : Type} {name : α → String} {as : List α}
    (hdistinct : (as.map name).Nodup) {key : String} {a : α} :
    as.find? (name · == key) = some a ↔ a ∈ as ∧ name a = key := by
  constructor
  · intro h
    exact ⟨List.mem_of_find?_eq_some h, by simpa using List.find?_some h⟩
  · rintro ⟨hmem, rfl⟩
    have hsome : (as.find? (name · == name a)).isSome := List.find?_isSome.mpr ⟨a, hmem, by simp⟩
    obtain ⟨found, hfound⟩ := Option.isSome_iff_exists.mp hsome
    have hname : name found = name a := by simpa using List.find?_some hfound
    rw [hfound, List.inj_on_of_nodup_map hdistinct (List.mem_of_find?_eq_some hfound) hmem hname]

/-! ## Lists side by side -/

section Sides

variable {α β : Type} {R : α → β → Prop} {as : List α} {bs : List β}

theorem exists_right_of_forall₂ (h : List.Forall₂ R as bs) {a : α} (ha : a ∈ as) :
    ∃ b ∈ bs, R a b := by
  induction h with
  | nil => cases ha
  | @cons a' b' _ _ hfirst _ ih =>
      rcases List.mem_cons.mp ha with rfl | hrest
      · exact ⟨b', List.mem_cons_self, hfirst⟩
      · obtain ⟨b, hb, hab⟩ := ih hrest
        exact ⟨b, List.mem_cons_of_mem b' hb, hab⟩

theorem exists_left_of_forall₂ (h : List.Forall₂ R as bs) {b : β} (hb : b ∈ bs) :
    ∃ a ∈ as, R a b := exists_right_of_forall₂ h.flip hb

theorem map_eq_of_forall₂ {γ : Type} {f : α → γ} {g : β → γ} (h : List.Forall₂ R as bs)
    (hsame : ∀ a b, R a b → g b = f a) : bs.map g = as.map f := by
  induction h with
  | nil => rfl
  | cons hfirst _ ih => rw [List.map_cons, List.map_cons, hsame _ _ hfirst, ih]

theorem exists_forall₂ (h : ∀ a ∈ as, ∃ b, R a b) : ∃ bs, List.Forall₂ R as bs := by
  induction as with
  | nil => exact ⟨[], .nil⟩
  | cons a rest ih =>
      obtain ⟨hfirst, hrest⟩ := List.forall_mem_cons.mp h
      obtain ⟨b, hb⟩ := hfirst
      obtain ⟨bs, hbs⟩ := ih hrest
      exact ⟨b :: bs, .cons hb hbs⟩

/-- A list of computations succeeds when each of them does. -/
theorem mapM_eq_ok_iff {ε : Type} {f : α → Except ε β} :
    as.mapM f = .ok bs ↔ List.Forall₂ (fun a b => f a = .ok b) as bs := by
  induction as generalizing bs with
  | nil => simp [pure, Except.pure, eq_comm]
  | cons a rest ih =>
      rw [List.mapM_cons, bind_eq_ok, List.forall₂_cons_left_iff]
      constructor
      · rintro ⟨b, hb, h⟩
        obtain ⟨more, hmore, h⟩ := bind_eq_ok.mp h
        obtain rfl := Except.ok.inj h
        exact ⟨b, more, hb, ih.mp hmore, rfl⟩
      · rintro ⟨b, more, hb, hmore, rfl⟩
        exact ⟨b, hb, bind_eq_ok.mpr ⟨more, ih.mpr hmore, rfl⟩⟩

end Sides

/-! ## Well-formed registries -/

structure Registry.WellFormed (r : Registry) : Prop where
  /-- A type declares each of its fields once. -/
  distinct : ∀ t ∈ r.types, (t.fields.map (·.name)).Nodup
  /-- An object field leads to a type that is there. -/
  closed : ∀ t ∈ r.types, ∀ f ∈ t.fields, ∀ nested, f.kind.objectType? = some nested →
    (r.type? nested).isSome

namespace Registry

variable {r : Registry} {typeName : String} {t : ObjectType}

theorem mem_of_type? (h : r.type? typeName = some t) : t ∈ r.types := List.mem_of_find?_eq_some h

theorem name_of_type? (h : r.type? typeName = some t) : t.name = typeName := by
  simpa using List.find?_some h

theorem WellFormed.exists_type (hr : r.WellFormed) (ht : r.type? typeName = some t) {f : Field}
    (hf : f ∈ t.fields) {nested : String} (hnested : f.kind.objectType? = some nested) :
    ∃ t', r.type? nested = some t' :=
  Option.isSome_iff_exists.mp (hr.closed t (mem_of_type? ht) f hf nested hnested)

/-- A field that a type declares is the one that is found under its name. -/
theorem WellFormed.field?_eq_some_iff (hr : r.WellFormed) (ht : r.type? typeName = some t)
    {name : String} {f : Field} : t.field? name = some f ↔ f ∈ t.fields ∧ f.name = name :=
  find?_eq_some_iff_of_nodup (hr.distinct t (mem_of_type? ht))

end Registry

/-! ## What is built -/

/-- A resolver that is meant for a field is put on it, and on no other. -/
def Attachment.onField (a : Attachment) (typeName : String) (f : Field) : Field :=
  if a.typeName = typeName ∧ a.field = f.name then { f with resolver := some a.resolver } else f

def Attachment.onType (a : Attachment) (t : ObjectType) : ObjectType :=
  { t with fields := t.fields.map (a.onField t.name) }

/-- The field that a resolver is meant for is there. -/
def Attachment.Lands (definitions : List TypeDefinition) (a : Attachment) : Prop :=
  ∃ d ∈ definitions, d.name = a.typeName ∧ ∃ f ∈ d.allFields, f.name = a.field

namespace Schema

def objectNames (s : Schema) : List String := s.allTypes.map (·.name)

def enumNames (s : Schema) : List String := s.enums.map (·.name)

/-- The resolver that was attached to a field last. -/
def attached? (attachments : List Attachment) (typeName field : String) : Option Resolver :=
  (attachments.reverse.find? fun a => a.typeName == typeName && a.field == field).map (·.resolver)

section

variable (objects enums : List String) (attachments : List Attachment)

/-- A field as it is built. An attached resolver counts before the one that the field is declared
with. -/
structure FieldBuilt (typeName : String) (d : FieldDefinition) (f : Field) : Prop where
  name : f.name = d.name
  declared : f.declared = d.declared
  kind : ∃ type, DeclaredType.parse d.declared = .ok type ∧ kindOf? objects enums type = some f.kind
  resolver : f.resolver = (attached? attachments typeName d.name).or d.resolver
  defaultArgs : f.defaultArgs = d.defaultArgs

/-- A type as it is built, field by field. -/
structure TypeBuilt (d : TypeDefinition) (t : ObjectType) : Prop where
  name : t.name = d.name
  isNode : t.isNode = d.isNode
  fields : List.Forall₂ (FieldBuilt objects enums attachments d.name) d.allFields t.fields

end

/-- All that can be said of a schema and the registry that is built from it. -/
structure Builds (s : Schema) (r : Registry) : Prop where
  /-- Enums and object types have names of their own. -/
  names : (s.enumNames ++ s.objectNames).Nodup
  /-- A type declares each of its fields once. -/
  fields : ∀ d ∈ s.allTypes, (d.allFields.map (·.name)).Nodup
  types : List.Forall₂ (TypeBuilt s.objectNames s.enumNames s.attachments) s.allTypes r.types
  enums : r.enums = s.enums
  attached : ∀ a ∈ s.attachments, a.Lands s.allTypes

end Schema

/-! ## Building -/

namespace Schema

variable {objects enums : List String} {attachments : List Attachment}

theorem repeatedName?_eq_none_iff {before names : List String} :
    repeatedName? before names = none ↔ names.Nodup ∧ ∀ name ∈ names, name ∉ before := by
  induction names generalizing before with
  | nil => simp [repeatedName?]
  | cons name rest ih =>
      rw [repeatedName?]
      by_cases hmem : name ∈ before
      · simp [hmem]
      · rw [if_neg (by simpa using hmem), ih, List.nodup_cons, List.forall_mem_cons]
        simp only [List.mem_cons, not_or]
        constructor
        · rintro ⟨hdistinct, hnew⟩
          refine ⟨⟨fun hname => (hnew name hname).1 rfl, hdistinct⟩, hmem, fun n hn => (hnew n hn).2⟩
        · rintro ⟨⟨hname, hdistinct⟩, -, hnew⟩
          exact ⟨hdistinct, fun n hn => ⟨fun h => hname (h ▸ hn), hnew n hn⟩⟩

/-- A declared type stands for a scalar, an enum or an object type, and what it names is there. -/
theorem kindOf?_cases {type : DeclaredType} {kind : FieldKind}
    (h : kindOf? objects enums type = some kind) :
    (∃ scalar, ScalarType.ofName? type.name = some scalar ∧
        kind.leafType? = some (.scalar scalar) ∧ kind.objectType? = none) ∨
      (type.name ∈ enums ∧ kind.leafType? = some (.enum type.name) ∧ kind.objectType? = none) ∨
      (type.name ∈ objects ∧ kind.leafType? = none ∧ kind.objectType? = some type.name) := by
  unfold kindOf? at h
  split at h
  · rename_i scalar hscalar
    obtain rfl := Option.some.inj h
    exact .inl ⟨scalar, hscalar, by split <;> exact ⟨rfl, rfl⟩⟩
  · split at h
    · rename_i henum
      obtain rfl := Option.some.inj h
      exact .inr (.inl ⟨List.contains_iff_mem.mp henum, by split <;> exact ⟨rfl, rfl⟩⟩)
    · split at h
      · rename_i hobject
        obtain rfl := Option.some.inj h
        exact .inr (.inr ⟨List.contains_iff_mem.mp hobject, by split <;> exact ⟨rfl, rfl⟩⟩)
      · cases h

theorem mem_objects_of_kindOf? {type : DeclaredType} {kind : FieldKind}
    (h : kindOf? objects enums type = some kind) {nested : String}
    (hnested : kind.objectType? = some nested) : nested ∈ objects := by
  rcases kindOf?_cases h with ⟨_, -, -, hnone⟩ | ⟨-, -, hnone⟩ | ⟨hmem, -, hsome⟩
  · rw [hnone] at hnested; cases hnested
  · rw [hnone] at hnested; cases hnested
  · rw [hsome] at hnested
    exact Option.some.inj hnested ▸ hmem

theorem mem_enums_of_kindOf? {type : DeclaredType} {kind : FieldKind}
    (h : kindOf? objects enums type = some kind) {enumName : String}
    (hleaf : kind.leafType? = some (.enum enumName)) : enumName ∈ enums := by
  rcases kindOf?_cases h with ⟨_, -, hscalar, -⟩ | ⟨hmem, henum, -⟩ | ⟨-, hnone, -⟩
  · rw [hscalar] at hleaf; cases hleaf
  · rw [henum] at hleaf
    obtain ⟨⟩ := hleaf
    exact hmem
  · rw [hnone] at hleaf; cases hleaf

theorem buildField_eq_ok_iff {typeName : String} {d : FieldDefinition} {f : Field} :
    buildField objects enums typeName d = .ok f ↔ FieldBuilt objects enums [] typeName d f := by
  unfold buildField
  dsimp only
  constructor
  · intro h
    split at h
    · cases h
    · rename_i type hparse
      split at h
      · cases h
      · rename_i kind hkind
        obtain rfl := Except.ok.inj h
        exact ⟨rfl, rfl, ⟨type, hparse, hkind⟩, rfl, rfl⟩
  · rintro ⟨hname, hdeclared, ⟨type, hparse, hkind⟩, hresolver, hargs⟩
    obtain ⟨name, declared, kind, resolver, args⟩ := f
    dsimp only at hname hdeclared hkind hresolver hargs
    subst hname hdeclared hargs hresolver
    rw [hparse]
    dsimp only
    rw [hkind]
    rfl

/-- The fields of a type have names of their own, none of which stood before. -/
theorem buildFields_eq_ok_iff {typeName : String} {definitions : List FieldDefinition}
    {before : List String} {fields : List Field} :
    buildFields objects enums typeName before definitions = .ok fields ↔
      (definitions.map (·.name)).Nodup ∧ (∀ d ∈ definitions, d.name ∉ before) ∧
        List.Forall₂ (FieldBuilt objects enums [] typeName) definitions fields := by
  induction definitions generalizing before fields with
  | nil => simp [buildFields, eq_comm]
  | cons d rest ih =>
      rw [buildFields, List.map_cons, List.nodup_cons, List.forall_mem_cons,
        List.forall₂_cons_left_iff]
      by_cases hmem : d.name ∈ before
      · simp [hmem]
      · rw [if_neg (by simpa using hmem)]
        -- The name of the first field is one that stood before for the others.
        constructor
        · intro h
          obtain ⟨field, hfield, h⟩ := bind_eq_ok.mp h
          obtain ⟨more, hmore, h⟩ := bind_eq_ok.mp h
          obtain rfl := Except.ok.inj h
          obtain ⟨hdistinct, hnew, hbuilt⟩ := ih.mp hmore
          refine ⟨⟨fun hname => ?_, hdistinct⟩, ⟨hmem, fun d' hd' hold => ?_⟩,
            field, more, buildField_eq_ok_iff.mp hfield, hbuilt, rfl⟩
          · obtain ⟨d', hd', hsame⟩ := List.mem_map.mp hname
            exact hnew d' hd' (hsame ▸ List.mem_cons_self)
          · exact hnew d' hd' (List.mem_cons_of_mem d.name hold)
        · rintro ⟨⟨hname, hdistinct⟩, ⟨-, hnew⟩, field, more, hfield, hbuilt, rfl⟩
          refine bind_eq_ok.mpr ⟨field, buildField_eq_ok_iff.mpr hfield, bind_eq_ok.mpr ⟨more, ?_, rfl⟩⟩
          refine ih.mpr ⟨hdistinct, fun d' hd' hold => ?_, hbuilt⟩
          rcases List.mem_cons.mp hold with hsame | hold
          · exact hname (List.mem_map.mpr ⟨d', hd', hsame⟩)
          · exact hnew d' hd' hold

theorem buildType_eq_ok_iff {d : TypeDefinition} {t : ObjectType} :
    buildType objects enums d = .ok t ↔
      (d.allFields.map (·.name)).Nodup ∧ TypeBuilt objects enums [] d t := by
  rw [buildType, bind_eq_ok]
  constructor
  · rintro ⟨fields, hfields, h⟩
    obtain rfl := Except.ok.inj h
    obtain ⟨hdistinct, -, hbuilt⟩ := buildFields_eq_ok_iff.mp hfields
    exact ⟨hdistinct, rfl, rfl, hbuilt⟩
  · rintro ⟨hdistinct, hname, hnode, hbuilt⟩
    obtain ⟨name, isNode, fields⟩ := t
    dsimp only at hname hnode hbuilt
    subst hname hnode
    exact ⟨fields, buildFields_eq_ok_iff.mpr ⟨hdistinct, by simp, hbuilt⟩, rfl⟩

/-! ### Attaching resolvers -/

/-- There is one way only for a type to be built. -/
theorem FieldBuilt.rightUnique {typeName : String} :
    Relator.RightUnique (FieldBuilt objects enums attachments typeName) := by
  rintro d f f' ⟨hname, hdeclared, ⟨type, hparse, hkind⟩, hresolver, hargs⟩
    ⟨hname', hdeclared', ⟨type', hparse', hkind'⟩, hresolver', hargs'⟩
  have htype : type = type' := Except.ok.inj (hparse.symm.trans hparse')
  subst htype
  have hsame : f.kind = f'.kind := Option.some.inj (hkind.symm.trans hkind')
  cases f
  cases f'
  simp_all

theorem TypeBuilt.rightUnique : Relator.RightUnique (TypeBuilt objects enums attachments) := by
  rintro d t t' ⟨hname, hnode, hfields⟩ ⟨hname', hnode', hfields'⟩
  have hsame : t.fields = t'.fields := FieldBuilt.rightUnique.forall₂ hfields hfields'
  cases t
  cases t'
  simp_all

theorem attached?_append (a : Attachment) (typeName field : String) :
    attached? (attachments ++ [a]) typeName field =
      if a.typeName = typeName ∧ a.field = field then some a.resolver
      else attached? attachments typeName field := by
  rw [attached?, List.reverse_append, List.reverse_singleton, List.singleton_append,
    List.find?_cons]
  by_cases h : a.typeName = typeName ∧ a.field = field
  · simp [h]
  · rw [if_neg h]
    have hother : (a.typeName == typeName && a.field == field) = false := by
      simpa using h
    rw [hother]
    rfl

theorem FieldBuilt.attach {typeName : String} {d : FieldDefinition} {f : Field}
    (h : FieldBuilt objects enums attachments typeName d f) (a : Attachment) :
    FieldBuilt objects enums (attachments ++ [a]) typeName d (a.onField typeName f) := by
  obtain ⟨hname, hdeclared, hkind, hresolver, hargs⟩ := h
  unfold Attachment.onField
  by_cases hmeant : a.typeName = typeName ∧ a.field = d.name
  · rw [if_pos (hname ▸ hmeant)]
    refine ⟨hname, hdeclared, hkind, ?_, hargs⟩
    rw [attached?_append, if_pos hmeant]
    rfl
  · rw [if_neg (hname ▸ hmeant)]
    refine ⟨hname, hdeclared, hkind, ?_, hargs⟩
    rw [attached?_append, if_neg hmeant, hresolver]

theorem TypeBuilt.attach {d : TypeDefinition} {t : ObjectType}
    (h : TypeBuilt objects enums attachments d t) (a : Attachment) :
    TypeBuilt objects enums (attachments ++ [a]) d (a.onType t) := by
  refine ⟨h.name, h.isNode, ?_⟩
  rw [Attachment.onType, List.forall₂_map_right_iff, h.name]
  exact h.fields.imp fun _ _ hbuilt => hbuilt.attach a

/-- What is built with resolvers attached is built without them as well. -/
theorem TypeBuilt.detach {d : TypeDefinition} {t : ObjectType}
    (h : TypeBuilt objects enums attachments d t) : ∃ t', TypeBuilt objects enums [] d t' := by
  obtain ⟨fields, hfields⟩ := exists_forall₂ (R := FieldBuilt objects enums [] d.name) fun fd hfd => by
    obtain ⟨f, -, hbuilt⟩ := exists_right_of_forall₂ h.fields hfd
    exact ⟨{ f with resolver := fd.resolver },
      hbuilt.name, hbuilt.declared, hbuilt.kind, rfl, hbuilt.defaultArgs⟩
  exact ⟨⟨d.name, d.isNode, fields⟩, rfl, rfl, hfields⟩

/-- On a type of another name nothing changes. -/
theorem onType_of_ne {a : Attachment} {t : ObjectType} (h : t.name ≠ a.typeName) :
    a.onType t = t := by
  have hfields : t.fields.map (a.onField t.name) = t.fields := by
    apply List.map_id''
    intro f
    exact if_neg fun hmeant => h hmeant.1.symm
  rw [Attachment.onType, hfields]

theorem applyAttachment_eq_ok_iff {types types' : List ObjectType} {a : Attachment} :
    applyAttachment types a = .ok types' ↔
      (∃ t, types.find? (·.name == a.typeName) = some t ∧ ∃ f ∈ t.fields, f.name = a.field) ∧
        types' = types.map a.onType := by
  have hmap : (types.map fun u =>
      if u.name == a.typeName then
        { u with fields := u.fields.map fun f =>
            if f.name == a.field then { f with resolver := some a.resolver } else f }
      else u) = types.map a.onType := by
    refine List.map_congr_left fun u _ => ?_
    by_cases hname : u.name = a.typeName
    · rw [if_pos (by simpa using hname), Attachment.onType]
      congr 1
      refine List.map_congr_left fun f _ => ?_
      simp only [Attachment.onField, hname, true_and, beq_iff_eq, eq_comm (a := f.name)]
    · rw [if_neg (by simpa using hname), onType_of_ne hname]
  rw [applyAttachment, hmap]
  cases hfind : types.find? (·.name == a.typeName) with
  | none => simp
  | some t =>
      simp only [Option.some.injEq, exists_eq_left']
      by_cases hfield : ∃ f ∈ t.fields, f.name = a.field
      · rw [if_pos (by simpa using hfield), Except.ok.injEq, eq_comm]
        exact (and_iff_right hfield).symm
      · rw [if_neg (by simpa using hfield)]
        exact ⟨nofun, fun h => absurd h.1 hfield⟩

/-- A resolver is put on its field if the field is there. -/
theorem applyAttachment_iff {definitions : List TypeDefinition} {types types' : List ObjectType}
    (hnames : (definitions.map (·.name)).Nodup)
    (htypes : List.Forall₂ (TypeBuilt objects enums attachments) definitions types) {a : Attachment} :
    applyAttachment types a = .ok types' ↔ a.Lands definitions ∧ types' = types.map a.onType := by
  rw [applyAttachment_eq_ok_iff]
  refine and_congr_left fun _ => ⟨?_, ?_⟩
  · rintro ⟨t, ht, f, hf, hfield⟩
    obtain ⟨d, hd, hbuilt⟩ := exists_left_of_forall₂ htypes (List.mem_of_find?_eq_some ht)
    obtain ⟨f', hf', hfieldBuilt⟩ := exists_left_of_forall₂ hbuilt.fields hf
    have hname : t.name = a.typeName := by simpa using List.find?_some ht
    exact ⟨d, hd, hbuilt.name ▸ hname, f', hf', hfieldBuilt.name ▸ hfield⟩
  · rintro ⟨d, hd, hname, f, hf, hfield⟩
    obtain ⟨t, ht, hbuilt⟩ := exists_right_of_forall₂ htypes hd
    obtain ⟨f', hf', hfieldBuilt⟩ := exists_right_of_forall₂ hbuilt.fields hf
    have hdistinct : (types.map (·.name)).Nodup := by
      rwa [map_eq_of_forall₂ htypes fun _ _ h => h.name]
    exact ⟨t, (find?_eq_some_iff_of_nodup hdistinct).mpr ⟨ht, hbuilt.name.trans hname⟩,
      f', hf', hfieldBuilt.name.trans hfield⟩

/-- Resolvers are put on their fields one after the other. -/
theorem foldlM_applyAttachment_iff {definitions : List TypeDefinition}
    (hnames : (definitions.map (·.name)).Nodup) {more : List Attachment}
    {types types' : List ObjectType}
    (htypes : List.Forall₂ (TypeBuilt objects enums attachments) definitions types) :
    more.foldlM applyAttachment types = .ok types' ↔
      (∀ a ∈ more, a.Lands definitions) ∧
        List.Forall₂ (TypeBuilt objects enums (attachments ++ more)) definitions types' := by
  -- What was attached so far grows at its end by each resolver in turn.
  induction more generalizing attachments types with
  | nil =>
      rw [List.append_nil, List.foldlM_nil]
      constructor
      · intro h
        obtain rfl := Except.ok.inj h
        exact ⟨by simp, htypes⟩
      · rintro ⟨-, htypes'⟩
        rw [TypeBuilt.rightUnique.forall₂ htypes htypes']
        rfl
  | cons a rest ih =>
      have hnext : List.Forall₂ (TypeBuilt objects enums (attachments ++ [a])) definitions
          (types.map a.onType) :=
        List.forall₂_map_right_iff.mpr (htypes.imp fun _ _ hbuilt => hbuilt.attach a)
      rw [List.foldlM_cons, bind_eq_ok, List.forall_mem_cons, and_assoc, List.append_cons,
        ← ih hnext]
      constructor
      · rintro ⟨next, hfirst, hrest⟩
        obtain ⟨hlands, rfl⟩ := (applyAttachment_iff hnames htypes).mp hfirst
        exact ⟨hlands, hrest⟩
      · rintro ⟨hlands, hrest⟩
        exact ⟨_, (applyAttachment_iff hnames htypes).mpr ⟨hlands, rfl⟩, hrest⟩

/-! ### The registry as a whole -/

variable {s : Schema} {r : Registry}

theorem nodup_names_iff : (s.enumNames ++ s.objectNames).Nodup ↔
    repeatedName? [] s.enumNames = none ∧ repeatedName? s.enumNames s.objectNames = none := by
  rw [repeatedName?_eq_none_iff, repeatedName?_eq_none_iff, List.nodup_append]
  constructor
  · rintro ⟨henums, hobjects, hapart⟩
    exact ⟨⟨henums, by simp⟩, hobjects, fun name hname henum => hapart name henum name hname rfl⟩
  · rintro ⟨⟨henums, -⟩, hobjects, hapart⟩
    refine ⟨henums, hobjects, ?_⟩
    rintro name henum _ hname rfl
    exact hapart name hname henum

theorem mapM_buildType_iff {types : List ObjectType} :
    s.allTypes.mapM (buildType s.objectNames s.enumNames) = .ok types ↔
      (∀ d ∈ s.allTypes, (d.allFields.map (·.name)).Nodup) ∧
        List.Forall₂ (TypeBuilt s.objectNames s.enumNames []) s.allTypes types := by
  rw [mapM_eq_ok_iff, ← List.forall₂_and_left]
  simp only [buildType_eq_ok_iff]

/-- The stages of building: names are checked, types are built, resolvers are attached. -/
theorem build_eq_ok_iff_stages : s.build = .ok r ↔ (s.enumNames ++ s.objectNames).Nodup ∧
    ∃ types, s.allTypes.mapM (buildType s.objectNames s.enumNames) = .ok types ∧
      ∃ types', s.attachments.foldlM applyAttachment types = .ok types' ∧ ⟨types', s.enums⟩ = r := by
  rw [nodup_names_iff]
  unfold build enumNames objectNames
  cases henums : repeatedName? [] (s.enums.map (·.name)) with
  | some name => simp [henums, throw, throwThe, MonadExceptOf.throw, bind, Except.bind]
  | none =>
      cases hobjects : repeatedName? (s.enums.map (·.name)) (s.allTypes.map (·.name)) with
      | some name => simp [henums, hobjects, throw, throwThe, MonadExceptOf.throw, bind, Except.bind]
      | none =>
          simp only [henums, hobjects, bind_eq_ok, pure, Except.pure, Except.ok.injEq, and_self,
            true_and]

/-- **What is built**, and when: what a schema says is what the registry holds, field by field. -/
theorem build_eq_ok_iff : s.build = .ok r ↔ s.Builds r := by
  rw [build_eq_ok_iff_stages]
  constructor
  · rintro ⟨hnames, types, htypes, types', hfold, rfl⟩
    obtain ⟨hfields, htypes⟩ := mapM_buildType_iff.mp htypes
    obtain ⟨hattached, htypes'⟩ :=
      (foldlM_applyAttachment_iff (List.nodup_append.mp hnames).2.1 htypes).mp hfold
    exact ⟨hnames, hfields, htypes', rfl, hattached⟩
  · rintro ⟨hnames, hfields, htypes', henums, hattached⟩
    -- The registry has the resolvers already; before they were attached there were the same types.
    obtain ⟨types, htypes⟩ := exists_forall₂ fun d hd => by
      obtain ⟨t, -, hbuilt⟩ := exists_right_of_forall₂ htypes' hd
      exact hbuilt.detach
    refine ⟨hnames, types, mapM_buildType_iff.mpr ⟨hfields, htypes⟩, r.types, ?_, ?_⟩
    · exact (foldlM_applyAttachment_iff (List.nodup_append.mp hnames).2.1 htypes).mpr
        ⟨hattached, htypes'⟩
    · rw [← henums]

namespace Builds

theorem map_name (h : s.Builds r) : r.types.map (·.name) = s.objectNames :=
  map_eq_of_forall₂ h.types fun _ _ hbuilt => hbuilt.name

theorem isSome_type? (h : s.Builds r) {typeName : String} (hname : typeName ∈ s.objectNames) :
    (r.type? typeName).isSome := by
  rw [← h.map_name] at hname
  obtain ⟨t, ht, hname⟩ := List.mem_map.mp hname
  exact List.find?_isSome.mpr ⟨t, ht, by simp [hname]⟩

theorem isSome_enum? (h : s.Builds r) {enumName : String} (hname : enumName ∈ s.enumNames) :
    (r.enum? enumName).isSome := by
  rw [enumNames, ← h.enums] at hname
  obtain ⟨e, he, hname⟩ := List.mem_map.mp hname
  exact List.find?_isSome.mpr ⟨e, he, by simp [hname]⟩

/-- A type of the registry has the fields of a definition, under the same names. -/
theorem exists_definition (h : s.Builds r) {t : ObjectType} (ht : t ∈ r.types) :
    ∃ d ∈ s.allTypes, TypeBuilt s.objectNames s.enumNames s.attachments d t ∧
      t.fields.map (·.name) = d.allFields.map (·.name) := by
  obtain ⟨d, hd, hbuilt⟩ := exists_left_of_forall₂ h.types ht
  exact ⟨d, hd, hbuilt, map_eq_of_forall₂ hbuilt.fields fun _ _ hfield => hfield.name⟩

theorem distinct (h : s.Builds r) {t : ObjectType} (ht : t ∈ r.types) :
    (t.fields.map (·.name)).Nodup := by
  obtain ⟨d, hd, -, hnames⟩ := h.exists_definition ht
  rw [hnames]
  exact h.fields d hd

/-- The kind of a field is the one that its declared type stands for. -/
theorem exists_kindOf? (h : s.Builds r) {t : ObjectType} (ht : t ∈ r.types) {f : Field}
    (hf : f ∈ t.fields) : ∃ type, kindOf? s.objectNames s.enumNames type = some f.kind := by
  obtain ⟨d, -, hbuilt, -⟩ := h.exists_definition ht
  obtain ⟨fd, -, hfield⟩ := exists_left_of_forall₂ hbuilt.fields hf
  obtain ⟨type, -, hkind⟩ := hfield.kind
  exact ⟨type, hkind⟩

end Builds

/-- For a schema at hand it can be computed whether a registry is built. -/
theorem build_of_isSome (h : s.build.toOption.isSome) :
    s.build = .ok (s.build.toOption.getD ⟨[], []⟩) := by
  cases hbuild : s.build with
  | error e => rw [hbuild] at h; cases h
  | ok r => rfl

/-- **What is built is well formed.** -/
theorem wellFormed_of_build (h : s.build = .ok r) : r.WellFormed := by
  have hbuilds : s.Builds r := build_eq_ok_iff.mp h
  refine ⟨fun t ht => hbuilds.distinct ht, fun t ht f hf nested hnested => ?_⟩
  obtain ⟨type, hkind⟩ := hbuilds.exists_kindOf? ht hf
  exact hbuilds.isSome_type? (mem_objects_of_kindOf? hkind hnested)

end Schema

end ContentQuery
