import ContentQuery.Proofs.Filter.References
import ContentQuery.Proofs.Schema.Built
import Mathlib.Data.List.Sort

/-!
# Closed registries

What a schema has to be for a registry to be built from it can be told without building anything
(`Schema.Buildable`), and names alone decide it: where a declaration stands does not matter. Whatever a
field of the registry refers to is in the registry (`Registry.Closed`). So those who follow references
never come to a type that is not there, unless that is the one they start with
(**`Schema.build_closed`**).
-/

namespace ContentQuery

/-! ## Schemas that can be built -/

namespace Schema

/-- Something has the name: a scalar, an enum or an object type. -/
def Knows (s : Schema) (name : String) : Prop :=
  (ScalarType.ofName? name).isSome ∨ name ∈ s.enumNames ∨ name ∈ s.objectNames

/-- The text declares a type, and one that there is. -/
def Resolves (s : Schema) (declared : String) : Prop :=
  ∃ type, DeclaredType.parse declared = .ok type ∧ s.Knows type.name

/-- What a schema has to be for a registry to be built from it. -/
structure Buildable (s : Schema) : Prop where
  /-- No name is declared twice, be it of an enum or of an object type. -/
  names : (s.enumNames ++ s.objectNames).Nodup
  fields : ∀ d ∈ s.types, (d.fields.map (·.name)).Nodup
  resolved : ∀ d ∈ s.types, ∀ f ∈ d.fields, s.Resolves f.declared
  attached : ∀ a ∈ s.attachments, a.Lands s.allTypes

variable {s : Schema}

/-! ### The types and fields that are added -/

theorem mem_addMissing {d t : TypeDefinition} {types : List TypeDefinition} :
    d ∈ addMissing t types ↔ d ∈ types ∨ d = t ∧ ∀ u ∈ types, u.name ≠ t.name := by
  unfold addMissing
  by_cases hthere : ∃ u ∈ types, u.name = t.name
  · rw [if_pos (by simpa using hthere)]
    obtain ⟨u, hu, hname⟩ := hthere
    exact ⟨.inl, fun h => h.resolve_right fun hadded => hadded.2 u hu hname⟩
  · rw [if_neg (by simpa using hthere), List.mem_append, List.mem_singleton]
    push Not at hthere
    exact or_congr_right (and_iff_left hthere).symm

theorem exists_name_addMissing (t : TypeDefinition) (types : List TypeDefinition) :
    ∃ d ∈ addMissing t types, d.name = t.name := by
  by_cases hthere : ∃ u ∈ types, u.name = t.name
  · obtain ⟨u, hu, hname⟩ := hthere
    exact ⟨u, mem_addMissing.mpr (.inl hu), hname⟩
  · push Not at hthere
    exact ⟨t, mem_addMissing.mpr (.inr ⟨rfl, hthere⟩), rfl⟩

theorem mem_allTypes_of_mem {d : TypeDefinition} (h : d ∈ s.types) : d ∈ s.allTypes :=
  mem_addMissing.mpr (.inl (mem_addMissing.mpr (.inl h)))

theorem eq_of_mem_allTypes {d : TypeDefinition} (h : d ∈ s.allTypes) :
    d ∈ s.types ∨ d = NodeInterface.nodeDefinition ∨ d = NodeInterface.internalDefinition := by
  rcases mem_addMissing.mp h with h | ⟨rfl, -⟩
  · rcases mem_addMissing.mp h with h | ⟨rfl, -⟩
    · exact .inl h
    · exact .inr (.inl rfl)
  · exact .inr (.inr rfl)

theorem nodeType_mem_objectNames : NodeInterface.nodeType ∈ s.objectNames := by
  obtain ⟨d, hd, hname⟩ := exists_name_addMissing NodeInterface.nodeDefinition s.types
  exact List.mem_map.mpr ⟨d, mem_addMissing.mpr (.inl hd), hname⟩

theorem internalType_mem_objectNames : NodeInterface.internalType ∈ s.objectNames := by
  obtain ⟨d, hd, hname⟩ := exists_name_addMissing NodeInterface.internalDefinition
    (addMissing NodeInterface.nodeDefinition s.types)
  exact List.mem_map.mpr ⟨d, hd, hname⟩

theorem mem_allFields {d : TypeDefinition} {f : FieldDefinition} :
    f ∈ d.allFields ↔ f ∈ d.fields ∨
      d.isNode ∧ f ∈ NodeInterface.fields ∧ ∀ f' ∈ d.fields, f'.name ≠ f.name := by
  unfold TypeDefinition.allFields
  cases d.isNode <;> simp

/-- A node type has all node fields, and a type that declares each of its fields once gets none twice. -/
theorem nodup_allFields_iff {d : TypeDefinition} :
    (d.allFields.map (·.name)).Nodup ↔ (d.fields.map (·.name)).Nodup := by
  unfold TypeDefinition.allFields
  split
  · rw [List.map_append, List.nodup_append]
    constructor
    · exact And.left
    · intro h
      refine ⟨h, ?_, ?_⟩
      · have hall : (NodeInterface.fields.map (·.name)).Nodup := by decide
        exact hall.sublist (List.filter_sublist.map _)
      · rintro name hown _ hadded rfl
        obtain ⟨f, hf, rfl⟩ := List.mem_map.mp hadded
        obtain ⟨f', hf', hsame⟩ := List.mem_map.mp hown
        have hnone := (List.mem_filter.mp hf).2
        simp only [Bool.not_eq_true', List.any_eq_false, beq_iff_eq] at hnone
        exact hnone f' hf' hsame
  · rfl

theorem resolves_of_mem_nodeFields {f : FieldDefinition} (h : f ∈ NodeInterface.fields) :
    s.Resolves f.declared := by
  simp only [NodeInterface.fields, List.mem_cons, List.not_mem_nil, or_false] at h
  rcases h with rfl | rfl | rfl | rfl
  · exact ⟨⟨"ID", false⟩, by decide, .inl (by decide)⟩
  · exact ⟨⟨"Node", false⟩, by decide, .inr (.inr nodeType_mem_objectNames)⟩
  · exact ⟨⟨"Node", true⟩, by decide, .inr (.inr nodeType_mem_objectNames)⟩
  · exact ⟨⟨"Internal", false⟩, by decide, .inr (.inr internalType_mem_objectNames)⟩

/-- The fields of the type `Internal` are scalars and lists of them. -/
theorem resolves_of_mem_internalFields {f : FieldDefinition}
    (h : f ∈ NodeInterface.internalDefinition.fields) : s.Resolves f.declared := by
  have hscalars : ∀ f ∈ NodeInterface.internalDefinition.fields,
      ∃ type, DeclaredType.parse f.declared = .ok type ∧ (ScalarType.ofName? type.name).isSome := by
    have hread : ∀ f ∈ NodeInterface.internalDefinition.fields,
        (DeclaredType.parse f.declared).toOption.any fun type =>
          (ScalarType.ofName? type.name).isSome := by decide
    intro f hf
    have hfield := hread f hf
    cases hparse : DeclaredType.parse f.declared with
    | error fault => rw [hparse] at hfield; cases hfield
    | ok type =>
        rw [hparse] at hfield
        exact ⟨type, rfl, hfield⟩
  obtain ⟨type, hparse, hscalar⟩ := hscalars f h
  exact ⟨type, hparse, .inl hscalar⟩

/-- The types and fields that are added resolve in any schema. -/
theorem resolves_iff : (∀ d ∈ s.allTypes, ∀ f ∈ d.allFields, s.Resolves f.declared) ↔
    ∀ d ∈ s.types, ∀ f ∈ d.fields, s.Resolves f.declared := by
  constructor
  · intro h d hd f hf
    exact h d (mem_allTypes_of_mem hd) f (mem_allFields.mpr (.inl hf))
  · intro h d hd f hf
    -- A field is declared, or one of the type `Internal`, or a node field.
    rcases mem_allFields.mp hf with hown | ⟨-, hadded, -⟩
    · rcases eq_of_mem_allTypes hd with hdeclared | rfl | rfl
      · exact h d hdeclared f hown
      · -- The type `Node` has no fields but the node fields.
        cases hown
      · exact resolves_of_mem_internalFields hown
    · exact resolves_of_mem_nodeFields hadded

theorem nodup_iff : (∀ d ∈ s.allTypes, (d.allFields.map (·.name)).Nodup) ↔
    ∀ d ∈ s.types, (d.fields.map (·.name)).Nodup := by
  simp only [nodup_allFields_iff]
  constructor
  · intro h d hd
    exact h d (mem_allTypes_of_mem hd)
  · intro h d hd
    rcases eq_of_mem_allTypes hd with hdeclared | rfl | rfl
    · exact h d hdeclared
    · exact List.nodup_nil
    · decide

/-! ### What is built from them -/

theorem isSome_kindOf?_iff {type : DeclaredType} :
    (kindOf? s.objectNames s.enumNames type).isSome ↔ s.Knows type.name := by
  unfold kindOf? Knows
  cases ScalarType.ofName? type.name with
  | some scalar => simp
  | none =>
      by_cases henum : type.name ∈ s.enumNames
      · simp [henum]
      · by_cases hobject : type.name ∈ s.objectNames <;> simp [henum, hobject]

/-- The fields of a type are built if what they are declared as resolves. -/
theorem exists_typeBuilt_iff {d : TypeDefinition} :
    (∃ t, TypeBuilt s.objectNames s.enumNames s.attachments d t) ↔
      ∀ f ∈ d.allFields, s.Resolves f.declared := by
  constructor
  · rintro ⟨t, hbuilt⟩ f hf
    obtain ⟨f', -, hfield⟩ := exists_right_of_forall₂ hbuilt.fields hf
    obtain ⟨type, hparse, hkind⟩ := hfield.kind
    exact ⟨type, hparse, isSome_kindOf?_iff.mp (by rw [hkind]; rfl)⟩
  · intro h
    obtain ⟨fields, hfields⟩ := exists_forall₂
      (R := FieldBuilt s.objectNames s.enumNames s.attachments d.name) fun f hf => by
        obtain ⟨type, hparse, hknown⟩ := h f hf
        obtain ⟨kind, hkind⟩ := Option.isSome_iff_exists.mp (isSome_kindOf?_iff.mpr hknown)
        exact ⟨⟨f.name, f.declared, kind, _, f.defaultArgs⟩, rfl, rfl, ⟨type, hparse, hkind⟩, rfl, rfl⟩
    exact ⟨⟨d.name, d.isNode, fields⟩, rfl, rfl, hfields⟩

/-- **A registry is built** from those schemas that are as they have to be. -/
theorem exists_build_iff : (∃ r, s.build = .ok r) ↔ s.Buildable := by
  simp only [build_eq_ok_iff]
  constructor
  · rintro ⟨r, hnames, hfields, htypes, -, hattached⟩
    refine ⟨hnames, nodup_iff.mp hfields, resolves_iff.mp fun d hd => ?_, hattached⟩
    obtain ⟨t, -, hbuilt⟩ := exists_right_of_forall₂ htypes hd
    exact exists_typeBuilt_iff.mp ⟨t, hbuilt⟩
  · rintro ⟨hnames, hfields, hresolved, hattached⟩
    obtain ⟨types, htypes⟩ := exists_forall₂ fun d hd =>
      exists_typeBuilt_iff.mpr (resolves_iff.mpr hresolved d hd)
    exact ⟨⟨types, s.enums⟩, hnames, nodup_iff.mpr hfields, htypes, rfl, hattached⟩

end Schema

/-! ## Closed registries -/

/-- Whatever the fields of a registry refer to is in the registry. -/
structure Registry.Closed (r : Registry) : Prop extends r.WellFormed where
  /-- An enum field has values of an enum that is there. -/
  enums : ∀ t ∈ r.types, ∀ f ∈ t.fields, ∀ enumName, f.kind.leafType? = some (.enum enumName) →
    (r.enum? enumName).isSome
  /-- Nodes have the node fields. -/
  nodes : ∀ t ∈ r.types, t.isNode → ∀ name ∈ ["id", "parent", "children", "internal"],
    (t.field? name).isSome

namespace Schema

variable {s : Schema} {r : Registry}

theorem mem_map_name_allFields {d : TypeDefinition} (hnode : d.isNode) {f : FieldDefinition}
    (hf : f ∈ NodeInterface.fields) : f.name ∈ d.allFields.map (·.name) := by
  by_cases hown : ∃ f' ∈ d.fields, f'.name = f.name
  · obtain ⟨f', hf', hname⟩ := hown
    exact List.mem_map.mpr ⟨f', mem_allFields.mpr (.inl hf'), hname⟩
  · push Not at hown
    exact List.mem_map.mpr ⟨f, mem_allFields.mpr (.inr ⟨hnode, hf, hown⟩), rfl⟩

theorem closed_of_build (h : s.build = .ok r) : r.Closed := by
  have hbuilds : s.Builds r := build_eq_ok_iff.mp h
  refine ⟨wellFormed_of_build h, ?_, ?_⟩
  · intro t ht f hf enumName hleaf
    obtain ⟨type, hkind⟩ := hbuilds.exists_kindOf? ht hf
    exact hbuilds.isSome_enum? (mem_enums_of_kindOf? hkind hleaf)
  · intro t ht hnode name hname
    obtain ⟨d, -, hbuilt, hnames⟩ := hbuilds.exists_definition ht
    have hinterface : ∀ name ∈ ["id", "parent", "children", "internal"],
        ∃ f ∈ NodeInterface.fields, f.name = name := by decide
    obtain ⟨fd, hfd, rfl⟩ := hinterface name hname
    have hmem : fd.name ∈ t.fields.map (·.name) := by
      rw [hnames]
      exact mem_map_name_allFields (hbuilt.isNode ▸ hnode) hfd
    obtain ⟨f, hf, hsame⟩ := List.mem_map.mp hmem
    exact List.find?_isSome.mpr ⟨f, hf, by simp [hsame]⟩

end Schema

/-! ## The order of declarations -/

/-- The same types and enums are found in both registries. -/
structure Registry.Same (r r' : Registry) : Prop where
  type? : ∀ name, r'.type? name = r.type? name
  enum? : ∀ name, r'.enum? name = r.enum? name
  typeNames : r'.typeNames = r.typeNames

theorem find?_eq_of_perm {α : Type} {name : α → String} {as as' : List α} (h : as'.Perm as)
    (hdistinct : (as.map name).Nodup) (key : String) :
    as'.find? (name · == key) = as.find? (name · == key) := by
  have hdistinct' : (as'.map name).Nodup := (h.map name).nodup_iff.mpr hdistinct
  ext a
  rw [find?_eq_some_iff_of_nodup hdistinct', find?_eq_some_iff_of_nodup hdistinct, h.mem_iff]

theorem Registry.same_of_perm {r r' : Registry} (htypes : r'.types.Perm r.types)
    (henums : r'.enums.Perm r.enums) (hdistinct : (r.types.map (·.name)).Nodup)
    (hdistinct' : (r.enums.map (·.name)).Nodup) : r.Same r' where
  type? := find?_eq_of_perm htypes hdistinct
  enum? := find?_eq_of_perm henums hdistinct'
  typeNames := by
    have hsorted (names : List String) : (names.mergeSort (· ≤ ·)).Pairwise (· ≤ ·) :=
      List.pairwise_mergeSort' (· ≤ ·) names
    have hperm : r'.typeNames.Perm r.typeNames :=
      (List.mergeSort_perm _ _).trans ((htypes.map _).trans (List.mergeSort_perm _ _).symm)
    exact hperm.eq_of_pairwise' (hsorted _) (hsorted _)

namespace Schema

variable {s s' : Schema} {r : Registry}

theorem addMissing_perm {types types' : List TypeDefinition} (h : types'.Perm types)
    (t : TypeDefinition) : (addMissing t types').Perm (addMissing t types) := by
  unfold addMissing
  rw [h.any_eq]
  split
  · exact h
  · exact h.append_right [t]

theorem allTypes_perm (h : s'.types.Perm s.types) : s'.allTypes.Perm s.allTypes :=
  addMissing_perm (addMissing_perm h NodeInterface.nodeDefinition) NodeInterface.internalDefinition

/-- A declared type stands for the same kind wherever the names are listed. -/
theorem kindOf?_perm {objects objects' enums enums' : List String} (hobjects : objects'.Perm objects)
    (henums : enums'.Perm enums) (type : DeclaredType) :
    kindOf? objects' enums' type = kindOf? objects enums type := by
  unfold kindOf?
  rw [hobjects.contains_eq, henums.contains_eq]

theorem TypeBuilt.perm {objects objects' enums enums' : List String} (hobjects : objects'.Perm objects)
    (henums : enums'.Perm enums) {attachments : List Attachment} {d : TypeDefinition} {t : ObjectType}
    (h : TypeBuilt objects enums attachments d t) : TypeBuilt objects' enums' attachments d t := by
  refine ⟨h.name, h.isNode, h.fields.imp fun fd f hfield => ?_⟩
  obtain ⟨type, hparse, hkind⟩ := hfield.kind
  rw [← kindOf?_perm hobjects henums] at hkind
  exact ⟨hfield.name, hfield.declared, ⟨type, hparse, hkind⟩, hfield.resolver, hfield.defaultArgs⟩

variable {types : List TypeDefinition} {enums : List EnumType}

/-- **Only names count.** From the same declarations in another order the same types are built, in
another order. -/
theorem Builds.perm (h : s.Builds r) (htypes : types.Perm s.types) (henums : enums.Perm s.enums) :
    ∃ built, Builds ⟨types, enums, s.attachments⟩ ⟨built, enums⟩ ∧ built.Perm r.types := by
  -- Which types are added and which names there are does not depend on the order.
  have hall : (allTypes ⟨types, enums, s.attachments⟩).Perm s.allTypes := allTypes_perm htypes
  have hobjectNames : (objectNames ⟨types, enums, s.attachments⟩).Perm s.objectNames := hall.map _
  have henumNames : (enumNames ⟨types, enums, s.attachments⟩).Perm s.enumNames := henums.map _
  obtain ⟨built, hbuilt, hperm⟩ := List.perm_comp_forall₂ hall h.types
  refine ⟨built, ?_, hperm⟩
  constructor
  case names => exact (henumNames.append hobjectNames).nodup_iff.mpr h.names
  case fields => exact fun d hd => h.fields d (hall.mem_iff.mp hd)
  case types => exact hbuilt.imp fun _ _ => TypeBuilt.perm hobjectNames henumNames
  case enums => rfl
  case attached =>
    intro a ha
    obtain ⟨d, hd, hlands⟩ := h.attached a ha
    exact ⟨d, hall.mem_iff.mpr hd, hlands⟩

/-- **The order does not matter**: neither to whether a registry is built nor to what is found in it. -/
theorem build_perm (h : s.build = .ok r) (htypes : types.Perm s.types) (henums : enums.Perm s.enums) :
    ∃ r', build ⟨types, enums, s.attachments⟩ = .ok r' ∧ r.Same r' := by
  have hbuilds : s.Builds r := build_eq_ok_iff.mp h
  obtain ⟨built, hbuilds', hperm⟩ := hbuilds.perm htypes henums
  obtain ⟨henumNames, hobjectNames, -⟩ := List.nodup_append.mp hbuilds.names
  refine ⟨_, build_eq_ok_iff.mpr hbuilds', Registry.same_of_perm hperm ?_ ?_ ?_⟩
  · rw [hbuilds.enums]
    exact henums
  · rw [hbuilds.map_name]
    exact hobjectNames
  · rw [hbuilds.enums]
    exact henumNames

end Schema

namespace Schema

/-- **Registries are closed, and the order of declarations does not matter.** -/
theorem build_closed (s : Schema) :
    ((∃ r, s.build = .ok r) ↔ s.Buildable) ∧
      (∀ r, s.build = .ok r → r.Closed ∧ r.Gapless) ∧
      ∀ types enums, types.Perm s.types → enums.Perm s.enums →
        ((∃ r, build ⟨types, enums, s.attachments⟩ = .ok r) ↔ ∃ r, s.build = .ok r) ∧
          ∀ r r', s.build = .ok r → build ⟨types, enums, s.attachments⟩ = .ok r' → r.Same r' := by
  refine ⟨exists_build_iff, ?_, ?_⟩
  · intro r h
    exact ⟨closed_of_build h, (wellFormed_of_build h).gapless⟩
  · intro types enums htypes henums
    refine ⟨⟨?_, ?_⟩, ?_⟩
    · rintro ⟨r, h⟩
      obtain ⟨r', h', -⟩ := build_perm h htypes.symm henums.symm
      exact ⟨r', h'⟩
    · rintro ⟨r, h⟩
      obtain ⟨r', h', -⟩ := build_perm h htypes henums
      exact ⟨r', h'⟩
    · intro r r' h h'
      obtain ⟨found, hfound, hsame⟩ := build_perm h htypes henums
      obtain rfl : found = r' := Except.ok.inj (hfound.symm.trans h')
      exact hsame

/-- Animals are nodes with a keeper, and keepers have animals. -/
def zoo : Schema where
  types := [
    ⟨"Animal", true, [.plain "keeper" "Keeper!", .plain "size" "Size"]⟩,
    ⟨"Keeper", false, [.plain "animals" "[Animal!]"]⟩]
  enums := [⟨"Size", ["SMALL", "LARGE"]⟩]
  attachments := [⟨"Animal", "keeper", Link.byId.resolver⟩]

-- The keepers may come first, but they cannot do without the animals.
example : zoo.build.toOption.isSome ∧
    (build { zoo with types := zoo.types.reverse }).toOption.isSome ∧
    ¬(build { zoo with types := zoo.types.drop 1 }).toOption.isSome := by
  decide +kernel

end Schema

end ContentQuery
