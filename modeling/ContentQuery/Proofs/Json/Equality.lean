import ContentQuery.Json.Order
import ContentQuery.Proofs.Json.Object
import Mathlib.Data.List.Perm.Subperm

/-!
# Equality of values goes both ways

Two objects are equal if they have as many members and each member of the first is in the second. That
goes both ways only where keys are told apart: in well-formed values, in which every object has each of
its keys once (**`Json.equals_comm`**). What is read from a text is well formed
(**`Json.wellFormed_of_parse?`**).
-/

namespace ContentQuery.Json

/-! ## Well-formed values -/

mutual

/-- Does every object in the value have each of its keys once? -/
def wellFormed : Json → Bool
  | .array items => wellFormedItems items
  | .object members => decide (Object.keys members).Nodup && wellFormedMembers members
  | _ => true

def wellFormedItems : List Json → Bool
  | [] => true
  | v :: rest => wellFormed v && wellFormedItems rest

def wellFormedMembers : List (String × Json) → Bool
  | [] => true
  | (_, v) :: rest => wellFormed v && wellFormedMembers rest

end

theorem wellFormedItems_iff {items : List Json} :
    wellFormedItems items ↔ ∀ v ∈ items, v.wellFormed := by
  induction items with
  | nil => simp [wellFormedItems]
  | cons v rest ih => rw [wellFormedItems, Bool.and_eq_true, ih, List.forall_mem_cons]

theorem wellFormedMembers_iff {members : List (String × Json)} :
    wellFormedMembers members ↔ ∀ member ∈ members, member.2.wellFormed := by
  induction members with
  | nil => simp [wellFormedMembers]
  | cons member rest ih => rw [wellFormedMembers, Bool.and_eq_true, ih, List.forall_mem_cons]

theorem wellFormed_object_iff {members : Object} : (object members).wellFormed ↔
    members.keys.Nodup ∧ ∀ member ∈ members, member.2.wellFormed := by
  rw [wellFormed, Bool.and_eq_true, decide_eq_true_iff, wellFormedMembers_iff]

theorem wellFormed_of_get? {members : Object} (h : (object members).wellFormed) {key : String}
    {v : Json} (hv : members.get? key = some v) : v.wellFormed :=
  (wellFormed_object_iff.mp h).2 _ (Object.mem_of_get? hv)

/-! ## Reading -/

theorem nodup_keys_ofList (members : List (String × Json)) : (Object.ofList members).keys.Nodup := by
  have hfold : ∀ out : Object, out.keys.Nodup →
      (members.foldl (fun acc m => acc.insert m.1 m.2) out).keys.Nodup := by
    induction members with
    | nil => exact fun out h => h
    | cons member rest ih => exact fun out h => ih _ (Object.nodup_keys_insert h)
  exact hfold [] List.nodup_nil

theorem mem_of_mem_ofList {members : List (String × Json)} {member : String × Json}
    (h : member ∈ Object.ofList members) : member ∈ members := by
  have hfold : ∀ out : Object, member ∈ members.foldl (fun acc m => acc.insert m.1 m.2) out →
      member ∈ members ∨ member ∈ out := by
    clear h
    induction members with
    | nil => exact fun out h => .inr h
    | cons first rest ih =>
        intro out h
        rcases ih _ h with hrest | hout
        · exact .inl (List.mem_cons_of_mem _ hrest)
        · rcases Object.mem_of_mem_insert hout with rfl | hout
          · exact .inl List.mem_cons_self
          · exact .inr hout
  exact (hfold [] h).resolve_right List.not_mem_nil

mutual

/-- Keeping one member a key leaves a well-formed value. -/
theorem wellFormed_tidy (v : Json) : v.tidy.wellFormed := by
  cases v with
  | array items => exact wellFormedItems_tidyItems items
  | object members =>
      refine wellFormed_object_iff.mpr ⟨nodup_keys_ofList _, fun member hmem => ?_⟩
      exact wellFormedMembers_iff.mp (wellFormedMembers_tidyMembers members) member
        (mem_of_mem_ofList hmem)
  | _ => rfl

theorem wellFormedItems_tidyItems (items : List Json) : wellFormedItems (tidyItems items) := by
  cases items with
  | nil => rfl
  | cons v rest =>
      rw [tidyItems, wellFormedItems, Bool.and_eq_true]
      exact ⟨wellFormed_tidy v, wellFormedItems_tidyItems rest⟩

theorem wellFormedMembers_tidyMembers (members : List (String × Json)) :
    wellFormedMembers (tidyMembers members) := by
  match members with
  | [] => rfl
  | (_, v) :: rest =>
      rw [tidyMembers, wellFormedMembers, Bool.and_eq_true]
      exact ⟨wellFormed_tidy v, wellFormedMembers_tidyMembers rest⟩

end

/-- **What is read is well formed.** -/
theorem wellFormed_of_parse? {text : String} {v : Json} (h : parse? text = some v) : v.wellFormed := by
  obtain ⟨written, -, rfl⟩ := Option.map_eq_some_iff.mp h
  exact wellFormed_tidy written

/-! ## Equality -/

theorem sameMembers_iff {a b : Object} :
    sameMembers a b ↔ ∀ member ∈ a, ∃ w, b.get? member.1 = some w ∧ member.2.same w := by
  induction a with
  | nil => simp [sameMembers]
  | cons member rest ih =>
      rw [sameMembers, Bool.and_eq_true, ih, List.forall_mem_cons]
      refine and_congr_left fun _ => ?_
      cases Object.get? member.1 b <;> simp

/-- An object with as many members as another, in which it has all its members, has all members of the
other. -/
theorem mem_keys_of_sameMembers {a b : Object} (ha : a.keys.Nodup) (hlength : a.length = b.length)
    (h : sameMembers a b) {key : String} (hkey : key ∈ b.keys) : key ∈ a.keys := by
  have hsubset : a.keys ⊆ b.keys := by
    intro k hk
    obtain ⟨member, hmember, rfl⟩ := List.mem_map.mp hk
    obtain ⟨w, hw, -⟩ := sameMembers_iff.mp h member hmember
    exact List.mem_map.mpr ⟨(member.1, w), Object.mem_of_get? hw, rfl⟩
  have hperm : a.keys.Perm b.keys := by
    apply (List.subperm_of_subset ha hsubset).perm_of_length_le
    simp [Object.keys, hlength]
  exact hperm.mem_iff.mpr hkey

theorem same_number_comm (a b : Number) : a.same b = b.same a := by
  cases a <;> cases b <;> simp [Number.same, Binary64.sameValue, Bool.beq_comm]

mutual

theorem same_symm (v : Json) {w : Json} (hv : v.wellFormed) (hw : w.wellFormed) (h : v.same w) :
    w.same v := by
  match v, w with
  | .null, .null => rfl
  | .bool a, .bool b =>
      rw [same, beq_iff_eq] at h ⊢
      exact h.symm
  | .number a, .number b =>
      rw [same, same_number_comm]
      exact h
  | .string a, .string b =>
      rw [same, beq_iff_eq] at h ⊢
      exact h.symm
  | .array vs, .array ws => exact sameItems_symm vs hv hw h
  | .object a, .object b =>
      obtain ⟨hkeys, hvalues⟩ := wellFormed_object_iff.mp hv
      obtain ⟨hkeys', hvalues'⟩ := wellFormed_object_iff.mp hw
      rw [same, Bool.and_eq_true, beq_iff_eq] at h ⊢
      obtain ⟨hlength, hmembers⟩ := h
      refine ⟨hlength.symm, sameMembers_iff.mpr fun ⟨key, w⟩ hmem => ?_⟩
      -- The key leads back to a member of the first object, which is equal to this one.
      have hkey : key ∈ Object.keys a :=
        mem_keys_of_sameMembers hkeys hlength hmembers (List.mem_map.mpr ⟨_, hmem, rfl⟩)
      obtain ⟨⟨_, v⟩, hmem', rfl⟩ := List.mem_map.mp hkey
      obtain ⟨w', hw', hsame⟩ := sameMembers_iff.mp hmembers _ hmem'
      obtain rfl : w' = w := Option.some.inj (hw'.symm.trans (Object.get?_of_mem hkeys' hmem))
      refine ⟨v, Object.get?_of_mem hkeys hmem', ?_⟩
      exact membersSame_symm a hmem' (hvalues _ hmem') (hvalues' _ hmem) hsame

theorem sameItems_symm (vs : List Json) {ws : List Json} (hv : wellFormedItems vs)
    (hw : wellFormedItems ws) (h : sameItems vs ws) : sameItems ws vs := by
  match vs, ws with
  | [], [] => rfl
  | v :: vs, w :: ws =>
      rw [wellFormedItems, Bool.and_eq_true] at hv hw
      rw [sameItems, Bool.and_eq_true] at h ⊢
      exact ⟨same_symm v hv.1 hw.1 h.1, sameItems_symm vs hv.2 hw.2 h.2⟩

theorem membersSame_symm (a : List (String × Json)) {member : String × Json} (hmem : member ∈ a)
    {w : Json} (hv : member.2.wellFormed) (hw : w.wellFormed) (h : member.2.same w) :
    w.same member.2 := by
  match a with
  | (key, v) :: rest =>
      rcases List.mem_cons.mp hmem with rfl | hrest
      · exact same_symm v hv hw h
      · exact membersSame_symm rest hrest hv hw h

end

/-- **Equality in tests goes both ways.** -/
theorem equals_comm {v w : Json} (hv : v.wellFormed) (hw : w.wellFormed) : v.equals w = w.equals v := by
  have hsame : v.same w = w.same v := by
    rw [Bool.eq_iff_iff]
    exact ⟨same_symm v hv hw, same_symm w hw hv⟩
  cases v with
  | number a =>
      cases w with
      | number b => simp [equals, Binary64.sameValue, Bool.beq_comm]
      | _ => exact hsame
  | _ => cases w <;> exact hsame

end ContentQuery.Json
