import ContentQuery.Json.Parser
import Mathlib.Data.List.Nodup

/-!
# Objects by their keys

Writing a member replaces the value of its key where that stands, or adds the key at the end. So keys
stay in their order (**`Json.Object.keys_insert`**), and other members stay as they are.
-/

namespace ContentQuery.Json.Object

variable {members : Object} {key other : String} {v : Json}

@[simp] theorem keys_cons (member : String × Json) (rest : Object) :
    keys (member :: rest) = member.1 :: keys rest := rfl

/-! ## Look-ups -/

theorem mem_of_get? (h : members.get? key = some v) : (key, v) ∈ members := by
  induction members with
  | nil => cases h
  | cons member rest ih =>
      obtain ⟨k, w⟩ := member
      rw [get?] at h
      split at h
      · rename_i hkey
        rw [← hkey, Option.some.inj h]
        exact List.mem_cons_self
      · exact List.mem_cons_of_mem _ (ih h)

/-- Where each key stands once, a member is found by its key. -/
theorem get?_of_mem (hkeys : members.keys.Nodup) (h : (key, v) ∈ members) :
    members.get? key = some v := by
  induction members with
  | nil => cases h
  | cons member rest ih =>
      obtain ⟨k, w⟩ := member
      obtain ⟨hnew, hrest⟩ := List.nodup_cons.mp hkeys
      rw [get?]
      rcases List.mem_cons.mp h with heq | hmem
      · obtain ⟨rfl, rfl⟩ := Prod.mk.inj heq
        rw [if_pos rfl]
      · have hne : k ≠ key := by
          rintro rfl
          exact hnew (List.mem_map.mpr ⟨(k, v), hmem, rfl⟩)
        rw [if_neg hne]
        exact ih hrest hmem

/-! ## Writing a member -/

theorem get?_insert_self : (members.insert key v).get? key = some v := by
  induction members with
  | nil => simp [insert, get?]
  | cons member rest ih =>
      obtain ⟨k, w⟩ := member
      rw [insert]
      split
      · rename_i hkey
        rw [get?, if_pos hkey]
      · rename_i hkey
        rw [get?, if_neg hkey]
        exact ih

theorem get?_insert_of_ne (hne : key ≠ other) :
    (members.insert key v).get? other = members.get? other := by
  induction members with
  | nil => simp [insert, get?, hne]
  | cons member rest ih =>
      obtain ⟨k, w⟩ := member
      rw [insert]
      split
      · rename_i hkey
        rw [get?, get?, if_neg (hkey ▸ hne), if_neg (hkey ▸ hne)]
      · rw [get?, get?, ih]

/-- **Keys stay where they stand**, and a new one is put at the end. -/
theorem keys_insert : (members.insert key v).keys =
    if key ∈ members.keys then members.keys else members.keys ++ [key] := by
  induction members with
  | nil => simp [insert, keys]
  | cons member rest ih =>
      obtain ⟨k, w⟩ := member
      rw [insert]
      by_cases hkey : k = key
      · simp [hkey]
      · rw [if_neg hkey, keys_cons, keys_cons, ih]
        by_cases hmem : key ∈ keys rest
        · simp [hmem]
        · simp [hmem, Ne.symm hkey]

theorem nodup_keys_insert (h : members.keys.Nodup) : (members.insert key v).keys.Nodup := by
  rw [keys_insert]
  split
  · exact h
  · rename_i hnew
    exact List.nodup_append.mpr ⟨h, List.nodup_singleton key, by
      rintro k hk _ hkey rfl
      exact hnew (List.mem_singleton.mp hkey ▸ hk)⟩

theorem mem_of_mem_insert {member : String × Json} (h : member ∈ members.insert key v) :
    member = (key, v) ∨ member ∈ members := by
  induction members with
  | nil => exact .inl (List.mem_singleton.mp h)
  | cons first rest ih =>
      obtain ⟨k, w⟩ := first
      rw [insert] at h
      split at h
      · rename_i hkey
        rcases List.mem_cons.mp h with rfl | hrest
        · exact .inl (by rw [hkey])
        · exact .inr (List.mem_cons_of_mem _ hrest)
      · rcases List.mem_cons.mp h with rfl | hrest
        · exact .inr List.mem_cons_self
        · exact (ih hrest).imp_right (List.mem_cons_of_mem _)

end ContentQuery.Json.Object
