import ContentQuery.Snapshot.Crowd
import Mathlib.Data.List.Forall2

/-!
# Parts are polled one at a time

The order in which the parts of a crowd are polled depends on who was woken when, and on how long the
crowd was given. What polling does to the parts does not: it comes down to polls of single parts, and
to changes of the agenda between them (`CrowdRule.Progress`). Whatever these keep, polling the crowd
keeps (`CrowdRule.pollCrowd_progress`).
-/

namespace ContentQuery

/-! ## What is gathered -/

variable {α ε β : Type} {outcome? : α → Option (Except ε β)} {parts : List α}

/-- All parts together are done when each of them is, and then with their values. -/
theorem forall₂_of_gather_ok {values : List β} (h : gather (parts.map outcome?) = some (.ok values)) :
    List.Forall₂ (fun part value => outcome? part = some (.ok value)) parts values := by
  induction parts generalizing values with
  | nil =>
      obtain rfl := Except.ok.inj (Option.some.inj h)
      exact .nil
  | cons part rest ih =>
      rw [List.map_cons] at h
      rcases hpart : outcome? part with _ | e | value <;> rw [hpart] at h
      · cases h
      · cases h
      · rw [gather] at h
        split at h
        · rename_i more hmore
          obtain rfl := Except.ok.inj (Option.some.inj h)
          exact .cons hpart (ih hmore)
        · rename_i hother
          exact absurd h (hother values)

/-- If a part is told from its value, parts that are done are told from their values. -/
theorem eq_map_of_gather_ok {done : β → α} {values : List β}
    (hdone : ∀ part value, outcome? part = some (.ok value) → part = done value)
    (h : gather (parts.map outcome?) = some (.ok values)) : parts = values.map done := by
  rw [← List.forall₂_eq_eq_eq, List.forall₂_map_right_iff]
  exact (forall₂_of_gather_ok h).imp hdone

theorem eq_map_of_mapM {value? : α → Option β} {done : β → α} {values : List β}
    (hdone : ∀ part value, value? part = some value → part = done value)
    (h : parts.mapM value? = some values) : parts = values.map done := by
  induction parts generalizing values with
  | nil =>
      obtain rfl := Option.some.inj h
      rfl
  | cons part rest ih =>
      rw [List.mapM_cons] at h
      obtain ⟨value, hvalue, h⟩ := Option.bind_eq_some_iff.mp h
      obtain ⟨more, hmore, h⟩ := Option.bind_eq_some_iff.mp h
      obtain rfl := Option.some.inj h
      rw [List.map_cons, ← ih hmore, ← hdone part value hvalue]

theorem exists_of_mapM_none {value? : α → Option β} (h : parts.mapM value? = none) :
    ∃ part ∈ parts, value? part = none := by
  induction parts with
  | nil => cases h
  | cons part rest ih =>
      rcases hpart : value? part with _ | value
      · exact ⟨part, List.mem_cons_self, hpart⟩
      · rcases hrest : rest.mapM value? with _ | more
        · obtain ⟨other, hmem, hother⟩ := ih hrest
          exact ⟨other, List.mem_cons_of_mem part hmem, hother⟩
        · simp [List.mapM_cons, hpart, hrest] at h

/-- The failure of all parts together is the failure of one of them. -/
theorem exists_of_gather_error {e : ε} (h : gather (parts.map outcome?) = some (.error e)) :
    ∃ part ∈ parts, outcome? part = some (.error e) := by
  induction parts with
  | nil => cases h
  | cons part rest ih =>
      rw [List.map_cons] at h
      rcases hpart : outcome? part with _ | e' | value <;> rw [hpart] at h
      · cases h
      · obtain rfl := Except.error.inj (Option.some.inj h)
        exact ⟨part, List.mem_cons_self, hpart⟩
      · rw [gather] at h
        split at h
        · cases h
        · obtain ⟨failed, hmem, hfailed⟩ := ih h
          exact ⟨failed, List.mem_cons_of_mem part hmem, hfailed⟩

/-! ## Polling -/

namespace CrowdRule

variable {σ α ε β : Type} (k : CrowdRule σ α ε β)

/-- What polls of single parts make of some parts, when the agenda may change in between. -/
inductive Progress (s : σ) (parts : List α) : σ → List α → Prop
  | refl : Progress s parts s parts
  | agenda {s' : σ} {parts' : List α} (agenda : Agenda) :
      Progress s parts s' parts' → Progress s parts (k.withAgenda s' agenda) parts'
  | poll {s' : σ} {parts' : List α} (waker : Waker) {index : Nat} {part : α} :
      Progress s parts s' parts' → parts'[index]? = some part →
      Progress s parts (k.poll waker part s').1 (parts'.set index (k.poll waker part s').2)

variable {k} {s₀ : σ} {parts₀ : List α}

theorem Progress.trans {s₁ s₂ : σ} {parts₁ parts₂ : List α} (h : k.Progress s₀ parts₀ s₁ parts₁)
    (h' : k.Progress s₁ parts₁ s₂ parts₂) : k.Progress s₀ parts₀ s₂ parts₂ := by
  induction h' with
  | refl => exact h
  | agenda agenda _ ih => exact ih.agenda agenda
  | poll waker _ hpart ih => exact ih.poll waker hpart

theorem Progress.sweep (crowd : Nat) (owner : Waker) (n : Nat) (again : Bool) {s : σ}
    {parts : List α} (h : k.Progress s₀ parts₀ s parts) :
    k.Progress s₀ parts₀ (k.sweep crowd owner n again s parts).1
      (k.sweep crowd owner n again s parts).2.1 := by
  -- Induction on how many parts may still be polled. Each of them is one step of progress.
  induction n generalizing again s parts with
  | zero => exact h
  | succ n ih =>
      rw [CrowdRule.sweep]
      split
      · exact h
      · rename_i index agenda _
        split
        · exact h.agenda agenda
        · rename_i part hpart
          have hpolled := (h.agenda agenda).poll (.part crowd index) hpart
          dsimp only
          split
          · exact hpolled.agenda _
          · split
            · exact hpolled.agenda _
            · exact ih _ hpolled

theorem Progress.advance (crowd : Nat) (owner : Waker) (n : Nat) {s : σ} {parts : List α}
    (h : k.Progress s₀ parts₀ s parts) :
    k.Progress s₀ parts₀ (k.advance crowd owner n s parts).1
        (k.advance crowd owner n s parts).2.1 ∧
      ∀ result, (k.advance crowd owner n s parts).2.2 = some result →
        gather ((k.advance crowd owner n s parts).2.1.map k.outcome?) = some result := by
  -- Induction on how many parts may still finish, with a sweep up to each of them.
  induction n generalizing s parts with
  | zero => exact ⟨h, fun _ hresult => by cases hresult⟩
  | succ n ih =>
      rw [CrowdRule.advance]
      split
      · rename_i result hgather
        refine ⟨h.agenda _, ?_⟩
        rintro _ ⟨⟩
        exact hgather
      · have hwatched : k.Progress s₀ parts₀ (k.change (·.watch crowd owner) s) parts := h.agenda _
        have hswept := hwatched.sweep crowd owner (k.unfinished parts) false
        dsimp only
        split
        · rename_i s' parts' heq
          rw [heq] at hswept
          exact ih hswept
        · rename_i s' parts' heq
          rw [heq] at hswept
          exact ⟨hswept, fun _ hresult => by cases hresult⟩

/-- **Polling a crowd** is polling its parts one at a time, and it ends with what they end with. -/
theorem pollCrowd_progress (k : CrowdRule σ α ε β) (crowd : Nat) (owner : Waker) (s : σ)
    (parts : List α) :
    k.Progress s parts (k.pollCrowd crowd owner s parts).1
        (k.pollCrowd crowd owner s parts).2.1 ∧
      ∀ result, (k.pollCrowd crowd owner s parts).2.2 = some result →
        gather ((k.pollCrowd crowd owner s parts).2.1.map k.outcome?) = some result :=
  Progress.refl.advance crowd owner (parts.length + 1)

end CrowdRule

end ContentQuery
