import ContentQuery.Proofs.Query.Declared
import ContentQuery.Proofs.Snapshot.Resolution

/-!
# Why snapshots fail

Where all required fields are declared, work on a node fails only because a resolver does
(**`Completion.ofResolver_of_ends`**), and it stays so with every poll (`Work.Sincere.pollWork`).
-/

namespace ContentQuery

open Json (Object)

/-- A resolver has failed. -/
def SnapshotError.OfResolver : SnapshotError → Prop
  | .failure .. => True
  | _ => False

/-! ## Work on declared fields -/

namespace Completion

variable {S : NodeStore → Prop} {complete : Object → Work} {e : SnapshotError}

mutual

/-- What fails in a value fails in one of its objects. -/
theorem exists_of_ends_inObjects (v : Json) (h : Work.Ends S (inObjects complete v) (.error e)) :
    ∃ members, Work.Ends S (complete members) (.error e) := by
  cases v with
  | object members => exact ⟨members, h⟩
  | array items =>
      rcases h with ⟨vs, -, hdone⟩ | ⟨e', heq, hfail⟩
      · cases hdone
      · obtain rfl := Except.error.inj heq
        exact exists_of_anyFails_inItems items hfail
  | _ => cases h

theorem exists_of_anyFails_inItems (items : List Json)
    (h : Work.AnyFails S (inItems complete items) e) :
    ∃ members, Work.Ends S (complete members) (.error e) := by
  cases items with
  | nil => exact h.elim
  | cons item rest =>
      rcases h with hitem | hrest
      · exact exists_of_ends_inObjects item hitem
      · exact exists_of_anyFails_inItems rest hrest

end

/-- Inside a field that declares what is required there, only the work on its objects fails. -/
theorem exists_of_ends_insideWork (c : Completion) {field : Field} {inner : List RequiredField}
    (hinside : c.registry.DeclaresInside field inner) {v : Json}
    (h : Work.Ends S (c.insideWork field inner v) (.error e)) :
    ∃ t members, c.registry.DeclaresAll t inner ∧
      Work.Ends S (c.fields t inner members) (.error e) := by
  unfold insideWork at h
  cases hkind : field.kind.objectType? with
  | none =>
      rw [hkind] at h
      cases h
  | some nested =>
      simp only [hkind] at h
      split at h
      · cases h
      · rename_i hwhole
        have hinner : inner ≠ [] := by
          rintro rfl
          exact hwhole rfl
        obtain ⟨nested', t, hnested, ht, hall⟩ := hinside hinner
        obtain rfl : nested = nested' := Option.some.inj (hkind.symm.trans hnested)
        rw [ht] at h
        obtain ⟨members, hmembers⟩ := exists_of_ends_inObjects v h
        exact ⟨t, members, hall, hmembers⟩

/-- **Where all required fields are declared, only resolvers fail.** -/
theorem ofResolver_of_ends (c : Completion) (t : ObjectType) (required : List RequiredField)
    (hdeclares : c.registry.DeclaresAll t required) (source : Object)
    (h : Work.Ends S (c.fields t required source) (.error e)) : e.OfResolver := by
  match required with
  | [] =>
      rw [fields] at h
      cases h
  | ⟨name, inner⟩ :: rest =>
      rw [Registry.DeclaresAll, Registry.declares_iff] at hdeclares
      obtain ⟨⟨field, hfield, hinside⟩, hrest⟩ := hdeclares
      rw [fields_cons] at h
      simp only [hfield] at h
      have hgoesOn : ∀ v, Work.Ends S ((c.insideWork field inner v).bind fun w =>
          c.fields t rest (source.insert name w)) (.error e) → e.OfResolver := by
        intro v h
        rcases Work.of_ends_bind _ h with ⟨w, -, hmore⟩ | ⟨e', heq, hfail⟩
        · exact ofResolver_of_ends c t rest hrest _ hmore
        · obtain rfl := Except.error.inj heq
          obtain ⟨t', members, hall, hmembers⟩ := c.exists_of_ends_insideWork hinside hfail
          exact ofResolver_of_ends c t' inner hall members hmembers
      cases hresolver : field.resolver with
      | some resolver =>
          rw [hresolver] at h
          obtain ⟨attempt, store, -, h⟩ := h
          cases hanswer : (resolver.reply attempt (c.request t field name source)).answer store with
          | ok v =>
              rw [hanswer] at h
              exact hgoesOn v h
          | error cause =>
              rw [hanswer] at h
              obtain rfl := Except.error.inj h
              trivial
      | none =>
          rw [hresolver] at h
          cases hvalue : source.get? name with
          | some v =>
              rw [hvalue] at h
              exact hgoesOn v h
          | none =>
              rw [hvalue] at h
              exact ofResolver_of_ends c t rest hrest source h
termination_by sizeOf required

end Completion

/-- The type is there and declares all of the fields. -/
def Registry.Accepts (r : Registry) (typeName : String) (fields : RequiredFields) : Prop :=
  ∃ t, r.type? typeName = some t ∧ r.DeclaresAll t fields

/-! ## What fails sincerely -/

/-- Nothing but a failure of a resolver can come of the work, whichever stores there are. -/
def Work.Sincere (w : Work) : Prop := ∀ e, w.Ends (fun _ => True) (.error e) → e.OfResolver

/-- What was kept fails only by a resolver, and nothing else can come of what is pending. -/
def Promise.Sincere {σ α : Type} (sincere : σ → Prop) : Promise σ α → Prop
  | .pending state => sincere state
  | .kept (.ok _) => True
  | .kept (.error e) => e.OfResolver

namespace Work.Sincere

theorem of_refines {w w₀ : Work} (h : w₀.Sincere) (hrefines : w.Refines (fun _ => True) w₀) :
    w.Sincere := fun e he => h e (hrefines _ he)

/-- A poll of the work can fail only as the work could. -/
theorem pollWork {work : Work} (h : work.Sincere) (m : Materializer) (store : NodeStore)
    (waker : Waker) (copy : Node) :
    (m.pollWork store waker copy work).2.Sincere fun pending => pending.2.Sincere := by
  have hpoll : Work.Refines (fun _ => True) (Work.poll store waker work m.toPollState).2 work :=
    Work.poll_refines trivial waker work m.toPollState
  unfold Materializer.pollWork
  split
  · trivial
  · rename_i s e heq
    rw [heq] at hpoll
    exact h e (hpoll _ rfl)
  · rename_i s work' _ _ heq
    rw [heq] at hpoll
    exact h.of_refines hpoll

end Work.Sincere

end ContentQuery
