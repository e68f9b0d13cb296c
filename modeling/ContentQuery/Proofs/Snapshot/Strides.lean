import ContentQuery.Snapshot.Cache
import Mathlib.Logic.Relation

/-!
# Work comes to an end

Polling takes work forward in strides: a resolver is called, pauses once less or answers, a part goes
forward, or the values of all parts are in. No work takes infinitely many strides
(**`Work.acc_goes`**), although what it goes on with may be any function of the answers. So whoever
makes a stride in each poll gets to the end.
-/

namespace ContentQuery

/-! ## One of several goes forward -/

/-- One of the elements goes forward, and the others stay where they are. -/
inductive OneGoes {α : Type} (R : α → α → Prop) : List α → List α → Prop
  | head {a a' : α} {rest : List α} : R a a' → OneGoes R (a :: rest) (a' :: rest)
  | tail {a : α} {rest rest' : List α} : OneGoes R rest rest' → OneGoes R (a :: rest) (a :: rest')

namespace OneGoes

variable {α : Type} {R : α → α → Prop} {a a' : α} {parts parts' : List α} {index : Nat}

theorem set (h : R a a') (hindex : index < parts.length) :
    OneGoes R (parts.set index a) (parts.set index a') := by
  induction parts generalizing index with
  | nil => cases hindex
  | cons part rest ih =>
      cases index with
      | zero => exact .head h
      | succ index => exact .tail (ih (Nat.lt_of_succ_lt_succ hindex))

theorem length_eq (h : Relation.ReflTransGen (OneGoes R) parts parts') :
    parts'.length = parts.length := by
  induction h with
  | refl => rfl
  | tail _ hgoes ih =>
      have hstep : ∀ {l l' : List α}, OneGoes R l l' → l'.length = l.length := by
        intro l l' hgoes
        induction hgoes with
        | head _ => rfl
        | tail _ ih => exact congrArg (· + 1) ih
      exact (hstep hgoes).trans ih

/-- **A part that goes forward** takes the whole with it. -/
theorem transGen_set (h : Relation.TransGen R a a') (hpart : parts[index]? = some a) :
    Relation.TransGen (OneGoes R) parts (parts.set index a') := by
  obtain ⟨hindex, hget⟩ := List.getElem?_eq_some_iff.mp hpart
  have hlift : Relation.TransGen (OneGoes R) (parts.set index a) (parts.set index a') :=
    h.lift (parts.set index) fun _ _ hgoes => set hgoes hindex
  rwa [← hget, List.set_getElem_self] at hlift

theorem reflTransGen_set (h : Relation.ReflTransGen R a a') (hpart : parts[index]? = some a) :
    Relation.ReflTransGen (OneGoes R) parts (parts.set index a') := by
  rcases Relation.reflTransGen_iff_eq_or_transGen.mp h with rfl | h
  · obtain ⟨hindex, hget⟩ := List.getElem?_eq_some_iff.mp hpart
    rw [← hget, List.set_getElem_self]
  · exact (transGen_set h hpart).to_reflTransGen

/-! ### Coming to an end -/

theorem acc_cons {part : α} {rest : List α} (hpart : Acc (flip R) part)
    (hrest : Acc (flip (OneGoes R)) rest) : Acc (flip (OneGoes R)) (part :: rest) := by
  -- Either the first element goes forward or, while it stays, one of the others.
  induction hpart generalizing rest with
  | intro part _ ihpart =>
      induction hrest with
      | intro rest hacc ihrest =>
          refine .intro _ fun parts hgoes => ?_
          cases hgoes with
          | head hfirst => exact ihpart _ hfirst (.intro _ hacc)
          | tail hmore => exact ihrest _ hmore

/-- If no element goes forward for ever, the list does not. -/
theorem acc (h : ∀ part ∈ parts, Acc (flip R) part) : Acc (flip (OneGoes R)) parts := by
  induction parts with
  | nil => exact .intro _ fun _ hgoes => nomatch hgoes
  | cons part rest ih =>
      obtain ⟨hpart, hrest⟩ := List.forall_mem_cons.mp h
      exact acc_cons hpart (ih hrest)

theorem acc_transGen (h : ∀ part ∈ parts, Acc (flip R) part) :
    Acc (flip (Relation.TransGen (OneGoes R))) parts := by
  apply Subrelation.accessible _ (acc_transGen_iff.mpr (acc h))
  intro parts parts' hgoes
  exact Relation.transGen_swap.mpr hgoes

end OneGoes

/-! ## Strides -/

namespace Work

/-- One stride of work. -/
inductive Goes : Work → Work → Prop
  | pause {resolver : Resolver} {request : ResolveRequest} {next : Except String Json → Work}
      (pauses : Nat) (answer : NodeStore → Except String Json) :
      Goes (call resolver request next) (waiting pauses answer next)
  | answer {resolver : Resolver} {request : ResolveRequest} {next : Except String Json → Work}
      (a : Except String Json) : Goes (call resolver request next) (next a)
  | wait {pauses : Nat} {answer : NodeStore → Except String Json}
      {next : Except String Json → Work} :
      Goes (waiting (pauses + 1) answer next) (waiting pauses answer next)
  | resume {pauses : Nat} {answer : NodeStore → Except String Json}
      {next : Except String Json → Work} (a : Except String Json) :
      Goes (waiting pauses answer next) (next a)
  | part {parts parts' : List Work} {next : List Json → Work} :
      OneGoes Goes parts parts' → Goes (join parts next) (join parts' next)
  | gather {parts : List Work} {next : List Json → Work} (number : Nat) :
      Goes (join parts next) (crowd number parts next)
  | joined {parts : List Work} {next : List Json → Work} (vs : List Json) :
      Goes (join parts next) (next vs)
  | fail {parts : List Work} {next : List Json → Work} (e : SnapshotError) :
      Goes (join parts next) (failed e)
  | partOfCrowd {number : Nat} {parts parts' : List Work} {next : List Json → Work} :
      OneGoes Goes parts parts' → Goes (crowd number parts next) (crowd number parts' next)
  | allJoined {number : Nat} {parts : List Work} {next : List Json → Work} (vs : List Json) :
      Goes (crowd number parts next) (next vs)
  | failCrowd {number : Nat} {parts : List Work} {next : List Json → Work} (e : SnapshotError) :
      Goes (crowd number parts next) (failed e)

variable {parts parts' : List Work} {next : List Json → Work}

theorem acc_failed (e : SnapshotError) : Acc (flip Goes) (failed e) :=
  .intro _ fun _ hgoes => nomatch hgoes

theorem acc_waiting {answer : NodeStore → Except String Json} {next : Except String Json → Work}
    (hnext : ∀ a, Acc (flip Goes) (next a)) (pauses : Nat) :
    Acc (flip Goes) (waiting pauses answer next) := by
  induction pauses with
  | zero =>
      refine .intro _ fun w hgoes => ?_
      cases hgoes with
      | resume a => exact hnext a
  | succ pauses ih =>
      refine .intro _ fun w hgoes => ?_
      cases hgoes with
      | wait => exact ih
      | resume a => exact hnext a

theorem acc_crowd (hnext : ∀ vs, Acc (flip Goes) (next vs)) (number : Nat)
    (hparts : Acc (flip (OneGoes Goes)) parts) : Acc (flip Goes) (crowd number parts next) := by
  induction hparts with
  | intro parts _ ih =>
      refine .intro _ fun w hgoes => ?_
      cases hgoes with
      | partOfCrowd hparts => exact ih _ hparts
      | allJoined vs => exact hnext vs
      | failCrowd e => exact acc_failed e

theorem acc_join (hnext : ∀ vs, Acc (flip Goes) (next vs))
    (hparts : Acc (flip (OneGoes Goes)) parts) : Acc (flip Goes) (join parts next) := by
  induction hparts with
  | intro parts hacc ih =>
      refine .intro _ fun w hgoes => ?_
      cases hgoes with
      | part hparts => exact ih _ hparts
      | gather number => exact acc_crowd hnext number (.intro _ hacc)
      | joined vs => exact hnext vs
      | fail e => exact acc_failed e

mutual

/-- **No work goes forward for ever.** -/
theorem acc_goes (w : Work) : Acc (flip Goes) w := by
  cases w with
  | done v => exact .intro _ fun _ hgoes => nomatch hgoes
  | failed e => exact acc_failed e
  | call resolver request next =>
      refine .intro _ fun w hgoes => ?_
      cases hgoes with
      | pause pauses answer => exact acc_waiting (fun a => acc_goes (next a)) pauses
      | answer a => exact acc_goes (next a)
  | waiting pauses answer next => exact acc_waiting (fun a => acc_goes (next a)) pauses
  | join parts next => exact acc_join (fun vs => acc_goes (next vs)) (OneGoes.acc (acc_all parts))
  | crowd number parts next =>
      exact acc_crowd (fun vs => acc_goes (next vs)) number (OneGoes.acc (acc_all parts))

theorem acc_all (parts : List Work) : ∀ w ∈ parts, Acc (flip Goes) w := by
  cases parts with
  | nil => exact fun _ hmem => nomatch hmem
  | cons w rest => exact List.forall_mem_cons.mpr ⟨acc_goes w, acc_all rest⟩

end

end Work

/-- One stride of a task. -/
inductive Task.Goes : Task → Task → Prop
  | work {node : Node} {w w' : Work} : w.Goes w' → Goes (.own node w) (.own node w')
  | finish {node : Node} {w : Work} (snapshot : Node) : Goes (.own node w) (.finished snapshot)
  | fail {node : Node} {w : Work} (e : SnapshotError) : Goes (.own node w) (.failed e)

/-- **No task goes forward for ever.** -/
theorem Task.acc_goes (task : Task) : Acc (flip Goes) task := by
  cases task with
  | own node work =>
      induction work.acc_goes with
      | intro work _ ih =>
          refine .intro _ fun task hgoes => ?_
          cases hgoes with
          | work hwork => exact ih _ hwork
          | finish snapshot => exact .intro _ fun _ hgoes => nomatch hgoes
          | fail e => exact .intro _ fun _ hgoes => nomatch hgoes
  | _ => exact .intro _ fun _ hgoes => nomatch hgoes

end ContentQuery
