import ContentQuery.Proofs.Snapshot.Queues
import ContentQuery.Proofs.Snapshot.Reach
import ContentQuery.Proofs.Snapshot.Strides
import Mathlib.Data.List.Perm.Subperm
import Mathlib.Data.List.TakeWhile

/-!
# Crowds are attended

A crowd is attended if every part that is not finished will be polled again: it is in the queue, or it
was told to someone who wakes it by the end of the round; and so was the crowd's own owner, unless the
queue is empty. If one poll of a part is a stride (`CrowdRule.Attends`), all parts of the crowd stay
minded when one is polled (**`CrowdRule.Manned.pollPart`**).
-/

namespace ContentQuery

/-! ## Taking the next part -/

theorem Queue.of_next?_none {q : Queue} (h : q.next? = none) : ∀ i ∈ q.awake, i ∈ q.settled := by
  intro i hmem
  unfold next? at h
  split at h
  · rename_i hdrop
    exact List.contains_iff_mem.mp (List.dropWhile_eq_nil_iff.mp hdrop i hmem)
  · cases h

theorem Queue.of_next?_some {q q' : Queue} {index : Nat} (h : q.next? = some (index, q')) :
    index ∉ q.settled ∧ index ∈ q.awake ∧ ∃ rest, q' = { q with awake := rest } ∧
      rest ⊆ q.awake ∧ ∀ i ∈ q.awake, i ∈ q.settled ∨ i = index ∨ i ∈ rest := by
  unfold next? at h
  split at h
  · cases h
  · rename_i rest hdrop
    cases h
    have hsuffix : index :: rest <:+ q.awake := hdrop ▸ List.dropWhile_suffix _
    refine ⟨?_, hsuffix.subset List.mem_cons_self, rest, rfl,
      fun i hi => hsuffix.subset (List.mem_cons_of_mem _ hi), fun i hi => ?_⟩
    · have hhead := List.head_dropWhile_not (l := q.awake) q.settled.contains (by simp [hdrop])
      simp only [hdrop, List.head_cons] at hhead
      simpa using hhead
    · rw [← List.takeWhile_append_dropWhile (p := q.settled.contains) (l := q.awake), hdrop] at hi
      rcases List.mem_append.mp hi with htaken | hdropped
      · exact .inl (List.contains_iff_mem.mp (List.mem_takeWhile_imp htaken))
      · exact .inr (List.mem_cons.mp hdropped)

/-! ## Attending a crowd -/

namespace CrowdRule

variable {σ α ε β : Type}

/-- What is said of a part with a waker: whether it will be polled again unless it is finished. That
depends on its own crowds, which are among some, and on whether the waker has been told. -/
abbrev Judgement (α : Type) := Agenda → (Nat → Prop) → Waker → Prop → α → Prop

/-- The judgement says nothing of finished parts and can be told from the queues of a part alone. Once
everyone has been woken, it says of an unfinished part that its waker has been told. -/
structure Minds (outcome? : α → Option (Except ε β)) (Minded : Judgement α) : Prop where
  finished : ∀ {a X waker Told part}, (outcome? part).isSome → Minded a X waker Told part
  told : ∀ {a X waker Told part}, Minded a X waker Told part → a.sleepers = [] →
    outcome? part = none → Told
  keeps : ∀ {a a' X waker Told Told' part}, Minded a X waker Told part →
    a.Keeps X waker Told' a' → (Told → Told') → Minded a' X waker Told' part
  widen : ∀ {a X X' waker Told part}, Minded a X waker Told part →
    (∀ crowd < a.queues.size, X crowd → X' crowd) → Minded a X' waker Told part

/-- One poll: all other queues are left alone, the part stays minded and goes forward if at all; it does
go forward if everyone had been woken and it was not finished. -/
structure Stride (outcome? : α → Option (Except ε β)) (Goes : α → α → Prop) (Minded : Judgement α)
    (X : Nat → Prop) (waker : Waker) (a : Agenda) (part : α) (a' : Agenda) (part' : α) : Prop where
  leaves : a.Leaves (fun crowd => ¬ X crowd) waker a'
  minded : Minded a' (a.Since X) waker (a'.Called waker) part'
  follows : Relation.ReflTransGen Goes part part'
  advances : a.sleepers = [] → outcome? part = none → Relation.TransGen Goes part part'

/-- One poll of a part that is minded, for a waker from outside its crowds, is a stride. -/
structure Attends (k : CrowdRule σ α ε β) (Goes : α → α → Prop) (Minded : Judgement α) : Prop extends
    Minds k.outcome? Minded where
  agenda : ∀ s a, k.agenda (k.withAgenda s a) = a
  idle : ∀ {waker part s}, (k.outcome? part).isSome → k.poll waker part s = (s, part)
  poll : ∀ {X waker part s}, (k.agenda s).Sound →
    waker.Within (fun crowd => ¬ X crowd ∧ crowd < (k.agenda s).queues.size) →
    Minded (k.agenda s) X waker True part →
    Stride k.outcome? Goes Minded X waker (k.agenda s) part (k.agenda (k.poll waker part s).1)
      (k.poll waker part s).2

/-- The crowd has a queue of its own. -/
structure Staffed (outcome? : α → Option (Except ε β)) (X : Nat → Prop) (crowd : Nat) (a : Agenda)
    (parts : List α) : Prop where
  mem : X crowd
  lt : crowd < a.queues.size
  opened : (a.queue crowd).closed = false
  settled : ∀ i ∈ (a.queue crowd).settled, ∃ part, parts[i]? = some part ∧ (outcome? part).isSome
  nodup : (a.queue crowd).settled.Nodup
  knows : ∀ i, a.Knows (.part crowd i) → i < parts.length

/-- The crowd has a queue of its own, and all its parts are minded. -/
structure Manned (outcome? : α → Option (Except ε β)) (Minded : Judgement α) (X : Nat → Prop)
    (crowd : Nat) (a : Agenda) (parts : List α) : Prop extends
    Staffed outcome? X crowd a parts where
  /-- Each part has crowds of its own. -/
  minded : ∃ place : Nat → Nat, ∀ i part, parts[i]? = some part →
    Minded a (fun number => X number ∧ number ≠ crowd ∧ place number = i) (.part crowd i)
      (a.Called (.part crowd i)) part

/-- The owner of the crowd has been called, or it asks to be told when a part is woken. -/
def Watched (a : Agenda) (crowd : Nat) (owner : Waker) : Prop :=
  a.Called owner ∨ (a.queue crowd).asks = true ∧ (a.queue crowd).owner = owner

/-- The owner of the crowd has been told, or it asks to be and all parts in the queue are finished. -/
def Attended (a : Agenda) (crowd : Nat) (owner : Waker) (Told : Prop) : Prop :=
  Told ∨ ((a.queue crowd).asks = true ∧ (a.queue crowd).owner = owner) ∧
    ∀ i ∈ (a.queue crowd).awake, i ∈ (a.queue crowd).settled

section

variable {outcome? : α → Option (Except ε β)} {X X' : Nat → Prop} {crowd : Nat} {owner : Waker}
  {a a' : Agenda} {parts : List α} {index : Nat} {part : α}

theorem Staffed.widen (h : Staffed outcome? X crowd a parts)
    (hX : ∀ number < a.queues.size, X number → X' number) : Staffed outcome? X' crowd a parts :=
  { h with mem := hX crowd h.lt h.mem }

theorem Staffed.keeps (h : Staffed outcome? X crowd a parts) {waker : Waker} {Told : Prop}
    (hkeeps : a.Keeps X waker Told a') : Staffed outcome? X crowd a' parts := by
  have hspares := hkeeps.queues crowd h.lt h.mem
  refine ⟨h.mem, Nat.lt_of_lt_of_le h.lt hkeeps.size, hspares.closed.trans h.opened, ?_,
    hspares.settled ▸ h.nodup, fun i hknows => h.knows i (hkeeps.knows crowd h.lt h.mem i hknows)⟩
  rw [hspares.settled]
  exact h.settled

theorem Attended.keeps {Told Told' : Prop} (h : Attended a crowd owner Told)
    (hkeeps : a.Keeps X owner Told' a') (hmem : X crowd) (hlt : crowd < a.queues.size)
    (htold : Told → Told') : Attended a' crowd owner Told' := by
  have hspares := hkeeps.queues crowd hlt hmem
  rcases h with h | ⟨⟨hasks, howner⟩, hawake⟩
  · exact .inl (htold h)
  · rcases hspares.asks with ⟨hawake', hasks'⟩ | ⟨-, hcalled⟩
    · right
      refine ⟨⟨hasks'.trans hasks, hspares.owner.trans howner⟩, ?_⟩
      rw [hawake', hspares.settled]
      exact hawake
    · exact .inl ((hcalled hasks).1 howner)

theorem Staffed.not_settled (h : Staffed outcome? X crowd a parts) (hpart : parts[index]? = some part)
    (hpending : outcome? part = none) : index ∉ (a.queue crowd).settled := by
  intro hmem
  obtain ⟨part', hpart', hsome⟩ := h.settled index hmem
  obtain rfl := Option.some.inj (hpart.symm.trans hpart')
  rw [hpending] at hsome
  cases hsome

/-- Once everyone has been woken, parts that were called are in the queue. -/
theorem Staffed.awake (h : Staffed outcome? X crowd a parts) (hsleepers : a.sleepers = [])
    (hpart : parts[index]? = some part) (hpending : outcome? part = none)
    (hcalled : a.Called (.part crowd index)) : index ∈ (a.queue crowd).awake := by
  rcases hcalled with hsleeps | hreached
  · rw [hsleepers] at hsleeps
    cases hsleeps
  · rcases Queue.ignores_iff.mp hreached with hclosed | hawake | hmem
    · rw [h.opened] at hclosed
      cases hclosed
    · exact hawake
    · exact absurd hmem (h.not_settled hpart hpending)

/-- **Once everyone has been woken**, the owner of a crowd that is not finished has been told. -/
theorem Attended.told {Told : Prop} (h : Attended a crowd owner Told)
    (hstaffed : Staffed outcome? X crowd a parts) (hsleepers : a.sleepers = [])
    (hpart : parts[index]? = some part) (hpending : outcome? part = none)
    (hcalled : a.Called (.part crowd index)) : Told := by
  refine h.resolve_right fun ⟨_, hawake⟩ => hstaffed.not_settled hpart hpending (hawake index ?_)
  exact hstaffed.awake hsleepers hpart hpending hcalled

/-- More parts cannot have finished than there are. -/
theorem Staffed.settled_le (h : Staffed outcome? X crowd a parts) :
    (a.queue crowd).settled.length ≤ parts.length := by
  have hsubset : (a.queue crowd).settled ⊆ List.range parts.length := by
    intro i hi
    obtain ⟨part, hpart, -⟩ := h.settled i hi
    exact List.mem_range.mpr (List.getElem?_eq_some_iff.mp hpart).1
  have hle := (List.subperm_of_subset h.nodup hsubset).length_le
  rwa [List.length_range] at hle

end

section

variable {k : CrowdRule σ α ε β} {Goes : α → α → Prop} {Minded : Judgement α} {X X' : Nat → Prop}
  {crowd : Nat} {owner : Waker} {a a' : Agenda} {s s' : σ} {parts parts' : List α} {index : Nat}
  {part part' : α}

theorem Manned.widen {outcome? : α → Option (Except ε β)} (hk : Minds outcome? Minded)
    (h : Manned outcome? Minded X crowd a parts)
    (hX : ∀ number < a.queues.size, X number → X' number) :
    Manned outcome? Minded X' crowd a parts := by
  obtain ⟨place, hminded⟩ := h.minded
  refine ⟨h.toStaffed.widen hX, place, fun i part hpart => ?_⟩
  exact hk.widen (hminded i part hpart) fun number hlt hnumber =>
    ⟨hX number hlt hnumber.1, hnumber.2⟩

theorem Manned.keeps {outcome? : α → Option (Except ε β)} (hk : Minds outcome? Minded)
    (h : Manned outcome? Minded X crowd a parts) {waker : Waker} {Told : Prop}
    (hkeeps : a.Keeps X waker Told a') : Manned outcome? Minded X crowd a' parts := by
  obtain ⟨place, hminded⟩ := h.minded
  refine ⟨h.toStaffed.keeps hkeeps, place, fun i part hpart => ?_⟩
  exact hk.keeps (hminded i part hpart)
    (hkeeps.inside (fun _ hnumber => hnumber.1) h.mem h.lt) (hkeeps.called crowd h.lt h.mem i)

/-- **What is known of another part** with crowds of its own stays true. -/
theorem Stride.others {outcome? : α → Option (Except ε β)} (hk : Minds outcome? Minded)
    {waker other : Waker} {Told Told' : Prop} {part₁ : α}
    (h : Stride outcome? Goes Minded X waker a part a' part')
    (hminded : Minded a X' other Told part₁) (hdisjoint : ∀ number, X' number → ¬ X number)
    (hwaker : ∀ number i, X' number → waker ≠ .part number i)
    (hother : other.Within fun number => ¬ X number ∧ number < a.queues.size)
    (htold : Told → Told') (hcalled : a'.Called other → Told') :
    Minded a' (fun number => X' number ∧ number < a.queues.size) other Told' part₁ := by
  have hold : Minded a (fun number => X' number ∧ number < a.queues.size) other Told part₁ :=
    hk.widen hminded fun number hnumber hX => ⟨hX, hnumber⟩
  refine hk.keeps hold (h.leaves.keeps ?_ ?_ hother hcalled) htold
  · exact fun number hX => hdisjoint number hX.1
  · exact fun number i hX => hwaker number i hX.1

/-- The queue of the crowd changes, and whoever was called stays so. -/
theorem Manned.onQueue (hk : k.Attends Goes Minded) (h : Manned k.outcome? Minded X crowd a parts)
    {f : Queue → Queue} (hopened : (f (a.queue crowd)).closed = (a.queue crowd).closed)
    (hsettled : ∀ i ∈ (f (a.queue crowd)).settled,
      ∃ part, parts[i]? = some part ∧ (k.outcome? part).isSome)
    (hnodup : (f (a.queue crowd)).settled.Nodup)
    (hawake : (f (a.queue crowd)).awake ⊆ (a.queue crowd).awake)
    (howner : (f (a.queue crowd)).owner = (a.queue crowd).owner ∨
      ∀ number index, X number → (f (a.queue crowd)).owner ≠ .part number index)
    (hignores : ∀ i, (a.queue crowd).ignores i = true → (f (a.queue crowd)).ignores i = true) :
    Manned k.outcome? Minded X crowd (a.onQueue crowd f) parts := by
  have hqueue := a.queue_onQueue_self h.lt f
  obtain ⟨place, hminded⟩ := h.minded
  refine ⟨⟨h.mem, a.size_onQueue crowd f ▸ h.lt, ?_, ?_, ?_, fun i hknows => ?_⟩, place, ?_⟩
  · rw [hqueue, hopened]
    exact h.opened
  · rwa [hqueue]
  · rwa [hqueue]
  · rcases Agenda.knows_onQueue hknows with hknows | howns | ⟨-, j, hmem, heq⟩
    · exact h.knows i hknows
    · rcases howner with hold | hnew
      · exact h.knows i (.inr (.inl ⟨crowd, hold.symm.trans howns⟩))
      · exact absurd howns (hnew crowd i h.mem)
    · cases heq
      exact h.knows i (.inr (.inr ⟨crowd, i, rfl, hawake hmem⟩))
  · intro i part hpart
    apply hk.keeps (hminded i part hpart)
    · apply Agenda.keeps_onQueue (fun hX => hX.2.1 rfl)
      exact howner.imp_right fun hnew number index hX => hnew number index hX.1
    · refine fun hcalled => hcalled.imp_right fun hreached => ?_
      rw [Agenda.Reached, hqueue]
      exact hignores i hreached

/-- A new crowd is manned if its parts are minded, as long as their wakers count as told. -/
theorem manned_newQueue {outcome? : α → Option (Except ε β)} (hsound : a.Sound)
    (hminded : ∀ part ∈ parts, ∀ (X : Nat → Prop) (waker : Waker) (Told : Prop), Told →
      Minded (a.newQueue parts.length).1 X waker Told part) :
    Manned outcome? Minded (a.Since X) a.queues.size (a.newQueue parts.length).1 parts := by
  have hqueue : (a.newQueue parts.length).1.queue a.queues.size =
      { awake := List.range parts.length } := by
    rw [Agenda.queue_newQueue, if_pos rfl]
  refine ⟨⟨.inr (Nat.le_refl _), ?_, ?_, ?_, ?_, fun i hknows => ?_⟩, fun _ => 0,
    fun i part hpart => ?_⟩
  · rw [Agenda.size_newQueue]
    exact Nat.lt_succ_self _
  · rw [hqueue]
  · rw [hqueue]
    exact fun i hi => nomatch hi
  · rw [hqueue]
    exact List.nodup_nil
  · rcases Agenda.knows_newQueue hknows with hknown | ⟨-, hlt⟩
    · exact absurd (hsound.known _ _ hknown) (Nat.lt_irrefl _)
    · exact hlt
  · -- Every part is in the queue from the start.
    refine hminded part (List.mem_of_getElem? hpart) _ _ _ (.inr ?_)
    rw [Agenda.Reached, hqueue, Queue.ignores_iff]
    exact .inr (.inl (List.mem_range.mpr (List.getElem?_eq_some_iff.mp hpart).1))

/-! ### Polling one part -/

/-- What comes of polling one part: it is taken from the queue and goes forward, and all parts stay
minded. -/
structure PartPolled (k : CrowdRule σ α ε β) (Goes : α → α → Prop) (Minded : Judgement α)
    (X : Nat → Prop) (crowd : Nat) (owner : Waker) (a : Agenda) (parts : List α) (index : Nat)
    (part : α) (a' : Agenda) (part' : α) : Prop where
  leaves : a.Leaves (fun number => ¬ X number) owner a'
  manned : Manned k.outcome? Minded (a.Since X) crowd a' (parts.set index part')
  settled : (a'.queue crowd).settled = (a.queue crowd).settled
  new : index ∉ (a.queue crowd).settled
  watched : Watched a crowd owner → Watched a' crowd owner
  follows : Relation.ReflTransGen Goes part part'
  advances : a.sleepers = [] → k.outcome? part = none → Relation.TransGen Goes part part'

/-- The agenda after a part was taken from the queue. -/
structure Taken (a : Agenda) (crowd index : Nat) (a' : Agenda) : Prop where
  onQueue : ∃ rest, a' = a.onQueue crowd fun _ => { a.queue crowd with awake := rest }
  awake : index ∈ (a.queue crowd).awake
  new : index ∉ (a.queue crowd).settled
  rest : (a'.queue crowd).awake ⊆ (a.queue crowd).awake
  /-- All others stay in the queue, unless they are finished. -/
  others : ∀ i ∈ (a.queue crowd).awake,
    i ∈ (a.queue crowd).settled ∨ i = index ∨ i ∈ (a'.queue crowd).awake

theorem taken_of_next? (hlt : crowd < a.queues.size) (hnext : a.next? crowd = some (index, a')) :
    Taken a crowd index a' := by
  obtain ⟨⟨i, q'⟩, hqueue, heq⟩ := Option.map_eq_some_iff.mp hnext
  obtain ⟨rfl, rfl⟩ := Prod.mk.inj heq
  obtain ⟨hnew, hawake, rest, rfl, hrest, hothers⟩ := Queue.of_next?_some hqueue
  refine ⟨⟨rest, rfl⟩, hawake, hnew, ?_, ?_⟩
  · rw [Agenda.queue_onQueue_self hlt]
    exact hrest
  · rw [Agenda.queue_onQueue_self hlt]
    exact hothers

namespace Taken

theorem size (h : Taken a crowd index a') : a'.queues.size = a.queues.size := by
  obtain ⟨rest, rfl⟩ := h.onQueue
  exact a.size_onQueue crowd _

theorem sleepers (h : Taken a crowd index a') : a'.sleepers = a.sleepers := by
  obtain ⟨rest, rfl⟩ := h.onQueue
  rfl

theorem leaves (h : Taken a crowd index a') (hmem : X crowd) :
    a.Leaves (fun number => ¬ X number) owner a' := by
  obtain ⟨rest, rfl⟩ := h.onQueue
  exact Agenda.leaves_onQueue (fun hX => hX hmem) (.inl rfl)

theorem queue (h : Taken a crowd index a') (hlt : crowd < a.queues.size) :
    a'.queue crowd = { a.queue crowd with awake := (a'.queue crowd).awake } := by
  obtain ⟨rest, rfl⟩ := h.onQueue
  rw [Agenda.queue_onQueue_self hlt]

theorem knows (h : Taken a crowd index a') {waker : Waker} (hknows : a'.Knows waker) :
    a.Knows waker := by
  have hrest := h.rest
  obtain ⟨rest, rfl⟩ := h.onQueue
  rcases Agenda.knows_onQueue hknows with hknows | howns | ⟨hlt, i, hmem, heq⟩
  · exact hknows
  · exact .inr (.inl ⟨crowd, howns⟩)
  · rw [Agenda.queue_onQueue_self hlt] at hrest
    exact .inr (.inr ⟨crowd, i, heq, hrest hmem⟩)

/-- Whoever else was called stays so, unless it is finished. -/
theorem called (h : Taken a crowd index a') (hlt : crowd < a.queues.size) {i : Nat} (hne : i ≠ index)
    (hcalled : a.Called (.part crowd i)) : a'.Called (.part crowd i) := by
  refine hcalled.imp (fun hsleeps => h.sleepers ▸ hsleeps) fun hreached => ?_
  rw [Agenda.Reached, Queue.ignores_iff] at hreached ⊢
  rw [h.queue hlt]
  rcases hreached with hclosed | hawake | hsettled
  · exact .inl hclosed
  · rcases h.others i hawake with hsettled | rfl | hrest
    · exact .inr (.inr hsettled)
    · exact absurd rfl hne
    · exact .inr (.inl hrest)
  · exact .inr (.inr hsettled)

/-- What was known of a part of the crowd is known after. -/
theorem minded (hk : k.Attends Goes Minded) (h : Taken a crowd index a') (hX : ¬ X crowd)
    {i : Nat} {Told Told' : Prop} (hminded : Minded a X (.part crowd i) Told part)
    (htold : Told → Told') : Minded a' X (.part crowd i) Told' part := by
  obtain ⟨rest, rfl⟩ := h.onQueue
  exact hk.keeps hminded (Agenda.keeps_onQueue hX (.inl rfl)) htold

end Taken

/-- All parts stay minded when one makes a stride, whose crowds may be new. -/
theorem Stride.manned (hk : k.Attends Goes Minded) {place : Nat → Nat}
    (hindex : parts[index]? = some part)
    (hminded : ∀ i other, i ≠ index → parts[i]? = some other →
      Minded a (fun number => X number ∧ number ≠ crowd ∧ place number = i) (.part crowd i)
        (a.Called (.part crowd i)) other)
    (h : Stride k.outcome? Goes Minded
      (fun number => X number ∧ number ≠ crowd ∧ place number = index) (.part crowd index) a part a'
      part')
    (hlt : crowd < a.queues.size) :
    ∃ place' : Nat → Nat, ∀ i other, (parts.set index part')[i]? = some other →
      Minded a' (fun number => a.Since X number ∧ number ≠ crowd ∧ place' number = i) (.part crowd i)
        (a'.Called (.part crowd i)) other := by
  refine ⟨fun number => if number < a.queues.size then place number else index, ?_⟩
  intro i other hother
  by_cases heq : i = index
  · subst heq
    rw [List.getElem?_set_self (List.getElem?_eq_some_iff.mp hindex).1] at hother
    obtain rfl := Option.some.inj hother
    refine hk.widen h.minded fun number _ hnumber => ?_
    rcases hnumber with ⟨hX, hne, hplace⟩ | hnew
    · exact ⟨.inl hX, hne, by simp [hplace]⟩
    · exact ⟨.inr hnew, by omega, if_neg (Nat.not_lt_of_le hnew)⟩
  · rw [List.getElem?_set_ne (Ne.symm heq)] at hother
    have hwithin : (Waker.part crowd i).Within fun number =>
        ¬ (X number ∧ number ≠ crowd ∧ place number = index) ∧ number < a.queues.size :=
      ⟨fun hX => hX.2.1 rfl, hlt⟩
    have hstays := h.others hk.toMinds (hminded i other heq hother) ?_ ?_ hwithin
      (h.leaves.called hwithin) id
    · refine hk.widen hstays fun number _ hX => ?_
      exact ⟨.inl hX.1.1, hX.1.2.1, (if_pos hX.2).trans hX.1.2.2⟩
    · exact fun number hX hin => heq (hX.2.2.symm.trans hin.2.2)
    · exact fun number j hX hpart => hX.2.1 (Waker.part.inj hpart).1.symm

/-- **Polling one part** keeps the crowd manned. -/
theorem Manned.pollPart (hk : k.Attends Goes Minded) (hsound : (k.agenda s).Sound)
    (h : Manned k.outcome? Minded X crowd (k.agenda s) parts)
    (howner : owner.Within fun number => ¬ X number ∧ number < (k.agenda s).queues.size)
    (htaken : Taken (k.agenda s) crowd index a) (hpart : parts[index]? = some part)
    (hpoll : k.poll (.part crowd index) part (k.withAgenda s a) = (s', part')) :
    PartPolled k Goes Minded X crowd owner (k.agenda s) parts index part (k.agenda s') part' := by
  have hlt : crowd < a.queues.size := htaken.size ▸ h.lt
  have hfirst : (k.agenda s).Leaves (fun number => ¬ X number) owner a := htaken.leaves h.mem
  obtain ⟨place, hminded⟩ := h.minded
  have hstride : Stride k.outcome? Goes Minded
      (fun number => X number ∧ number ≠ crowd ∧ place number = index) (.part crowd index) a part
      (k.agenda s') part' := by
    have hsound' := hfirst.sound hsound (howner.imp fun _ hnumber => hnumber.2)
    have htold := htaken.minded hk (fun hX => hX.2.1 rfl) (hminded index part hpart)
      fun _ => trivial
    have hwithin : (Waker.part crowd index).Within fun number =>
        ¬ (X number ∧ number ≠ crowd ∧ place number = index) ∧ number < a.queues.size :=
      ⟨fun hX => hX.2.1 rfl, hlt⟩
    have hpolled := hk.poll (s := k.withAgenda s a) (by rwa [hk.agenda]) (by rwa [hk.agenda])
      (by rwa [hk.agenda])
    rwa [hk.agenda, hpoll] at hpolled
  have hsecond : a.Leaves (fun number => ¬ X number) owner (k.agenda s') :=
    hstride.leaves.outer (fun hX => hX h.mem) hlt fun number _ hX hin => hX hin.1
  have hspares := hstride.leaves.queues crowd hlt fun hX => hX.2.1 rfl
  have hqueue := htaken.queue h.lt
  have hsettled : ((k.agenda s').queue crowd).settled = ((k.agenda s).queue crowd).settled := by
    rw [hspares.settled, hqueue]
  have hleaves := hfirst.trans hsecond fun _ _ hX => hX
  refine ⟨hleaves, ⟨⟨.inl h.mem, Nat.lt_of_lt_of_le hlt hsecond.size, ?_, ?_, hsettled ▸ h.nodup,
    ?_⟩, ?_⟩, hsettled, htaken.new, ?_, hstride.follows, fun hsleepers =>
      hstride.advances (htaken.sleepers.trans hsleepers)⟩
  · rw [hspares.closed, hqueue]
    exact h.opened
  · rw [hsettled]
    intro i hi
    have hne : index ≠ i := fun heq => htaken.new (heq ▸ hi)
    rw [List.getElem?_set_ne hne]
    exact h.settled i hi
  · rw [List.length_set]
    intro i hknows
    rcases hstride.leaves.knows crowd hlt (fun hX => hX.2.1 rfl) i hknows with hknows | heq
    · exact h.knows i (htaken.knows hknows)
    · cases heq
      exact (List.getElem?_eq_some_iff.mp hpart).1
  · have hnew := hstride.manned hk hpart (fun i other hne hother => ?_) hlt
    · unfold Agenda.Since at hnew ⊢
      rwa [htaken.size] at hnew
    · exact htaken.minded hk (fun hX => hX.2.1 rfl) (hminded i other hother)
        (htaken.called h.lt hne)
  · rintro (hcalled | ⟨hasks, howns⟩)
    · exact .inl (hleaves.called howner hcalled)
    · rw [hqueue] at hspares
      rcases hspares.asks with ⟨-, hasks'⟩ | ⟨-, htold⟩
      · exact .inr ⟨hasks'.trans hasks, hspares.owner.trans howns⟩
      · left
        have hcalled := htold hasks
        simp only [howns] at hcalled
        exact hcalled (howner.imp fun number hnumber =>
          ⟨fun hin => hnumber.1 hin.1, htaken.size ▸ hnumber.2⟩)

end

end CrowdRule

end ContentQuery
