import ContentQuery.Proofs.Snapshot.Queues

/-!
# Nobody is forgotten

Waking someone wakes everyone in turn whom that concerns: when a part is woken, the owner of its crowd
is told, if it asks (**`Agenda.woken_wakeAll`**). What anyone does to the queues of others comes to no
more than this: parts are woken, and an owner that no longer asks has been called (`Agenda.Leaves`).
-/

namespace ContentQuery

/-! ## Queues -/

namespace Queue

/-- At most parts were woken in between; an owner that was asking and does not any more is one of
these. -/
structure Spares (Told : Waker → Prop) (q q' : Queue) : Prop where
  settled : q'.settled = q.settled
  closed : q'.closed = q.closed
  owner : q'.owner = q.owner
  awake : q.awake ⊆ q'.awake
  asks : (q'.awake = q.awake ∧ q'.asks = q.asks) ∨ (q'.asks = false ∧ (q.asks = true → Told q.owner))

variable {Told Told' : Waker → Prop} {q q' q'' : Queue} {index : Nat}

theorem Spares.refl (q : Queue) : q.Spares Told q :=
  ⟨rfl, rfl, rfl, fun _ h => h, .inl ⟨rfl, rfl⟩⟩

theorem Spares.imp (h : q.Spares Told q') (htold : Told q.owner → Told' q.owner) :
    q.Spares Told' q' := by
  refine ⟨h.settled, h.closed, h.owner, h.awake, h.asks.imp_right fun ⟨hasks, howner⟩ => ?_⟩
  exact ⟨hasks, fun hasked => htold (howner hasked)⟩

theorem Spares.trans (h : q.Spares Told q') (h' : q'.Spares Told q'') : q.Spares Told q'' := by
  refine ⟨h'.settled.trans h.settled, h'.closed.trans h.closed, h'.owner.trans h.owner,
    fun _ hmem => h'.awake (h.awake hmem), ?_⟩
  rcases h.asks with ⟨hawake, hasks⟩ | ⟨hasks, htold⟩
  · rcases h'.asks with ⟨hawake', hasks'⟩ | ⟨hasks', htold'⟩
    · exact .inl ⟨hawake'.trans hawake, hasks'.trans hasks⟩
    · exact .inr ⟨hasks', fun hasked => h.owner ▸ htold' (hasks.trans hasked)⟩
  · right
    refine ⟨?_, htold⟩
    rcases h'.asks with ⟨-, hasks'⟩ | ⟨hasks', -⟩
    · exact hasks'.trans hasks
    · exact hasks'

theorem ignores_iff : q.ignores index = true ↔
    q.closed = true ∨ index ∈ q.awake ∨ index ∈ q.settled := by
  simp [ignores, or_assoc]

/-- A part that cannot be woken stays so. -/
theorem Spares.ignores (h : q.Spares Told q') (hignores : q.ignores index = true) :
    q'.ignores index = true := by
  rw [ignores_iff] at hignores ⊢
  rcases hignores with hclosed | hawake | hsettled
  · exact .inl (h.closed.trans hclosed)
  · exact .inr (.inl (h.awake hawake))
  · exact .inr (.inr (h.settled ▸ hsettled))

theorem ignores_wake (q : Queue) (index : Nat) : (q.wake index).ignores index = true := by
  unfold wake
  split
  · assumption
  · simp [ignores_iff]

theorem spares_wake (q : Queue) (index : Nat) :
    q.Spares (· ∈ q.told index) (q.wake index) := by
  unfold wake
  split
  · exact .refl q
  · rename_i hignores
    refine ⟨rfl, rfl, rfl, List.subset_append_left _ _, .inr ⟨rfl, fun hasks => ?_⟩⟩
    simp [told, hasks, hignores]

/-- Whoever is told does not ask any more. -/
theorem told_length (q : Queue) (index : Nat) :
    (q.told index).length + (if (q.wake index).asks then 1 else 0) = if q.asks then 1 else 0 := by
  unfold told wake
  by_cases hignores : q.ignores index = true
  · simp [hignores]
  · cases q.asks <;> simp [hignores]

end Queue

/-! ## Waking -/

namespace Agenda

/-- Waking would change nothing: someone outside, who needs no telling, or a part that is in its queue
or that nobody waits for. -/
def Reached (a : Agenda) : Waker → Prop
  | .part crowd index => (a.queue crowd).ignores index = true
  | _ => True

/-- By the end of the round at the latest, waking would change nothing. -/
def Called (a : Agenda) (waker : Waker) : Prop := waker ∈ a.sleepers ∨ a.Reached waker

/-- Whoever polls from outside needs no telling. -/
@[simp]
theorem called_caller (a : Agenda) : a.Called .caller ↔ True := iff_true_intro (.inr trivial)

/-- Somewhere it is written down who is to be woken, or was. -/
def Knows (a : Agenda) (waker : Waker) : Prop :=
  waker ∈ a.sleepers ∨ (∃ crowd, (a.queue crowd).owner = waker) ∨
    ∃ crowd index, waker = .part crowd index ∧ index ∈ (a.queue crowd).awake

variable {a a' : Agenda} {waker : Waker} {wakers pending rest : List Waker}

theorem knows_iff_of_part {crowd index : Nat} : a.Knows (.part crowd index) ↔
    .part crowd index ∈ a.sleepers ∨ (∃ other, (a.queue other).owner = .part crowd index) ∨
      index ∈ (a.queue crowd).awake := by
  refine or_congr_right (or_congr_right ⟨?_, fun hmem => ⟨crowd, index, rfl, hmem⟩⟩)
  rintro ⟨_, _, heq, hmem⟩
  cases heq
  exact hmem

/-! ### One after the other -/

/-- Without bells only parts have to be told. -/
theorem wakeOne_of_not_part (hbells : a.bells = #[]) (h : ∀ crowd index, waker ≠ .part crowd index) :
    a.wakeOne waker = (a, []) := by
  rcases a with ⟨sleepers, bells, queues⟩
  obtain rfl : bells = #[] := hbells
  cases waker with
  | part crowd index => exact absurd rfl (h crowd index)
  | caller => rfl
  | bell number => simp [wakeOne, Bell.asking]

theorem sleepers_wakeOne (a : Agenda) (waker : Waker) : (a.wakeOne waker).1.sleepers = a.sleepers := by
  cases waker <;> rfl

theorem size_wakeOne (a : Agenda) (waker : Waker) :
    (a.wakeOne waker).1.queues.size = a.queues.size := by
  cases waker with
  | part crowd index => exact a.size_onQueue crowd _
  | _ => rfl

theorem bells_wakeOne (hbells : a.bells = #[]) (waker : Waker) : (a.wakeOne waker).1.bells = #[] := by
  cases waker with
  | bell number => simp [wakeOne, hbells]
  | _ => exact hbells

theorem spares_wakeOne (hbells : a.bells = #[]) (waker : Waker) (crowd : Nat) :
    (a.queue crowd).Spares (· ∈ (a.wakeOne waker).2) ((a.wakeOne waker).1.queue crowd) := by
  cases waker with
  | part number index =>
      rw [wakeOne, queue_onQueue]
      split
      · rename_i heq
        rw [heq.1]
        exact Queue.spares_wake _ _
      · exact .refl _
  | _ =>
      rw [wakeOne_of_not_part hbells fun _ _ heq => by cases heq]
      exact .refl _

theorem Reached.mono {Told : Waker → Prop}
    (h : ∀ crowd, (a.queue crowd).Spares Told (a'.queue crowd)) (hreached : a.Reached waker) :
    a'.Reached waker := by
  cases waker with
  | part crowd index => exact (h crowd).ignores hreached
  | _ => trivial

theorem reached_wakeOne (a : Agenda) (waker : Waker) : (a.wakeOne waker).1.Reached waker := by
  cases waker with
  | part crowd index =>
      rw [wakeOne, Reached, queue_onQueue]
      split
      · exact Queue.ignores_wake _ _
      · rename_i hout
        -- There is no such crowd.
        have hsize : a.queues.size ≤ crowd := by
          apply Nat.le_of_not_lt
          intro hlt
          exact hout ⟨rfl, hlt⟩
        simp [queue, Queue.ignores, hsize]
  | _ => trivial

/-- Who is told was known. -/
theorem knows_of_mem_wakeOne (hbells : a.bells = #[]) {other : Waker}
    (h : other ∈ (a.wakeOne waker).2) : a.Knows other := by
  cases waker with
  | part crowd index =>
      rw [wakeOne, Queue.told] at h
      split at h
      · obtain rfl := List.mem_singleton.mp h
        exact .inr (.inl ⟨crowd, rfl⟩)
      · cases h
  | _ =>
      rw [wakeOne_of_not_part hbells fun _ _ heq => by cases heq] at h
      cases h

/-- Nobody new is known but the one who was woken. -/
theorem knows_of_wakeOne (hbells : a.bells = #[]) {other : Waker}
    (h : (a.wakeOne waker).1.Knows other) : a.Knows other ∨ other = waker := by
  have hspares := spares_wakeOne hbells waker
  rcases h with hsleeps | ⟨crowd, howner⟩ | ⟨crowd, index, rfl, hawake⟩
  · rw [sleepers_wakeOne] at hsleeps
    exact .inl (.inl hsleeps)
  · rw [(hspares crowd).owner] at howner
    exact .inl (.inr (.inl ⟨crowd, howner⟩))
  · have hknown : index ∈ (a.queue crowd).awake → a.Knows (.part crowd index) :=
      fun hmem => .inr (.inr ⟨crowd, index, rfl, hmem⟩)
    cases waker with
    | part number i =>
        rw [wakeOne, queue_onQueue] at hawake
        split at hawake
        · rename_i heq
          obtain rfl := heq.1
          unfold Queue.wake at hawake
          split at hawake
          · exact .inl (hknown hawake)
          · rcases List.mem_append.mp hawake with hmem | hmem
            · exact .inl (hknown hmem)
            · exact .inr (congrArg _ (List.mem_singleton.mp hmem))
        · exact .inl (hknown hawake)
    | _ =>
        rw [wakeOne_of_not_part hbells fun _ _ heq => by cases heq] at hawake
        exact .inl (hknown hawake)

theorem countP_modify {α : Type} (p : α → Bool) (f : α → α) {l : List α} {n : Nat} {x : α}
    (hx : l[n]? = some x) : (l.modify n f).countP p + (if p x then 1 else 0) =
      l.countP p + if p (f x) then 1 else 0 := by
  induction l generalizing n with
  | nil => cases hx
  | cons y rest ih =>
      cases n with
      | zero =>
          obtain rfl : y = x := Option.some.inj hx
          rw [List.modify_zero_cons, List.countP_cons, List.countP_cons]
          omega
      | succ n =>
          rw [List.modify_succ_cons, List.countP_cons, List.countP_cons]
          have := ih hx
          omega

/-- Whoever is told asks no more. -/
theorem asking_wakeOne (hbells : a.bells = #[]) (waker : Waker) :
    (a.wakeOne waker).2.length + (a.wakeOne waker).1.asking = a.asking := by
  cases waker with
  | part crowd index =>
      have hasking : ∀ a : Agenda, a.bells = #[] → a.asking = a.queues.toList.countP (·.asks) := by
        intro a hbells
        simp [asking, hbells]
      rw [hasking _ (bells_wakeOne hbells _), hasking a hbells, wakeOne]
      dsimp only
      cases hqueue : a.queues.toList[crowd]? with
      | none =>
          have hsize : a.queues.size ≤ crowd := by simpa using hqueue
          have hsame : (a.onQueue crowd (·.wake index)).queues.toList = a.queues.toList := by
            simp [onQueue, List.modify_eq_self, hsize]
          rw [hsame]
          simp [queue, Queue.told, hsize]
      | some q =>
          have hq : a.queue crowd = q := by
            rw [Array.getElem?_toList] at hqueue
            rw [queue, Array.getD_eq_getD_getElem?, hqueue, Option.getD_some]
          have hcount := countP_modify (·.asks) (·.wake index) hqueue
          have htold := q.told_length index
          rw [hq, onQueue, Array.toList_modify]
          omega
  | _ =>
      rw [wakeOne_of_not_part hbells fun _ _ heq => by cases heq]
      exact Nat.zero_add _

/-! ### All of them -/

/-- Some were to be woken, and all were but those who are pending. -/
structure Woken (wakers pending : List Waker) (a a' : Agenda) : Prop where
  size : a'.queues.size = a.queues.size
  bells : a'.bells = #[]
  sleepers : a'.sleepers = a.sleepers
  queues : ∀ crowd, (a.queue crowd).Spares (fun owner => a'.Reached owner ∨ owner ∈ pending)
    (a'.queue crowd)
  reached : ∀ waker ∈ wakers, a'.Reached waker ∨ waker ∈ pending
  knows : ∀ waker, a'.Knows waker ∨ waker ∈ pending → a.Knows waker ∨ waker ∈ wakers

theorem Woken.start (h : a.bells = #[]) (wakers : List Waker) : Woken wakers wakers a a :=
  ⟨rfl, h, rfl, fun _ => .refl _, fun _ hmem => .inr hmem, fun _ hknown => hknown⟩

/-- One more is woken, and those whom that concerns are pending. -/
theorem Woken.wakeOne (h : Woken wakers (waker :: rest) a a') :
    Woken wakers ((a'.wakeOne waker).2 ++ rest) a (a'.wakeOne waker).1 := by
  have hspares := spares_wakeOne h.bells waker
  have htold : ∀ other, a'.Reached other ∨ other ∈ waker :: rest →
      (a'.wakeOne waker).1.Reached other ∨ other ∈ (a'.wakeOne waker).2 ++ rest := by
    rintro other (hreached | hmem)
    · exact .inl (hreached.mono hspares)
    · rcases List.mem_cons.mp hmem with rfl | hmem
      · exact .inl (reached_wakeOne a' other)
      · exact .inr (List.mem_append_right _ hmem)
  refine ⟨(size_wakeOne a' waker).trans h.size, bells_wakeOne h.bells waker,
    (sleepers_wakeOne a' waker).trans h.sleepers, fun crowd => ?_, ?_, ?_⟩
  · apply ((h.queues crowd).imp (htold _)).trans
    exact (hspares crowd).imp fun hmem => .inr (List.mem_append_left _ hmem)
  · exact fun other hmem => htold other (h.reached other hmem)
  · rintro other (hknows | hmem)
    · rcases knows_of_wakeOne h.bells hknows with hknows | rfl
      · exact h.knows other (.inl hknows)
      · exact h.knows other (.inr List.mem_cons_self)
    · rcases List.mem_append.mp hmem with hmem | hmem
      · exact h.knows other (.inl (knows_of_mem_wakeOne h.bells hmem))
      · exact h.knows other (.inr (List.mem_cons_of_mem _ hmem))

theorem Woken.wakeUpTo {n : Nat} (h : Woken wakers pending a a')
    (hn : pending.length + a'.asking ≤ n) : Woken wakers [] a (wakeUpTo n pending a') := by
  -- Each time someone is woken, one fewer is pending or asks to be told.
  induction n generalizing pending a' with
  | zero =>
      obtain rfl : pending = [] := by
        apply List.eq_nil_of_length_eq_zero
        omega
      exact h
  | succ n ih =>
      cases pending with
      | nil => exact h
      | cons waker rest =>
          rw [Agenda.wakeUpTo]
          apply ih h.wakeOne
          have hasking := asking_wakeOne h.bells waker
          simp only [List.length_cons, List.length_append] at hn ⊢
          omega

/-- **All are woken, and all whom that concerns.** -/
theorem woken_wakeAll (hbells : a.bells = #[]) (wakers : List Waker) :
    Woken wakers [] a (a.wakeAll wakers) :=
  (Woken.start hbells wakers).wakeUpTo (Nat.le_refl _)

end Agenda

end ContentQuery
