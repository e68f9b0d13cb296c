import ContentQuery.Proofs.Snapshot.Outcomes

/-!
# Crowds whose parts never pause

Parts of a crowd are polled in the order in which they were woken. At first that is their own order,
and waking only ever puts more at the end of a queue (`Agenda.Grows`). So if each part ends as soon
as it is polled, whoever is woken meanwhile, one poll of a new crowd takes its parts from the first
to the last and finishes it (**`CrowdRule.Prompt.pollCrowd`**).
-/

namespace ContentQuery

/-! ## Queues -/

namespace Queue

/-- More parts were woken, and none has finished. -/
structure Grows (q q' : Queue) : Prop where
  awake : q.awake <+: q'.awake
  settled : q'.settled = q.settled

/-- The parts from one on are next, in their order, and only parts before it are finished. -/
structure At (q : Queue) (index parts : Nat) : Prop where
  awake : List.range' index (parts - index) <+: q.awake
  settled : ∀ i ∈ q.settled, i < index

variable {q q' : Queue} {index parts : Nat}

theorem Grows.refl (q : Queue) : q.Grows q := ⟨List.prefix_refl _, rfl⟩

theorem Grows.trans {q'' : Queue} (h : q.Grows q') (h' : q'.Grows q'') : q.Grows q'' :=
  ⟨h.awake.trans h'.awake, h'.settled.trans h.settled⟩

theorem grows_wake (q : Queue) (index : Nat) : q.Grows (q.wake index) := by
  unfold wake
  split
  · exact .refl q
  · exact ⟨List.prefix_append _ _, rfl⟩

theorem At.grows (h : q.At index parts) (hgrows : q.Grows q') : q'.At index parts :=
  ⟨h.awake.trans hgrows.awake, hgrows.settled ▸ h.settled⟩

/-- The part whose turn it is comes next. -/
theorem At.next? (h : q.At index parts) (hindex : index < parts) :
    ∃ q', q.next? = some (index, q') ∧ q'.At (index + 1) parts := by
  obtain ⟨more, hmore⟩ := h.awake
  have hrange : List.range' index (parts - index) =
      index :: List.range' (index + 1) (parts - (index + 1)) := by
    rw [show parts - index = (parts - (index + 1)) + 1 by omega, List.range'_succ]
  rw [hrange, List.cons_append] at hmore
  have hnew : index ∉ q.settled := fun hmem => Nat.lt_irrefl _ (h.settled index hmem)
  refine ⟨{ q with awake := List.range' (index + 1) (parts - (index + 1)) ++ more }, ?_, ?_⟩
  · rw [Queue.next?, ← hmore, List.dropWhile_cons_of_neg (by simp [hnew])]
  · exact ⟨List.prefix_append _ _, fun i hi => Nat.lt_succ_of_lt (h.settled i hi)⟩

end Queue

/-! ## Agendas -/

namespace Agenda

/-- In the queues below a bound more parts were woken, and none has finished. -/
structure Grows (bound : Nat) (a a' : Agenda) : Prop where
  size : a.queues.size ≤ a'.queues.size
  queues : ∀ crowd < bound, (a.queue crowd).Grows (a'.queue crowd)

variable {bound : Nat} {a a' : Agenda}

namespace Grows

theorem refl (a : Agenda) : a.Grows bound a := ⟨Nat.le_refl _, fun _ _ => .refl _⟩

theorem trans {a'' : Agenda} (h : a.Grows bound a') (h' : a'.Grows bound a'') : a.Grows bound a'' :=
  ⟨Nat.le_trans h.size h'.size, fun crowd hcrowd =>
    (h.queues crowd hcrowd).trans (h'.queues crowd hcrowd)⟩

theorem mono {bound' : Nat} (h : a.Grows bound a') (hbound : bound' ≤ bound) :
    a.Grows bound' a' :=
  ⟨h.size, fun crowd hcrowd => h.queues crowd (Nat.lt_of_lt_of_le hcrowd hbound)⟩

/-- What does not concern queues. -/
theorem of_queues (h : a'.queues = a.queues) : a.Grows bound a' := by
  refine ⟨Nat.le_of_eq (congrArg Array.size h.symm), fun crowd _ => ?_⟩
  rw [queue, queue, h]
  exact .refl _

end Grows

theorem queue_onQueue (a : Agenda) (crowd : Nat) (f : Queue → Queue) (other : Nat) :
    (a.onQueue crowd f).queue other =
      if other = crowd ∧ crowd < a.queues.size then f (a.queue crowd) else a.queue other := by
  simp only [queue, onQueue, Array.getD_eq_getD_getElem?, Array.getElem?_modify]
  by_cases heq : other = crowd
  · subst heq
    by_cases hlt : other < a.queues.size
    · simp [hlt]
    · simp [hlt]
  · simp [heq, Ne.symm heq]

theorem size_onQueue (a : Agenda) (crowd : Nat) (f : Queue → Queue) :
    (a.onQueue crowd f).queues.size = a.queues.size := by
  simp [onQueue]

theorem grows_onQueue (a : Agenda) (crowd : Nat) {f : Queue → Queue}
    (hf : ∀ q : Queue, q.Grows (f q)) :
    a.Grows bound (a.onQueue crowd f) := by
  refine ⟨Nat.le_of_eq (a.size_onQueue crowd f).symm, fun other _ => ?_⟩
  rw [queue_onQueue]
  split
  · rename_i h
    rw [h.1]
    exact hf _
  · exact .refl _

/-- Other queues are left alone. -/
theorem grows_onQueue_of_le {crowd : Nat} (h : bound ≤ crowd) (a : Agenda) (f : Queue → Queue) :
    a.Grows bound (a.onQueue crowd f) := by
  refine ⟨Nat.le_of_eq (a.size_onQueue crowd f).symm, fun other hother => ?_⟩
  rw [queue_onQueue, if_neg (by omega)]
  exact .refl _

theorem grows_newQueue (h : bound ≤ a.queues.size) (parts : Nat) :
    a.Grows bound (a.newQueue parts).1 := by
  refine ⟨by simp [newQueue], fun crowd hcrowd => ?_⟩
  have hlt : crowd < a.queues.size := Nat.lt_of_lt_of_le hcrowd h
  have hsame : (a.newQueue parts).1.queue crowd = a.queue crowd := by
    simp [queue, newQueue, Array.getD_eq_getD_getElem?, Array.getElem?_push, Nat.ne_of_lt hlt]
  rw [hsame]
  exact .refl _

theorem grows_wakeOne (a : Agenda) (waker : Waker) : a.Grows bound (a.wakeOne waker).1 := by
  cases waker with
  | caller => exact .refl a
  | part crowd index => exact a.grows_onQueue crowd fun q => q.grows_wake index
  | bell number => exact .of_queues rfl

theorem grows_wakeUpTo (n : Nat) (wakers : List Waker) (a : Agenda) :
    a.Grows bound (wakeUpTo n wakers a) := by
  induction n generalizing wakers a with
  | zero => exact .refl a
  | succ n ih =>
      cases wakers with
      | nil => exact .refl a
      | cons waker rest => exact (a.grows_wakeOne waker).trans (ih _ _)

theorem grows_ring (a : Agenda) (bell : Nat) : a.Grows bound (a.ring bell) := by
  have hsilent : a.Grows bound { a with bells := a.bells.setIfInBounds bell [] } := .of_queues rfl
  exact hsilent.trans (grows_wakeUpTo _ _ _)

variable {crowd index parts : Nat}

/-- The crowd has a queue in which the part is next. -/
structure At (a : Agenda) (crowd index parts : Nat) : Prop where
  lt : crowd < a.queues.size
  queue : (a.queue crowd).At index parts

/-- In a new queue the first part is next. -/
theorem at_newQueue (a : Agenda) (parts : Nat) :
    (a.newQueue parts).1.At (a.newQueue parts).2 0 parts := by
  have hqueue : (a.newQueue parts).1.queue (a.newQueue parts).2 =
      { awake := List.range parts } := by
    simp [Agenda.queue, newQueue, Array.getD_eq_getD_getElem?]
  have hall : List.range' 0 (parts - 0) = List.range parts := List.range_eq_range'.symm
  refine ⟨by simp [newQueue], ?_⟩
  rw [hqueue]
  exact ⟨hall ▸ List.prefix_refl _, fun i hi => (List.not_mem_nil hi).elim⟩

theorem At.grows (h : a.At crowd index parts) (hgrows : a.Grows a.queues.size a') :
    a'.At crowd index parts :=
  ⟨Nat.lt_of_lt_of_le h.lt hgrows.size, h.queue.grows (hgrows.queues crowd h.lt)⟩

/-- A change of the queue of the crowd. -/
theorem At.onQueue (h : a.At crowd index parts) {f : Queue → Queue} {index' : Nat}
    (hf : (f (a.queue crowd)).At index' parts) : (a.onQueue crowd f).At crowd index' parts := by
  refine ⟨by rw [size_onQueue]; exact h.lt, ?_⟩
  rw [queue_onQueue, if_pos ⟨rfl, h.lt⟩]
  exact hf

theorem At.watch (h : a.At crowd index parts) (owner : Waker) :
    (a.watch crowd owner).At crowd index parts := h.onQueue ⟨h.queue.awake, h.queue.settled⟩

theorem At.settle (h : a.At crowd (index + 1) parts) :
    (a.settle crowd index).At crowd (index + 1) parts := by
  refine h.onQueue ⟨h.queue.awake, fun i hi => ?_⟩
  rcases List.mem_cons.mp hi with rfl | hi
  · exact Nat.lt_succ_self i
  · exact h.queue.settled i hi

theorem At.next? (h : a.At crowd index parts) (hindex : index < parts) :
    ∃ f, a.next? crowd = some (index, a.onQueue crowd f) ∧
      (a.onQueue crowd f).At crowd (index + 1) parts := by
  obtain ⟨q, hnext, hq⟩ := h.queue.next? hindex
  exact ⟨fun _ => q, by rw [Agenda.next?, hnext]; rfl, h.onQueue hq⟩

end Agenda

/-! ## Crowds -/

/-- What is gathered from parts of which none has failed. -/
theorem exists_of_gather {α β γ ε : Type} {outcome? : α → Option (Except ε β)} {Good : β → γ → Prop}
    {parts : List α} {specs : List γ}
    (h : List.Forall₂ (fun part c => ∀ result, outcome? part = some result →
      ∃ b, result = .ok b ∧ Good b c) parts specs) {result : Except ε (List β)}
    (hgather : gather (parts.map outcome?) = some result) :
    ∃ bs, result = .ok bs ∧ List.Forall₂ Good bs specs := by
  induction h generalizing result with
  | nil =>
      obtain rfl := Option.some.inj hgather
      exact ⟨[], rfl, .nil⟩
  | @cons part c parts specs hpart _ ih =>
      rw [List.map_cons] at hgather
      cases houtcome : outcome? part with
      | none =>
          rw [houtcome] at hgather
          cases hgather
      | some outcome =>
          obtain ⟨b, rfl, hb⟩ := hpart outcome houtcome
          rw [houtcome, gather] at hgather
          cases hrest : gather (parts.map outcome?) with
          | none =>
              rw [hrest] at hgather
              cases hgather
          | some result' =>
              obtain ⟨bs, rfl, hbs⟩ := ih hrest
              rw [hrest] at hgather
              obtain rfl := Option.some.inj hgather
              exact ⟨b :: bs, rfl, .cons hb hbs⟩

theorem exists_of_gather_none {α β ε : Type} {outcome? : α → Option (Except ε β)} {parts : List α}
    (h : gather (parts.map outcome?) = none) : ∃ part ∈ parts, outcome? part = none := by
  induction parts with
  | nil => cases h
  | cons part rest ih =>
      rw [List.map_cons] at h
      rcases hpart : outcome? part with _ | e | value <;> rw [hpart] at h
      · exact ⟨part, List.mem_cons_self, hpart⟩
      · cases h
      · rw [gather] at h
        split at h
        · cases h
        · obtain ⟨other, hmem, hother⟩ := ih h
          exact ⟨other, List.mem_cons_of_mem part hmem, hother⟩

namespace CrowdRule

variable {σ α ε β γ : Type}

/-- Parts that are ready end as soon as they are polled, with something good, and whatever was ready
before is ready after that. -/
structure Prompt (k : CrowdRule σ α ε β) (Stays : σ → σ → Prop) (Ready : σ → α → γ → Prop)
    (Good : β → γ → Prop) : Prop where
  agenda_withAgenda : ∀ s agenda, k.agenda (k.withAgenda s agenda) = agenda
  trans : ∀ {s s' s''}, Stays s s' → Stays s' s'' → Stays s s''
  withAgenda : ∀ s agenda, Stays s (k.withAgenda s agenda)
  mono : ∀ {s s' part c}, Stays s s' → Ready s part c → Ready s' part c
  outcome : ∀ {s part c}, Ready s part c → ∀ result, k.outcome? part = some result →
    ∃ b, result = .ok b ∧ Good b c
  poll : ∀ {s part c}, Ready s part c → ∀ waker,
    (k.outcome? (k.poll waker part s).2).isSome ∧
      Ready (k.poll waker part s).1 (k.poll waker part s).2 c ∧ Stays s (k.poll waker part s).1 ∧
      (k.agenda s).Grows (k.agenda s).queues.size (k.agenda (k.poll waker part s).1)

/-- The parts before one have ended, that one is next, and all are ready. -/
structure Upto (k : CrowdRule σ α ε β) (Ready : σ → α → γ → Prop) (specs : List γ)
    (crowd index : Nat) (s : σ) (parts : List α) : Prop where
  queue : (k.agenda s).At crowd index parts.length
  ready : List.Forall₂ (Ready s) parts specs
  ended : ∀ i < index, ∀ part, parts[i]? = some part → (k.outcome? part).isSome

variable {k : CrowdRule σ α ε β} {Stays : σ → σ → Prop} {Ready : σ → α → γ → Prop}
  {Good : β → γ → Prop} {specs : List γ} {crowd index bound : Nat} {s : σ} {parts : List α}

namespace Prompt

/-- The part whose turn it is ends. -/
theorem sweep (h : k.Prompt Stays Ready Good) (hupto : k.Upto Ready specs crowd index s parts)
    (hindex : index < parts.length) (hbound : bound ≤ crowd) (owner : Waker) (n : Nat)
    (again : Bool) :
    ∃ s' parts', k.sweep crowd owner (n + 1) again s parts = (s', parts', true) ∧
      k.Upto Ready specs crowd (index + 1) s' parts' ∧ parts'.length = parts.length ∧ Stays s s' ∧
      (k.agenda s).Grows bound (k.agenda s') := by
  obtain ⟨f, hnext, hqueue⟩ := hupto.queue.next? hindex
  have hpart : parts[index]? = some parts[index] := List.getElem?_eq_getElem hindex
  obtain ⟨c, hc, hready⟩ := exists_getElem?_of_forall₂ hupto.ready hpart
  -- The state in which the part is polled, and the state after that.
  let s₁ := k.withAgenda s ((k.agenda s).onQueue crowd f)
  let polled := k.poll (.part crowd index) parts[index] s₁
  have hagenda₁ : k.agenda s₁ = (k.agenda s).onQueue crowd f := h.agenda_withAgenda s _
  have hstays₁ : Stays s s₁ := h.withAgenda s _
  obtain ⟨hended, hready', hstays, hgrows⟩ := h.poll (h.mono hstays₁ hready) (.part crowd index)
  have hqueue' : (k.agenda polled.1).At crowd (index + 1) parts.length := by
    rw [hagenda₁] at hgrows
    exact hqueue.grows hgrows
  have hstays' : Stays polled.1 (k.change (·.settle crowd index) polled.1) := h.withAgenda _ _
  have hagenda' : k.agenda (k.change (·.settle crowd index) polled.1) =
      (k.agenda polled.1).settle crowd index := h.agenda_withAgenda _ _
  refine ⟨k.change (·.settle crowd index) polled.1, parts.set index polled.2, ?_, ⟨?_, ?_, ?_⟩,
    by simp, h.trans hstays₁ (h.trans hstays hstays'), ?_⟩
  · rw [CrowdRule.sweep, hnext]
    simp only [hpart]
    rw [if_pos hended]
  · rw [hagenda', List.length_set]
    exact hqueue'.settle
  · refine forall₂_set hupto.ready (fun part c hpart => ?_) hpart fun c' hc' => ?_
    · exact h.mono hstays' (h.mono hstays (h.mono hstays₁ hpart))
    · exact h.mono hstays' (h.poll (h.mono hstays₁ hc') (.part crowd index)).2.1
  · intro i hi part hi'
    rw [List.getElem?_set] at hi'
    split at hi'
    · obtain rfl := Option.some.inj (by simpa [hindex] using hi')
      exact hended
    · exact hupto.ended i (by omega) part hi'
  · rw [hagenda']
    have hbound₁ : bound ≤ (k.agenda s₁).queues.size := by
      rw [hagenda₁, Agenda.size_onQueue]
      exact Nat.le_trans hbound (Nat.le_of_lt hupto.queue.lt)
    have hfirst : (k.agenda s).Grows bound (k.agenda s₁) := by
      rw [hagenda₁]
      exact Agenda.grows_onQueue_of_le hbound _ f
    exact hfirst.trans ((hgrows.mono hbound₁).trans (Agenda.grows_onQueue_of_le hbound _ _))

theorem watch (h : k.Prompt Stays Ready Good) (hupto : k.Upto Ready specs crowd index s parts)
    (owner : Waker) : k.Upto Ready specs crowd index (k.change (·.watch crowd owner) s) parts where
  queue := by
    rw [CrowdRule.change, h.agenda_withAgenda]
    exact hupto.queue.watch owner
  ready := hupto.ready.imp fun _ _ hready => h.mono (h.withAgenda s _) hready
  ended := hupto.ended

/-- Part by part, the crowd is finished. -/
theorem advance (h : k.Prompt Stays Ready Good) (n : Nat)
    (hupto : k.Upto Ready specs crowd index s parts) (hindex : index ≤ parts.length)
    (hn : parts.length < n + index) (hbound : bound ≤ crowd) (owner : Waker) :
    ∃ s' parts' bs, k.advance crowd owner n s parts = (s', parts', some (.ok bs)) ∧
      List.Forall₂ Good bs specs ∧ Stays s s' ∧ (k.agenda s).Grows bound (k.agenda s') := by
  -- Induction on how many parts may still end, of which there are more than needed.
  induction n generalizing index s parts with
  | zero => omega
  | succ n ih =>
      rw [CrowdRule.advance]
      split
      · rename_i result hgather
        obtain ⟨bs, rfl, hbs⟩ :=
          exists_of_gather (hupto.ready.imp fun part c hready => h.outcome hready) hgather
        refine ⟨_, _, bs, rfl, hbs, h.withAgenda s _, ?_⟩
        rw [CrowdRule.change, h.agenda_withAgenda]
        exact Agenda.grows_onQueue_of_le hbound _ _
      · rename_i hgather
        obtain ⟨part, hmem, hnone⟩ := exists_of_gather_none hgather
        have hlt : index < parts.length := by
          obtain ⟨i, hi⟩ := List.getElem?_of_mem hmem
          have hilt : i < parts.length := (List.getElem?_eq_some_iff.mp hi).1
          by_contra hle
          have hended := hupto.ended i (by omega) part hi
          rw [hnone] at hended
          cases hended
        obtain ⟨m, hm⟩ : ∃ m, k.unfinished parts = m + 1 := by
          refine Nat.exists_eq_succ_of_ne_zero (Nat.ne_of_gt ?_)
          exact List.countP_pos_iff.mpr ⟨part, hmem, by rw [hnone]; rfl⟩
        obtain ⟨s', parts', hsweep, hupto', hlength, hstays, hgrows⟩ :=
          h.sweep (h.watch hupto owner) hlt hbound owner m false
        obtain ⟨s'', parts'', bs, hadvance, hbs, hstays', hgrows'⟩ :=
          ih hupto' (by omega) (by omega)
        refine ⟨s'', parts'', bs, ?_, hbs, h.trans (h.withAgenda s _) (h.trans hstays hstays'), ?_⟩
        · dsimp only
          rw [hm, hsweep]
          exact hadvance
        · rw [CrowdRule.change, h.agenda_withAgenda] at hgrows
          exact (Agenda.grows_onQueue_of_le hbound _ _).trans (hgrows.trans hgrows')

/-- **A new crowd is finished by one poll** if its parts never pause. -/
theorem pollCrowd (h : k.Prompt Stays Ready Good) (hready : List.Forall₂ (Ready s) parts specs)
    (hqueue : (k.agenda s).At crowd 0 parts.length) (hbound : bound ≤ crowd) (owner : Waker) :
    ∃ s' parts' bs, k.pollCrowd crowd owner s parts = (s', parts', some (.ok bs)) ∧
      List.Forall₂ Good bs specs ∧ Stays s s' ∧ (k.agenda s).Grows bound (k.agenda s') := by
  have hupto : k.Upto Ready specs crowd 0 s parts :=
    ⟨hqueue, hready, fun i hi => (Nat.not_lt_zero i hi).elim⟩
  exact h.advance (parts.length + 1) hupto (Nat.zero_le _) (by omega) hbound owner

end Prompt

end CrowdRule

end ContentQuery
