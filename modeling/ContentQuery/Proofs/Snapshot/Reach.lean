import ContentQuery.Proofs.Snapshot.Waking

/-!
# Who reaches into which queues

Polling a part of a crowd reaches into the queues of the crowds inside it. All other queues it leaves
alone but for waking: `Agenda.Leaves`. What is known of a part stays true as long as its own queues are
kept in this sense: `Agenda.Keeps`.
-/

namespace ContentQuery

/-- The waker of a part of one of these crowds, or of someone outside. -/
def Waker.Within (Y : Nat → Prop) : Waker → Prop
  | .part crowd _ => Y crowd
  | _ => True

theorem Waker.Within.imp {Y Y' : Nat → Prop} {waker : Waker} (h : waker.Within Y)
    (hY : ∀ crowd, Y crowd → Y' crowd) : waker.Within Y' := by
  cases waker with
  | part crowd index => exact hY crowd h
  | _ => trivial

namespace Agenda

variable {Y Y' : Nat → Prop} {waker other : Waker} {a a' a'' : Agenda} {crowd index : Nat}

/-- Nobody rings, and only parts of crowds that have queues are known. -/
structure Sound (a : Agenda) : Prop where
  bells : a.bells = #[]
  known : ∀ crowd index, a.Knows (.part crowd index) → crowd < a.queues.size

theorem sound_empty : ({} : Agenda).Sound := by
  refine ⟨rfl, fun crowd index hknows => ?_⟩
  rcases knows_iff_of_part.mp hknows with hsleeps | ⟨other, howner⟩ | hawake
  · cases hsleeps
  · cases howner
  · cases hawake

/-! ## Leaving others alone -/

/-- Of these queues, parts were woken and no more; and nobody is known there who was not, but the one
who was polled. -/
structure Leaves (Y : Nat → Prop) (waker : Waker) (a a' : Agenda) : Prop where
  size : a.queues.size ≤ a'.queues.size
  sound : a.Sound → waker.Within (· < a.queues.size) → a'.Sound
  sleepers : a.sleepers ⊆ a'.sleepers
  queues : ∀ crowd < a.queues.size, Y crowd → (a.queue crowd).Spares
    (fun owner => owner.Within (fun other => Y other ∧ other < a.queues.size) → a'.Called owner)
    (a'.queue crowd)
  knows : ∀ crowd < a.queues.size, Y crowd → ∀ index, a'.Knows (.part crowd index) →
    a.Knows (.part crowd index) ∨ waker = .part crowd index

namespace Leaves

theorem refl (a : Agenda) : a.Leaves Y waker a :=
  ⟨Nat.le_refl _, fun h _ => h, fun _ h => h, fun _ _ _ => .refl _, fun _ _ _ _ h => .inl h⟩

/-- Who was called stays so. -/
theorem called (h : a.Leaves Y waker a')
    (hother : other.Within fun crowd => Y crowd ∧ crowd < a.queues.size) (hcalled : a.Called other) :
    a'.Called other := by
  rcases hcalled with hsleeps | hreached
  · exact .inl (h.sleepers hsleeps)
  · right
    cases other with
    | part crowd index => exact (h.queues crowd hother.2 hother.1).ignores hreached
    | _ => trivial

/-- The second may reach into queues that are new since the first. -/
theorem trans (h : a.Leaves Y waker a') (h' : a'.Leaves Y' waker a'')
    (hY : ∀ crowd < a.queues.size, Y crowd → Y' crowd) : a.Leaves Y waker a'' := by
  have hwithin : ∀ {other : Waker}, other.Within (fun crowd => Y crowd ∧ crowd < a.queues.size) →
      other.Within fun crowd => Y' crowd ∧ crowd < a'.queues.size :=
    fun hother => hother.imp fun _ h₁ => ⟨hY _ h₁.2 h₁.1, Nat.lt_of_lt_of_le h₁.2 h.size⟩
  refine ⟨Nat.le_trans h.size h'.size, fun hsound hwaker => ?_,
    fun _ hmem => h'.sleepers (h.sleepers hmem), fun crowd hlt hcrowd => ?_, ?_⟩
  · exact h'.sound (h.sound hsound hwaker) (hwaker.imp fun _ hlt => Nat.lt_of_lt_of_le hlt h.size)
  · have hlt' := Nat.lt_of_lt_of_le hlt h.size
    apply Queue.Spares.trans ((h.queues crowd hlt hcrowd).imp ?_)
      ((h'.queues crowd hlt' (hY crowd hlt hcrowd)).imp ?_)
    · exact fun htold howner => h'.called (hwithin howner) (htold howner)
    · exact fun htold howner => htold (hwithin howner)
  · intro crowd hlt hcrowd index hknows
    have hlt' := Nat.lt_of_lt_of_le hlt h.size
    rcases h'.knows crowd hlt' (hY crowd hlt hcrowd) index hknows with hknows | heq
    · exact h.knows crowd hlt hcrowd index hknows
    · exact .inr heq

theorem mono (h : a.Leaves Y waker a') (hY : ∀ crowd < a.queues.size, Y' crowd → Y crowd) :
    a.Leaves Y' waker a' := by
  refine ⟨h.size, h.sound, h.sleepers, fun crowd hlt hcrowd => ?_, fun crowd hlt hcrowd => ?_⟩
  · refine (h.queues crowd hlt (hY crowd hlt hcrowd)).imp fun htold howner => htold ?_
    exact howner.imp fun other hother => ⟨hY other hother.2 hother.1, hother.2⟩
  · exact h.knows crowd hlt (hY crowd hlt hcrowd)

/-- What leaves alone all that is outside a part leaves alone what is outside its crowd. -/
theorem outer (h : a.Leaves Y (.part crowd index) a') (hcrowd : ¬ Y' crowd)
    (hlt : crowd < a.queues.size) (hY : ∀ number < a.queues.size, Y' number → Y number) :
    a.Leaves Y' waker a' := by
  have hmono := h.mono hY
  refine ⟨h.size, fun hsound _ => h.sound hsound hlt, h.sleepers, hmono.queues,
    fun number hlt hnumber i hknows => ?_⟩
  rcases hmono.knows number hlt hnumber i hknows with hknows | heq
  · exact .inl hknows
  · cases heq
    exact absurd hnumber hcrowd

end Leaves

theorem leaves_sleep (a : Agenda) (waker : Waker) : a.Leaves Y waker (a.sleep waker) := by
  have hknows : ∀ other, (a.sleep waker).Knows other → a.Knows other ∨ waker = other := by
    rintro other (hsleeps | hknown)
    · rcases List.mem_cons.mp hsleeps with heq | hsleeps
      · exact .inr heq.symm
      · exact .inl (.inl hsleeps)
    · exact .inl (.inr hknown)
  refine ⟨Nat.le_refl _, fun hsound hwaker => ⟨hsound.bells, fun crowd index h => ?_⟩,
    List.subset_cons_self _ _, fun _ _ _ => .refl _, fun _ _ _ _ => hknows _⟩
  rcases hknows _ h with hknown | rfl
  · exact hsound.known crowd index hknown
  · exact hwaker

theorem leaves_wake (hsound : a.Sound) (waker : Waker) :
    a.Leaves Y waker (a.wake waker) ∧ (a.wake waker).Called waker := by
  have hwoken := woken_wakeAll hsound.bells [waker]
  have hknows : ∀ other, (a.wake waker).Knows other → a.Knows other ∨ waker = other := by
    intro other hknows
    exact (hwoken.knows other (.inl hknows)).imp_right fun hmem => (List.mem_singleton.mp hmem).symm
  have htold : ∀ other, (a.wake waker).Reached other ∨ other ∈ [] → (a.wake waker).Called other :=
    fun other h => .inr (h.resolve_right List.not_mem_nil)
  refine ⟨⟨Nat.le_of_eq hwoken.size.symm, fun _ hwaker => ⟨hwoken.bells, fun crowd index h => ?_⟩,
    fun _ hmem => hwoken.sleepers ▸ hmem, ?_, fun _ _ _ _ => hknows _⟩, ?_⟩
  · refine Nat.lt_of_lt_of_le ?_ (Nat.le_of_eq hwoken.size.symm)
    rcases hknows _ h with hknown | rfl
    · exact hsound.known crowd index hknown
    · exact hwaker
  · exact fun crowd _ _ => (hwoken.queues crowd).imp fun h _ => htold _ h
  · exact htold waker (hwoken.reached waker (List.mem_singleton_self _))

theorem queue_newQueue (a : Agenda) (parts : Nat) (crowd : Nat) :
    (a.newQueue parts).1.queue crowd =
      if crowd = a.queues.size then { awake := List.range parts } else a.queue crowd := by
  simp only [queue, newQueue, Array.getD_eq_getD_getElem?, Array.getElem?_push]
  split <;> simp

theorem size_newQueue (a : Agenda) (parts : Nat) :
    (a.newQueue parts).1.queues.size = a.queues.size + 1 := by
  simp [newQueue]

/-- Of a new crowd no part is known but those that it has. -/
theorem knows_newQueue {parts : Nat} (h : (a.newQueue parts).1.Knows (.part crowd index)) :
    a.Knows (.part crowd index) ∨ crowd = a.queues.size ∧ index < parts := by
  rw [knows_iff_of_part] at h
  rcases h with hsleeps | ⟨other, howner⟩ | hawake
  · exact .inl (.inl hsleeps)
  · rw [queue_newQueue] at howner
    split at howner
    · cases howner
    · exact .inl (.inr (.inl ⟨other, howner⟩))
  · rw [queue_newQueue] at hawake
    split at hawake
    · rename_i heq
      exact .inr ⟨heq, List.mem_range.mp hawake⟩
    · exact .inl (.inr (.inr ⟨crowd, index, rfl, hawake⟩))

theorem leaves_newQueue (a : Agenda) (parts : Nat) : a.Leaves Y waker (a.newQueue parts).1 := by
  have hsize := a.size_newQueue parts
  refine ⟨by omega, fun hsound _ => ⟨hsound.bells, fun crowd index hknows => ?_⟩, fun _ h => h,
    fun crowd hlt _ => ?_, fun crowd hlt _ index hknows => ?_⟩
  · rcases knows_newQueue hknows with hknown | ⟨rfl, -⟩
    · have hlt := hsound.known crowd index hknown
      omega
    · omega
  · rw [queue_newQueue, if_neg (Nat.ne_of_lt hlt)]
    exact .refl _
  · rcases knows_newQueue hknows with hknown | ⟨rfl, -⟩
    · exact .inl hknown
    · exact absurd hlt (Nat.lt_irrefl _)

theorem queue_onQueue_self (hlt : crowd < a.queues.size) (f : Queue → Queue) :
    (a.onQueue crowd f).queue crowd = f (a.queue crowd) := by
  rw [queue_onQueue, if_pos ⟨rfl, hlt⟩]

theorem queue_onQueue_of_ne {number : Nat} (hne : number ≠ crowd) (f : Queue → Queue) :
    (a.onQueue crowd f).queue number = a.queue number := by
  rw [queue_onQueue, if_neg fun h => hne h.1]

theorem knows_onQueue {f : Queue → Queue} (h : (a.onQueue crowd f).Knows other) :
    a.Knows other ∨ (f (a.queue crowd)).owner = other ∨
      crowd < a.queues.size ∧ ∃ i ∈ (f (a.queue crowd)).awake, other = .part crowd i := by
  rcases h with hsleeps | ⟨number, howner⟩ | ⟨number, i, heq, hawake⟩
  · exact .inl (.inl hsleeps)
  · rw [queue_onQueue] at howner
    split at howner
    · exact .inr (.inl howner)
    · exact .inl (.inr (.inl ⟨number, howner⟩))
  · rw [queue_onQueue] at hawake
    split at hawake
    · rename_i hsame
      exact .inr (.inr ⟨hsame.2, i, hawake, hsame.1 ▸ heq⟩)
    · exact .inl (.inr (.inr ⟨number, i, heq, hawake⟩))

theorem leaves_onQueue (hcrowd : ¬ Y crowd) {f : Queue → Queue}
    (howner : (f (a.queue crowd)).owner = (a.queue crowd).owner ∨
      (f (a.queue crowd)).owner = waker ∨ (f (a.queue crowd)).owner = .caller) :
    a.Leaves Y waker (a.onQueue crowd f) := by
  have hne : ∀ number, Y number → number ≠ crowd := by
    rintro number hnumber rfl
    exact hcrowd hnumber
  have hknows : ∀ {number index}, (a.onQueue crowd f).Knows (.part number index) →
      a.Knows (.part number index) ∨ waker = .part number index ∨
        crowd < a.queues.size ∧ number = crowd := by
    intro number index hknows
    rcases knows_onQueue hknows with hknows | howns | ⟨hlt, i, -, heq⟩
    · exact .inl hknows
    · rcases howner with hsame | hwaker | hcaller
      · exact .inl (.inr (.inl ⟨crowd, hsame.symm.trans howns⟩))
      · exact .inr (.inl (hwaker.symm.trans howns))
      · rw [hcaller] at howns
        cases howns
    · exact .inr (.inr ⟨hlt, (Waker.part.inj heq).1⟩)
  refine ⟨Nat.le_of_eq (a.size_onQueue crowd f).symm, fun hsound hwaker => ?_, fun _ h => h,
    fun number _ hnumber => queue_onQueue_of_ne (hne number hnumber) f ▸ .refl _, ?_⟩
  · refine ⟨hsound.bells, fun number index h => ?_⟩
    rw [size_onQueue]
    rcases hknows h with hknown | rfl | ⟨hlt, rfl⟩
    · exact hsound.known number index hknown
    · exact hwaker
    · exact hlt
  · intro number _ hnumber index h
    rcases hknows h with hknown | heq | ⟨-, rfl⟩
    · exact .inl hknown
    · exact .inr heq
    · exact absurd hnumber hcrowd

/-! ## Keeping what is known of a part -/

/-- What is known of a part with this waker stays true, if its crowds are among these and it may count
as told. -/
structure Keeps (X : Nat → Prop) (waker : Waker) (Told : Prop) (a a' : Agenda) : Prop where
  size : a.queues.size ≤ a'.queues.size
  queues : ∀ crowd < a.queues.size, X crowd → (a.queue crowd).Spares
    (fun owner => (owner = waker → Told) ∧
      (owner.Within (fun other => X other ∧ other < a.queues.size) → a'.Called owner))
    (a'.queue crowd)
  called : ∀ crowd < a.queues.size, X crowd → ∀ index, a.Called (.part crowd index) →
    a'.Called (.part crowd index)
  knows : ∀ crowd < a.queues.size, X crowd → ∀ index, a'.Knows (.part crowd index) →
    a.Knows (.part crowd index)

variable {X X' : Nat → Prop} {Told : Prop}

theorem Leaves.keeps (h : a.Leaves Y waker a') (hX : ∀ crowd, X crowd → Y crowd)
    (hwaker : ∀ crowd index, X crowd → waker ≠ .part crowd index)
    (hother : other.Within fun crowd => Y crowd ∧ crowd < a.queues.size)
    (htold : a'.Called other → Told) : a.Keeps X other Told a' := by
  refine ⟨h.size, fun crowd hlt hcrowd => ?_, fun crowd hlt hcrowd index => ?_, ?_⟩
  · refine (h.queues crowd hlt (hX crowd hcrowd)).imp fun hcalled => ⟨?_, fun howner => ?_⟩
    · intro heq
      exact htold (heq ▸ hcalled (heq ▸ hother))
    · exact hcalled (howner.imp fun number hnumber => ⟨hX number hnumber.1, hnumber.2⟩)
  · exact h.called ⟨hX crowd hcrowd, hlt⟩
  · intro crowd hlt hcrowd index hknows
    exact (h.knows crowd hlt (hX crowd hcrowd) index hknows).resolve_right
      (hwaker crowd index hcrowd)

/-- Of the parts of a crowd it stays true too. -/
theorem Keeps.inside (h : a.Keeps X waker Told a') (hX : ∀ number, X' number → X number)
    (hcrowd : X crowd) (hlt : crowd < a.queues.size) :
    a.Keeps X' (.part crowd index) (a'.Called (.part crowd index)) a' := by
  refine ⟨h.size, fun number hnumber hX' => ?_, fun number hnumber hX' => ?_,
    fun number hnumber hX' => ?_⟩
  · refine (h.queues number hnumber (hX number hX')).imp fun htold => ⟨?_, fun howner => ?_⟩
    · intro heq
      exact heq ▸ htold.2 (heq ▸ ⟨hcrowd, hlt⟩)
    · exact htold.2 (howner.imp fun other hother => ⟨hX other hother.1, hother.2⟩)
  · exact h.called number hnumber (hX number hX')
  · exact h.knows number hnumber (hX number hX')

theorem Keeps.mono (h : a.Keeps X waker Told a') (hX : ∀ number, X' number → X number) :
    a.Keeps X' waker Told a' := by
  refine ⟨h.size, fun number hnumber hX' => ?_, fun number hnumber hX' => ?_,
    fun number hnumber hX' => ?_⟩
  · refine (h.queues number hnumber (hX number hX')).imp fun htold => ⟨htold.1, fun howner => ?_⟩
    exact htold.2 (howner.imp fun other hother => ⟨hX other hother.1, hother.2⟩)
  · exact h.called number hnumber (hX number hX')
  · exact h.knows number hnumber (hX number hX')

/-- A change of another queue, whose owner is not one of the parts. -/
theorem keeps_onQueue (hcrowd : ¬ X crowd) {f : Queue → Queue}
    (howner : (f (a.queue crowd)).owner = (a.queue crowd).owner ∨
      ∀ number index, X number → (f (a.queue crowd)).owner ≠ .part number index) :
    a.Keeps X waker Told (a.onQueue crowd f) := by
  have hsame : ∀ number, X number → (a.onQueue crowd f).queue number = a.queue number := by
    intro number hnumber
    apply queue_onQueue_of_ne
    rintro rfl
    exact hcrowd hnumber
  refine ⟨Nat.le_of_eq (a.size_onQueue crowd f).symm, fun number _ hX => hsame number hX ▸ .refl _,
    fun number _ hX index hcalled => ?_, fun number _ hX index hknows => ?_⟩
  · refine hcalled.imp_right fun hreached => ?_
    rw [Reached, hsame number hX]
    exact hreached
  · rcases knows_onQueue hknows with hknows | howns | ⟨-, i, -, heq⟩
    · exact hknows
    · rcases howner with hold | hnew
      · exact .inr (.inl ⟨crowd, hold.symm.trans howns⟩)
      · exact absurd howns (hnew number index hX)
    · cases heq
      exact absurd hX hcrowd

/-- **At the end of a round** everyone who asked for it is woken, and what is known stays true. -/
theorem Sound.rouse (h : a.Sound) : a.rouse.Sound ∧ a.rouse.sleepers = [] ∧
    ∀ (X : Nat → Prop) (waker : Waker), a.Keeps X waker (a.rouse.Called waker) a.rouse := by
  have hwoken := woken_wakeAll (a := { a with sleepers := [] }) h.bells a.sleepers
  have hreached : ∀ {other}, a.rouse.Reached other ∨ other ∈ [] → a.rouse.Called other :=
    fun hother => .inr (hother.resolve_right List.not_mem_nil)
  have hknows : ∀ other, a.rouse.Knows other → a.Knows other := by
    intro other hother
    rcases hwoken.knows other (.inl hother) with hknown | hsleeps
    · exact .inr (hknown.resolve_left List.not_mem_nil)
    · exact .inl hsleeps
  refine ⟨⟨hwoken.bells, fun crowd index hknown => ?_⟩, hwoken.sleepers, fun X waker =>
    ⟨Nat.le_of_eq hwoken.size.symm, fun crowd _ _ => ?_, fun crowd _ _ index hcalled => ?_,
      fun crowd _ _ index => hknows _⟩⟩
  · exact Nat.lt_of_lt_of_le (h.known crowd index (hknows _ hknown)) (Nat.le_of_eq hwoken.size.symm)
  · refine (hwoken.queues crowd).imp fun hother => ⟨?_, fun _ => hreached hother⟩
    intro heq
    exact heq ▸ hreached hother
  · rcases hcalled with hsleeps | hcalled
    · exact hreached (hwoken.reached _ hsleeps)
    · exact .inr (hcalled.mono hwoken.queues)

/-- Either these crowds or one that is new since. -/
def Since (a : Agenda) (X : Nat → Prop) (crowd : Nat) : Prop := X crowd ∨ a.queues.size ≤ crowd

end Agenda

end ContentQuery
