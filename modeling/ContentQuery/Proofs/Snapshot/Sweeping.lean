import ContentQuery.Proofs.Snapshot.Attendance

/-!
# Crowds go forward

One poll of a crowd polls its parts until those that are awake have been polled, over again each time
one finishes. It keeps the crowd attended, and if everyone had been woken before it takes a part forward
(**`CrowdRule.Attends.pollCrowd`**). The same is shown of parts that are polled in turn
(`CrowdRule.InTurn`).
-/

namespace ContentQuery

namespace CrowdRule

variable {σ α ε β : Type} {k : CrowdRule σ α ε β} {Goes : α → α → Prop} {Minded : Judgement α}
  {X X' : Nat → Prop} {crowd : Nat} {owner : Waker} {a a' : Agenda} {s s' : σ}
  {parts parts' : List α} {index : Nat} {part part' : α}

/-! ## Sweeping the crowd -/

/-- What comes of polling parts until one finishes, or all that are awake have been polled. -/
structure Swept (k : CrowdRule σ α ε β) (Goes : α → α → Prop) (Minded : Judgement α) (X : Nat → Prop)
    (crowd : Nat) (owner : Waker) (a : Agenda) (parts : List α) (a' : Agenda) (parts' : List α)
    (finished : Bool) : Prop where
  leaves : a.Leaves (fun number => ¬ X number) owner a'
  manned : Manned k.outcome? Minded (a.Since X) crowd a' parts'
  follows : Relation.ReflTransGen (OneGoes Goes) parts parts'
  stopped : finished = false → Attended a' crowd owner (a'.Called owner) ∧
    ∃ part ∈ parts', k.outcome? part = none
  settled : finished = true →
    (a'.queue crowd).settled.length = (a.queue crowd).settled.length + 1
  advances : a.sleepers = [] → Relation.TransGen (OneGoes Goes) parts parts' ∨
    finished = true ∧ parts' = parts ∧ a'.sleepers = []

/-- The part that was polled has finished. -/
theorem PartPolled.settle (hk : k.Attends Goes Minded)
    (h : PartPolled k Goes Minded X crowd owner a parts index part a' part') (hmem : X crowd)
    (hpart : parts[index]? = some part) (hsome : (k.outcome? part').isSome)
    (hidle : (k.outcome? part).isSome → part' = part ∧ a'.sleepers = a.sleepers) :
    Swept k Goes Minded X crowd owner a parts (a'.settle crowd index) (parts.set index part')
      true := by
  have hnew : index ∉ (a'.queue crowd).settled := h.settled.symm ▸ h.new
  have hindex := (List.getElem?_eq_some_iff.mp hpart).1
  have hleaves : a'.Leaves (fun number => ¬ X number) owner (a'.settle crowd index) :=
    Agenda.leaves_onQueue (fun hX => hX hmem) (.inl rfl)
  refine ⟨h.leaves.trans hleaves fun _ _ hX => hX, ?_, OneGoes.reflTransGen_set h.follows hpart,
    fun hfalse => (nomatch hfalse), fun _ => ?_, fun hsleepers => ?_⟩
  · refine h.manned.onQueue hk rfl ?_ ?_ (fun _ hi => hi) (.inl rfl) ?_
    · intro i hi
      rcases List.mem_cons.mp hi with rfl | hi
      · exact ⟨part', List.getElem?_set_self hindex, hsome⟩
      · exact h.manned.settled i hi
    · exact List.nodup_cons.mpr ⟨hnew, h.manned.nodup⟩
    · intro i hignores
      rw [Queue.ignores_iff] at hignores ⊢
      exact hignores.imp_right fun h => h.imp_right (List.mem_cons_of_mem _)
  · rw [Agenda.settle, Agenda.queue_onQueue_self h.manned.lt, List.length_cons, h.settled]
  · rcases hpending : k.outcome? part with _ | result
    · exact .inl (OneGoes.transGen_set (h.advances hsleepers hpending) hpart)
    · obtain ⟨rfl, hsame⟩ := hidle (by rw [hpending]; rfl)
      refine .inr ⟨rfl, ?_, hsame.trans hsleepers⟩
      rw [← (List.getElem?_eq_some_iff.mp hpart).2, List.set_getElem_self]

/-- The part that was polled has not finished, and the owner of the crowd is woken. -/
theorem PartPolled.wake (hk : k.Attends Goes Minded) (hsound : a.Sound)
    (h : PartPolled k Goes Minded X crowd owner a parts index part a' part')
    (howner : owner.Within fun number => ¬ X number ∧ number < a.queues.size)
    (hpart : parts[index]? = some part) (hpending : k.outcome? part = none)
    (hnone : k.outcome? part' = none) :
    Swept k Goes Minded X crowd owner a parts (a'.wake owner) (parts.set index part') false := by
  have hsound' := h.leaves.sound hsound (howner.imp fun _ hnumber => hnumber.2)
  obtain ⟨hleaves, hcalled⟩ := Agenda.leaves_wake (Y := fun _ => True) hsound' owner
  have howner' : ∀ number i, a.Since X number → owner ≠ .part number i := by
    rintro number i hnumber rfl
    exact hnumber.elim howner.1 (Nat.not_le_of_lt howner.2)
  have hkeeps : a'.Keeps (a.Since X) .caller True (a'.wake owner) :=
    hleaves.keeps (fun _ _ => trivial) howner' trivial fun _ => trivial
  refine ⟨h.leaves.trans hleaves fun _ _ _ => trivial, h.manned.keeps hk.toMinds hkeeps,
    OneGoes.reflTransGen_set h.follows hpart, fun _ => ⟨.inl hcalled, part', ?_, hnone⟩,
    fun htrue => (nomatch htrue), fun hsleepers => ?_⟩
  · exact List.mem_set (List.getElem?_eq_some_iff.mp hpart).1 _
  · exact .inl (OneGoes.transGen_set (h.advances hsleepers hpending) hpart)

theorem within_since (howner : owner.Within fun number => ¬ X number ∧ number < a.queues.size)
    (hsize : a.queues.size ≤ a'.queues.size) :
    owner.Within fun number => ¬ a.Since X number ∧ number < a'.queues.size := by
  refine howner.imp fun number hnumber => ⟨fun hin => ?_, Nat.lt_of_lt_of_le hnumber.2 hsize⟩
  exact hin.elim hnumber.1 (Nat.not_le_of_lt hnumber.2)

theorem since_of_since (hsize : a.queues.size ≤ a'.queues.size) {number : Nat}
    (h : a'.Since (a.Since X) number) : a.Since X number :=
  h.elim id fun hnew => .inr (Nat.le_trans hsize hnew)

theorem not_since {number : Nat} (hlt : number < a.queues.size) (h : ¬ X number) :
    ¬ a.Since X number :=
  fun hin => hin.elim h (Nat.not_le_of_lt hlt)

/-- The part that was polled has not finished, and others are polled. -/
theorem PartPolled.sweep (hk : k.Attends Goes Minded)
    (h : PartPolled k Goes Minded X crowd owner a parts index part a' part')
    (hpart : parts[index]? = some part) (hpending : k.outcome? part = none) {a'' : Agenda}
    {parts'' : List α} {finished : Bool}
    (hswept : Swept k Goes Minded (a.Since X) crowd owner a' (parts.set index part') a'' parts''
      finished) :
    Swept k Goes Minded X crowd owner a parts a'' parts'' finished := by
  have hset := OneGoes.reflTransGen_set h.follows hpart
  refine ⟨h.leaves.trans hswept.leaves fun _ => not_since,
    hswept.manned.widen hk.toMinds fun _ _ => since_of_since h.leaves.size, hset.trans hswept.follows,
    hswept.stopped, fun htrue => ?_, fun hsleepers => ?_⟩
  · rw [hswept.settled htrue, h.settled]
  · have hpolled := OneGoes.transGen_set (h.advances hsleepers hpending) hpart
    exact .inl (hpolled.trans_left hswept.follows)

/-- **Once everyone has been woken**, some part is next, unless all are finished. -/
theorem Manned.next?_ne_none (hk : k.Attends Goes Minded) (h : Manned k.outcome? Minded X crowd a parts)
    (hsleepers : a.sleepers = []) (hpending : ∃ part ∈ parts, k.outcome? part = none) :
    a.next? crowd ≠ none := by
  intro hnext
  obtain ⟨part, hmem, hpart⟩ := hpending
  obtain ⟨i, hi⟩ := List.getElem?_of_mem hmem
  obtain ⟨place, hminded⟩ := h.minded
  have hcalled := hk.told (hminded i part hi) hsleepers hpart
  have hsettled := Queue.of_next?_none (Option.map_eq_none_iff.mp hnext) i
    (h.awake hsleepers hi hpart hcalled)
  exact h.not_settled hi hpart hsettled

/-- **Sweeping a crowd** that is watched leaves it attended, unless a part finishes. -/
theorem Swept.sweep (hk : k.Attends Goes Minded) {n : Nat} (hn : 0 < n) (again : Bool) {s : σ}
    {parts : List α} (hsound : (k.agenda s).Sound)
    (h : Manned k.outcome? Minded X crowd (k.agenda s) parts)
    (howner : owner.Within fun number => ¬ X number ∧ number < (k.agenda s).queues.size)
    (hwatched : Watched (k.agenda s) crowd owner)
    (hpending : ∃ part ∈ parts, k.outcome? part = none) :
    Swept k Goes Minded X crowd owner (k.agenda s) parts
      (k.agenda (k.sweep crowd owner n again s parts).1) (k.sweep crowd owner n again s parts).2.1
      (k.sweep crowd owner n again s parts).2.2 := by
  -- Induction on how many more parts may be polled. Each poll but the last leaves its part unfinished.
  induction n generalizing again s parts X with
  | zero => cases hn
  | succ n ih =>
      rw [CrowdRule.sweep]
      split
      · rename_i hnext
        have hawake := Queue.of_next?_none (Option.map_eq_none_iff.mp hnext)
        have hattended : Attended (k.agenda s) crowd owner ((k.agenda s).Called owner) :=
          hwatched.imp_right fun h => ⟨h, hawake⟩
        refine ⟨.refl _, h.widen hk.toMinds fun _ _ => .inl, .refl, fun _ => ⟨hattended, hpending⟩,
          fun hfalse => (by cases hfalse), fun hsleepers => ?_⟩
        exact absurd hnext (h.next?_ne_none hk hsleepers hpending)
      · rename_i index agenda hnext
        have htaken := taken_of_next? h.lt hnext
        split
        · rename_i hnone
          have hlt := h.knows index (.inr (.inr ⟨crowd, index, rfl, htaken.awake⟩))
          exact absurd hnone (by simp [hlt])
        · rename_i part hpart
          rcases hpoll : k.poll (.part crowd index) part (k.withAgenda s agenda) with ⟨s', part'⟩
          have hpolled := h.pollPart hk hsound howner htaken hpart hpoll
          have hidle : (k.outcome? part).isSome →
              part' = part ∧ (k.agenda s').sleepers = (k.agenda s).sleepers := by
            intro hsome
            rw [hk.idle hsome] at hpoll
            obtain ⟨rfl, rfl⟩ := Prod.mk.inj hpoll
            rw [hk.agenda]
            exact ⟨rfl, htaken.sleepers⟩
          dsimp only
          split
          · rename_i hsome
            have hsettle := hpolled.settle hk h.mem hpart hsome hidle
            simpa only [CrowdRule.change, hk.agenda] using hsettle
          · rename_i hnone
            replace hnone : k.outcome? part' = none := by simpa using hnone
            have hpending' : k.outcome? part = none := by
              rcases hpending : k.outcome? part with _ | result
              · rfl
              · have hsame := (hidle (by rw [hpending]; rfl)).1
                rw [hsame, hpending] at hnone
                cases hnone
            split
            · have hwake := hpolled.wake hk hsound howner hpart hpending' hnone
              simpa only [CrowdRule.change, hk.agenda] using hwake
            · rename_i hmore
              have hn : 0 < n := by
                apply Nat.pos_of_ne_zero
                rintro rfl
                exact hmore (by simp)
              apply hpolled.sweep hk hpart hpending'
              refine ih hn _ (hpolled.leaves.sound hsound ?_) hpolled.manned
                (within_since howner hpolled.leaves.size) (hpolled.watched hwatched)
                ⟨part', ?_, hnone⟩
              · exact howner.imp fun _ hnumber => hnumber.2
              · exact List.mem_set (List.getElem?_eq_some_iff.mp hpart).1 _

/-! ## Polling the crowd -/

/-- What comes of going on with a crowd that is not finished by that. -/
structure Advanced (k : CrowdRule σ α ε β) (Goes : α → α → Prop) (Minded : Judgement α)
    (X : Nat → Prop) (crowd : Nat) (owner : Waker) (a : Agenda) (parts : List α) (a' : Agenda)
    (parts' : List α) : Prop where
  manned : Manned k.outcome? Minded (a.Since X) crowd a' parts'
  attended : Attended a' crowd owner (a'.Called owner)
  pending : ∃ part ∈ parts', k.outcome? part = none
  advances : a.sleepers = [] → Relation.TransGen (OneGoes Goes) parts parts'

theorem Manned.watch (hk : k.Attends Goes Minded) (h : Manned k.outcome? Minded X crowd a parts)
    (howner : owner.Within fun number => ¬ X number ∧ number < a.queues.size) :
    Manned k.outcome? Minded X crowd (a.watch crowd owner) parts ∧
      Watched (a.watch crowd owner) crowd owner := by
  constructor
  · refine h.onQueue hk rfl h.settled h.nodup (fun _ hi => hi) (.inr ?_) fun _ hi => hi
    rintro number index hX rfl
    exact howner.1 hX
  · right
    rw [Agenda.watch, Agenda.queue_onQueue_self h.lt]
    exact ⟨rfl, rfl⟩

/-- Watching the crowd first makes no difference. -/
theorem Swept.of_watch (h : Manned k.outcome? Minded X crowd a parts) {finished : Bool}
    (hswept : Swept k Goes Minded X crowd owner (a.watch crowd owner) parts a' parts' finished) :
    Swept k Goes Minded X crowd owner a parts a' parts' finished := by
  have hsize : (a.watch crowd owner).queues.size = a.queues.size := Agenda.size_onQueue _ _ _
  have hwatch : a.Leaves (fun number => ¬ X number) owner (a.watch crowd owner) :=
    Agenda.leaves_onQueue (fun hX => hX h.mem) (.inr (.inl rfl))
  refine ⟨hwatch.trans hswept.leaves fun _ _ hX => hX, ?_, hswept.follows, hswept.stopped,
    fun htrue => ?_, hswept.advances⟩
  · have hmanned := hswept.manned
    unfold Agenda.Since at hmanned ⊢
    rwa [hsize] at hmanned
  · rw [hswept.settled htrue, Agenda.watch, Agenda.queue_onQueue_self h.lt]

theorem Manned.sweep (hk : k.Attends Goes Minded) {s : σ} (hsound : (k.agenda s).Sound)
    (h : Manned k.outcome? Minded X crowd (k.agenda s) parts)
    (howner : owner.Within fun number => ¬ X number ∧ number < (k.agenda s).queues.size)
    (hpending : ∃ part ∈ parts, k.outcome? part = none) :
    let swept := k.sweep crowd owner (k.unfinished parts) false (k.change (·.watch crowd owner) s) parts
    Swept k Goes Minded X crowd owner (k.agenda s) parts (k.agenda swept.1) swept.2.1 swept.2.2 := by
  have hagenda : k.agenda (k.change (·.watch crowd owner) s) = (k.agenda s).watch crowd owner :=
    hk.agenda _ _
  have hsize : ((k.agenda s).watch crowd owner).queues.size = (k.agenda s).queues.size :=
    Agenda.size_onQueue _ _ _
  have hleaves : (k.agenda s).Leaves (fun number => ¬ X number) owner
      ((k.agenda s).watch crowd owner) :=
    Agenda.leaves_onQueue (fun hX => hX h.mem) (.inr (.inl rfl))
  have hunfinished : 0 < k.unfinished parts := by
    obtain ⟨part, hmem, hpart⟩ := hpending
    exact List.countP_pos_iff.mpr ⟨part, hmem, by simp [hpart]⟩
  obtain ⟨hmanned, hwatched⟩ := h.watch hk howner
  rw [← hagenda] at hmanned hwatched
  have hswept := Swept.sweep hk hunfinished false (by
    rw [hagenda]
    exact hleaves.sound hsound (howner.imp fun _ hnumber => hnumber.2)) hmanned
    (by rwa [hagenda, hsize]) hwatched hpending
  rw [hagenda] at hswept
  exact hswept.of_watch h

/-- A part finished, and the crowd goes on with the others. -/
theorem Swept.advance (hk : k.Attends Goes Minded)
    (h : Swept k Goes Minded X crowd owner a parts a' parts' true) {a'' : Agenda} {parts'' : List α}
    (hfollows : Relation.ReflTransGen (OneGoes Goes) parts' parts'')
    (hlater : Advanced k Goes Minded (a.Since X) crowd owner a' parts' a'' parts'') :
    Advanced k Goes Minded X crowd owner a parts a'' parts'' := by
  refine ⟨hlater.manned.widen hk.toMinds fun _ _ => since_of_since h.leaves.size, hlater.attended,
    hlater.pending, fun hsleepers => ?_⟩
  rcases h.advances hsleepers with hgoes | ⟨-, rfl, hsleepers'⟩
  · exact hgoes.trans_left hfollows
  · exact hlater.advances hsleepers'

theorem Manned.advance (hk : k.Attends Goes Minded) {n : Nat} {s : σ} {parts : List α}
    (hn : parts.length < n + ((k.agenda s).queue crowd).settled.length)
    (hsound : (k.agenda s).Sound) (h : Manned k.outcome? Minded X crowd (k.agenda s) parts)
    (howner : owner.Within fun number => ¬ X number ∧ number < (k.agenda s).queues.size) :
    (k.agenda s).Leaves (fun number => ¬ X number) owner
        (k.agenda (k.advance crowd owner n s parts).1) ∧
      Relation.ReflTransGen (OneGoes Goes) parts (k.advance crowd owner n s parts).2.1 ∧
      ((k.advance crowd owner n s parts).2.2 = none →
        Advanced k Goes Minded X crowd owner (k.agenda s) parts
          (k.agenda (k.advance crowd owner n s parts).1) (k.advance crowd owner n s parts).2.1) := by
  -- Induction on how many more parts may finish. There are no more of them than have not.
  induction n generalizing s parts X with
  | zero =>
      have hle := h.settled_le
      omega
  | succ n ih =>
      rw [CrowdRule.advance]
      split
      · refine ⟨?_, .refl, fun hnone => by cases hnone⟩
        rw [CrowdRule.change, hk.agenda]
        exact Agenda.leaves_onQueue (fun hX => hX h.mem) (.inr (.inr rfl))
      · rename_i hgather
        have hpending := exists_of_gather_none hgather
        have hswept := h.sweep hk hsound howner hpending
        dsimp only
        split
        · rename_i s' parts' heq
          rw [heq] at hswept
          have hlength : parts'.length = parts.length := OneGoes.length_eq hswept.follows
          have hsettled : ((k.agenda s').queue crowd).settled.length =
              ((k.agenda s).queue crowd).settled.length + 1 := hswept.settled rfl
          have hn' : parts'.length < n + ((k.agenda s').queue crowd).settled.length := by omega
          obtain ⟨hleaves, hfollows, hadvanced⟩ := ih hn'
            (hswept.leaves.sound hsound (howner.imp fun _ hnumber => hnumber.2)) hswept.manned
            (within_since howner hswept.leaves.size)
          exact ⟨hswept.leaves.trans hleaves fun _ => not_since, hswept.follows.trans hfollows,
            fun hnone => hswept.advance hk hfollows (hadvanced hnone)⟩
        · rename_i s' parts' heq
          rw [heq] at hswept
          obtain ⟨hattended, hpending'⟩ := hswept.stopped rfl
          refine ⟨hswept.leaves, hswept.follows, fun _ => ⟨hswept.manned, hattended, hpending', ?_⟩⟩
          intro hsleepers
          exact (hswept.advances hsleepers).resolve_right fun h => by cases h.1

/-- **Polling a crowd** that is manned reaches into no other queue. If it does not finish it stays
manned and attended, and if everyone had been woken it has gone forward. -/
theorem Attends.pollCrowd (hk : k.Attends Goes Minded) (hsound : (k.agenda s).Sound)
    (h : Manned k.outcome? Minded X crowd (k.agenda s) parts)
    (howner : owner.Within fun number => ¬ X number ∧ number < (k.agenda s).queues.size) :
    (k.agenda s).Leaves (fun number => ¬ X number) owner
        (k.agenda (k.pollCrowd crowd owner s parts).1) ∧
      Relation.ReflTransGen (OneGoes Goes) parts (k.pollCrowd crowd owner s parts).2.1 ∧
      ((k.pollCrowd crowd owner s parts).2.2 = none →
        Advanced k Goes Minded X crowd owner (k.agenda s) parts
          (k.agenda (k.pollCrowd crowd owner s parts).1) (k.pollCrowd crowd owner s parts).2.1) :=
  h.advance hk (by omega) hsound howner

/-! ## Polling parts in turn -/

/-- All parts are minded for one waker, each with crowds of its own. -/
def AllMinded (Minded : Judgement α) (a : Agenda) (X : Nat → Prop) (waker : Waker) (Told : Prop)
    (parts : List α) : Prop :=
  ∃ place : Nat → Nat, ∀ i part, parts[i]? = some part →
    Minded a (fun number => X number ∧ place number = i) waker Told part

theorem AllMinded.widen {outcome? : α → Option (Except ε β)} (hk : Minds outcome? Minded)
    {waker : Waker} {Told : Prop} (h : AllMinded Minded a X waker Told parts)
    (hX : ∀ number < a.queues.size, X number → X' number) : AllMinded Minded a X' waker Told parts := by
  obtain ⟨place, hminded⟩ := h
  refine ⟨place, fun i part hpart => hk.widen (hminded i part hpart) fun number hlt hnumber => ?_⟩
  exact ⟨hX number hlt hnumber.1, hnumber.2⟩

theorem AllMinded.keeps {outcome? : α → Option (Except ε β)} (hk : Minds outcome? Minded)
    {waker : Waker} {Told Told' : Prop} (h : AllMinded Minded a X waker Told parts)
    (hkeeps : a.Keeps X waker Told' a') (htold : Told → Told') :
    AllMinded Minded a' X waker Told' parts := by
  obtain ⟨place, hminded⟩ := h
  refine ⟨place, fun i part hpart => hk.keeps (hminded i part hpart) ?_ htold⟩
  exact hkeeps.mono fun _ hnumber => hnumber.1

/-- What comes of polling parts in turn, for one waker. -/
structure InTurn (outcome? : α → Option (Except ε β)) (Goes : α → α → Prop) (Minded : Judgement α)
    (X : Nat → Prop) (waker : Waker) (a : Agenda) (parts : List α) (a' : Agenda) (parts' : List α) :
    Prop where
  leaves : a.Leaves (fun number => ¬ X number) waker a'
  minded : AllMinded Minded a' (a.Since X) waker (a'.Called waker) parts'
  follows : Relation.ReflTransGen (OneGoes Goes) parts parts'
  advances : a.sleepers = [] → (∃ part ∈ parts', outcome? part = none) →
    Relation.TransGen (OneGoes Goes) parts parts'

variable {outcome? : α → Option (Except ε β)} {waker : Waker} {rest rest' : List α} {a'' : Agenda}
  {place : Nat → Nat}

theorem InTurn.nil : InTurn outcome? Goes Minded X waker a [] a [] := by
  refine ⟨.refl _, ⟨id, fun i part hpart => by cases hpart⟩, .refl, fun _ hpending => ?_⟩
  obtain ⟨part, hmem, -⟩ := hpending
  cases hmem

/-- The others are minded when the first has been polled. -/
theorem Stride.allMinded (hk : Minds outcome? Minded)
    (hminded : ∀ i other, (part :: rest)[i]? = some other →
      Minded a (fun number => X number ∧ place number = i) waker True other)
    (h : Stride outcome? Goes Minded (fun number => X number ∧ place number = 0) waker a part a' part')
    (hwaker : waker.Within fun number => ¬ X number ∧ number < a.queues.size) :
    AllMinded Minded a' (fun number => (X number ∧ place number ≠ 0) ∧ number < a.queues.size) waker
      True rest := by
  refine ⟨fun number => place number - 1, fun i other hother => ?_⟩
  have hstays := h.others hk (hminded (i + 1) other hother) ?_ ?_ ?_ (fun h => h) fun _ => trivial
  · refine hk.widen hstays fun number _ hnumber => ?_
    obtain ⟨⟨hX, hplace⟩, hlt⟩ := hnumber
    have hafter : place number - 1 = i := by omega
    exact ⟨⟨⟨hX, by omega⟩, hlt⟩, hafter⟩
  · intro number hnumber hfirst
    have heq := hnumber.2.symm.trans hfirst.2
    cases heq
  · rintro number j hnumber rfl
    exact hwaker.1 hnumber.1
  · exact hwaker.imp fun number hnumber => ⟨fun hfirst => hnumber.1 hfirst.1, hnumber.2⟩

/-- The waker is from outside the crowds of the others, too. -/
theorem Stride.others_within {outcome? : α → Option (Except ε β)}
    (h : Stride outcome? Goes Minded (fun number => X number ∧ place number = 0) waker a part a' part')
    (hwaker : waker.Within fun number => ¬ X number ∧ number < a.queues.size) :
    waker.Within fun number =>
      ¬ ((X number ∧ place number ≠ 0) ∧ number < a.queues.size) ∧ number < a'.queues.size := by
  refine hwaker.imp fun number hnumber => ⟨fun hin => hnumber.1 hin.1.1, ?_⟩
  exact Nat.lt_of_lt_of_le hnumber.2 h.leaves.size

/-- What the others are polled with. -/
theorem Stride.others_ready {outcome? : α → Option (Except ε β)}
    (h : Stride outcome? Goes Minded (fun number => X number ∧ place number = 0) waker a part a' part')
    (hsound : a.Sound) (hwaker : waker.Within fun number => ¬ X number ∧ number < a.queues.size) :
    a.Leaves (fun number => ¬ X number) waker a' ∧ a'.Sound ∧ waker.Within fun number =>
      ¬ ((X number ∧ place number ≠ 0) ∧ number < a.queues.size) ∧ number < a'.queues.size := by
  have hleaves : a.Leaves (fun number => ¬ X number) waker a' :=
    h.leaves.mono fun _ _ hX hin => hX hin.1
  have hsound' : a'.Sound := hleaves.sound hsound (hwaker.imp fun _ hnumber => hnumber.2)
  exact ⟨hleaves, hsound', h.others_within hwaker⟩

/-- The first stays minded while the others are polled, whose crowds are not its own. -/
theorem Stride.first_minded (hk : Minds outcome? Minded)
    (h : Stride outcome? Goes Minded (fun number => X number ∧ place number = 0) waker a part a' part')
    (hwaker : waker.Within fun number => ¬ X number ∧ number < a.queues.size)
    (hrest : a'.Leaves (fun number => ¬ ((X number ∧ place number ≠ 0) ∧ number < a.queues.size)) waker
      a'') :
    Minded a'' (fun number => a.Since (fun number => X number ∧ place number = 0) number ∧
      number < a'.queues.size) waker (a''.Called waker) part' := by
  have hminded : Minded a' (fun number => a.Since (fun number => X number ∧ place number = 0) number ∧
      number < a'.queues.size) waker (a'.Called waker) part' :=
    hk.widen h.minded fun number hlt hnumber => ⟨hnumber, hlt⟩
  have hwithin := h.others_within hwaker
  refine hk.keeps hminded (hrest.keeps ?_ ?_ hwithin id) (hrest.called hwithin)
  · rintro number ⟨hold | hnew, -⟩ hin
    · exact hin.1.2 hold.2
    · omega
  · rintro number j ⟨hold | hnew, -⟩ rfl
    · exact hwaker.1 hold.1
    · exact Nat.not_le_of_lt hwaker.2 hnew

/-- **The first is polled and then the others.** -/
theorem InTurn.cons (hk : Minds outcome? Minded)
    (hwaker : waker.Within fun number => ¬ X number ∧ number < a.queues.size)
    (hfirst : Stride outcome? Goes Minded (fun number => X number ∧ place number = 0) waker a part a'
      part')
    (hidle : (outcome? part).isSome → part' = part ∧ a'.sleepers = a.sleepers)
    (hrest : InTurn outcome? Goes Minded
      (fun number => (X number ∧ place number ≠ 0) ∧ number < a.queues.size) waker a' rest a'' rest') :
    InTurn outcome? Goes Minded X waker a (part :: rest) a'' (part' :: rest') := by
  have hsize := hfirst.leaves.size
  obtain ⟨later, hlater⟩ := hrest.minded
  have hhead : Relation.ReflTransGen (OneGoes Goes) (part :: rest) (part' :: rest) :=
    hfirst.follows.lift (· :: rest) fun _ _ => .head
  have htail : Relation.ReflTransGen (OneGoes Goes) (part' :: rest) (part' :: rest') :=
    hrest.follows.lift (part' :: ·) fun _ _ => .tail
  -- The crowds of the first are those that it had and those that are new since its poll alone.
  refine ⟨?_, ⟨fun number => if number < a'.queues.size ∧ (number < a.queues.size → place number = 0)
    then 0 else later number + 1, fun i other hother => ?_⟩, hhead.trans htail,
    fun hsleepers hpending => ?_⟩
  · have hmono : a.Leaves (fun number => ¬ X number) waker a' :=
      hfirst.leaves.mono fun number _ hX hin => hX hin.1
    exact hmono.trans hrest.leaves fun number _ hX hin => hX hin.1.1
  · cases i with
    | zero =>
        obtain rfl := Option.some.inj hother
        refine hk.widen (hfirst.first_minded hk hwaker hrest.leaves) fun number _ hnumber => ?_
        obtain ⟨hold | hnew, hlt⟩ := hnumber
        · exact ⟨.inl hold.1, if_pos ⟨hlt, fun _ => hold.2⟩⟩
        · exact ⟨.inr hnew, if_pos ⟨hlt, fun hlt' => by omega⟩⟩
    | succ i =>
        refine hk.widen (hlater i other hother) fun number _ hnumber => ?_
        obtain ⟨⟨⟨hX, hplace⟩, hlt⟩ | hnew, hi⟩ := hnumber
        · exact ⟨.inl hX, (if_neg fun h => hplace (h.2 hlt)).trans (congrArg (· + 1) hi)⟩
        · exact ⟨.inr (Nat.le_trans hsize hnew),
            (if_neg fun h => Nat.not_le_of_lt h.1 hnew).trans (congrArg (· + 1) hi)⟩
  · rcases hfinished : outcome? part with _ | result
    · have hgoes : Relation.TransGen (OneGoes Goes) (part :: rest) (part' :: rest) :=
        (hfirst.advances hsleepers hfinished).lift (· :: rest) fun _ _ => .head
      exact hgoes.trans_left htail
    · obtain ⟨rfl, hsame⟩ := hidle (by rw [hfinished]; rfl)
      obtain ⟨other, hmem, hother⟩ := hpending
      have hrests : ∃ part ∈ rest', outcome? part = none := by
        rcases List.mem_cons.mp hmem with rfl | hmem
        · rw [hfinished] at hother
          cases hother
        · exact ⟨other, hmem, hother⟩
      exact (hrest.advances (hsame.trans hsleepers) hrests).lift (part' :: ·) fun _ _ => .tail

end CrowdRule

end ContentQuery
