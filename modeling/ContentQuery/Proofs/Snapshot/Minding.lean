import ContentQuery.Proofs.Snapshot.Outcomes
import ContentQuery.Proofs.Snapshot.Sweeping

/-!
# Work is minded

Work that has not ended is minded if it will be polled again whenever it can go on: each resolver it
waits for has a waker that was called, and each of its crowds is attended. Polling work keeps it minded
(**`Work.attends_pollDown`**), and takes it forward if everyone had been woken before.
-/

namespace ContentQuery

open CrowdRule (AllMinded Attended Attends InTurn Judgement Minds Staffed Stride)

namespace Work

/-- Work without crowds, whatever is answered. -/
inductive Fresh : Work → Prop
  | done (v : Json) : Fresh (done v)
  | failed (e : SnapshotError) : Fresh (failed e)
  | call {resolver : Resolver} {request : ResolveRequest} {next : Except String Json → Work} :
      (∀ answer, Fresh (next answer)) → Fresh (call resolver request next)
  | waiting {pauses : Nat} {answer : NodeStore → Except String Json}
      {next : Except String Json → Work} :
      (∀ answer, Fresh (next answer)) → Fresh (waiting pauses answer next)
  | join {parts : List Work} {next : List Json → Work} :
      (∀ part ∈ parts, Fresh part) → (∀ vs, Fresh (next vs)) → Fresh (join parts next)

/-- Work is minded for a waker, with crowds that are among some and nested no deeper than this. -/
inductive Minded (a : Agenda) : Nat → (Nat → Prop) → Waker → Prop → Work → Prop
  | finished {depth : Nat} {X : Nat → Prop} {waker : Waker} {Told : Prop} {w : Work} :
      w.outcome?.isSome → Minded a depth X waker Told w
  | fresh {depth : Nat} {X : Nat → Prop} {waker : Waker} {Told : Prop} {w : Work} :
      Fresh w → Told → Minded a depth X waker Told w
  | join {depth : Nat} {X : Nat → Prop} {waker : Waker} {Told : Prop} {parts : List Work}
      {next : List Json → Work} (place : Nat → Nat) :
      (depth = 0 ∨ parts.length ≤ crowdSize) → (∃ part ∈ parts, part.outcome? = none) →
      (∀ i part, parts[i]? = some part →
        Minded a depth (fun number => X number ∧ place number = i) waker Told part) →
      (∀ vs, Fresh (next vs)) → Minded a depth X waker Told (join parts next)
  | crowd {depth : Nat} {X : Nat → Prop} {waker : Waker} {Told : Prop} {number : Nat}
      {parts : List Work} {next : List Json → Work} (place : Nat → Nat) :
      Staffed outcome? X number a parts → Attended a number waker Told →
      (∃ part ∈ parts, part.outcome? = none) →
      (∀ i part, parts[i]? = some part →
        Minded a depth (fun other => X other ∧ other ≠ number ∧ place other = i) (.part number i)
          (a.Called (.part number i)) part) →
      (∀ vs, Fresh (next vs)) → Minded a (depth + 1) X waker Told (crowd number parts next)

variable {a a' : Agenda} {depth : Nat} {X X' : Nat → Prop} {waker : Waker} {Told Told' : Prop}
  {w : Work}

/-! ## What minding depends on -/

theorem Minded.told (h : Minded a depth X waker Told w) (hsleepers : a.sleepers = [])
    (hpending : w.outcome? = none) : Told := by
  induction h with
  | finished hsome =>
      rw [hpending] at hsome
      cases hsome
  | fresh _ htold => exact htold
  | join place _ hparts _ _ ih =>
      obtain ⟨part, hmem, hpart⟩ := hparts
      obtain ⟨i, hi⟩ := List.getElem?_of_mem hmem
      exact ih i part hi hpart
  | crowd place hstaffed hattended hparts _ _ ih =>
      obtain ⟨part, hmem, hpart⟩ := hparts
      obtain ⟨i, hi⟩ := List.getElem?_of_mem hmem
      exact hattended.told hstaffed hsleepers hi hpart (ih i part hi hpart)

theorem Minded.keeps (h : Minded a depth X waker Told w) (hkeeps : a.Keeps X waker Told' a')
    (htold : Told → Told') : Minded a' depth X waker Told' w := by
  induction h generalizing Told' with
  | finished hsome => exact .finished hsome
  | fresh hfresh h => exact .fresh hfresh (htold h)
  | join place hfew hparts _ hnext ih =>
      refine .join place hfew hparts (fun i part hpart => ih i part hpart ?_ htold) hnext
      exact hkeeps.mono fun _ hnumber => hnumber.1
  | @crowd depth X waker Told number parts next place hstaffed hattended hparts _ hnext ih =>
      refine .crowd place (hstaffed.keeps hkeeps)
        (hattended.keeps hkeeps hstaffed.mem hstaffed.lt htold) hparts (fun i part hpart => ?_) hnext
      exact ih i part hpart (hkeeps.inside (fun _ hother => hother.1) hstaffed.mem hstaffed.lt)
        (hkeeps.called number hstaffed.lt hstaffed.mem i)

theorem Minded.widen (h : Minded a depth X waker Told w)
    (hX : ∀ number < a.queues.size, X number → X' number) : Minded a depth X' waker Told w := by
  induction h generalizing X' with
  | finished hsome => exact .finished hsome
  | fresh hfresh h => exact .fresh hfresh h
  | join place hfew hparts _ hnext ih =>
      refine .join place hfew hparts (fun i part hpart => ih i part hpart ?_) hnext
      exact fun number hlt hnumber => ⟨hX number hlt hnumber.1, hnumber.2⟩
  | crowd place hstaffed hattended hparts _ hnext ih =>
      refine .crowd place (hstaffed.widen hX) hattended hparts (fun i part hpart => ?_) hnext
      exact ih i part hpart fun number hlt hnumber => ⟨hX number hlt hnumber.1, hnumber.2⟩

theorem minds (depth : Nat) : Minds outcome? fun a => Minded a depth where
  finished := .finished
  told h := h.told
  keeps h := h.keeps
  widen h := h.widen

/-! ## Polling -/

/-- The way in which crowds are polled attends crowds that are nested no deeper than this. -/
def Reaches : Nat → Option Poll → Prop
  | 0, none => True
  | depth + 1, some poll => (crowdRule poll).Attends Goes fun a => Minded a depth
  | _, _ => False

/-- Where no crowds are made, there are few parts, or crowds are nested too deep. -/
theorem Reaches.few {inner : Option Poll} (h : Reaches depth inner) {parts : List Work}
    (hfew : ∀ poll, inner = some poll → decide (parts.length > crowdSize) = true → False) :
    depth = 0 ∨ parts.length ≤ crowdSize := by
  cases depth with
  | zero => exact .inl rfl
  | succ depth =>
      cases inner with
      | none => exact h.elim
      | some poll => exact .inr (Nat.le_of_not_lt fun hlt => hfew poll rfl (decide_eq_true hlt))

variable {w' w₁ : Work} {a₁ : Agenda} {parts : List Work} {next : List Json → Work}
  {number : Nat}

/-- Work that went forward goes on, with crowds that it had or that are new. -/
theorem stride_after {X₁ : Nat → Prop} (hgoes : Goes w w₁)
    (hleaves : a.Leaves (fun number => ¬ X number) waker a₁)
    (hX : ∀ number, X₁ number → a.Since X number)
    (h : Stride outcome? Goes (fun a => Minded a depth) X₁ waker a₁ w₁ a' w') :
    Stride outcome? Goes (fun a => Minded a depth) X waker a w a' w' := by
  refine ⟨hleaves.trans h.leaves fun number hlt hout hin => CrowdRule.not_since hlt hout (hX number hin),
    h.minded.widen fun number _ hnumber => ?_, .head hgoes h.follows,
    fun _ _ => .head' hgoes h.follows⟩
  rcases hnumber with hold | hnew
  · exact hX number hold
  · exact .inr (Nat.le_trans hleaves.size hnew)

theorem stride_failed (e : SnapshotError) (hgoes : Goes w (failed e))
    (hleaves : a.Leaves (fun number => ¬ X number) waker a') :
    Stride outcome? Goes (fun a => Minded a depth) X waker a w a' (failed e) :=
  ⟨hleaves, .finished rfl, .single hgoes, fun _ _ => .single hgoes⟩

/-- Who waits for a resolver is woken by the end of the round. -/
theorem stride_sleep {pauses : Nat} {answer : NodeStore → Except String Json}
    {next : Except String Json → Work} (hgoes : Goes w (waiting pauses answer next))
    (hnext : ∀ answer, Fresh (next answer)) :
    Stride outcome? Goes (fun a => Minded a depth) X waker a w (a.sleep waker)
      (waiting pauses answer next) := by
  refine ⟨a.leaves_sleep waker, .fresh (.waiting hnext) (.inl List.mem_cons_self), .single hgoes,
    fun _ _ => .single hgoes⟩

theorem within_none (hwaker : waker.Within fun number => ¬ X number ∧ number < a.queues.size)
    (hsize : a.queues.size ≤ a₁.queues.size) :
    waker.Within fun number => ¬ False ∧ number < a₁.queues.size :=
  hwaker.imp fun _ hnumber => ⟨id, Nat.lt_of_lt_of_le hnumber.2 hsize⟩

/-- A crowd is polled. If it finishes, the work goes on with the values of its parts. -/
theorem stride_crowd {inner : Nat} (hdepth : depth = inner + 1) {poll : Poll}
    (hpoll : (crowdRule poll).Attends Goes fun a => Minded a inner) {s : PollState}
    (hsound : s.agenda.Sound)
    (hwaker : waker.Within fun number => ¬ X number ∧ number < s.agenda.queues.size)
    (h : CrowdRule.Manned outcome? (fun a => Minded a inner) X number s.agenda parts)
    (hnext : ∀ vs, Fresh (next vs)) {goOn : List Json → PollState → PollState × Work}
    (hgoOn : ∀ vs s', s'.agenda.Sound →
      waker.Within (fun number => ¬ False ∧ number < s'.agenda.queues.size) →
      Stride outcome? Goes (fun a => Minded a depth) (fun _ => False) waker s'.agenda (next vs)
        (goOn vs s').1.agenda (goOn vs s').2) :
    let polled := match (crowdRule poll).pollCrowd number waker s parts with
      | (s', _, some (.ok vs)) => goOn vs s'
      | (s', _, some (.error e)) => (s', failed e)
      | (s', parts', none) => (s', crowd number parts' next)
    Stride outcome? Goes (fun a => Minded a depth) X waker s.agenda (crowd number parts next)
      polled.1.agenda polled.2 := by
  subst hdepth
  obtain ⟨hleaves, hfollows, hadvanced⟩ := hpoll.pollCrowd hsound h hwaker
  dsimp only
  split
  · rename_i s' parts' vs heq
    rw [heq] at hleaves
    refine stride_after (.allJoined vs) hleaves (fun _ => False.elim) (hgoOn vs s' ?_ ?_)
    · exact hleaves.sound hsound (hwaker.imp fun _ hnumber => hnumber.2)
    · exact within_none hwaker hleaves.size
  · rename_i s' parts' e heq
    rw [heq] at hleaves
    exact stride_failed e (.failCrowd e) hleaves
  · rename_i s' parts' heq
    rw [heq] at hleaves hfollows hadvanced
    obtain ⟨⟨hstaffed, place, hminded⟩, hattended, hpending, hadvances⟩ := hadvanced rfl
    refine ⟨hleaves, .crowd place hstaffed hattended hpending hminded hnext,
      hfollows.lift (crowd number · next) fun _ _ => .partOfCrowd, fun hsleepers _ => ?_⟩
    exact (hadvances hsleepers).lift (crowd number · next) fun _ _ => .partOfCrowd

theorem pollWith_finished (store : NodeStore) (inner : Option Poll) (waker : Waker)
    (hsome : w.outcome?.isSome) (s : PollState) : pollWith store inner waker w s = (s, w) := by
  cases w with
  | done v => rfl
  | failed e => rfl
  | _ => cases hsome

/-- Parts that were polled in turn, none of which failed, and not all of which are done. -/
theorem stride_join {parts' : List Work} (hfew : depth = 0 ∨ parts.length ≤ crowdSize)
    (hnext : ∀ vs, Fresh (next vs))
    (h : InTurn outcome? Goes (fun a => Minded a depth) X waker a parts a' parts')
    (hfailed : ∀ part ∈ parts', ∀ e, part ≠ failed e) (hnone : parts'.mapM value? = none) :
    Stride outcome? Goes (fun a => Minded a depth) X waker a (join parts next) a'
      (join parts' next) := by
  have hpending : ∃ part ∈ parts', part.outcome? = none := by
    obtain ⟨part, hmem, hpart⟩ := exists_of_mapM_none hnone
    refine ⟨part, hmem, ?_⟩
    cases part with
    | done v => cases hpart
    | failed e => exact absurd rfl (hfailed _ hmem e)
    | _ => rfl
  obtain ⟨place, hminded⟩ := h.minded
  have hlength := OneGoes.length_eq h.follows
  exact ⟨h.leaves, .join place (hlength ▸ hfew) hpending hminded hnext,
    h.follows.lift (join · next) fun _ _ => .part,
    fun hsleepers _ => (h.advances hsleepers hpending).lift (join · next) fun _ _ => .part⟩

/-- What is left of minded work is minded, as are the parts of work that joins them. -/
theorem Minded.next_of_call {resolver : Resolver} {request : ResolveRequest}
    {next : Except String Json → Work} (h : Minded a depth X waker Told (call resolver request next)) :
    ∀ answer, Fresh (next answer) := by
  cases h with
  | finished hsome => cases hsome
  | fresh hfresh _ =>
      cases hfresh with
      | call hnext => exact hnext

theorem Minded.next_of_waiting {pauses : Nat} {answer : NodeStore → Except String Json}
    {next : Except String Json → Work} (h : Minded a depth X waker Told (waiting pauses answer next)) :
    ∀ answer, Fresh (next answer) := by
  cases h with
  | finished hsome => cases hsome
  | fresh hfresh _ =>
      cases hfresh with
      | waiting hnext => exact hnext

theorem Minded.of_join (h : Minded a depth X waker Told (.join parts next)) :
    (∀ vs, Fresh (next vs)) ∧ AllMinded (fun a => Minded a depth) a X waker Told parts ∧
      ((depth = 0 ∨ parts.length ≤ crowdSize) ∨ ∀ part ∈ parts, Fresh part) := by
  cases h with
  | finished hsome => cases hsome
  | fresh hfresh htold =>
      cases hfresh with
      | join hparts hnext =>
          refine ⟨hnext, ⟨fun _ => 0, fun i part hpart => ?_⟩, .inr hparts⟩
          exact .fresh (hparts part (List.mem_of_getElem? hpart)) htold
  | join place hfew _ hminded hnext => exact ⟨hnext, ⟨place, hminded⟩, .inl hfew⟩

theorem Minded.of_crowd (h : Minded a depth X waker Told (.crowd number parts next)) :
    ∃ inner, depth = inner + 1 ∧
      CrowdRule.Manned outcome? (fun a => Minded a inner) X number a parts ∧
      ∀ vs, Fresh (next vs) := by
  cases h with
  | finished hsome => cases hsome
  | fresh hfresh _ => cases hfresh
  | crowd place hstaffed _ _ hminded hnext => exact ⟨_, rfl, ⟨hstaffed, place, hminded⟩, hnext⟩

/-- Where crowds are polled, they are attended one level further down. -/
theorem Reaches.attends {poll : Poll} (h : Reaches depth (some poll)) :
    ∃ inner, depth = inner + 1 ∧ (crowdRule poll).Attends Goes fun a => Minded a inner := by
  cases depth with
  | zero => exact h.elim
  | succ inner => exact ⟨inner, rfl, h⟩

mutual

/-- **One poll of minded work is a stride.** -/
theorem pollWith_stride (store : NodeStore) {depth : Nat} {inner : Option Poll}
    (hreaches : Reaches depth inner) {X : Nat → Prop} {waker : Waker} (w : Work) {s : PollState}
    (hsound : s.agenda.Sound)
    (hwaker : waker.Within fun number => ¬ X number ∧ number < s.agenda.queues.size)
    (h : Minded s.agenda depth X waker True w) :
    Stride outcome? Goes (fun a => Minded a depth) X waker s.agenda w
      (pollWith store inner waker w s).1.agenda (pollWith store inner waker w s).2 := by
  have hsize := hwaker.imp fun _ hnumber => hnumber.2
  cases w with
  | done v => exact ⟨.refl _, .finished rfl, .refl, fun _ hpending => by cases hpending⟩
  | failed e => exact ⟨.refl _, .finished rfl, .refl, fun _ hpending => by cases hpending⟩
  | call resolver request next =>
      have hnext := h.next_of_call
      rw [pollWith.eq_def]
      dsimp only
      split
      · refine stride_after
          (.answer ((resolver.reply (s.journal.attempts request + 1) request).answer store)) (.refl _)
          (fun _ => False.elim) ?_
        exact pollWith_stride store hreaches (next _)
          (s := { s with journal := s.journal.record request }) hsound
          (within_none hwaker (Nat.le_refl _)) (.fresh (hnext _) trivial)
      · exact stride_sleep (.pause _ _) hnext
  | waiting pauses answer next =>
      have hnext := h.next_of_waiting
      cases pauses with
      | zero =>
          rw [pollWith.eq_def]
          refine stride_after (.resume (answer store)) (.refl _) (fun _ => False.elim) ?_
          exact pollWith_stride store hreaches (next _) hsound
            (within_none hwaker (Nat.le_refl _)) (.fresh (hnext _) trivial)
      | succ n => exact stride_sleep .wait hnext
  | join parts next =>
      obtain ⟨hnext, hminded, hfresh⟩ := h.of_join
      obtain ⟨hleaves, hturn⟩ := pollAll_inTurn store hreaches parts hsound hwaker hminded
      rw [pollWith.eq_def]
      dsimp only
      split
      · -- Many parts become a crowd.
        rename_i poll hmany
        obtain ⟨inner, hdepth, hpoll⟩ := hreaches.attends
        have hparts := hfresh.resolve_left (by
          have hlt := of_decide_eq_true hmany
          omega)
        have hnew : s.agenda.Leaves (fun number => ¬ X number) waker
            (s.agenda.newQueue parts.length).1 := s.agenda.leaves_newQueue _
        refine stride_after (.gather s.agenda.queues.size) hnew (fun _ => id) ?_
        refine stride_crowd hdepth hpoll (s := { s with agenda := (s.agenda.newQueue parts.length).1 })
          (hnew.sound hsound hsize) (CrowdRule.within_since hwaker hnew.size)
          (CrowdRule.manned_newQueue hsound fun part hmem _ _ _ => .fresh (hparts part hmem)) hnext
          fun vs s' hsound' hwaker' => ?_
        exact pollWith_stride store hreaches (next vs) hsound' hwaker' (.fresh (hnext vs) trivial)
      · rename_i inner _ hfew
        rcases heq : pollAll store _ waker parts s with ⟨s', e | parts'⟩
        · rw [heq] at hleaves
          exact stride_failed e (.fail e) hleaves
        · rw [heq] at hleaves hturn
          obtain ⟨hturn, hfailed⟩ := hturn parts' rfl
          dsimp only
          split
          · rename_i vs _
            refine stride_after (.joined vs) hleaves (fun _ => False.elim) ?_
            exact pollWith_stride store hreaches (next vs) (hleaves.sound hsound hsize)
              (within_none hwaker hleaves.size) (.fresh (hnext vs) trivial)
          · rename_i hnone
            refine stride_join ?_ hnext hturn hfailed hnone
            exact hreaches.few hfew
  | crowd number parts next =>
      obtain ⟨inner, hdepth, hmanned, hnext⟩ := h.of_crowd
      rw [pollWith.eq_def]
      dsimp only
      split
      · obtain ⟨inner', hdepth', hpoll⟩ := hreaches.attends
        obtain rfl : inner' = inner := Nat.succ.inj (hdepth'.symm.trans hdepth)
        refine stride_crowd hdepth hpoll hsound hwaker hmanned hnext
          fun vs s' hsound' hwaker' => ?_
        exact pollWith_stride store hreaches (next vs) hsound' hwaker' (.fresh (hnext vs) trivial)
      · rw [hdepth] at hreaches
        exact hreaches.elim

theorem pollAll_inTurn (store : NodeStore) {depth : Nat} {inner : Option Poll}
    (hreaches : Reaches depth inner) {X : Nat → Prop} {waker : Waker} (parts : List Work)
    {s : PollState} (hsound : s.agenda.Sound)
    (hwaker : waker.Within fun number => ¬ X number ∧ number < s.agenda.queues.size)
    (h : AllMinded (fun a => Minded a depth) s.agenda X waker True parts) :
    s.agenda.Leaves (fun number => ¬ X number) waker (pollAll store inner waker parts s).1.agenda ∧
      ∀ parts', (pollAll store inner waker parts s).2 = .ok parts' →
        InTurn outcome? Goes (fun a => Minded a depth) X waker s.agenda parts
          (pollAll store inner waker parts s).1.agenda parts' ∧
        ∀ part ∈ parts', ∀ e, part ≠ failed e := by
  cases parts with
  | nil =>
      refine ⟨.refl _, fun parts' hok => ?_⟩
      obtain rfl := Except.ok.inj hok
      exact ⟨.nil, fun _ hmem => nomatch hmem⟩
  | cons w rest =>
      obtain ⟨place, hminded⟩ := h
      have hfirst := pollWith_stride store hreaches (X := fun number => X number ∧ place number = 0) w
        hsound (hwaker.imp fun _ hnumber => ⟨fun hin => hnumber.1 hin.1, hnumber.2⟩) (hminded 0 w rfl)
      have hrest := hfirst.allMinded (minds depth) hminded hwaker
      have hidle : w.outcome?.isSome → (pollWith store inner waker w s).2 = w ∧
          (pollWith store inner waker w s).1.agenda.sleepers = s.agenda.sleepers := by
        intro hsome
        rw [pollWith_finished store inner waker hsome]
        exact ⟨rfl, rfl⟩
      rw [pollAll.eq_def]
      dsimp only
      rcases hpoll : pollWith store inner waker w s with ⟨s₁, w'⟩
      rw [hpoll] at hfirst hrest hidle
      obtain ⟨hleaves₁, hsound₁, hwaker₁⟩ := hfirst.others_ready hsound hwaker
      obtain ⟨hleaves, hturn⟩ := pollAll_inTurn store hreaches rest hsound₁ hwaker₁ hrest
      have hleaves₂ := hleaves₁.trans hleaves fun _ _ hX hin => hX hin.1.1
      cases w' with
      | failed e =>
          exact ⟨hleaves₁, fun _ hok => by cases hok⟩
      | _ =>
          rcases hpollAll : pollAll store inner waker rest s₁ with ⟨s₂, e | rest'⟩
          · rw [hpollAll] at hleaves₂
            simp only [hpollAll]
            exact ⟨hleaves₂, fun _ hok => by cases hok⟩
          · rw [hpollAll] at hleaves₂ hturn
            simp only [hpollAll]
            refine ⟨hleaves₂, fun _ hok => ?_⟩
            obtain rfl := Except.ok.inj hok
            obtain ⟨hturn, hfailed⟩ := hturn rest' rfl
            exact ⟨.cons (minds depth) hwaker hfirst hidle hturn,
              List.forall_mem_cons.mpr ⟨fun _ heq => (nomatch heq), hfailed⟩⟩

end

/-- **Crowds are attended** as deep as they are nested. -/
theorem attends_pollDown (store : NodeStore) (depth : Nat) :
    (crowdRule (pollDown store depth)).Attends Goes fun a => Minded a depth := by
  have hattends : ∀ {depth inner}, Reaches depth inner →
      (crowdRule (pollWith store inner)).Attends Goes fun a => Minded a depth := by
    intro depth inner hreaches
    refine { minds depth with
      agenda := fun _ _ => rfl
      idle := fun hsome => pollWith_finished store inner _ hsome _
      poll := fun hsound hwaker h => pollWith_stride store hreaches _ hsound hwaker h }
  induction depth with
  | zero => exact hattends trivial
  | succ depth ih => exact hattends ih

/-- One poll of minded work is a stride, and work that is not finished after it was not before. -/
theorem poll_stride {store : NodeStore} {s s' : PollState} (hsound : s.agenda.Sound)
    (hwaker : waker.Within fun number => ¬ X number ∧ number < s.agenda.queues.size)
    (h : Minded s.agenda maxDepth X waker True w) (hpoll : poll store waker w s = (s', w')) :
    Stride outcome? Goes (fun a => Minded a maxDepth) X waker s.agenda w s'.agenda w' ∧
      (w'.outcome? = none → w.outcome? = none) := by
  have hattends := attends_pollDown store maxDepth
  constructor
  · have hstride := hattends.poll hsound hwaker h
    rwa [show (crowdRule (pollDown store maxDepth)).poll waker w s = (s', w') from hpoll] at hstride
  · intro hpending
    by_contra hfinished
    have hidle : poll store waker w s = (s, w) :=
      hattends.idle (Option.isSome_iff_ne_none.mpr hfinished)
    obtain ⟨-, rfl⟩ := Prod.mk.inj (hpoll.symm.trans hidle)
    exact hfinished hpending

end Work

end ContentQuery
