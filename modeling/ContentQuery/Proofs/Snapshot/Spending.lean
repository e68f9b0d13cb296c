import ContentQuery.Proofs.Snapshot.Calls
import ContentQuery.Proofs.Snapshot.Resolution

/-!
# Polling makes the calls that are to be made

However work is polled, in turn or as a crowd, what a poll adds to the journal is taken from the calls
that the work has left to make (**`Work.poll_spends`**). Completing the required fields of a node is such
work when their resolvers are pure (`Completion.pure_fields`).
-/

namespace ContentQuery

open Json (Object)

namespace Work

variable {S : NodeStore → Prop} {store : NodeStore} {j : Journal} {w : Work}
  {parts parts' : List Work} {next : List Json → Work}

/-! ## Polls -/

/-- A way of polling that makes the calls that are to be made. -/
def Poll.Spending (S : NodeStore → Prop) (store : NodeStore) (poll : Poll) : Prop :=
  ∀ waker w s, w.Pure S →
    Spends S store s.journal w (poll waker w s).1.journal (poll waker w s).2

theorem spendsAll_of_progress {poll : Poll} (hpoll : poll.Spending S store) {s s' : PollState}
    (h : (crowdRule poll).Progress s parts s' parts') (hparts : AllPure S parts) :
    SpendsAll S store s.journal parts s'.journal parts' := by
  induction h with
  | refl => exact .refl hparts
  | agenda _ _ ih => exact ih
  | @poll s' parts' waker index w _ hpart ih =>
      have hw : w.Pure S := allPure_iff.mp ih.pure w (List.mem_of_getElem? hpart)
      exact ih.set hpart (hpoll waker w s' hw)

/-- Work goes on after its crowd was polled. -/
theorem pollCrowd_spends {poll : Poll} (hpoll : poll.Spending S store) (number : Nat) (waker : Waker)
    (s : PollState) (hparts : AllPure S parts) (hnext : ∀ vs, (next vs).Pure S) :
    match (crowdRule poll).pollCrowd number waker s parts with
    | (s', _, some (.ok vs)) => Spends S store s.journal (.join parts next) s'.journal (next vs)
    | (s', _, some (.error e)) => Spends S store s.journal (.join parts next) s'.journal (.failed e)
    | (s', parts', none) =>
      Spends S store s.journal (.join parts next) s'.journal (.join parts' next) := by
  obtain ⟨hprogress, hresult⟩ := (crowdRule poll).pollCrowd_progress number waker s parts
  have hall := spendsAll_of_progress hpoll hprogress hparts
  split <;> rename_i heq <;> rw [heq] at hall hresult
  · rename_i s' parts' vs
    obtain rfl := eq_map_of_gather_ok (fun _ _ => eq_done_of_outcome?) (hresult _ rfl)
    exact hall.join_done hnext
  · rename_i s' parts' e
    have hfailed : yieldAll store parts' = none :=
      yieldAll_of_failed (failed_mem_of_gather_error (hresult _ rfl))
    refine spends_failed (hall.yields.symm.trans hfailed) hall.grows (fun call => ?_) e
    exact Nat.le_trans (Nat.le_add_right _ _) (hall.bound call)
  · exact hall.join hnext

theorem count_record (j : Journal) (request : ResolveRequest) (call : ResolverCall) :
    (j.record request).count call = j.count call + if request.call = call then 1 else 0 := by
  simp only [Journal.record, List.count_cons, beq_iff_eq]
  rfl

/-- A resolver is called, and the work that is left goes on with what it answers. -/
theorem spends_call {resolver : Resolver} {request : ResolveRequest}
    {next : Except String Json → Work} (hw : w.Pure S)
    (hyields : w.yields store = (Work.call resolver request next).yields store)
    (htimes : ∀ call,
      w.times store call = (next ((resolver.reply 1 request).answer store)).times store call) :
    Spends S store j (.call resolver request next) (j.record request) w := by
  refine ⟨hw, hyields, fun call => ?_, fun call => ?_, fun _ call => ?_⟩
  · rw [count_record]
    exact Nat.le_add_right _ _
  · rw [count_record, times, htimes]
    omega
  · rw [count_record, times, htimes]
    omega

mutual

theorem pollWith_spends {now : NodeStore} (hnow : S now) (hstore : S store) {inner : Option Poll}
    (hinner : ∀ poll ∈ inner, poll.Spending S store) (waker : Waker) (w : Work) (s : PollState)
    (hw : w.Pure S) :
    Spends S store s.journal w (pollWith now inner waker w s).1.journal
      (pollWith now inner waker w s).2 := by
  cases w with
  | done v => exact .refl hw
  | failed e => exact .refl hw
  | call resolver request next =>
      obtain ⟨hresolver, hnext⟩ := hw
      have hanswer : ∀ now, S now →
          (resolver.reply (s.journal.attempts request + 1) request).answer now =
            (resolver.reply 1 request).answer store := fun now hnow =>
        hresolver _ 1 request now store hnow hstore
      rw [pollWith.eq_def]
      dsimp only
      split
      · -- A resolver that does not pause answers at once.
        rw [hanswer now hnow]
        have hcalled : Spends S store s.journal (.call resolver request next)
            (s.journal.record request) (next ((resolver.reply 1 request).answer store)) :=
          spends_call (hnext _) (by rw [Work.yields]) fun _ => rfl
        exact hcalled.trans (pollWith_spends hnow hstore hinner waker
          (next ((resolver.reply 1 request).answer store))
          { s with journal := s.journal.record request } (hnext _))
      · -- One that pauses is called now and answers by then.
        refine spends_call ?_ ?_ fun call => ?_
        · rw [Pure]
          exact ⟨fun _ _ => hresolver _ _ request _ _, hnext⟩
        · rw [Work.yields, Work.yields, hanswer store hstore]
        · rw [times, hanswer store hstore]
  | waiting pauses answer next =>
      have hanswer := hw.1
      have hnext := hw.2
      cases pauses with
      | zero =>
          have hanswered : Spends S store s.journal (.waiting 0 answer next) s.journal
              (next (answer now)) := by
            rw [hanswer now store hnow hstore]
            exact .of_times (hnext _) (by rw [Work.yields]) fun call => by rw [times]
          exact hanswered.trans (pollWith_spends hnow hstore hinner waker (next (answer now)) s
            (hnext _))
      | succ n =>
          rw [pollWith.eq_def]
          exact .of_times ⟨hanswer, hnext⟩ (by rw [Work.yields, Work.yields])
            fun call => by rw [times, times]
  | join parts next =>
      obtain ⟨hparts, hnext⟩ := hw
      have hall := pollAll_spends hnow hstore hinner waker parts s hparts
      rw [pollWith.eq_def]
      dsimp only
      split
      · -- Many parts become a crowd, with a queue of its own.
        rename_i poll _
        have hcrowd := pollCrowd_spends (hinner poll rfl) (s.agenda.newQueue parts.length).2 waker
          { s with agenda := (s.agenda.newQueue parts.length).1 } hparts hnext
        split <;> rename_i heq <;> rw [heq] at hcrowd
        · exact hcrowd.trans (pollWith_spends hnow hstore hinner waker _ _ (hnext _))
        · exact hcrowd
        · exact hcrowd.to_crowd _
      · -- Few are polled in turn.
        rcases heq : pollAll now _ waker parts s with ⟨s', e | parts'⟩
        · rw [heq] at hall
          exact spends_failed hall.1 hall.2.1 hall.2.2 e
        · rw [heq] at hall
          dsimp only
          split
          · rename_i vs hvs
            obtain rfl := eq_map_of_mapM (fun _ _ => eq_done_of_value?) hvs
            exact (hall.join_done hnext).trans
              (pollWith_spends hnow hstore hinner waker _ _ (hnext _))
          · exact hall.join hnext
  | crowd number parts next =>
      obtain ⟨hparts, hnext⟩ := hw
      rw [pollWith.eq_def]
      dsimp only
      split
      · rename_i poll
        have hcrowd := pollCrowd_spends (hinner poll rfl) number waker s hparts hnext
        split <;> rename_i heq <;> rw [heq] at hcrowd
        · exact (hcrowd.of_crowd number).trans
            (pollWith_spends hnow hstore hinner waker _ _ (hnext _))
        · exact hcrowd.of_crowd number
        · exact (hcrowd.of_crowd number).to_crowd number
      · exact .refl ⟨hparts, hnext⟩

theorem pollAll_spends {now : NodeStore} (hnow : S now) (hstore : S store) {inner : Option Poll}
    (hinner : ∀ poll ∈ inner, poll.Spending S store) (waker : Waker) (parts : List Work)
    (s : PollState) (hparts : AllPure S parts) :
    match pollAll now inner waker parts s with
    | (s', .ok parts') => SpendsAll S store s.journal parts s'.journal parts'
    | (s', .error _) => yieldAll store parts = none ∧
      (∀ call, s.journal.count call ≤ s'.journal.count call) ∧
      ∀ call, s'.journal.count call ≤ s.journal.count call + timesAll store call parts := by
  cases parts with
  | nil => exact .refl hparts
  | cons w rest =>
      obtain ⟨hw, hrest⟩ := hparts
      have hfirst := pollWith_spends hnow hstore hinner waker w s hw
      rw [pollAll.eq_def]
      dsimp only
      rcases hpoll : pollWith now inner waker w s with ⟨s', w'⟩
      rw [hpoll] at hfirst
      dsimp only at hfirst
      have hmore := pollAll_spends hnow hstore hinner waker rest s' hrest
      cases w' with
      | failed e =>
          have hnone : w.yields store = none := by rw [← hfirst.yields, Work.yields]
          refine ⟨by rw [yieldAll, hnone], hfirst.grows, fun call => ?_⟩
          have hbound := hfirst.bound call
          rw [timesAll]
          omega
      | _ =>
          rcases hpollAll : pollAll now inner waker rest s' with ⟨s'', e | rest'⟩ <;>
            rw [hpollAll] at hmore <;> simp only [hpollAll]
          · exact spends_cons_failed hfirst hmore.1 hmore.2.1 hmore.2.2
          · exact .cons hfirst hmore

end

/-- **Polling spends what is to be spent.** What a poll adds to the journal is taken from the calls that
the work has left to make. -/
theorem poll_spends {now : NodeStore} (hnow : S now) (hstore : S store) (waker : Waker) (w : Work)
    (s : PollState) (hw : w.Pure S) :
    Spends S store s.journal w (poll now waker w s).1.journal (poll now waker w s).2 := by
  -- As with outcomes, the way in which crowds are polled is taken one level further down.
  have hdown : ∀ depth, (pollDown now depth).Spending S store := by
    intro depth
    induction depth with
    | zero =>
        intro waker w s hw
        exact pollWith_spends hnow hstore (fun _ h => by cases h) waker w s hw
    | succ depth ih =>
        intro waker w s hw
        refine pollWith_spends hnow hstore ?_ waker w s hw
        rintro poll ⟨⟩
        exact ih
  exact hdown maxDepth waker w s hw

end Work

/-! ## Completing a node -/

/-- All resolvers of the required fields, at any depth, are pure where these stores are at hand. -/
def Registry.PureOver (S : NodeStore → Prop) (r : Registry) : ObjectType → List RequiredField → Prop
  | _, [] => True
  | t, ⟨name, inner⟩ :: rest =>
    (∀ field, t.field? name = some field →
      (∀ resolver, field.resolver = some resolver → resolver.PureOver S) ∧
      ∀ nested t', field.kind.objectType? = some nested → r.type? nested = some t' →
        PureOver S r t' inner) ∧
    PureOver S r t rest

namespace Completion

variable {S : NodeStore → Prop}

mutual

theorem pure_inObjects {complete : Object → Work} (h : ∀ members, (complete members).Pure S)
    (v : Json) : (inObjects complete v).Pure S := by
  cases v with
  | object members => exact h members
  | array items => exact ⟨allPure_inItems h items, fun _ => trivial⟩
  | _ => trivial

theorem allPure_inItems {complete : Object → Work} (h : ∀ members, (complete members).Pure S)
    (items : List Json) : Work.AllPure S (inItems complete items) := by
  cases items with
  | nil => trivial
  | cons item rest => exact ⟨pure_inObjects h item, allPure_inItems h rest⟩

end

/-- Completing required fields calls no resolver but theirs. -/
theorem pure_fields (c : Completion) (t : ObjectType) (required : List RequiredField)
    (h : c.registry.PureOver S t required) (source : Object) : (c.fields t required source).Pure S := by
  match required with
  | [] =>
      rw [fields]
      trivial
  | ⟨name, inner⟩ :: rest =>
      rw [Registry.PureOver] at h
      obtain ⟨hfieldPure, hrestPure⟩ := h
      rw [fields_cons]
      cases hfield : t.field? name with
      | none => trivial
      | some field =>
          obtain ⟨hresolver, hinner⟩ := hfieldPure field hfield
          have hinside : ∀ v, (c.insideWork field inner v).Pure S := by
            intro v
            unfold insideWork
            cases hkind : field.kind.objectType? with
            | none => trivial
            | some nested =>
                dsimp only
                split
                · trivial
                · cases htype : c.registry.type? nested with
                  | none => trivial
                  | some t' =>
                      exact pure_inObjects
                        (fun members => pure_fields c t' inner (hinner nested t' hkind htype) members) v
          have hgoesOn : ∀ v, ((c.insideWork field inner v).bind fun w =>
              c.fields t rest (source.insert name w)).Pure S := fun v =>
            Work.Pure.bind _ (hinside v) fun w => pure_fields c t rest hrestPure _
          dsimp only
          cases hres : field.resolver with
          | some resolver =>
              refine ⟨hresolver resolver hres, fun answer => ?_⟩
              cases answer with
              | ok v => exact hgoesOn v
              | error cause => trivial
          | none =>
              dsimp only
              cases source.get? name with
              | some v => exact hgoesOn v
              | none => exact pure_fields c t rest hrestPure source
termination_by sizeOf required

end Completion

end ContentQuery
