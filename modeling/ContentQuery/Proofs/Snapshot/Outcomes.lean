import ContentQuery.Proofs.Snapshot.Crowds
import ContentQuery.Snapshot.Work

/-!
# What work can end with

Work is polled many times, by many, and each time against the store as it is then. `Work.Ends S`
forgets when: it says what the work can end with if every resolver answers from one of the stores
in `S`, and if any of several failures may come first.

Polling never adds to that (`Work.poll_refines`): whatever the rest of the work can end with, the
work could end with before. So an outcome of the last poll is an outcome of the work as it was begun.
-/

namespace ContentQuery

/-- Lists stay related element by element when one element is replaced and all the others stay. -/
theorem forall₂_set {α β : Type} {R R' : α → β → Prop} {as : List α} {bs : List β}
    (h : List.Forall₂ R as bs) (hothers : ∀ a b, R a b → R' a b) {i : Nat} {a a' : α}
    (ha : as[i]? = some a) (hR : ∀ b, R a b → R' a' b) : List.Forall₂ R' (as.set i a') bs := by
  induction h generalizing i with
  | nil => cases ha
  | cons hhead htail ih =>
      cases i with
      | zero =>
          obtain rfl := Option.some.inj ha
          exact .cons (hR _ hhead) (htail.imp hothers)
      | succ i => exact .cons (hothers _ _ hhead) (ih ha)

/-- Where one of two related lists has an element, the other has one that it is related to. -/
theorem exists_getElem?_of_forall₂ {α β : Type} {R : α → β → Prop} {as : List α} {bs : List β}
    (h : List.Forall₂ R as bs) {i : Nat} {a : α} (ha : as[i]? = some a) :
    ∃ b, bs[i]? = some b ∧ R a b := by
  induction h generalizing i with
  | nil => cases ha
  | cons hhead _ ih =>
      cases i with
      | zero =>
          obtain rfl := Option.some.inj ha
          exact ⟨_, rfl, hhead⟩
      | succ i => exact ih ha

namespace Work

variable {S : NodeStore → Prop}

/-! ## Outcomes -/

mutual

/-- The work can end so if resolvers answer from stores in `S`. -/
def Ends (S : NodeStore → Prop) : Work → Except SnapshotError Json → Prop
  | done v, r => r = .ok v
  | failed e, r => r = .error e
  | call resolver request next, r =>
    ∃ attempt store, S store ∧ Ends S (next ((resolver.reply attempt request).answer store)) r
  | waiting _ answer next, r => ∃ store, S store ∧ Ends S (next (answer store)) r
  | join parts next, r =>
    (∃ vs, AllEnd S parts vs ∧ Ends S (next vs) r) ∨ ∃ e, r = .error e ∧ AnyFails S parts e
  | crowd _ parts next, r =>
    (∃ vs, AllEnd S parts vs ∧ Ends S (next vs) r) ∨ ∃ e, r = .error e ∧ AnyFails S parts e

/-- The parts can end with these values. -/
def AllEnd (S : NodeStore → Prop) : List Work → List Json → Prop
  | [], vs => vs = []
  | w :: rest, vs => ∃ v more, vs = v :: more ∧ Ends S w (.ok v) ∧ AllEnd S rest more

/-- One of the parts can fail so. -/
def AnyFails (S : NodeStore → Prop) : List Work → SnapshotError → Prop
  | [], _ => False
  | w :: rest, e => Ends S w (.error e) ∨ AnyFails S rest e

end

theorem allEnd_iff {parts : List Work} {vs : List Json} :
    AllEnd S parts vs ↔ List.Forall₂ (fun w v => Ends S w (.ok v)) parts vs := by
  induction parts generalizing vs with
  | nil => simp [AllEnd]
  | cons w rest ih =>
      rw [AllEnd, List.forall₂_cons_left_iff]
      constructor
      · rintro ⟨v, more, rfl, hv, hmore⟩
        exact ⟨v, more, hv, ih.mp hmore, rfl⟩
      · rintro ⟨v, more, hv, hmore, rfl⟩
        exact ⟨v, more, rfl, hv, ih.mpr hmore⟩

theorem anyFails_iff {parts : List Work} {e : SnapshotError} :
    AnyFails S parts e ↔ ∃ w ∈ parts, Ends S w (.error e) := by
  induction parts with
  | nil => simp [AnyFails]
  | cons w rest ih => rw [AnyFails, ih, List.exists_mem_cons_iff]

/-- What work can end with that goes on with the values of all its parts, whichever way these are
polled. -/
def EndsAfter (S : NodeStore → Prop) (parts : List Work) (next : List Json → Work)
    (r : Except SnapshotError Json) : Prop :=
  (∃ vs, AllEnd S parts vs ∧ Ends S (next vs) r) ∨ ∃ e, r = .error e ∧ AnyFails S parts e

theorem EndsAfter.bind {parts : List Work} {next : List Json → Work} {k : Json → Work}
    {r : Except SnapshotError Json} (h : EndsAfter S parts (fun vs => (next vs).bind k) r)
    (hnext : ∀ vs, Ends S ((next vs).bind k) r →
      (∃ v, Ends S (next vs) (.ok v) ∧ Ends S (k v) r) ∨
        ∃ e, r = .error e ∧ Ends S (next vs) (.error e)) :
    (∃ v, EndsAfter S parts next (.ok v) ∧ Ends S (k v) r) ∨
      ∃ e, r = .error e ∧ EndsAfter S parts next (.error e) := by
  rcases h with ⟨vs, hvs, h⟩ | ⟨e, he, hfail⟩
  · rcases hnext vs h with ⟨v, hv, hk⟩ | ⟨e, he, hfail⟩
    · exact .inl ⟨v, .inl ⟨vs, hvs, hv⟩, hk⟩
    · exact .inr ⟨e, he, .inl ⟨vs, hvs, hfail⟩⟩
  · exact .inr ⟨e, he, .inr ⟨e, rfl, hfail⟩⟩

/-- Work that goes on with the value of other work ends as the rest does with such a value, or fails
as the other work can. -/
theorem of_ends_bind (w : Work) {k : Json → Work} {r : Except SnapshotError Json}
    (h : Ends S (w.bind k) r) :
    (∃ v, Ends S w (.ok v) ∧ Ends S (k v) r) ∨ ∃ e, r = .error e ∧ Ends S w (.error e) := by
  cases w with
  | done v => exact .inl ⟨v, rfl, h⟩
  | failed e => exact .inr ⟨e, h, rfl⟩
  | call resolver request next =>
      obtain ⟨attempt, store, hS, h⟩ := h
      rcases of_ends_bind (next _) h with ⟨v, hv, hk⟩ | ⟨e, he, hfail⟩
      · exact .inl ⟨v, ⟨attempt, store, hS, hv⟩, hk⟩
      · exact .inr ⟨e, he, attempt, store, hS, hfail⟩
  | waiting pauses answer next =>
      obtain ⟨store, hS, h⟩ := h
      rcases of_ends_bind (next _) h with ⟨v, hv, hk⟩ | ⟨e, he, hfail⟩
      · exact .inl ⟨v, ⟨store, hS, hv⟩, hk⟩
      · exact .inr ⟨e, he, store, hS, hfail⟩
  | join parts next => exact EndsAfter.bind h fun vs => of_ends_bind (next vs)
  | crowd number parts next => exact EndsAfter.bind h fun vs => of_ends_bind (next vs)

/-! ## Going on -/

/-- Whatever the work can end with, the other work can. -/
def Refines (S : NodeStore → Prop) (w w₀ : Work) : Prop := ∀ r, Ends S w r → Ends S w₀ r

theorem Refines.refl (w : Work) : Refines S w w := fun _ h => h

theorem Refines.trans {w₁ w₂ w₃ : Work} (h₁ : Refines S w₁ w₂) (h₂ : Refines S w₂ w₃) :
    Refines S w₁ w₃ := fun r h => h₂ r (h₁ r h)

theorem AllEnd.of_refines {parts parts' : List Work} (h : List.Forall₂ (Refines S) parts' parts)
    {vs : List Json} (hvs : AllEnd S parts' vs) : AllEnd S parts vs := by
  induction h generalizing vs with
  | nil => exact hvs
  | cons hhead _ ih =>
      obtain ⟨v, more, rfl, hv, hmore⟩ := hvs
      exact ⟨v, more, rfl, hhead _ hv, ih hmore⟩

theorem AnyFails.of_refines {parts parts' : List Work} (h : List.Forall₂ (Refines S) parts' parts)
    {e : SnapshotError} (he : AnyFails S parts' e) : AnyFails S parts e := by
  induction h with
  | nil => exact he
  | cons hhead _ ih => exact he.imp (hhead _) ih

/-- Work goes on with its parts as it could before these were polled. -/
theorem EndsAfter.of_refines {parts parts' : List Work}
    (h : List.Forall₂ (Refines S) parts' parts) {next : List Json → Work}
    {r : Except SnapshotError Json} (hends : EndsAfter S parts' next r) :
    EndsAfter S parts next r := by
  rcases hends with ⟨vs, hvs, hnext⟩ | ⟨e, he, hfail⟩
  · exact .inl ⟨vs, .of_refines h hvs, hnext⟩
  · exact .inr ⟨e, he, .of_refines h hfail⟩

theorem eq_done_of_value? {w : Work} {v : Json} (h : w.value? = some v) : w = done v := by
  cases w <;> cases h
  rfl

theorem allEnd_map_done (vs : List Json) : AllEnd S (vs.map done) vs := by
  induction vs with
  | nil => rfl
  | cons v rest ih => exact ⟨v, rest, rfl, rfl, ih⟩

theorem allEnd_of_mapM_value? {parts : List Work} {vs : List Json}
    (h : parts.mapM value? = some vs) : AllEnd S parts vs := by
  rw [eq_map_of_mapM (fun _ _ => eq_done_of_value?) h]
  exact allEnd_map_done vs

theorem ends_of_outcome? {w : Work} {r : Except SnapshotError Json} (h : w.outcome? = some r) :
    Ends S w r := by
  cases w with
  | done v => exact (Option.some.inj h).symm
  | failed e => exact (Option.some.inj h).symm
  | _ => cases h

/-! ## Polling -/

/-- A way of polling that never adds to what work can end with. -/
def Poll.Faithful (S : NodeStore → Prop) (poll : Poll) : Prop :=
  ∀ waker w s, Refines S (poll waker w s).2 w

/-- Parts of a crowd that were polled can end only as they could before. -/
theorem refines_of_progress {poll : Poll} (hpoll : poll.Faithful S) {s s' : PollState}
    {parts parts' : List Work} (h : (crowdRule poll).Progress s parts s' parts') :
    List.Forall₂ (Refines S) parts' parts := by
  induction h with
  | refl => exact List.forall₂_same.mpr fun w _ => Refines.refl w
  | agenda _ _ ih => exact ih
  | poll waker _ hpart ih =>
      exact forall₂_set ih (fun _ _ h => h) hpart fun _ hw => (hpoll _ _ _).trans hw

/-- What a crowd ends with, its parts could end with before they were polled. -/
theorem ends_of_pollCrowd {poll : Poll} (hpoll : poll.Faithful S) (number : Nat) (waker : Waker)
    (s : PollState) (parts : List Work) :
    List.Forall₂ (Refines S) ((crowdRule poll).pollCrowd number waker s parts).2.1 parts ∧
      ∀ result, ((crowdRule poll).pollCrowd number waker s parts).2.2 = some result →
        match result with
        | .ok vs => AllEnd S parts vs
        | .error e => AnyFails S parts e := by
  obtain ⟨hprogress, hresult⟩ := (crowdRule poll).pollCrowd_progress number waker s parts
  have hparts := refines_of_progress hpoll hprogress
  refine ⟨hparts, fun result h => ?_⟩
  have hgather := hresult result h
  cases result with
  | ok vs =>
      apply AllEnd.of_refines hparts
      rw [allEnd_iff]
      exact (forall₂_of_gather_ok hgather).imp fun _ _ => ends_of_outcome?
  | error e =>
      apply AnyFails.of_refines hparts
      rw [anyFails_iff]
      obtain ⟨w, hmem, hw⟩ := exists_of_gather_error hgather
      exact ⟨w, hmem, ends_of_outcome? hw⟩

mutual

theorem pollWith_refines {store : NodeStore} (hS : S store) {inner : Option Poll}
    (hinner : ∀ poll ∈ inner, poll.Faithful S) (waker : Waker) (w : Work) (s : PollState) :
    Refines S (pollWith store inner waker w s).2 w := by
  cases w with
  | done v => exact .refl _
  | failed e => exact .refl _
  | call resolver request next =>
      rw [pollWith.eq_def]
      dsimp only
      split
      · -- A resolver that does not pause answers from the store at hand.
        intro r h
        exact ⟨_, store, hS, pollWith_refines hS hinner waker _ _ r h⟩
      · -- One that pauses answers from the store there is by then.
        rintro r ⟨store', hS', h⟩
        exact ⟨_, store', hS', h⟩
  | waiting pauses answer next =>
      cases pauses with
      | zero =>
          intro r h
          exact ⟨store, hS, pollWith_refines hS hinner waker (next (answer store)) _ r h⟩
      | succ n => exact fun r h => h
  | join parts next =>
      have hall := pollAll_refines hS hinner waker parts s
      rw [pollWith.eq_def]
      dsimp only
      split
      · -- Many parts become a crowd, with a queue of its own.
        rename_i poll _
        obtain ⟨hparts, hresult⟩ := ends_of_pollCrowd (hinner poll rfl)
          (s.agenda.newQueue parts.length).2 waker
          { s with agenda := (s.agenda.newQueue parts.length).1 } parts
        split
        · rename_i vs heq
          intro r h
          exact .inl ⟨vs, hresult _ (by rw [heq]), pollWith_refines hS hinner waker (next vs) _ r h⟩
        · rename_i e heq
          rintro r rfl
          exact .inr ⟨e, rfl, hresult _ (by rw [heq])⟩
        · rename_i parts' heq
          rw [heq] at hparts
          exact fun r => EndsAfter.of_refines hparts
      · -- Few are polled in turn.
        rcases heq : pollAll store _ waker parts s with ⟨s', e | parts'⟩
        · rw [heq] at hall
          rintro r rfl
          exact .inr ⟨e, rfl, hall⟩
        · rw [heq] at hall
          dsimp only
          split
          · rename_i vs hvs
            intro r h
            exact .inl ⟨vs, .of_refines hall (allEnd_of_mapM_value? hvs),
              pollWith_refines hS hinner waker (next vs) _ r h⟩
          · exact fun r => EndsAfter.of_refines hall
  | crowd number parts next =>
      rw [pollWith.eq_def]
      dsimp only
      split
      · rename_i poll
        obtain ⟨hparts, hresult⟩ := ends_of_pollCrowd (hinner poll rfl) number waker s parts
        split
        · rename_i vs heq
          intro r h
          exact .inl ⟨vs, hresult _ (by rw [heq]), pollWith_refines hS hinner waker (next vs) _ r h⟩
        · rename_i e heq
          rintro r rfl
          exact .inr ⟨e, rfl, hresult _ (by rw [heq])⟩
        · rename_i parts' heq
          rw [heq] at hparts
          exact fun r => EndsAfter.of_refines hparts
      · exact .refl _

theorem pollAll_refines {store : NodeStore} (hS : S store) {inner : Option Poll}
    (hinner : ∀ poll ∈ inner, poll.Faithful S) (waker : Waker) (parts : List Work)
    (s : PollState) :
    match (pollAll store inner waker parts s).2 with
    | .ok parts' => List.Forall₂ (Refines S) parts' parts
    | .error e => AnyFails S parts e := by
  cases parts with
  | nil => exact .nil
  | cons w rest =>
      have hw := pollWith_refines hS hinner waker w s
      rw [pollAll.eq_def]
      dsimp only
      rcases hpoll : pollWith store inner waker w s with ⟨s', w'⟩
      rw [hpoll] at hw
      have hrest := pollAll_refines hS hinner waker rest s'
      rcases hpollAll : pollAll store inner waker rest s' with ⟨s'', e | rest'⟩ <;>
        rw [hpollAll] at hrest
      · cases w' with
        | failed e => exact .inl (hw _ rfl)
        | _ => simp only [hpollAll]; exact .inr hrest
      · cases w' with
        | failed e => exact .inl (hw _ rfl)
        | _ => simp only [hpollAll]; exact .cons hw hrest

end

/-- **Polling adds nothing.** What is left of work after a poll can end only as the work could. -/
theorem poll_refines {store : NodeStore} (hS : S store) (waker : Waker) (w : Work)
    (s : PollState) : Refines S (poll store waker w s).2 w := by
  -- The way in which crowds are polled is faithful one level further down.
  have hdown : ∀ depth, (pollDown store depth).Faithful S := by
    intro depth
    induction depth with
    | zero =>
        intro waker w s
        exact pollWith_refines hS (fun _ h => by cases h) waker w s
    | succ depth ih =>
        intro waker w s
        refine pollWith_refines hS ?_ waker w s
        rintro poll ⟨⟩
        exact ih
  exact hdown maxDepth waker w s

end Work

end ContentQuery
