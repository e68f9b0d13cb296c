import ContentQuery.Proofs.Snapshot.Outcomes
import Mathlib.Algebra.GroupWithZero.Nat

/-!
# How often resolvers are called

Where resolvers are pure, what they answer depends neither on when they are called nor on how often.
Then work comes to one value, or it fails, whichever way it is polled (`Work.yields`), and on the way to
its value it makes certain calls, so many times each (`Work.times`).

Each call is made once. What is in the journal and what is left to be called add up to the same number
before and after a poll, as long as the work does not fail; if it does, they never add up to more
(`Work.Spends`).
-/

namespace ContentQuery

/-- When one element is replaced, a sum changes by what that adds. -/
theorem sum_map_set {α : Type} (f : α → Nat) {as : List α} {i : Nat} {a : α} (hi : as[i]? = some a)
    (b : α) : ((as.set i b).map f).sum + f a = (as.map f).sum + f b := by
  induction as generalizing i with
  | nil => cases hi
  | cons first rest ih =>
      cases i with
      | zero =>
          obtain rfl := Option.some.inj hi
          rw [List.set_cons_zero, List.map_cons, List.map_cons, List.sum_cons, List.sum_cons]
          omega
      | succ i =>
          have hrest := ih hi
          rw [List.set_cons_succ, List.map_cons, List.map_cons, List.sum_cons, List.sum_cons]
          omega

/-- The call of a resolver that a request makes. -/
def ResolveRequest.call (request : ResolveRequest) : ResolverCall where
  parentType := request.parentType
  fieldName := request.fieldName
  sourceId := (request.source.get? "id").bind Json.string?

/-- Apart from pausing, the answers depend on the request alone: not on how often it was made, nor on
which of the stores is at hand. -/
def Resolver.PureOver (S : NodeStore → Prop) (resolver : Resolver) : Prop :=
  ∀ attempt attempt' request store store', S store → S store' →
    (resolver.reply attempt request).answer store = (resolver.reply attempt' request).answer store'

namespace Work

variable (S : NodeStore → Prop) (store : NodeStore)

/-! ## Values and calls -/

mutual

/-- The value of the work when resolvers answer from the store, or none if it fails. -/
def yields : Work → Option Json
  | done v => some v
  | failed _ => none
  | call resolver request next => yields (next ((resolver.reply 1 request).answer store))
  | waiting _ answer next => yields (next (answer store))
  | join parts next | crowd _ parts next =>
    match yieldAll parts with
    | some vs => yields (next vs)
    | none => none

/-- The values of all parts. -/
def yieldAll : List Work → Option (List Json)
  | [] => some []
  | w :: rest =>
    match yields w, yieldAll rest with
    | some v, some vs => some (v :: vs)
    | _, _ => none

end

mutual

/-- How often the work makes a call when resolvers answer from the store. All parts are completed, and
what goes on with their values counts if they have values. -/
def times (call : ResolverCall) : Work → Nat
  | done _ | failed _ => 0
  | .call resolver request next =>
    (if request.call = call then 1 else 0) +
      times call (next ((resolver.reply 1 request).answer store))
  | waiting _ answer next => times call (next (answer store))
  | join parts next | crowd _ parts next =>
    timesAll call parts + match yieldAll store parts with
      | some vs => times call (next vs)
      | none => 0

def timesAll (call : ResolverCall) : List Work → Nat
  | [] => 0
  | w :: rest => times call w + timesAll call rest

end

mutual

/-- All resolvers that the work may call are pure. -/
def Pure : Work → Prop
  | done _ | failed _ => True
  | call resolver _ next => resolver.PureOver S ∧ ∀ answer, Pure (next answer)
  | waiting _ answer next =>
    (∀ store store', S store → S store' → answer store = answer store') ∧
      ∀ answer, Pure (next answer)
  | join parts next | crowd _ parts next => AllPure parts ∧ ∀ vs, Pure (next vs)

def AllPure : List Work → Prop
  | [] => True
  | w :: rest => Pure w ∧ AllPure rest

end

variable {S store}

theorem allPure_iff {parts : List Work} : AllPure S parts ↔ ∀ w ∈ parts, w.Pure S := by
  induction parts with
  | nil => simp [AllPure]
  | cons w rest ih => rw [AllPure, ih, List.forall_mem_cons]

theorem Pure.bind (w : Work) {k : Json → Work} (hw : w.Pure S) (hk : ∀ v, (k v).Pure S) :
    (w.bind k).Pure S := by
  cases w with
  | done v => exact hk v
  | failed e => trivial
  | call resolver request next => exact ⟨hw.1, fun answer => Pure.bind (next answer) (hw.2 answer) hk⟩
  | waiting pauses answer next => exact ⟨hw.1, fun a => Pure.bind (next a) (hw.2 a) hk⟩
  | join parts next => exact ⟨hw.1, fun vs => Pure.bind (next vs) (hw.2 vs) hk⟩
  | crowd number parts next => exact ⟨hw.1, fun vs => Pure.bind (next vs) (hw.2 vs) hk⟩

theorem yields_of_yieldAll {parts : List Work} (h : (yieldAll store parts).isSome) {w : Work}
    (hw : w ∈ parts) : (w.yields store).isSome := by
  induction parts with
  | nil => cases hw
  | cons first rest ih =>
      rw [yieldAll] at h
      split at h
      · rename_i v vs hfirst hrest
        rcases List.mem_cons.mp hw with rfl | hw
        · rw [hfirst]
          rfl
        · exact ih (by rw [hrest]; rfl) hw
      · cases h

/-- Parts of which one has failed have no values. -/
theorem yieldAll_of_failed {parts : List Work} {e : SnapshotError} (h : .failed e ∈ parts) :
    yieldAll store parts = none := by
  by_contra hne
  have hsome : (failed e).yields store |>.isSome :=
    yields_of_yieldAll (Option.isSome_iff_ne_none.mpr hne) h
  cases hsome

theorem yieldAll_map_done (vs : List Json) : yieldAll store (vs.map done) = some vs := by
  induction vs with
  | nil => rfl
  | cons v rest ih => rw [List.map_cons, yieldAll, ih, yields]

theorem timesAll_map_done (call : ResolverCall) (vs : List Json) :
    timesAll store call (vs.map done) = 0 := by
  induction vs with
  | nil => rfl
  | cons v rest ih => rw [List.map_cons, timesAll, ih, times]

theorem eq_done_of_outcome? {w : Work} {v : Json} (h : w.outcome? = some (.ok v)) : w = done v := by
  cases w <;> cases h
  rfl

theorem failed_mem_of_gather_error {parts : List Work} {e : SnapshotError}
    (h : gather (parts.map outcome?) = some (.error e)) : .failed e ∈ parts := by
  obtain ⟨w, hmem, hw⟩ := exists_of_gather_error h
  cases w <;> cases hw
  exact hmem

/-! ## What a poll spends -/

variable (S store)

/-- Work goes on, and so does the journal: the calls made and those to come add up to what they did
before, if the work does not fail. -/
structure Spends (j : Journal) (w : Work) (j' : Journal) (w' : Work) : Prop where
  pure : w'.Pure S
  yields : w'.yields store = w.yields store
  grows : ∀ call, j.count call ≤ j'.count call
  bound : ∀ call, j'.count call + w'.times store call ≤ j.count call + w.times store call
  exact : (w.yields store).isSome →
    ∀ call, j'.count call + w'.times store call = j.count call + w.times store call

structure SpendsAll (j : Journal) (parts : List Work) (j' : Journal) (parts' : List Work) :
    Prop where
  pure : AllPure S parts'
  yields : yieldAll store parts' = yieldAll store parts
  grows : ∀ call, j.count call ≤ j'.count call
  bound : ∀ call, j'.count call + timesAll store call parts' ≤
    j.count call + timesAll store call parts
  exact : (yieldAll store parts).isSome →
    ∀ call, j'.count call + timesAll store call parts' = j.count call + timesAll store call parts

variable {S store} {j j' j'' : Journal} {w w' w'' : Work} {parts parts' : List Work}

/-- Nothing is called, and as much is left to be called. -/
theorem Spends.of_times (hw : w'.Pure S) (hyields : w'.yields store = w.yields store)
    (htimes : ∀ call, w'.times store call = w.times store call) : Spends S store j w j w' where
  pure := hw
  yields := hyields
  grows _ := Nat.le_refl _
  bound call := Nat.le_of_eq (congrArg _ (htimes call))
  exact _ call := congrArg _ (htimes call)

theorem Spends.refl (hw : w.Pure S) : Spends S store j w j w :=
  .of_times hw rfl fun _ => rfl

theorem Spends.trans (h : Spends S store j w j' w') (h' : Spends S store j' w' j'' w'') :
    Spends S store j w j'' w'' where
  pure := h'.pure
  yields := h'.yields.trans h.yields
  grows call := Nat.le_trans (h.grows call) (h'.grows call)
  bound call := Nat.le_trans (h'.bound call) (h.bound call)
  exact hsome call := (h'.exact (h.yields ▸ hsome) call).trans (h.exact hsome call)

theorem SpendsAll.refl (hparts : AllPure S parts) : SpendsAll S store j parts j parts :=
  ⟨hparts, rfl, fun _ => Nat.le_refl _, fun _ => Nat.le_refl _, fun _ _ => rfl⟩

/-- When one part is replaced by what it comes to, so are the values and the calls. -/
theorem yieldAll_set {i : Nat} (hi : parts[i]? = some w) (hw : w'.yields store = w.yields store) :
    yieldAll store (parts.set i w') = yieldAll store parts := by
  induction parts generalizing i with
  | nil => cases hi
  | cons first rest ih =>
      cases i with
      | zero =>
          obtain rfl := Option.some.inj hi
          rw [List.set_cons_zero, yieldAll, yieldAll, hw]
      | succ i => rw [List.set_cons_succ, yieldAll, yieldAll, ih hi]

theorem timesAll_eq_sum (call : ResolverCall) (parts : List Work) :
    timesAll store call parts = (parts.map (times store call)).sum := by
  induction parts with
  | nil => rfl
  | cons w rest ih => rw [timesAll, ih, List.map_cons, List.sum_cons]

theorem timesAll_set (store : NodeStore) (w' : Work) (call : ResolverCall) {i : Nat}
    (hi : parts[i]? = some w) :
    timesAll store call (parts.set i w') + w.times store call =
      timesAll store call parts + w'.times store call := by
  rw [timesAll_eq_sum, timesAll_eq_sum]
  exact sum_map_set (times store call) hi w'

/-- One more part goes on. -/
theorem SpendsAll.set {j₀ : Journal} {parts₀ : List Work}
    (h : SpendsAll S store j₀ parts₀ j parts) {i : Nat} (hi : parts[i]? = some w)
    (hw : Spends S store j w j' w') : SpendsAll S store j₀ parts₀ j' (parts.set i w') where
  pure := by
    rw [allPure_iff]
    intro other hother
    rcases List.mem_or_eq_of_mem_set hother with hother | rfl
    · exact allPure_iff.mp h.pure other hother
    · exact hw.pure
  yields := (yieldAll_set hi hw.yields).trans h.yields
  grows call := Nat.le_trans (h.grows call) (hw.grows call)
  bound call := by
    have hset := timesAll_set store w' call hi
    have hbefore := h.bound call
    have hnow := hw.bound call
    omega
  exact hsome call := by
    have hparts : (yieldAll store parts).isSome := h.yields ▸ hsome
    have hset := timesAll_set store w' call hi
    have hbefore := h.exact hsome call
    have hnow := hw.exact (yields_of_yieldAll hparts (List.mem_of_getElem? hi)) call
    omega

/-- The first part goes on, and then the rest. -/
theorem SpendsAll.cons {rest rest' : List Work} (hw : Spends S store j w j' w')
    (hrest : SpendsAll S store j' rest j'' rest') :
    SpendsAll S store j (w :: rest) j'' (w' :: rest') where
  pure := ⟨hw.pure, hrest.pure⟩
  yields := by rw [yieldAll, yieldAll, hw.yields, hrest.yields]
  grows call := Nat.le_trans (hw.grows call) (hrest.grows call)
  bound call := by
    have hfirst := hw.bound call
    have hmore := hrest.bound call
    rw [timesAll, timesAll]
    omega
  exact hsome call := by
    have hparts := fun w => yields_of_yieldAll (w := w) hsome
    have hmore : (yieldAll store rest).isSome := by
      rw [yieldAll] at hsome
      split at hsome
      · rename_i heq
        rw [heq]
        rfl
      · cases hsome
    have hfirst := hw.exact (hparts w List.mem_cons_self) call
    have hmore := hrest.exact hmore call
    rw [timesAll, timesAll]
    omega

/-- The first part goes on, and one of the rest fails. -/
theorem spends_cons_failed {rest : List Work} (hw : Spends S store j w j' w')
    (hrest : yieldAll store rest = none) (hgrows : ∀ call, j'.count call ≤ j''.count call)
    (hbound : ∀ call, j''.count call ≤ j'.count call + timesAll store call rest) :
    yieldAll store (w :: rest) = none ∧ (∀ call, j.count call ≤ j''.count call) ∧
      ∀ call, j''.count call ≤ j.count call + timesAll store call (w :: rest) := by
  refine ⟨?_, fun call => Nat.le_trans (hw.grows call) (hgrows call), fun call => ?_⟩
  · rw [yieldAll, hrest]
    cases w.yields store <;> rfl
  · have hfirst := hw.bound call
    have hmore := hbound call
    rw [timesAll]
    omega

variable {next : List Json → Work}

/-- Work waits for its parts, some of which went on. -/
theorem SpendsAll.join (h : SpendsAll S store j parts j' parts') (hnext : ∀ vs, (next vs).Pure S) :
    Spends S store j (.join parts next) j' (.join parts' next) where
  pure := ⟨h.pure, hnext⟩
  yields := by rw [Work.yields, Work.yields, h.yields]
  grows := h.grows
  bound call := by
    have hparts := h.bound call
    rw [times, times, h.yields]
    omega
  exact hsome call := by
    have hparts : (yieldAll store parts).isSome := by
      rw [Work.yields] at hsome
      split at hsome
      · rename_i vs heq
        rw [heq]
        rfl
      · cases hsome
    have hexact := h.exact hparts call
    rw [times, times, h.yields]
    omega

/-- Work goes on with the values of its parts, all of which are done. -/
theorem SpendsAll.join_done {vs : List Json} (h : SpendsAll S store j parts j' (vs.map done))
    (hnext : ∀ vs, (next vs).Pure S) : Spends S store j (.join parts next) j' (next vs) := by
  have hparts : yieldAll store parts = some vs := by rw [← h.yields, yieldAll_map_done]
  refine ⟨hnext vs, by rw [Work.yields, hparts], h.grows, fun call => ?_, fun _ call => ?_⟩
  · have hbound := h.bound call
    rw [timesAll_map_done] at hbound
    rw [times, hparts]
    dsimp only
    omega
  · have hexact := h.exact (by rw [hparts]; rfl) call
    rw [timesAll_map_done] at hexact
    rw [times, hparts]
    dsimp only
    omega

/-- Work fails together with one of its parts. -/
theorem spends_failed (hparts : yieldAll store parts = none)
    (hgrows : ∀ call, j.count call ≤ j'.count call)
    (hbound : ∀ call, j'.count call ≤ j.count call + timesAll store call parts)
    (e : SnapshotError) : Spends S store j (.join parts next) j' (.failed e) where
  pure := trivial
  yields := by rw [Work.yields, Work.yields, hparts]
  grows := hgrows
  bound call := by
    have hcall := hbound call
    rw [times, times]
    omega
  exact hsome := by
    rw [Work.yields, hparts] at hsome
    cases hsome

theorem yields_crowd (number : Nat) (parts : List Work) (next : List Json → Work) :
    (crowd number parts next).yields store = (join parts next).yields store := by
  rw [Work.yields, Work.yields]

theorem times_crowd (call : ResolverCall) (number : Nat) (parts : List Work)
    (next : List Json → Work) :
    (crowd number parts next).times store call = (join parts next).times store call := by
  rw [times, times]

/-- It is the same whether the parts were a crowd before. -/
theorem Spends.of_crowd (h : Spends S store j (.join parts next) j' w) (number : Nat) :
    Spends S store j (.crowd number parts next) j' w := by
  refine ⟨h.pure, ?_, h.grows, fun call => ?_, fun hsome call => ?_⟩
  · rw [h.yields, yields_crowd]
  · rw [times_crowd]
    exact h.bound call
  · rw [yields_crowd] at hsome
    rw [times_crowd]
    exact h.exact hsome call

theorem Spends.to_crowd (h : Spends S store j w j' (.join parts next)) (number : Nat) :
    Spends S store j w j' (.crowd number parts next) := by
  refine ⟨h.pure, ?_, h.grows, fun call => ?_, fun hsome call => ?_⟩
  · rw [yields_crowd, h.yields]
  · rw [times_crowd]
    exact h.bound call
  · rw [times_crowd]
    exact h.exact hsome call

end Work

end ContentQuery
