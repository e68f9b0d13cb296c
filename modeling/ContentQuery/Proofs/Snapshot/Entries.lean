import ContentQuery.Proofs.Snapshot.Tasks
import Mathlib.Data.List.Nodup
import Mathlib.Logic.Relation

/-!
# Entries and their promises

Both caches work alike. An entry leads from a key to a promise; the promise goes on whenever one of
those who wait for it is polled; and if it fails, whoever polled it drops the entry of its key while
that still leads to this promise.

Two things follow. No entry ever leads to a promise that has failed, since the entry goes in the poll in
which the promise fails (`Cache.Sound.advance`). And no other entry goes, not even one of the same key:
whatever polls do to a cache comes down to turns, each of which drops at most the entry of a promise
that has failed (`Cache.turns_advance`, `Cache.Turns.evolves`).
-/

namespace ContentQuery

theorem SharedPromise.set_self {σ α : Type} {promises : Array (SharedPromise σ α)} {promise : Nat}
    {p : SharedPromise σ α} (h : promises[promise]? = some p) :
    promises.setIfInBounds promise p = promises := by
  apply Array.ext_getElem?
  intro i
  rw [Array.getElem?_setIfInBounds]
  split
  · rename_i heq
    subst heq
    rw [if_pos (Array.getElem?_eq_some_iff.mp h).1, h]
  · rfl

/-- Entries with the promises that they lead to. -/
structure Cache (κ σ α : Type) where
  entries : List (κ × Nat)
  promises : Array (SharedPromise σ α)

namespace Cache

variable {κ σ α : Type}

/-- A promise has come to this result. -/
def KeptAt (c : Cache κ σ α) (promise : Nat) (result : Except SnapshotError α) : Prop :=
  ∃ bell, c.promises[promise]? = some ⟨bell, .kept result⟩

def FailedAt (c : Cache κ σ α) (promise : Nat) : Prop := ∃ e, c.KeptAt promise (.error e)

theorem KeptAt.unique {c : Cache κ σ α} {promise : Nat} {result result' : Except SnapshotError α}
    (h : c.KeptAt promise result) (h' : c.KeptAt promise result') : result = result' := by
  obtain ⟨bell, h⟩ := h
  obtain ⟨bell', h'⟩ := h'
  exact Promise.kept.inj (SharedPromise.mk.inj (Option.some.inj (h.symm.trans h'))).2

theorem KeptAt.not_failed {c : Cache κ σ α} {promise : Nat} {a : α}
    (h : c.KeptAt promise (.ok a)) : ¬c.FailedAt promise := by
  rintro ⟨e, hfailed⟩
  cases h.unique hfailed

/-- Every entry leads to a promise that was made for its key and has not failed. `keys` says for each
promise which key it was made for. -/
structure Sound (c : Cache κ σ α) (keys : List κ) : Prop where
  length : keys.length = c.promises.size
  made : ∀ key promise, (key, promise) ∈ c.entries → keys[promise]? = some key
  alive : ∀ key promise, (key, promise) ∈ c.entries → ¬c.FailedAt promise
  distinct : (c.entries.map Prod.fst).Nodup

/-- What becomes of a cache that is not invalidated: a promise that is kept stays so, and an entry
goes only if its promise has failed. Whatever promise is made gets an entry as well. -/
structure Evolves (c c' : Cache κ σ α) : Prop where
  size : c.promises.size ≤ c'.promises.size
  lasts : ∀ promise result, c.KeptAt promise result → c'.KeptAt promise result
  stays : ∀ key promise, (key, promise) ∈ c.entries →
    (key, promise) ∈ c'.entries ∨ c'.FailedAt promise
  enters : ∀ promise, c.promises.size ≤ promise → promise < c'.promises.size →
    (∃ key, (key, promise) ∈ c'.entries) ∨ c'.FailedAt promise

theorem Evolves.refl (c : Cache κ σ α) : c.Evolves c where
  size := Nat.le_refl _
  lasts _ _ h := h
  stays _ _ h := .inl h
  enters _ hge hlt := absurd hlt (Nat.not_lt.mpr hge)

theorem Evolves.failed {c c' : Cache κ σ α} (h : c.Evolves c') {promise : Nat}
    (hfailed : c.FailedAt promise) : c'.FailedAt promise := by
  obtain ⟨e, hkept⟩ := hfailed
  exact ⟨e, h.lasts promise _ hkept⟩

theorem Evolves.trans {c₁ c₂ c₃ : Cache κ σ α} (h : c₁.Evolves c₂) (h' : c₂.Evolves c₃) :
    c₁.Evolves c₃ where
  size := Nat.le_trans h.size h'.size
  lasts promise result hkept := h'.lasts promise result (h.lasts promise result hkept)
  stays := by
    intro key promise hmem
    rcases h.stays key promise hmem with hmem | hfailed
    · exact h'.stays key promise hmem
    · exact .inr (h'.failed hfailed)
  enters := by
    intro promise hge hlt
    by_cases hsecond : c₂.promises.size ≤ promise
    · exact h'.enters promise hsecond hlt
    · -- The promise was made on the first leg, and its entry had the second to go.
      rcases h.enters promise hge (Nat.lt_of_not_le hsecond) with ⟨key, hmem⟩ | hfailed
      · rcases h'.stays key promise hmem with hmem | hfailed
        · exact .inl ⟨key, hmem⟩
        · exact .inr hfailed
      · exact .inr (h'.failed hfailed)

/-- Every entry leads to a promise that is under way or was kept well. -/
def Live (c : Cache κ σ α) : Prop :=
  ∀ entry ∈ c.entries, ∃ shared, c.promises[entry.2]? = some shared ∧
    ∀ e, shared.state ≠ .kept (.error e)

theorem Sound.live {c : Cache κ σ α} {keys : List κ} (h : c.Sound keys) : c.Live := by
  rintro ⟨key, promise⟩ hmem
  have hlt := (List.getElem?_eq_some_iff.mp (h.made key promise hmem)).1
  rw [h.length] at hlt
  refine ⟨c.promises[promise], Array.getElem?_eq_getElem hlt, fun e hfailed => ?_⟩
  refine h.alive key promise hmem ⟨e, c.promises[promise].bell, ?_⟩
  rw [Array.getElem?_eq_getElem hlt, ← hfailed]

/-- Every promise that has not failed is entered. -/
def Entered (c : Cache κ σ α) : Prop :=
  ∀ promise < c.promises.size, (∃ key, (key, promise) ∈ c.entries) ∨ c.FailedAt promise

theorem Evolves.entered {c c' : Cache κ σ α} (h : c.Evolves c') (hc : c.Entered) : c'.Entered := by
  intro promise hlt
  by_cases hnew : c.promises.size ≤ promise
  · exact h.enters promise hnew hlt
  · rcases hc promise (Nat.lt_of_not_le hnew) with ⟨key, hmem⟩ | hfailed
    · exact (h.stays key promise hmem).imp (fun hmem => ⟨key, hmem⟩) fun hfailed => hfailed
    · exact .inr (h.failed hfailed)

theorem sound_empty : Sound (⟨[], #[]⟩ : Cache κ σ α) [] where
  length := rfl
  made _ _ hmem := nomatch hmem
  alive _ _ hmem := nomatch hmem
  distinct := List.nodup_nil

/-- Dropping entries leaves the others sound. -/
theorem Sound.of_sublist {c : Cache κ σ α} {keys : List κ} (h : c.Sound keys) {entries : List (κ × Nat)}
    (hentries : List.Sublist entries c.entries) : Sound ⟨entries, c.promises⟩ keys where
  length := h.length
  made key promise hmem := h.made key promise (hentries.mem hmem)
  alive key promise hmem := h.alive key promise (hentries.mem hmem)
  distinct := (hentries.map Prod.fst).nodup h.distinct

/-! ## Turns -/

variable {c : Cache κ σ α}

/-- A promise is in a state. -/
def set (c : Cache κ σ α) (promise bell : Nat) (state : Promise σ α) : Cache κ σ α :=
  { c with promises := c.promises.setIfInBounds promise ⟨bell, state⟩ }

/-- A promise is made for a key. -/
def add (c : Cache κ σ α) (key : κ) (bell : Nat) (state : σ) : Cache κ σ α where
  entries := c.entries ++ [(key, c.promises.size)]
  promises := c.promises.push ⟨bell, .pending state⟩

/-- The entry of a key is dropped while it leads to the promise. -/
def evict [BEq κ] (c : Cache κ σ α) (key : κ) (promise : Nat) : Cache κ σ α :=
  { c with entries := Materializer.dropEntry key promise c.entries }

/-- A promise that went on is in its new state, and the others are where they were. -/
theorem getElem?_set {promise bell : Nat} {before after : Promise σ α}
    (hbefore : c.promises[promise]? = some ⟨bell, before⟩) (other : Nat) :
    (c.set promise bell after).promises[other]? =
      if other = promise then some ⟨bell, after⟩ else c.promises[other]? := by
  have hlt : promise < c.promises.size := (Array.getElem?_eq_some_iff.mp hbefore).1
  unfold set
  dsimp only
  split
  · rename_i heq
    subst heq
    exact Array.getElem?_setIfInBounds_self_of_lt hlt
  · rename_i hne
    exact Array.getElem?_setIfInBounds_ne (Ne.symm hne)

theorem keptAt_set_iff {promise bell : Nat} {before after : Promise σ α}
    (hbefore : c.promises[promise]? = some ⟨bell, before⟩) {other : Nat}
    {result : Except SnapshotError α} :
    (c.set promise bell after).KeptAt other result ↔
      if other = promise then after = .kept result else c.KeptAt other result := by
  rw [KeptAt, getElem?_set hbefore]
  split
  · simp
  · rfl

/-- A new promise is pending, so it is none of those that are kept. -/
theorem keptAt_add_iff {key : κ} {bell : Nat} {state : σ} {other : Nat}
    {result : Except SnapshotError α} :
    (c.add key bell state).KeptAt other result ↔ c.KeptAt other result := by
  constructor
  · rintro ⟨bell', hresult⟩
    rcases SharedPromise.eq_or_of_push hresult with heq | hresult
    · cases heq
    · exact ⟨bell', hresult⟩
  · rintro ⟨bell', hresult⟩
    exact ⟨bell', SharedPromise.getElem?_push_of_some hresult⟩

variable [DecidableEq κ]

theorem mem_evict {key : κ} {promise : Nat} {entry : κ × Nat} :
    entry ∈ (c.evict key promise).entries ↔ entry ∈ c.entries ∧ entry ≠ (key, promise) := by
  rw [evict, Materializer.dropEntry, List.mem_filter]
  obtain ⟨key', promise'⟩ := entry
  simp [imp_iff_not_or]

/-- What polls do to a cache, one thing at a time. Only a promise that has failed costs an entry, and
then the entry that leads to it. -/
inductive Turn (c : Cache κ σ α) : Cache κ σ α → Prop
  | made (key : κ) (bell : Nat) (state : σ) :
      c.entries.lookup key = none → Turn c (c.add key bell state)
  | goesOn {promise bell : Nat} {state : σ} (after : Promise σ α) :
      c.promises[promise]? = some ⟨bell, .pending state⟩ → Turn c (c.set promise bell after)
  | evicts (key : κ) {promise : Nat} : c.FailedAt promise → Turn c (c.evict key promise)

def Turns : Cache κ σ α → Cache κ σ α → Prop := Relation.ReflTransGen Turn

theorem Turn.evolves {c' : Cache κ σ α} (h : c.Turn c') : c.Evolves c' := by
  cases h with
  | made key bell state _ =>
      refine ⟨by simp [add], fun _ _ => keptAt_add_iff.mpr,
        fun _ _ hmem => .inl (List.mem_append_left _ hmem), ?_⟩
      intro other hge hlt
      have heq : other = c.promises.size := by
        rw [add, Array.size_push] at hlt
        omega
      exact .inl ⟨key, by simp [add, heq]⟩
  | @goesOn promise bell state after hbefore =>
      have hsize : (c.set promise bell after).promises.size = c.promises.size :=
        Array.size_setIfInBounds
      refine ⟨Nat.le_of_eq hsize.symm, ?_, fun _ _ hmem => .inl hmem, ?_⟩
      · intro other result hkept
        rw [keptAt_set_iff hbefore, if_neg]
        · exact hkept
        · -- What is kept was not pending.
          rintro rfl
          obtain ⟨bell', hkept⟩ := hkept
          rw [hbefore] at hkept
          cases hkept
      · intro other hge hlt
        rw [hsize] at hlt
        exact absurd hlt (Nat.not_lt.mpr hge)
  | @evicts key promise hfailed =>
      refine ⟨Nat.le_refl _, fun _ _ hkept => hkept, ?_,
        fun _ hge hlt => absurd hlt (Nat.not_lt.mpr hge)⟩
      intro key' other hmem
      by_cases heq : (key', other) = (key, promise)
      · obtain ⟨rfl, rfl⟩ := Prod.mk.inj heq
        exact .inr hfailed
      · exact .inl (mem_evict.mpr ⟨hmem, heq⟩)

theorem Turns.evolves {c' : Cache κ σ α} (h : c.Turns c') : c.Evolves c' := by
  induction h with
  | refl => exact .refl c
  | tail _ hturn ih => exact ih.trans hturn.evolves

/-- What a cache may lose: by turns, only entries whose promises have failed. -/
structure LosesFailures (c c' : Cache κ σ α) : Prop where
  turns : c.Turns c'
  lost : ∀ entry ∈ c.entries, entry ∉ c'.entries → c'.FailedAt entry.2

theorem Turns.losesFailures {c' : Cache κ σ α} (h : c.Turns c') : c.LosesFailures c' where
  turns := h
  lost entry hmem hgone := (h.evolves.stays entry.1 entry.2 hmem).resolve_left hgone

/-! ## A promise goes on -/

/-- A promise goes on to a state. If it has failed there, the entry of its key is dropped. -/
def advance (c : Cache κ σ α) (key : κ) (promise bell : Nat) : Promise σ α → Cache κ σ α
  | .kept (.error e) => (c.set promise bell (.kept (.error e))).evict key promise
  | state => c.set promise bell state

variable {keys : List κ} {key : κ} {promise bell : Nat} {before after : Promise σ α}

theorem promises_advance (c : Cache κ σ α) (key : κ) (promise bell : Nat) (after : Promise σ α) :
    (c.advance key promise bell after).promises = (c.set promise bell after).promises := by
  unfold advance
  split <;> rfl

theorem size_advance (c : Cache κ σ α) (key : κ) (promise bell : Nat) (after : Promise σ α) :
    (c.advance key promise bell after).promises.size = c.promises.size := by
  rw [promises_advance, set, Array.size_setIfInBounds]

theorem sublist_advance (c : Cache κ σ α) (key : κ) (promise bell : Nat) (after : Promise σ α) :
    List.Sublist (c.advance key promise bell after).entries c.entries := by
  unfold advance
  split
  · exact List.filter_sublist
  · exact .refl _

theorem keptAt_advance_iff (hbefore : c.promises[promise]? = some ⟨bell, before⟩) {other : Nat}
    {result : Except SnapshotError α} :
    (c.advance key promise bell after).KeptAt other result ↔
      if other = promise then after = .kept result else c.KeptAt other result := by
  rw [← keptAt_set_iff hbefore, KeptAt, promises_advance, KeptAt]

/-- **One poll of a promise** drops no entry but the one that leads to it, and only if it fails. -/
theorem turns_advance (hbefore : c.promises[promise]? = some ⟨bell, before⟩)
    (hkept : ∀ result, before = .kept result → after = .kept result) :
    c.Turns (c.advance key promise bell after) := by
  have hset : c.Turns (c.set promise bell after) := by
    cases before with
    | pending state => exact .single (.goesOn after hbefore)
    | kept result =>
        obtain rfl := hkept result rfl
        rw [set, SharedPromise.set_self hbefore]
        exact .refl
  unfold advance
  split
  · rename_i e
    refine hset.tail (.evicts key ⟨e, ?_⟩)
    rw [keptAt_set_iff hbefore, if_pos rfl]
  · exact hset

/-- After a poll of a promise, still no entry leads to one that has failed. -/
theorem Sound.advance (h : c.Sound keys) (hbefore : c.promises[promise]? = some ⟨bell, before⟩)
    (hkey : keys[promise]? = some key) : (c.advance key promise bell after).Sound keys := by
  have hsub := sublist_advance c key promise bell after
  refine ⟨?_, fun key' other hmem => h.made key' other (hsub.mem hmem), ?_,
    (hsub.map Prod.fst).nodup h.distinct⟩
  · rw [size_advance, h.length]
  · rintro key' other hmem ⟨e, hfailed⟩
    rw [keptAt_advance_iff hbefore] at hfailed
    split at hfailed
    · -- An entry that leads to the promise is the one of its key, which is dropped.
      rename_i heq
      subst heq hfailed
      obtain ⟨hentry, hne⟩ := mem_evict.mp hmem
      have hkey' := (h.made key' other hentry).symm.trans hkey
      exact hne (by rw [Option.some.inj hkey'])
    · exact h.alive key' other (hsub.mem hmem) ⟨e, hfailed⟩

/-- A promise that is made for a key without an entry. -/
theorem Sound.add (h : c.Sound keys) (hkey : c.entries.lookup key = none) (bell : Nat) (state : σ) :
    (c.add key bell state).Sound (keys ++ [key]) := by
  refine ⟨by simp [Cache.add, h.length], ?_, ?_, ?_⟩
  · intro key' other hmem
    rcases List.mem_append.mp hmem with hmem | hmem
    · have hmade := h.made key' other hmem
      rw [List.getElem?_append_left (List.getElem?_eq_some_iff.mp hmade).1]
      exact hmade
    · obtain ⟨rfl, rfl⟩ := Prod.mk.inj (List.mem_singleton.mp hmem)
      rw [← h.length, List.getElem?_concat_length]
  · rintro key' other hmem ⟨e, hfailed⟩
    rw [keptAt_add_iff] at hfailed
    rcases List.mem_append.mp hmem with hmem | hmem
    · exact h.alive key' other hmem ⟨e, hfailed⟩
    · -- The new promise is pending, and the old ones end before it.
      obtain ⟨-, rfl⟩ := Prod.mk.inj (List.mem_singleton.mp hmem)
      obtain ⟨bell', hresult⟩ := hfailed
      exact absurd (Array.getElem?_eq_some_iff.mp hresult).1 (Nat.lt_irrefl _)
  · have hnew : key ∉ c.entries.map Prod.fst := by
      rw [List.lookup_eq_none_iff] at hkey
      rintro hmem
      obtain ⟨entry, hentry, rfl⟩ := List.mem_map.mp hmem
      simpa using hkey entry hentry
    rw [Cache.add, List.map_append]
    refine List.nodup_append.mpr ⟨h.distinct, List.nodup_singleton _, ?_⟩
    rintro a ha b hb rfl
    obtain rfl : a = key := List.mem_singleton.mp hb
    exact hnew ha

end Cache

end ContentQuery
