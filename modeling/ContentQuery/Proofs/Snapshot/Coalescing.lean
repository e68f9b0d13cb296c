import ContentQuery.Proofs.Snapshot.Alone
import ContentQuery.Proofs.Snapshot.View

/-!
# One resolution for each key

As long as nothing is dropped from the caches on purpose, requests that name one node share one
resolution, whoever polls it and whoever leaves it half done. In all, each call of a resolver is made as
often as it takes to complete the node once, and all requests are given the same snapshot
(**`Desk.coalesced`**).

There are two limits. A request may be served from the batch of another, and is then given the
snapshots of the other's nodes. And a resolution that failed is begun anew when its key is asked for
again (**`Desk.swapped_and_retried`**).
-/

namespace ContentQuery

namespace Desk

variable {T : Terms} {d : Desk}

theorem Event.Calm.quiet {event : Event} (h : event.Calm T) : event.Quiet := by
  cases event <;> trivial

/-! ## Every call is charged -/

/-- What was asked for at a desk. -/
def orders (d : Desk) : List Order := d.errands.map Errand.order

/-- All calls are charged to the resolutions of a desk, and so will be those of its requests. -/
structure Accounted (T : Terms) (d : Desk) : Prop where
  ledger : ∃ accounts, T.Ledger d.orders d.maker accounts
  store : T.stores d.store
  errands : ∀ errand ∈ d.errands, ∀ request, errand.state = .pending request → request.IsFor d.orders

theorem accounted_start (policy : CachePolicy) (hcaching : policy.nodes = true) :
    (start T.registry T.path policy T.store).Accounted T where
  ledger := by
    refine ⟨[], fun _ hmem => (nomatch hmem), rfl, rfl, hcaching, rfl, fun _ => rfl,
      fun ha => (nomatch ha), fun _ hmem => (nomatch hmem), fun _ _ hmem => (nomatch hmem),
      fun hpromise => ?_⟩
    simp [start] at hpromise
  store := T.mem
  errands _ hmem := nomatch hmem

theorem Accounted.request (h : d.Accounted T) {order : Order} (horder : T.Fair order) :
    (d.step (.request order)).Accounted T := by
  obtain ⟨⟨accounts, hledger⟩, hstore, herrands⟩ := h
  obtain ⟨hledger', hfor⟩ := hledger.request horder
  have horders : (d.step (.request order)).orders = d.orders ++ [order] := by
    rw [orders, Desk.step, List.map_append]
    rfl
  refine ⟨⟨accounts, horders ▸ hledger'⟩, hstore, fun errand hmem request hstate => ?_⟩
  rw [horders]
  rcases List.mem_append.mp hmem with hmem | hmem
  · exact (herrands errand hmem request hstate).append order
  · obtain rfl := List.mem_singleton.mp hmem
    obtain rfl := Promise.pending.inj hstate
    exact hfor

theorem Accounted.poll (h : d.Accounted T) (index : Nat) (waker : Waker) :
    (d.step (.poll index waker)).Accounted T := by
  obtain ⟨⟨accounts, hledger⟩, hstore, herrands⟩ := h
  rw [Desk.step]
  split
  · rename_i order request herrand
    obtain ⟨⟨accounts', hledger'⟩, hfor⟩ := hledger.poll hstore waker
      (herrands _ (List.mem_of_getElem? herrand) request rfl)
    -- The request that was polled is still for its order.
    have horders : ∀ state, (d.errands.set index ⟨order, state⟩).map Errand.order = d.orders := by
      intro state
      rw [List.map_set]
      refine List.ext_getElem? fun i => ?_
      rw [List.getElem?_set]
      split
      · rename_i heq
        subst heq
        have hlt := (List.getElem?_eq_some_iff.mp herrand).1
        rw [List.length_map, if_pos hlt, orders, List.getElem?_map, herrand]
        rfl
      · rfl
    refine ⟨⟨accounts', ?_⟩, hstore, fun errand hmem request' hstate => ?_⟩
    · rw [orders, horders]
      exact hledger'
    · rw [orders, horders]
      rcases List.mem_or_eq_of_mem_set hmem with hmem | rfl
      · exact herrands errand hmem request' hstate
      · exact hfor request' hstate
  · exact ⟨⟨accounts, hledger⟩, hstore, herrands⟩

/-- **Whatever happens at a desk**, short of dropping entries on purpose, is charged. -/
theorem Accounted.step (h : d.Accounted T) {event : Event} (hcalm : event.Calm T) :
    (d.step event).Accounted T := by
  cases event with
  | request order => exact h.request hcalm
  | poll index waker => exact h.poll index waker
  | invalidate id version => exact hcalm.elim
  | clear => exact hcalm.elim
  | store now => exact ⟨h.ledger, hcalm, h.errands⟩
  | finishBootstrap | agenda =>
      obtain ⟨⟨accounts, hledger⟩, hstore, herrands⟩ := h
      exact ⟨⟨accounts, hledger.of_eq rfl rfl rfl rfl rfl rfl rfl⟩, hstore, herrands⟩

/-- What is known of a desk at which nothing was dropped on purpose. -/
structure Kept (T : Terms) (policy : CachePolicy) (d : Desk) : Prop where
  tracked : ∃ keys orders, d.Tracked keys orders
  accounted : d.Accounted T
  entered : d.maker.nodeCache.Entered
  policy : d.maker.policy = policy

theorem Kept.step {policy : CachePolicy} (h : d.Kept T policy) {event : Event}
    (hcalm : event.Calm T) : (d.step event).Kept T policy := by
  obtain ⟨keys, orders, htracked⟩ := h.tracked
  obtain ⟨keys', orders', htracked', hgoes⟩ := htracked.step event
  have hgoes := hgoes hcalm.quiet
  exact ⟨⟨keys', orders', htracked'⟩, h.accounted.step hcalm,
    hgoes.nodes.evolves.entered h.entered, hgoes.policy.trans h.policy⟩

theorem Kept.run {policy : CachePolicy} (h : d.Kept T policy) {events : List Event}
    (hcalm : ∀ event ∈ events, event.Calm T) : (d.run events).Kept T policy := by
  induction events generalizing d with
  | nil => exact h
  | cons event rest ih =>
      obtain ⟨hfirst, hrest⟩ := List.forall_mem_cons.mp hcalm
      exact ih (h.step hfirst) hrest

theorem kept_run (policy : CachePolicy) (hcaching : policy.nodes = true) {events : List Event}
    (hcalm : ∀ event ∈ events, event.Calm T) :
    ((start T.registry T.path policy T.store).run events).Kept T policy := by
  refine Kept.run ⟨⟨[], [], tracked_start ..⟩, accounted_start policy hcaching, ?_, rfl⟩ hcalm
  exact fun _ hlt => absurd hlt (Nat.not_lt_zero _)

/-! ## One resolution at a time -/

/-- All other resolutions of the key of a promise have failed. -/
def OthersFailed (d : Desk) (accounts : List Account) (promise : Nat) (key : NodeKey) : Prop :=
  ∀ other b, accounts[other]? = some b → b.key = key → other ≠ promise →
    d.maker.nodeCache.FailedAt other

variable {accounts : List Account} {keys : List NodeKey} {made : List Order}

/-- A resolution that has not failed has the entry of its key. -/
theorem mem_entries_of_not_failed (hledger : T.Ledger d.orders d.maker accounts)
    (hentered : d.maker.nodeCache.Entered) {promise : Nat} {a : Account}
    (ha : accounts[promise]? = some a) (hfailed : ¬d.maker.nodeCache.FailedAt promise) :
    (a.key, promise) ∈ d.maker.nodeCache.entries := by
  have hlt : promise < d.maker.nodeCache.promises.size := by
    have hlength := (List.getElem?_eq_some_iff.mp ha).1
    rw [hledger.length] at hlength
    exact hlength
  obtain ⟨key, hmem⟩ := (hentered promise hlt).resolve_right hfailed
  obtain ⟨b, hb, rfl⟩ := hledger.entries key promise hmem
  obtain rfl := Option.some.inj (ha.symm.trans hb)
  exact hmem

theorem othersFailed (htracked : d.Tracked keys made) (hledger : T.Ledger d.orders d.maker accounts)
    (hentered : d.maker.nodeCache.Entered) {promise : Nat} {a : Account}
    (ha : accounts[promise]? = some a) (hfailed : ¬d.maker.nodeCache.FailedAt promise) :
    d.OthersFailed accounts promise a.key := by
  intro other b hb hkey hother
  by_contra hnot
  -- Both would have an entry, and there is only one for a key.
  have hmem := mem_entries_of_not_failed hledger hentered ha hfailed
  have hmem' := mem_entries_of_not_failed hledger hentered hb hnot
  have heq := List.inj_on_of_nodup_map htracked.tracks.nodes.distinct hmem' hmem hkey
  exact hother (Prod.mk.inj heq).2

/-- A snapshot that was given for a key came of a resolution of the key. -/
theorem exists_account (htracked : d.Tracked keys made) (hledger : T.Ledger d.orders d.maker accounts)
    (hentered : d.maker.nodeCache.Entered) {key : NodeKey} {snapshot : Node}
    (hgives : d.maker.nodeCache.Gives keys key snapshot) :
    ∃ promise a, accounts[promise]? = some a ∧ a.key = key ∧
      d.maker.nodeCache.KeptAt promise (.ok snapshot) := by
  obtain ⟨promise, hkey, hkept⟩ := hgives
  have hlt : promise < accounts.length := by
    have hlength := (List.getElem?_eq_some_iff.mp hkey).1
    rw [htracked.tracks.nodes.length] at hlength
    rw [hledger.length]
    exact hlength
  have ha : accounts[promise]? = some accounts[promise] := List.getElem?_eq_getElem hlt
  have hmem := mem_entries_of_not_failed hledger hentered ha hkept.not_failed
  have hmade := htracked.tracks.nodes.made _ _ hmem
  exact ⟨promise, _, ha, Option.some.inj (hmade.symm.trans hkey), hkept⟩

/-- What completing a node comes to is the same for its copies. -/
theorem value_of_alike {a b : Node} (h : a.Alike b) (fields : RequiredFields) :
    T.value a fields = T.value b fields := by
  simp only [Terms.value, Registry.resolution, Node.completion, h.typeName, h.id, h.body]

/-- A resolution that ended well is the only one of its key that was made for this node. -/
theorem not_alike (hledger : T.Ledger d.orders d.maker accounts) {promise other : Nat} {a b : Account}
    (ha : accounts[promise]? = some a) (hb : accounts[other]? = some b) (hkey : b.key = a.key)
    {snapshot : Node} (hkept : d.maker.nodeCache.KeptAt promise (.ok snapshot))
    (hfailed : d.maker.nodeCache.FailedAt other) : ¬b.node.Alike a.node := by
  intro halike
  obtain ⟨bell, hstate⟩ := hkept
  obtain ⟨e, bell', hstate'⟩ := hfailed
  have hsome : (T.value a.node a.fields).isSome := (hledger.covers ha hstate).1
  have hnone : T.value b.node b.fields = none := (hledger.covers hb hstate').1
  have hfields : b.fields = a.fields := congrArg NodeKey.fields hkey
  rw [hfields, value_of_alike halike] at hnone
  rw [hnone] at hsome
  cases hsome

theorem filter_eq_singleton {α : Type} {p : α → Bool} {as : List α} {i : Nat} {a : α}
    (hi : as[i]? = some a) (ha : p a) (hothers : ∀ j b, as[j]? = some b → p b → j = i) :
    as.filter p = [a] := by
  induction as generalizing i with
  | nil => cases hi
  | cons first rest ih =>
      cases i with
      | zero =>
          obtain rfl := Option.some.inj hi
          have hrest : rest.filter p = [] := by
            refine List.filter_eq_nil_iff.mpr fun b hb hpb => ?_
            obtain ⟨j, hj⟩ := List.getElem?_of_mem hb
            exact absurd (hothers (j + 1) b hj hpb) (Nat.succ_ne_zero j)
          rw [List.filter_cons_of_pos ha, hrest]
      | succ i =>
          have hfirst : ¬p first := fun hfirst => absurd (hothers 0 first rfl hfirst).symm
            (Nat.succ_ne_zero i)
          rw [List.filter_cons_of_neg hfirst]
          exact ih hi fun j b hj hb => Nat.succ.inj (hothers (j + 1) b hj hb)

/-- How often a call was made in the whole run for resolutions of a key. -/
def madeFor (accounts : List Account) (key : NodeKey) (call : ResolverCall) : Nat :=
  ((accounts.filter fun a => a.key = key).map fun a => a.charged call).sum

/-- Each key has at most one snapshot. -/
theorem exists_given (htracked : d.Tracked keys made) (hledger : T.Ledger d.orders d.maker accounts)
    (hentered : d.maker.nodeCache.Entered) :
    ∃ given : NodeKey → Node, ∀ promise a snapshot, accounts[promise]? = some a →
      d.maker.nodeCache.KeptAt promise (.ok snapshot) → given a.key = snapshot := by
  have hkey : ∀ key, ∃ given : Node, ∀ promise a snapshot, accounts[promise]? = some a →
      a.key = key → d.maker.nodeCache.KeptAt promise (.ok snapshot) → given = snapshot := by
    intro key
    by_cases hany : ∃ promise a snapshot, accounts[promise]? = some a ∧ a.key = key ∧
        d.maker.nodeCache.KeptAt promise (.ok snapshot)
    · obtain ⟨promise, a, snapshot, ha, rfl, hkept⟩ := hany
      refine ⟨snapshot, fun other b snapshot' hb hkey hkept' => ?_⟩
      have hothers := othersFailed htracked hledger hentered ha hkept.not_failed
      by_cases hother : other = promise
      · subst hother
        exact Except.ok.inj (hkept.unique hkept')
      · exact absurd (hothers other b hb hkey hother) hkept'.not_failed
    · refine ⟨default, fun promise a snapshot ha hkey hkept => ?_⟩
      exact absurd ⟨promise, a, snapshot, ha, hkey, hkept⟩ hany
  choose given hgiven using hkey
  exact ⟨given, fun promise a snapshot ha => hgiven a.key promise a snapshot ha rfl⟩

/-! ## Coalescing -/

/-- An order, or another request's for which the cache of batches has the same key. -/
def Shares (d : Desk) (order other : Order) : Prop :=
  other = order ∨ d.maker.policy.batches = true ∧ other.key = order.key ∧ other ∈ d.orders

/-- Every call was made for one resolution of a node that some request named, and no resolution made
calls that completing its node does not make. There is one resolution for each key, and one snapshot,
which all requests are given. -/
structure Coalesced (T : Terms) (d : Desk) (accounts : List Account) (given : NodeKey → Node) :
    Prop where
  length : accounts.length = d.maker.nodePromises.size
  asked : ∀ a ∈ accounts, Order.Asks d.orders a.node a.fields
  total : ∀ call, d.maker.journal.count call = (accounts.map fun a => a.charged call).sum
  /-- No resolution makes a call more often than it takes without caches. -/
  bound : ∀ a ∈ accounts, ∀ call, a.charged call ≤ T.calls a.node a.fields call
  /-- One that has not failed has the entry of its key, and all others of the key have failed. -/
  single : ∀ {promise a}, accounts[promise]? = some a → ¬d.maker.nodeCache.FailedAt promise →
    (a.key, promise) ∈ d.maker.nodeEntries ∧ d.OthersFailed accounts promise a.key
  /-- One that ended well made all calls, as often as it takes without caches. -/
  kept : ∀ {promise a snapshot}, accounts[promise]? = some a →
    d.maker.nodeCache.KeptAt promise (.ok snapshot) → given a.key = snapshot ∧
      (∀ call, a.charged call = T.calls a.node a.fields call) ∧
      ∀ lone, T.Alone a.node a.fields lone → ∀ call, lone.maker.journal.count call = a.charged call
  /-- If its key stands for this node alone, no other calls were made for the key in the whole run. -/
  once : ∀ {promise a snapshot}, accounts[promise]? = some a →
    d.maker.nodeCache.KeptAt promise (.ok snapshot) →
    (∀ b ∈ accounts, b.key = a.key → b.node.Alike a.node) →
    ∀ call, madeFor accounts a.key call = T.calls a.node a.fields call
  /-- Whoever is given snapshots is given those of its keys, or of another's that shares its batch, and
  each of them was resolved well. -/
  served : ∀ errand ∈ d.errands, ∀ snapshots, errand.state = .kept (.ok snapshots) →
    ∃ other, d.Shares errand.order other ∧ snapshots = other.nodeKeys.map given ∧
      ∀ key ∈ other.nodeKeys, ∃ promise a, accounts[promise]? = some a ∧ a.key = key ∧
        d.maker.nodeCache.KeptAt promise (.ok (given key))

/-- **One resolution for each key.** -/
theorem coalesced (T : Terms) (policy : CachePolicy) (hcaching : policy.nodes = true)
    (events : List Event) (hcalm : ∀ event ∈ events, event.Calm T) :
    ∃ accounts given,
      ((start T.registry T.path policy T.store).run events).Coalesced T accounts given := by
  have hkept := kept_run policy hcaching hcalm
  generalize (start T.registry T.path policy T.store).run events = d at hkept
  obtain ⟨⟨keys, orders, htracked⟩, ⟨⟨accounts, hledger⟩, -, -⟩, hentered, -⟩ := hkept
  obtain ⟨given, hgiven⟩ := exists_given htracked hledger hentered
  refine ⟨accounts, given, hledger.length, hledger.asked, hledger.total, ?_, ?_, ?_, ?_, ?_⟩
  · intro a ha call
    obtain ⟨promise, ha⟩ := List.getElem?_of_mem ha
    exact hledger.charged_le ha call
  · intro promise a ha hfailed
    exact ⟨mem_entries_of_not_failed hledger hentered ha hfailed,
      othersFailed htracked hledger hentered ha hfailed⟩
  · intro promise a snapshot ha hkept
    have hcharged := hledger.charged_of_kept ha hkept
    refine ⟨hgiven promise a snapshot ha hkept, hcharged, fun lone hlone call => ?_⟩
    rw [hlone.count call, hcharged call]
  · intro promise a snapshot ha hkept halike call
    have hothers := othersFailed htracked hledger hentered ha hkept.not_failed
    have honly : accounts.filter (fun b => b.key = a.key) = [a] := by
      refine filter_eq_singleton ha (by simp) fun other b hb hkey => ?_
      have hkey : b.key = a.key := by simpa using hkey
      by_contra hother
      exact not_alike hledger ha hb hkey hkept (hothers other b hb hkey hother)
        (halike b (List.mem_of_getElem? hb) hkey)
    rw [madeFor, honly, List.map_singleton, List.sum_singleton, hledger.charged_of_kept ha hkept]
  · intro errand hmem snapshots hstate
    have hfulfils := htracked.errands errand hmem
    rw [hstate] at hfulfils
    obtain ⟨other, hshares, hgivenAll⟩ := hfulfils hledger.caching
    have hall : List.Forall₂ (fun snapshot key => snapshot = given key ∧
        ∃ promise a, accounts[promise]? = some a ∧ a.key = key ∧
          d.maker.nodeCache.KeptAt promise (.ok (given key))) snapshots other.nodeKeys := by
      refine hgivenAll.imp fun snapshot key hgives => ?_
      obtain ⟨promise, a, ha, rfl, hkept⟩ := exists_account htracked hledger hentered hgives
      obtain rfl := hgiven promise a snapshot ha hkept
      exact ⟨rfl, promise, a, ha, rfl, hkept⟩
    refine ⟨other, ?_, ?_, fun key hkey => ?_⟩
    · rcases hshares with rfl | ⟨hbatches, hother, hkey⟩
      · exact .inl rfl
      · obtain ⟨asking, hasking, rfl⟩ := htracked.asked other hother
        exact .inr ⟨hbatches, hkey, List.mem_map_of_mem hasking⟩
    · rw [← List.forall₂_eq_eq_eq, List.forall₂_map_right_iff]
      exact hall.imp fun _ _ h => h.1
    · obtain ⟨i, hi⟩ := List.getElem?_of_mem hkey
      obtain ⟨snapshot, -, -, hresolved⟩ := exists_getElem?_of_forall₂ hall.flip hi
      exact hresolved

/-! ## Drafts and their words -/

/-- Resolvers of drafts may answer from any store. -/
def draftTerms (words : Resolver) : Terms where
  registry := draftRegistry words
  path := none
  stores _ := True
  store := .empty
  mem := trivial

theorem fair_drafts {words : Resolver} (hwords : words.PureOver fun _ => True) (ids : List String) :
    (draftTerms words).Fair (drafts ids) := by
  refine ⟨?_, fun t ht => ?_⟩
  · intro node hnode
    obtain ⟨id, -, rfl⟩ := List.mem_map.mp hnode
    rfl
  · obtain rfl := Option.some.inj ht
    rw [drafts, Registry.PureOver]
    refine ⟨fun field hfield => ?_, by rw [Registry.PureOver]; trivial⟩
    obtain rfl := Option.some.inj hfield
    refine ⟨fun resolver hresolver => ?_, fun _ _ hkind => by cases hkind⟩
    obtain rfl := Option.some.inj hresolver
    exact hwords

/-- Pauses once and then counts. -/
def counting : Resolver := ⟨fun _ _ => ⟨1, fun _ => .ok (.number (.int 3))⟩⟩

theorem pure_counting : counting.PureOver fun _ => True := fun _ _ _ _ _ _ _ => rfl

theorem pure_failing (pauses : Nat) : (failing pauses).PureOver fun _ => True :=
  fun _ _ _ _ _ _ _ => rfl

/-- The words of a draft are counted. -/
def wordsOf (id : String) : ResolverCall := ⟨"Draft", "words", some id⟩

/-- The ids of the snapshots that a request was given. -/
def givenIds? (errand : Errand) : Option (List String) :=
  match errand.state with
  | .kept (.ok snapshots) => some (snapshots.map Node.id)
  | _ => none

/-- A draft with its words. -/
def counted (id : String) : Node :=
  (draft id).withBody [("id", .string id), ("words", .number (.int 3))] 0

/-- Where nothing is cached, a draft is counted once. -/
theorem alone_draft : (draftTerms counting).Alone (draft "a") [⟨"words", []⟩]
    ((start (draftRegistry counting) none ⟨false, false, false⟩ .empty).run
      [.request (drafts ["a"]), .poll 0 .caller, .poll 0 .caller]) := by
  refine ⟨false, [.poll 0 .caller, .poll 0 .caller], [counted "a"], fair_drafts pure_counting ["a"],
    ?_, rfl, by with_unfolding_all rfl⟩
  simp [Event.Calm, Event.Silent]

/-- Two requests wait for the words of one draft. -/
def together : List Event :=
  [.request (drafts ["a"]), .request (drafts ["a", "b"]), .poll 0 .caller, .poll 1 .caller,
    .poll 0 .caller, .poll 1 .caller]

/-- They are counted once, as they are for the draft on its own. -/
theorem coalesced_together :
    let d := (start (draftRegistry counting) none ⟨false, true, true⟩ .empty).run together
    d.errands.map givenIds? = [some ["a"], some ["a", "b"]] ∧
      d.maker.journal.count (wordsOf "a") = 1 ∧
      (∃ lone, (draftTerms counting).Alone (draft "a") [⟨"words", []⟩] lone) ∧
      ∃ accounts given, d.Coalesced (draftTerms counting) accounts given := by
  refine ⟨by decide +kernel, by decide +kernel, ⟨_, alone_draft⟩, ?_⟩
  refine coalesced (draftTerms counting) ⟨false, true, true⟩ rfl together ?_
  simp only [together, List.forall_mem_cons]
  exact ⟨fair_drafts pure_counting _, fair_drafts pure_counting _, trivial, trivial, trivial,
    trivial, fun _ hmem => nomatch hmem⟩

/-- Whoever is given snapshots is given one and the same for a key. -/
def OneSnapshot (d : Desk) : Prop :=
  ∀ first ∈ d.errands, ∀ second ∈ d.errands, ∀ snapshots snapshots',
    first.state = .kept (.ok snapshots) → second.state = .kept (.ok snapshots') →
    ∀ (i j : Nat) (key : NodeKey), first.order.nodeKeys[i]? = some key →
      second.order.nodeKeys[j]? = some key → snapshots[i]? = snapshots'[j]?

/-- The second request is served from the batch of the first, and the third is not. -/
def swapping : List Event :=
  [.request (drafts ["a"]), .poll 0 .caller, .poll 0 .caller, .request (drafts ["b"]),
    .poll 1 .caller, .request (drafts ["b", "c"]), .poll 2 .caller, .poll 2 .caller]

def swapped : Desk :=
  (start (draftRegistry counting) none ⟨true, true, true⟩ .empty).run swapping

/-- The first request fails. The second tries again, and leaves its second draft when the first of its
own fails. -/
def leaving : List Event :=
  [.request (drafts ["a"]), .poll 0 .caller, .poll 0 .caller, .request (drafts ["z", "a"]),
    .poll 1 .caller, .poll 1 .caller]

/-- A request asked for these keys and was given snapshots with these ids. -/
def Gave (d : Desk) (keys : List NodeKey) (ids : List String) : Prop :=
  (keys, some ids) ∈ d.errands.map fun errand => (errand.order.nodeKeys, givenIds? errand)

/-- Where there is one snapshot for each key, requests for a key are given one id. -/
theorem OneSnapshot.id_eq (h : d.OneSnapshot) {keys keys' : List NodeKey} {ids ids' : List String}
    (hgave : d.Gave keys ids) (hgave' : d.Gave keys' ids') {i j : Nat} {key : NodeKey}
    (hi : keys[i]? = some key) (hj : keys'[j]? = some key) : ids[i]? = ids'[j]? := by
  have hstate : ∀ {keys ids}, d.Gave keys ids → ∃ errand ∈ d.errands, errand.order.nodeKeys = keys ∧
      ∃ snapshots, errand.state = .kept (.ok snapshots) ∧ snapshots.map Node.id = ids := by
    intro keys ids hgave
    obtain ⟨errand, hmem, heq⟩ := List.mem_map.mp hgave
    obtain ⟨hkeys, hids⟩ := Prod.mk.inj heq
    refine ⟨errand, hmem, hkeys, ?_⟩
    unfold givenIds? at hids
    split at hids
    · rename_i snapshots hkept
      exact ⟨snapshots, hkept, Option.some.inj hids⟩
    · cases hids
  obtain ⟨first, hfirst, rfl, snapshots, hkept, rfl⟩ := hstate hgave
  obtain ⟨second, hsecond, rfl, snapshots', hkept', rfl⟩ := hstate hgave'
  rw [List.getElem?_map, List.getElem?_map,
    h first hfirst second hsecond snapshots snapshots' hkept hkept' i j key hi hj]

/-- **Coalescing ends at the cache of batches, and at retries.** A request that shares the batch of
another is given the snapshots of the other's nodes; and a resolution that is tried again calls its
resolvers again, so that there are more calls in all than completing the node makes. -/
theorem swapped_and_retried :
    ((∀ event ∈ swapping, event.Calm (draftTerms counting)) ∧
      ¬swapped.OneSnapshot) ∧
    (∀ event ∈ leaving, event.Calm (draftTerms (failing 1))) ∧
      let d := (start (draftRegistry (failing 1)) none ⟨false, true, true⟩ .empty).run leaving
      (.ofNode (draft "a") [⟨"words", []⟩], 2) ∈ d.maker.nodeEntries ∧
      (d.maker.nodePromises[2]?.any fun shared => shared.state matches .pending _) = true ∧
      (draftTerms (failing 1)).calls (draft "a") [⟨"words", []⟩] (wordsOf "a") = 1 ∧
      d.maker.journal.count (wordsOf "a") = 2 := by
  refine ⟨⟨?_, fun hone => ?_⟩, ?_, by decide +kernel, by decide +kernel, by decide +kernel,
    by decide +kernel⟩
  · simp only [swapping, List.forall_mem_cons]
    exact ⟨fair_drafts pure_counting _, trivial, trivial, fair_drafts pure_counting _, trivial,
      fair_drafts pure_counting _, trivial, trivial, fun _ hmem => nomatch hmem⟩
  · have hswapped : swapped.Gave (drafts ["b"]).nodeKeys ["a"] := by
      unfold Gave
      decide +kernel
    have hown : swapped.Gave (drafts ["b", "c"]).nodeKeys ["b", "c"] := by
      unfold Gave
      decide +kernel
    exact absurd (hone.id_eq hswapped hown (i := 0) (j := 0) rfl rfl) (by decide)
  · simp only [leaving, List.forall_mem_cons]
    exact ⟨fair_drafts (pure_failing 1) _, trivial, trivial, fair_drafts (pure_failing 1) _, trivial,
      trivial, fun _ hmem => nomatch hmem⟩

end Desk

end ContentQuery
