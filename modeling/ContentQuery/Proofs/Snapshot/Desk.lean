import ContentQuery.Proofs.Snapshot.Requests

/-!
# Desks

A desk is a maker of snapshots with the requests that were put to it. Requests are put to it and polled
in any order, as often as anyone likes; in between caches are emptied and snapshots invalidated, the
store changes, and anyone may be woken.

At every desk, a resolution that failed has left both caches by the end of the poll in which it failed,
and whatever else is evicted is nothing (**`Desk.evictions`**).
-/

namespace ContentQuery

/-- A request that was put to a desk, with how far it has come. -/
structure Errand where
  order : Order
  state : Promise SnapshotRequest (List Node)

/-- A maker of snapshots with the requests that were put to it. -/
structure Desk where
  maker : Materializer
  store : NodeStore
  errands : List Errand := []

namespace Desk

/-- What may happen at a desk. -/
inductive Event where
  | request (order : Order)
  | poll (index : Nat) (waker : Waker)
  | invalidate (id version : String)
  | clear
  | finishBootstrap
  /-- The store is another from now on. -/
  | store (store : NodeStore)
  /-- Someone is woken, or asks to be. -/
  | agenda (agenda : Agenda)

/-- A desk to which no request was put yet. -/
def start (registry : Registry) (path : Option String) (policy : CachePolicy) (store : NodeStore) :
    Desk :=
  { maker := { registry, path, policy }, store }

def step (d : Desk) : Event → Desk
  | .request order =>
    let (maker, request) := d.maker.request order.typeName order.nodes order.fields
    { d with maker, errands := d.errands ++ [⟨order, .pending request⟩] }
  | .poll index waker =>
    match d.errands[index]? with
    | some ⟨order, .pending request⟩ =>
      let (maker, state) := d.maker.poll d.store waker request
      { d with maker, errands := d.errands.set index ⟨order, state⟩ }
    | _ => d
  | .invalidate id version => { d with maker := (d.maker.invalidate id version).1 }
  | .clear => { d with maker := d.maker.clear }
  | .finishBootstrap => { d with maker := d.maker.finishBootstrap }
  | .store store => { d with store }
  | .agenda agenda => { d with maker := { d.maker with agenda } }

def run (d : Desk) (events : List Event) : Desk := events.foldl step d

/-! ## What stays true -/

/-- Both caches are sound, and every request serves what it was made for. -/
structure Tracked (d : Desk) (keys : List NodeKey) (orders : List Order) : Prop where
  tracks : d.maker.Tracks keys orders
  errands : ∀ errand ∈ d.errands, d.maker.Fulfils keys orders errand.order errand.state
  asked : ∀ order ∈ orders, ∃ errand ∈ d.errands, errand.order = order

theorem tracked_start (registry : Registry) (path : Option String) (policy : CachePolicy)
    (store : NodeStore) : (start registry path policy store).Tracked [] [] where
  tracks := ⟨Cache.sound_empty, Cache.sound_empty, fun horder => nomatch horder⟩
  errands _ hmem := nomatch hmem
  asked _ hmem := nomatch hmem

/-- No entry is dropped but by a poll. -/
def Event.Quiet : Event → Prop
  | .invalidate _ _ | .clear => False
  | _ => True

variable {d : Desk} {keys keys' : List NodeKey} {orders orders' : List Order}

/-- A change that leaves the requests where they are. -/
theorem Tracked.of_upholds (h : d.Tracked keys orders) {d' : Desk}
    (hupholds : d.maker.Upholds keys d'.maker keys) (htracks : d'.maker.Tracks keys orders)
    (herrands : d'.errands = d.errands) : d'.Tracked keys orders where
  tracks := htracks
  errands errand hmem :=
    hupholds.fulfils (List.prefix_refl _) (h.errands errand (herrands ▸ hmem))
  asked order hmem := by
    rw [herrands]
    exact h.asked order hmem

/-- What is put to a desk is served there. -/
theorem Tracked.request (h : d.Tracked keys orders) (order : Order) :
    ∃ orders', (d.step (.request order)).Tracked keys orders' ∧
      d.maker.Goes keys orders (d.step (.request order)).maker keys orders' := by
  obtain ⟨orders', hgoes, hnew, hserves⟩ := h.tracks.request order
  refine ⟨orders', ⟨hgoes.tracks, ?_, ?_⟩, hgoes⟩
  · intro errand hmem
    rcases List.mem_append.mp hmem with hmem | hmem
    · exact hgoes.fulfils hgoes.orders (h.errands errand hmem)
    · obtain rfl := List.mem_singleton.mp hmem
      exact hserves
  · intro other hmem
    rcases hnew other hmem with hmem | rfl
    · obtain ⟨errand, hmem, horder⟩ := h.asked other hmem
      exact ⟨errand, List.mem_append_left _ hmem, horder⟩
    · exact ⟨_, List.mem_append_right _ (List.mem_singleton_self _), rfl⟩

/-- What is polled goes on, and all else stays with what it serves. -/
theorem Tracked.poll (h : d.Tracked keys orders) (index : Nat) (waker : Waker) :
    ∃ keys', (d.step (.poll index waker)).Tracked keys' orders ∧
      d.maker.Goes keys orders (d.step (.poll index waker)).maker keys' orders := by
  rw [step]
  split
  · rename_i order request herrand
    have hmem := List.mem_of_getElem? herrand
    obtain ⟨keys', hgoes, hfulfils⟩ := h.tracks.poll d.store waker (h.errands _ hmem)
    refine ⟨keys', ⟨hgoes.tracks, ?_, ?_⟩, hgoes⟩
    · intro errand hmem
      rcases List.mem_or_eq_of_mem_set hmem with hmem | rfl
      · exact hgoes.fulfils hgoes.orders (h.errands errand hmem)
      · exact hfulfils
    · -- The order of the request that was polled stays with it.
      intro other hother
      obtain ⟨errand, hmem', rfl⟩ := h.asked other hother
      obtain ⟨i, hi⟩ := List.getElem?_of_mem hmem'
      by_cases heq : index = i
      · subst heq
        obtain rfl := Option.some.inj (hi.symm.trans herrand)
        exact ⟨_, List.mem_set (List.getElem?_eq_some_iff.mp hi).1 _, rfl⟩
      · have hstays : (d.errands.set index ⟨order, (d.maker.poll d.store waker request).2⟩)[i]? =
            some errand := by
          rw [List.getElem?_set_ne heq]
          exact hi
        exact ⟨errand, List.mem_of_getElem? hstays, rfl⟩
  · exact ⟨keys, h, h.tracks.refl⟩

/-- **Whatever happens at a desk**, all requests stay with what they serve. Unless entries are dropped on
purpose, the caches take turns. -/
theorem Tracked.step (h : d.Tracked keys orders) (event : Event) :
    ∃ keys' orders', (d.step event).Tracked keys' orders' ∧
      (event.Quiet → d.maker.Goes keys orders (d.step event).maker keys' orders') := by
  cases event with
  | request order =>
      obtain ⟨orders', htracked, hgoes⟩ := h.request order
      exact ⟨keys, orders', htracked, fun _ => hgoes⟩
  | poll index waker =>
      obtain ⟨keys', htracked, hgoes⟩ := h.poll index waker
      exact ⟨keys', orders, htracked, fun _ => hgoes⟩
  | invalidate id version =>
      obtain ⟨hupholds, htracks⟩ : d.maker.Upholds keys (d.maker.invalidate id version).1 keys ∧
          (d.maker.invalidate id version).1.Tracks keys orders :=
        h.tracks.of_sublist List.filter_sublist (List.nil_sublist _) rfl rfl rfl
      exact ⟨keys, orders, h.of_upholds hupholds htracks rfl, fun hquiet => hquiet.elim⟩
  | clear =>
      obtain ⟨hupholds, htracks⟩ : d.maker.Upholds keys d.maker.clear keys ∧
          d.maker.clear.Tracks keys orders :=
        h.tracks.of_sublist (List.nil_sublist _) (List.nil_sublist _) rfl rfl rfl
      exact ⟨keys, orders, h.of_upholds hupholds htracks rfl, fun hquiet => hquiet.elim⟩
  | finishBootstrap =>
      have hgoes : d.maker.Goes keys orders d.maker.finishBootstrap keys orders :=
        h.tracks.grows (.of_eq h.tracks.nodes rfl rfl rfl)
      exact ⟨keys, orders, h.of_upholds hgoes.toUpholds hgoes.tracks rfl, fun _ => hgoes⟩
  | store store =>
      have hgoes := h.tracks.refl
      exact ⟨keys, orders, h.of_upholds hgoes.toUpholds hgoes.tracks rfl, fun _ => hgoes⟩
  | agenda agenda =>
      have hgoes : d.maker.Goes keys orders { d.maker with agenda } keys orders :=
        h.tracks.grows (.of_eq h.tracks.nodes rfl rfl rfl)
      exact ⟨keys, orders, h.of_upholds hgoes.toUpholds hgoes.tracks rfl, fun _ => hgoes⟩

theorem Tracked.run (h : d.Tracked keys orders) (events : List Event) :
    ∃ keys' orders', (d.run events).Tracked keys' orders' := by
  induction events generalizing d keys orders with
  | nil => exact ⟨keys, orders, h⟩
  | cons event rest ih =>
      obtain ⟨keys', orders', hstep, -⟩ := h.step event
      exact ih hstep

/-! ## Evictions -/

/-- **Failures never linger, and nothing else is evicted.** Whatever happened at a desk, every entry of
either cache leads to a resolution that has not failed. And whatever happens next, short of dropping
entries on purpose, an entry goes only if it leads to a resolution that has failed by then: a later one
of the same key stays. -/
theorem evictions (registry : Registry) (path : Option String) (policy : CachePolicy)
    (store : NodeStore) (events : List Event) :
    let d := (start registry path policy store).run events
    (d.maker.nodeCache.Live ∧ d.maker.batchCache.Live) ∧
      ∀ event : Event, event.Quiet →
        d.maker.nodeCache.LosesFailures (d.step event).maker.nodeCache ∧
        d.maker.batchCache.LosesFailures (d.step event).maker.batchCache := by
  intro d
  obtain ⟨keys, orders, htracked⟩ := (tracked_start registry path policy store).run events
  refine ⟨⟨htracked.tracks.nodes.live, htracked.tracks.batches.live⟩, fun event hquiet => ?_⟩
  obtain ⟨keys', orders', -, hgoes⟩ := htracked.step event
  exact ⟨(hgoes hquiet).nodes.losesFailures, (hgoes hquiet).batches.losesFailures⟩

/-- Drafts have a number of words, which a resolver counts. -/
def draftRegistry (words : Resolver) : Registry where
  types := [⟨"Draft", true, [⟨"words", "Int", .leaf (.scalar .int), some words, []⟩]⟩]
  enums := []

def draft (id : String) : Node := ⟨id, "Draft", "1", [("id", .string id)], 0⟩

/-- Asks for the words of some drafts. -/
def drafts (ids : List String) : Order := ⟨"Draft", ids.map draft, [⟨"words", []⟩]⟩

/-- Pauses so often and then fails. -/
def failing (pauses : Nat) : Resolver := ⟨fun _ _ => ⟨pauses, fun _ => .error "no"⟩⟩

/-- Three requests wait for one resolution, which fails while the first is polled; then a fourth request
tries again. -/
def retrying : List Event :=
  [.request (drafts ["a"]), .request (drafts ["a"]), .request (drafts ["a", "a"]), .poll 0 .caller,
    .poll 2 .caller, .poll 0 .caller, .request (drafts ["a"]), .poll 3 .caller]

/-- The two that learn of the failure late leave the entries of the fourth where they are. -/
theorem evictions_retrying :
    let d := (start (draftRegistry (failing 2)) none ⟨true, true, true⟩ .empty).run
      (retrying ++ [.poll 1 .caller])
    let d' := d.step (.poll 2 .caller)
    d'.maker.nodeEntries = [(.ofNode (draft "a") [⟨"words", []⟩], 1)] ∧
      d'.maker.batchEntries = [((drafts ["a"]).key, 2)] ∧
      (d'.errands.map fun errand => errand.state matches .kept (.error _)) =
        [true, true, true, false] ∧
      d.maker.nodeCache.Live ∧ d.maker.batchCache.LosesFailures d'.maker.batchCache := by
  have hevictions := evictions (draftRegistry (failing 2)) none ⟨true, true, true⟩ .empty
    (retrying ++ [.poll 1 .caller])
  exact ⟨by decide +kernel, by decide +kernel, by decide +kernel, hevictions.1.1,
    (hevictions.2 (.poll 2 .caller) trivial).2⟩

end Desk

end ContentQuery
