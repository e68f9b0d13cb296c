import ContentQuery.Proofs.Snapshot.Deliveries

/-!
# What requests end with

A promise of a batch is made for an order, and `orders` lists these promise by promise. Requests whose
orders have one key share a promise, so what a request ends with was given for its own nodes or for those
of another order with its key (`Materializer.Fulfils`). Making requests and polling them leaves that as
it is, and to both caches it does nothing but take turns (**`Materializer.Tracks.poll`**,
**`Materializer.Tracks.request`**).
-/

namespace ContentQuery

/-- What a request is when the promise that it waits for is in this state. -/
def SnapshotRequest.ofState (key : BatchKey) (promise : Nat) :
    Promise Batch (List Node) → Promise SnapshotRequest (List Node)
  | .pending _ => .pending (.shared key promise)
  | .kept result => .kept result

/-- What a request is when its own batch is in this state. -/
def SnapshotRequest.ofOwn : Promise Batch (List Node) → Promise SnapshotRequest (List Node)
  | .pending batch => .pending (.own batch)
  | .kept result => .kept result

namespace Materializer

/-! ## One poll of a request -/

theorem poll_own (m : Materializer) (store : NodeStore) (waker : Waker) (batch : Batch) :
    m.poll store waker (.own batch) =
      ((m.pollBatch store waker batch).1,
        SnapshotRequest.ofOwn (m.pollBatch store waker batch).2) := by
  rw [poll]
  split <;> rename_i hpolled <;> rw [hpolled] <;> rfl

/-- Where batches are not cached, each request has a batch of its own. -/
theorem request_own {m : Materializer} (hbatches : m.policy.batches = false) (typeName : String)
    (nodes : List Node) (fields : RequiredFields) :
    m.request typeName nodes fields = (m, .own (.fresh typeName nodes fields)) := by
  simp [request, batchCacheActive, hbatches]

/-- What a poll makes of a promise of a batch: the batch goes on, and what is kept stays. -/
inductive BatchPollsTo (store : NodeStore) (m : Materializer) :
    Promise Batch (List Node) → Materializer → Promise Batch (List Node) → Prop
  | kept (result : Except SnapshotError (List Node)) :
      BatchPollsTo store m (.kept result) m (.kept result)
  | pending (agenda : Agenda) (waker : Waker) (batch : Batch) :
      BatchPollsTo store m (.pending batch) ({ m with agenda }.pollBatch store waker batch).1
        ({ m with agenda }.pollBatch store waker batch).2

variable {m m' : Materializer} {keys keys' : List NodeKey} {orders orders' : List Order}
  {order : Order}

/-- **One poll of a request for a shared batch** is one poll of the batch, which goes on in the
cache. -/
theorem poll_shared (store : NodeStore) (waker : Waker) (key : BatchKey) {promise bell : Nat}
    {state : Promise Batch (List Node)} (h : m.batchPromises[promise]? = some ⟨bell, state⟩) :
    ∃ m₁ agenda state', BatchPollsTo store m state m₁ state' ∧
      m.poll store waker (.shared key promise) =
        (m₁.withBatchCache agenda (m₁.batchCache.advance key promise bell state'),
          SnapshotRequest.ofState key promise state') := by
  cases state with
  | kept result =>
      refine ⟨m, m.agenda, .kept result, .kept result, ?_⟩
      have hself := SharedPromise.set_self h
      cases result <;>
        simp only [poll, h, settleBatch, SnapshotRequest.ofState, withBatchCache, Cache.advance,
          Cache.evict, Cache.set, batchCache, hself]
  | pending batch =>
      let listening : Materializer := { m with agenda := m.agenda.listen bell waker }
      have hpolls : BatchPollsTo store m (.pending batch)
          (listening.pollBatch store (.bell bell) batch).1
          (listening.pollBatch store (.bell bell) batch).2 :=
        .pending _ (.bell bell) batch
      simp only [poll, h]
      rcases hpolled : listening.pollBatch store (.bell bell) batch with ⟨m₁, state'⟩
      rw [hpolled] at hpolls
      cases state' with
      | pending batch' => exact ⟨m₁, m₁.agenda, .pending batch', hpolls, rfl⟩
      | kept result =>
          refine ⟨m₁, m₁.agenda.ring bell, .kept result, hpolls, ?_⟩
          cases result <;> rfl

/-! ## Requests and what they were made for -/

/-- Both caches are sound, and the promise of a batch delivers what it was made for. -/
structure Tracks (m : Materializer) (keys : List NodeKey) (orders : List Order) : Prop where
  nodes : m.nodeCache.Sound keys
  batches : m.batchCache.Sound (orders.map Order.key)
  delivers : ∀ {promise bell : Nat} {order : Order} {state : Promise Batch (List Node)},
    orders[promise]? = some order → m.batchPromises[promise]? = some ⟨bell, state⟩ →
    m.Delivers keys order state

/-- A request serves an order: it has a batch of its own, or waits for one of the same key. -/
def RequestServes (m : Materializer) (keys : List NodeKey) (orders : List Order) (order : Order) :
    SnapshotRequest → Prop
  | .own batch => m.BatchServes keys order batch
  | .shared key promise =>
    m.policy.batches = true ∧ key = order.key ∧ (orders.map Order.key)[promise]? = some key

/-- The order itself, or one for which the cache of batches has the same key. -/
def Shares (m : Materializer) (orders : List Order) (order other : Order) : Prop :=
  other = order ∨ m.policy.batches = true ∧ other ∈ orders ∧ other.key = order.key

/-- A request in this state serves an order. What it ends with was given for the keys of the order, or
of one that shares its batch. -/
def Fulfils (m : Materializer) (keys : List NodeKey) (orders : List Order) (order : Order) :
    Promise SnapshotRequest (List Node) → Prop
  | .pending request => m.RequestServes keys orders order request
  | .kept (.ok snapshots) => m.policy.nodes = true →
    ∃ other, m.Shares orders order other ∧ m.AllGiven keys other snapshots
  | .kept (.error _) => True

theorem Upholds.fulfils (h : m.Upholds keys m' keys') (horders : orders <+: orders')
    {state : Promise SnapshotRequest (List Node)} (hstate : m.Fulfils keys orders order state) :
    m'.Fulfils keys' orders' order state := by
  rcases state with (batch | ⟨key, promise⟩) | e | snapshots
  · have hdelivers : m.Delivers keys order (.pending batch) := hstate
    exact h.delivers hdelivers
  · obtain ⟨hpolicy, hkey, hpromise⟩ := hstate
    exact ⟨h.policy ▸ hpolicy, hkey, getElem?_of_prefix (horders.map Order.key) hpromise⟩
  · trivial
  · intro hcached
    rw [h.policy] at hcached
    obtain ⟨other, hshares, hgiven⟩ := hstate hcached
    refine ⟨other, ?_, h.allGiven hgiven⟩
    rcases hshares with rfl | ⟨hpolicy, hmem, hkey⟩
    · exact .inl rfl
    · exact .inr ⟨h.policy ▸ hpolicy, horders.subset hmem, hkey⟩

/-- What requests and their polls make of a materializer. -/
structure Goes (m : Materializer) (keys : List NodeKey) (orders : List Order) (m' : Materializer)
    (keys' : List NodeKey) (orders' : List Order) : Prop extends m.Upholds keys m' keys' where
  tracks : m'.Tracks keys' orders'
  orders : orders <+: orders'
  nodes : m.nodeCache.Turns m'.nodeCache
  batches : m.batchCache.Turns m'.batchCache

theorem Tracks.refl (h : m.Tracks keys orders) : m.Goes keys orders m keys orders :=
  ⟨⟨List.prefix_refl _, fun _ _ hkept => hkept, rfl⟩, h, List.prefix_refl _, .refl, .refl⟩

theorem Goes.trans {m'' : Materializer} {keys'' : List NodeKey} {orders'' : List Order}
    (h : m.Goes keys orders m' keys' orders') (h' : m'.Goes keys' orders' m'' keys'' orders'') :
    m.Goes keys orders m'' keys'' orders'' where
  keys := h.keys.trans h'.keys
  lasts promise result hkept := h'.lasts promise result (h.lasts promise result hkept)
  policy := h'.policy.trans h.policy
  tracks := h'.tracks
  orders := h.orders.trans h'.orders
  nodes := h.nodes.trans h'.nodes
  batches := h.batches.trans h'.batches

theorem Tracks.grows (h : m.Tracks keys orders) (hgrows : m.Grows keys m' keys') :
    m.Goes keys orders m' keys' orders where
  toUpholds := hgrows.upholds
  tracks := by
    refine ⟨hgrows.sound, hgrows.batches ▸ h.batches, fun horder hstate => ?_⟩
    have hpromises : m'.batchPromises = m.batchPromises := congrArg Cache.promises hgrows.batches
    rw [hpromises] at hstate
    exact hgrows.upholds.delivers (h.delivers horder hstate)
  orders := List.prefix_refl _
  nodes := hgrows.turns
  batches := hgrows.batches ▸ .refl

/-- The promise of a batch goes on, and delivers what it did before. -/
theorem Tracks.advance (h : m.Tracks keys orders) {promise bell : Nat}
    {before after : Promise Batch (List Node)} (horder : orders[promise]? = some order)
    (hbefore : m.batchPromises[promise]? = some ⟨bell, before⟩)
    (hkept : ∀ result, before = .kept result → after = .kept result)
    (hdelivers : m.Delivers keys order after) (agenda : Agenda) :
    m.Goes keys orders
      (m.withBatchCache agenda (m.batchCache.advance order.key promise bell after)) keys orders := by
  have hkey : (orders.map Order.key)[promise]? = some order.key := by
    rw [List.getElem?_map, horder]
    rfl
  have hupholds : m.Upholds keys
      (m.withBatchCache agenda (m.batchCache.advance order.key promise bell after)) keys :=
    ⟨List.prefix_refl _, fun _ _ hkept => hkept, rfl⟩
  refine ⟨hupholds, ⟨h.nodes, h.batches.advance hbefore hkey, ?_⟩, List.prefix_refl _, .refl,
    Cache.turns_advance hbefore hkept⟩
  intro other bell' order' state horder' hstate
  apply hupholds.delivers
  have hset : (m.batchCache.advance order.key promise bell after).promises[other]? =
      some ⟨bell', state⟩ := hstate
  rw [Cache.promises_advance, Cache.getElem?_set hbefore] at hset
  split at hset
  · rename_i heq
    subst heq
    obtain ⟨-, rfl⟩ := SharedPromise.mk.inj (Option.some.inj hset)
    obtain rfl := Option.some.inj (horder'.symm.trans horder)
    exact hdelivers
  · exact h.delivers horder' hset

/-- Dropping entries leaves all promises with what they were made for. -/
theorem Tracks.of_sublist (h : m.Tracks keys orders)
    (hnodes : List.Sublist m'.nodeEntries m.nodeEntries)
    (hbatches : List.Sublist m'.batchEntries m.batchEntries)
    (hnodePromises : m'.nodePromises = m.nodePromises)
    (hbatchPromises : m'.batchPromises = m.batchPromises) (hpolicy : m'.policy = m.policy) :
    m.Upholds keys m' keys ∧ m'.Tracks keys orders := by
  have hupholds : m.Upholds keys m' keys := by
    refine ⟨List.prefix_refl _, fun promise result hkept => ?_, hpolicy⟩
    rw [Cache.KeptAt, nodeCache, hnodePromises]
    exact hkept
  refine ⟨hupholds, ⟨?_, ?_, fun horder hstate => ?_⟩⟩
  · rw [nodeCache, hnodePromises]
    exact h.nodes.of_sublist hnodes
  · rw [batchCache, hbatchPromises]
    exact h.batches.of_sublist hbatches
  · rw [hbatchPromises] at hstate
    exact hupholds.delivers (h.delivers horder hstate)

/-- **One poll of a request** leaves all promises with what they were made for, and the request with its
order. -/
theorem Tracks.poll (h : m.Tracks keys orders) (store : NodeStore) (waker : Waker)
    {request : SnapshotRequest} (hrequest : m.RequestServes keys orders order request) :
    ∃ keys', m.Goes keys orders (m.poll store waker request).1 keys' orders ∧
      (m.poll store waker request).1.Fulfils keys' orders order
        (m.poll store waker request).2 := by
  cases request with
  | own batch =>
      obtain ⟨keys', hgrows, hdelivers⟩ := Grows.pollBatch h.nodes store waker hrequest
      rw [poll_own]
      refine ⟨keys', h.grows hgrows, ?_⟩
      generalize (m.pollBatch store waker batch).2 = state at hdelivers
      rcases state with batch' | e | snapshots
      · exact hdelivers
      · trivial
      · exact fun hcached => ⟨order, .inl rfl, hdelivers hcached⟩
  | shared key promise =>
      obtain ⟨hpolicy, rfl, hpromise⟩ := hrequest
      rw [List.getElem?_map] at hpromise
      obtain ⟨made, hmade, hkey⟩ := Option.map_eq_some_iff.mp hpromise
      have hlt : promise < m.batchPromises.size := by
        have hlength := h.batches.length
        rw [List.length_map] at hlength
        exact hlength ▸ (List.getElem?_eq_some_iff.mp hmade).1
      -- The promise is there, since it was made for this or another order of the key.
      have hstate : m.batchPromises[promise]? = some m.batchPromises[promise] :=
        Array.getElem?_eq_getElem hlt
      generalize m.batchPromises[promise] = shared at hstate
      obtain ⟨bell, state⟩ := shared
      have hdelivers := h.delivers hmade hstate
      obtain ⟨m₁, agenda, state', hpolls, hpolled⟩ := poll_shared store waker order.key hstate
      rw [hpolled, ← hkey]
      -- What the poll does to the batch, and then what that does to its promise.
      have hbatch : ∃ keys', m.Goes keys orders m₁ keys' orders ∧ m₁.Delivers keys' made state' ∧
          (∀ result, state = .kept result → state' = .kept result) ∧
          m₁.batchPromises = m.batchPromises := by
        cases hpolls with
        | kept result => exact ⟨keys, h.refl, hdelivers, fun _ heq => heq, rfl⟩
        | pending agenda' waker' batch =>
            have hagenda : m.Grows keys { m with agenda := agenda' } keys :=
              .of_eq h.nodes rfl rfl rfl
            obtain ⟨keys', hpolled, hdelivers'⟩ :=
              Grows.pollBatch hagenda.sound store waker' (hagenda.upholds.delivers hdelivers)
            have hgrows := hagenda.trans hpolled
            exact ⟨keys', h.grows hgrows, hdelivers', fun _ heq => by (cases heq),
              congrArg Cache.promises hgrows.batches⟩
      obtain ⟨keys', hgoes, hdelivers', hkept, hpromises⟩ := hbatch
      have hset := hgoes.tracks.advance hmade (hpromises ▸ hstate) hkept hdelivers' agenda
      refine ⟨keys', hgoes.trans hset, ?_⟩
      have hpolicy' : m₁.policy.batches = true := hgoes.policy ▸ hpolicy
      rcases state' with batch | e | snapshots
      · exact ⟨hpolicy', hkey, by rw [List.getElem?_map, hmade]; rfl⟩
      · trivial
      · intro hcached
        exact ⟨made, .inr ⟨hpolicy', List.mem_of_getElem? hmade, hkey⟩, hdelivers' hcached⟩

/-- **A request** serves its order, with a promise of its own or one that was made for the same key. -/
theorem Tracks.request (h : m.Tracks keys orders) (order : Order) :
    ∃ orders', m.Goes keys orders (m.request order.typeName order.nodes order.fields).1 keys orders' ∧
      (∀ other ∈ orders', other ∈ orders ∨ other = order) ∧
      (m.request order.typeName order.nodes order.fields).1.RequestServes keys orders' order
        (m.request order.typeName order.nodes order.fields).2 := by
  unfold Materializer.request
  dsimp only
  split
  · exact ⟨orders, h.refl, fun _ hmem => .inl hmem, rfl⟩
  · rename_i hactive
    have hpolicy : m.policy.batches = true := by
      simp only [batchCacheActive, Bool.not_eq_eq_eq_not, Bool.not_true, Bool.not_eq_false,
        Bool.and_eq_true] at hactive
      exact hactive.1
    split
    · rename_i promise hlookup
      obtain ⟨before, after, hentries, _⟩ := List.lookup_eq_some_iff.mp hlookup
      have hmem : (order.key, promise) ∈ m.batchCache.entries := by
        simp [batchCache, hentries, Order.key]
      refine ⟨orders, ⟨⟨List.prefix_refl _, fun _ _ hkept => hkept, rfl⟩,
        ⟨h.nodes, h.batches, h.delivers⟩, List.prefix_refl _, .refl, .refl⟩,
        fun _ hmem => .inl hmem, hpolicy, rfl, h.batches.made _ _ hmem⟩
    · rename_i hlookup
      have hsound := h.batches.add hlookup m.agenda.newBell.2
        (.fresh order.typeName order.nodes order.fields)
      have hlength : orders.length = m.batchPromises.size := by
        have hlength := h.batches.length
        rwa [List.length_map] at hlength
      refine ⟨orders ++ [order], ⟨⟨List.prefix_refl _, fun _ _ hkept => hkept, rfl⟩,
        ⟨h.nodes, by rw [List.map_append]; exact hsound, ?_⟩, List.prefix_append _ _, .refl,
        .single (.made _ _ _ hlookup)⟩, ?_, hpolicy, rfl, ?_⟩
      · intro promise bell other state hother hstate
        by_cases hlt : promise < orders.length
        · rw [List.getElem?_append_left hlt] at hother
          rw [Array.getElem?_push_lt (hlength ▸ hlt)] at hstate
          exact h.delivers hother (by rw [← hstate]; exact Array.getElem?_eq_getElem _)
        · -- The new promise is the last, and nobody has polled it.
          have hlast := (List.getElem?_eq_some_iff.mp hother).1
          rw [List.length_append, List.length_singleton] at hlast
          obtain rfl : promise = orders.length := by omega
          rw [List.getElem?_concat_length] at hother
          rw [hlength, Array.getElem?_push_size] at hstate
          obtain rfl := Option.some.inj hother
          obtain ⟨-, rfl⟩ := SharedPromise.mk.inj (Option.some.inj hstate)
          rfl
      · intro other hmem
        rcases List.mem_append.mp hmem with hmem | hmem
        · exact .inl hmem
        · exact .inr (List.mem_singleton.mp hmem)
      · rw [List.map_append, ← hlength, ← List.length_map Order.key]
        exact List.getElem?_concat_length

end Materializer

end ContentQuery
