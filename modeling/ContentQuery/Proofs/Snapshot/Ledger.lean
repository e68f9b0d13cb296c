import ContentQuery.Proofs.Snapshot.Requests
import ContentQuery.Proofs.Snapshot.Spending

/-!
# Who is charged for which call

Every resolution that a maker has a promise for has an account, to which the calls of resolvers are
charged that are made when the promise is polled. Where nodes are cached, no call is made otherwise, so
the accounts add up to the journal (`Terms.Ledger`). And what is charged to an account never exceeds the
calls of completing its node on its own; once the resolution ends well, it is exactly these
(`Terms.Covers`). All polls keep it so (**`Terms.Ledger.poll`**).
-/

namespace ContentQuery

/-- Completing the required fields of a node on its own. -/
def Registry.resolution (r : Registry) (path : Option String) (node : Node) (fields : RequiredFields) :
    Work :=
  match r.type? node.typeName with
  | none => .failed (.unknownType node.typeName)
  | some t => node.completion r path t fields

/-- A resolution of a node, with the calls that were made for it. -/
structure Account where
  node : Node
  fields : RequiredFields
  charged : ResolverCall → Nat

def Account.key (a : Account) : NodeKey := .ofNode a.node a.fields

/-- What the calls of resolvers are compared with. -/
structure Terms where
  registry : Registry
  path : Option String
  /-- Stores that resolvers may answer from. -/
  stores : NodeStore → Prop
  store : NodeStore
  mem : stores store

namespace Terms

variable (T : Terms)

/-- Completing the node on its own comes to this value, or to none. -/
def value (node : Node) (fields : RequiredFields) : Option Json :=
  (T.registry.resolution T.path node fields).yields T.store

/-- Completing the node on its own makes the call so many times. -/
def calls (node : Node) (fields : RequiredFields) (call : ResolverCall) : Nat :=
  (T.registry.resolution T.path node fields).times T.store call

/-- What is charged for a resolution in this state: together with the calls that are left to be made,
those of completing the node on its own. -/
def Covers (a : Account) : Promise (Node × Work) Node → Prop
  | .pending (_, work) =>
    work.Pure T.stores ∧ work.yields T.store = T.value a.node a.fields ∧
      (∀ call, a.charged call + work.times T.store call ≤ T.calls a.node a.fields call) ∧
      ((T.value a.node a.fields).isSome →
        ∀ call, a.charged call + work.times T.store call = T.calls a.node a.fields call)
  | .kept (.ok _) =>
    (T.value a.node a.fields).isSome ∧ ∀ call, a.charged call = T.calls a.node a.fields call
  | .kept (.error _) =>
    T.value a.node a.fields = none ∧ ∀ call, a.charged call ≤ T.calls a.node a.fields call

/-- What a journal gains is charged to one account. -/
structure Charges (j : Journal) (a : Account) (j' : Journal) (a' : Account) : Prop where
  node : a'.node = a.node
  fields : a'.fields = a.fields
  charged : ∀ call, j'.count call + a.charged call = j.count call + a'.charged call

variable {T} {m m' : Materializer}

theorem Covers.pollWork {a : Account} {copy : Node} {work : Work}
    (h : T.Covers a (.pending (copy, work))) {now : NodeStore} (hnow : T.stores now)
    (m : Materializer) (waker : Waker) :
    ∃ a', Charges m.journal a (m.pollWork now waker copy work).1.journal a' ∧
      T.Covers a' (m.pollWork now waker copy work).2 := by
  obtain ⟨hpure, hvalue, hbound, hexact⟩ := h
  have hspends := Work.poll_spends hnow T.mem waker work m.toPollState hpure
  rcases hpoll : Work.poll now waker work m.toPollState with ⟨s, work'⟩
  rw [hpoll] at hspends
  dsimp only at hspends
  have hcharges : ∀ call, s.journal.count call + a.charged call = m.journal.count call +
      (a.charged call + (s.journal.count call - m.journal.count call)) := by
    intro call
    have hgrows := hspends.grows call
    omega
  refine ⟨⟨a.node, a.fields,
    fun call => a.charged call + (s.journal.count call - m.journal.count call)⟩, ?_⟩
  have hbound' : ∀ call, a.charged call + (s.journal.count call - m.journal.count call) +
      work'.times T.store call ≤ T.calls a.node a.fields call := by
    intro call
    have hgrows := hspends.grows call
    have hspent := hspends.bound call
    have hcall := hbound call
    omega
  have hexact' : (T.value a.node a.fields).isSome → ∀ call,
      a.charged call + (s.journal.count call - m.journal.count call) +
        work'.times T.store call = T.calls a.node a.fields call := by
    intro hsome call
    have hgrows := hspends.grows call
    have hspent := hspends.exact (hvalue ▸ hsome) call
    have hcall := hexact hsome call
    omega
  have hvalue' : work'.yields T.store = T.value a.node a.fields := hspends.yields.trans hvalue
  rw [Materializer.pollWork, hpoll]
  cases work' with
  | done v =>
      have hsome : (T.value a.node a.fields).isSome := by
        rw [← hvalue']
        rfl
      exact ⟨⟨rfl, rfl, hcharges⟩, hsome, hexact' hsome⟩
  | failed e => exact ⟨⟨rfl, rfl, hcharges⟩, hvalue'.symm, hbound'⟩
  | _ => exact ⟨⟨rfl, rfl, hcharges⟩, hspends.pure, hvalue', hbound', hexact'⟩

end Terms

/-- A task has no work of its own. -/
def Task.Cached : Task → Prop
  | .own _ _ => False
  | _ => True

namespace Terms

variable (T : Terms)

/-- A request that names each node's own type and calls only pure resolvers. -/
def Fair (order : Order) : Prop :=
  (∀ node ∈ order.nodes, node.typeName = order.typeName) ∧
    ∀ t, T.registry.type? order.typeName = some t →
      T.registry.PureOver T.stores t order.fields

end Terms

/-- A batch that was not begun yet is for one of the orders, and one under way leaves all work to
promises. -/
def Batch.IsFor (orders : List Order) : Batch → Prop
  | .fresh typeName nodes fields => ⟨typeName, nodes, fields⟩ ∈ orders
  | .running tasks | .crowd _ tasks => ∀ task ∈ tasks, task.Cached

theorem Batch.IsFor.append {orders : List Order} {batch : Batch} (h : batch.IsFor orders)
    (order : Order) : batch.IsFor (orders ++ [order]) := by
  cases batch with
  | fresh typeName nodes fields => exact List.mem_append_left _ h
  | _ => exact h

/-- Some order asks for the node with these fields. -/
def Order.Asks (orders : List Order) (node : Node) (fields : RequiredFields) : Prop :=
  ∃ order ∈ orders, node ∈ order.nodes ∧ order.fields = fields

namespace Terms

variable (T : Terms)

/-- The journal is charged to the resolutions of a maker, call by call. -/
structure Ledger (orders : List Order) (m : Materializer) (accounts : List Account) : Prop where
  fair : ∀ order ∈ orders, T.Fair order
  registry : m.registry = T.registry
  path : m.path = T.path
  caching : m.policy.nodes = true
  length : accounts.length = m.nodePromises.size
  total : ∀ call, m.journal.count call = (accounts.map fun a => a.charged call).sum
  covers : ∀ {promise bell : Nat} {a : Account} {state : Promise (Node × Work) Node},
    accounts[promise]? = some a → m.nodePromises[promise]? = some ⟨bell, state⟩ → T.Covers a state
  asked : ∀ a ∈ accounts, Order.Asks orders a.node a.fields
  entries : ∀ key promise, (key, promise) ∈ m.nodeEntries →
    ∃ a, accounts[promise]? = some a ∧ a.key = key
  batches : ∀ {promise bell : Nat} {batch : Batch},
    m.batchPromises[promise]? = some ⟨bell, .pending batch⟩ → batch.IsFor orders

variable {T} {orders : List Order} {m m' : Materializer} {accounts : List Account}

/-- A change that adds no entry, and does not concern the promises. -/
theorem Ledger.of_eq (h : T.Ledger orders m accounts) (hregistry : m'.registry = m.registry)
    (hpath : m'.path = m.path) (hpolicy : m'.policy = m.policy) (hjournal : m'.journal = m.journal)
    (hentries : m'.nodeEntries = m.nodeEntries) (hnodes : m'.nodePromises = m.nodePromises)
    (hbatches : m'.batchPromises = m.batchPromises) : T.Ledger orders m' accounts where
  fair := h.fair
  registry := hregistry.trans h.registry
  path := hpath.trans h.path
  caching := hpolicy ▸ h.caching
  length := hnodes ▸ h.length
  total := hjournal ▸ h.total
  covers ha hstate := h.covers ha (hnodes ▸ hstate)
  asked := h.asked
  entries := hentries ▸ h.entries
  batches hstate := h.batches (hbatches ▸ hstate)

/-- No more is charged to a resolution than completing its node takes. -/
theorem Ledger.charged_le (h : T.Ledger orders m accounts) {promise : Nat} {a : Account}
    (ha : accounts[promise]? = some a) (call : ResolverCall) :
    a.charged call ≤ T.calls a.node a.fields call := by
  have hlt := (List.getElem?_eq_some_iff.mp ha).1
  rw [h.length] at hlt
  obtain ⟨bell, state, hstate⟩ : ∃ bell state, m.nodePromises[promise]? = some ⟨bell, state⟩ :=
    ⟨_, _, Array.getElem?_eq_getElem hlt⟩
  have hcovers := h.covers ha hstate
  rcases state with ⟨copy, work⟩ | e | snapshot
  · exact Nat.le_trans (Nat.le_add_right _ _) (hcovers.2.2.1 call)
  · exact hcovers.2 call
  · exact Nat.le_of_eq (hcovers.2 call)

theorem Ledger.charged_of_kept (h : T.Ledger orders m accounts) {promise : Nat} {a : Account}
    (ha : accounts[promise]? = some a) {snapshot : Node}
    (hkept : m.nodeCache.KeptAt promise (.ok snapshot)) (call : ResolverCall) :
    a.charged call = T.calls a.node a.fields call := by
  obtain ⟨bell, hstate⟩ := hkept
  exact (h.covers ha hstate).2 call

/-! ## Tasks -/

/-- A poll of a promise is charged to its account. -/
theorem Covers.pollsTo {a : Account} {state state' : Promise (Node × Work) Node}
    (h : T.Covers a state) {now : NodeStore} (hnow : T.stores now)
    (hpolls : m.PollsTo now state m' state') : ∃ a', Charges m.journal a m'.journal a' ∧ T.Covers a' state' := by
  cases hpolls with
  | kept result => exact ⟨a, ⟨rfl, rfl, fun _ => rfl⟩, h⟩
  | pending agenda waker copy work => exact h.pollWork hnow { m with agenda } waker

theorem Ledger.advance (h : T.Ledger orders m accounts) {now : NodeStore} (hnow : T.stores now)
    {key : NodeKey} {promise bell : Nat} {state state' : Promise (Node × Work) Node}
    (hpromise : m.nodePromises[promise]? = some ⟨bell, state⟩)
    (hpolls : m.PollsTo now state m' state') (agenda : Agenda) :
    ∃ accounts', T.Ledger orders
      (m'.withNodeCache agenda (m'.nodeCache.advance key promise bell state')) accounts' := by
  have hlt : promise < accounts.length :=
    h.length ▸ (Array.getElem?_eq_some_iff.mp hpromise).1
  have ha : accounts[promise]? = some accounts[promise] := List.getElem?_eq_getElem hlt
  generalize accounts[promise] = a at ha
  obtain ⟨a', hcharges, hcovers⟩ := (h.covers ha hpromise).pollsTo hnow hpolls
  have hcharged := hcharges.charged
  obtain ⟨s, stamp, rfl⟩ := hpolls.eq
  have hset : ∀ other, (m.nodeCache.set promise bell state').promises[other]? =
      if other = promise then some ⟨bell, state'⟩ else m.nodeCache.promises[other]? :=
    Cache.getElem?_set hpromise
  refine ⟨accounts.set promise a', h.fair, h.registry, h.path, h.caching, ?_, fun call => ?_, ?_, ?_,
    ?_, h.batches⟩
  · rw [List.length_set, h.length]
    exact (Cache.size_advance m.nodeCache key promise bell state').symm
  · have hsum := sum_map_set (fun a : Account => a.charged call) ha a'
    have htotal := h.total call
    have hcall := hcharged call
    dsimp only [Materializer.withNodeCache] at *
    omega
  · intro other bell' b state'' hb hstate
    have hstate' : (m.nodeCache.advance key promise bell state').promises[other]? =
        some ⟨bell', state''⟩ := hstate
    rw [Cache.promises_advance, hset] at hstate'
    by_cases hother : other = promise
    · subst hother
      rw [if_pos rfl] at hstate'
      rw [List.getElem?_set_self hlt] at hb
      obtain ⟨-, rfl⟩ := SharedPromise.mk.inj (Option.some.inj hstate')
      obtain rfl := Option.some.inj hb
      exact hcovers
    · rw [if_neg hother] at hstate'
      rw [List.getElem?_set_ne (Ne.symm hother)] at hb
      exact h.covers hb hstate'
  · intro b hb
    rcases List.mem_or_eq_of_mem_set hb with hb | rfl
    · exact h.asked b hb
    · rw [hcharges.node, hcharges.fields]
      exact h.asked a (List.mem_of_getElem? ha)
  · intro key' other hmem
    obtain ⟨b, hb, hkey⟩ := h.entries key' other ((Cache.sublist_advance _ _ _ _ _).mem hmem)
    by_cases hother : other = promise
    · subst hother
      obtain rfl := Option.some.inj (ha.symm.trans hb)
      refine ⟨a', List.getElem?_set_self hlt, ?_⟩
      rw [Account.key, hcharges.node, hcharges.fields]
      exact hkey
    · exact ⟨b, (List.getElem?_set_ne (Ne.symm hother)).trans hb, hkey⟩

/-- **One poll of a task** is charged to one account. -/
theorem Ledger.pollTask (h : T.Ledger orders m accounts) {now : NodeStore} (hnow : T.stores now)
    (waker : Waker) {task : Task} (htask : task.Cached) :
    (∃ accounts', T.Ledger orders (Materializer.pollTask now waker task m).1 accounts') ∧
      (Materializer.pollTask now waker task m).2.Cached := by
  cases task with
  | finished snapshot => exact ⟨⟨accounts, h⟩, trivial⟩
  | failed e => exact ⟨⟨accounts, h⟩, trivial⟩
  | own copy work => exact htask.elim
  | shared key promise =>
      cases hpromise : m.nodePromises[promise]? with
      | none =>
          rw [Materializer.pollTask, hpromise]
          exact ⟨⟨accounts, h⟩, trivial⟩
      | some shared =>
          obtain ⟨bell, state⟩ := shared
          obtain ⟨m₁, agenda, state', hpolls, hpolled⟩ :=
            Materializer.pollTask_shared now waker key hpromise
          rw [hpolled]
          refine ⟨h.advance hnow hpromise hpolls agenda, ?_⟩
          rcases state' with _ | _ | _ <;> trivial

/-- Nothing was called yet for work that was not begun. -/
theorem covers_completion {node : Node} {fields : RequiredFields} {t : ObjectType}
    (ht : T.registry.type? node.typeName = some t)
    (hpure : T.registry.PureOver T.stores t fields) :
    T.Covers ⟨node, fields, fun _ => 0⟩
      (.pending (node, node.completion T.registry T.path t fields)) := by
  have hresolution : T.registry.resolution T.path node fields =
      node.completion T.registry T.path t fields := by
    rw [Registry.resolution, ht]
  refine ⟨Completion.pure_fields _ t fields hpure node.body, ?_, fun call => ?_, fun _ call => ?_⟩
  · rw [value, hresolution]
  · rw [calls, hresolution]
    exact Nat.le_of_eq (Nat.zero_add _)
  · rw [calls, hresolution, Nat.zero_add]

/-- A task that is set up opens at most one account, to which nothing is charged yet. -/
theorem Ledger.task (h : T.Ledger orders m accounts) {t : ObjectType} {fields : RequiredFields}
    {node : Node} (hasked : Order.Asks orders node fields)
    (ht : T.registry.type? node.typeName = some t)
    (hpure : T.registry.PureOver T.stores t fields) :
    (∃ accounts', T.Ledger orders (m.task t fields node).1 accounts') ∧
      (m.task t fields node).2.Cached := by
  rw [Materializer.task, h.caching]
  simp only [Bool.not_true, Bool.false_eq_true, if_false]
  split
  · exact ⟨⟨accounts, h.of_eq rfl rfl rfl rfl rfl rfl rfl⟩, trivial⟩
  · refine ⟨⟨accounts ++ [⟨node, fields, fun _ => 0⟩], h.fair, h.registry, h.path, h.caching, ?_,
      fun call => ?_, ?_, ?_, ?_, h.batches⟩, trivial⟩
    · simp [h.length]
    · simp [h.total call]
    · intro promise bell a state ha hstate
      by_cases hlt : promise < accounts.length
      · rw [List.getElem?_append_left hlt] at ha
        rw [Array.getElem?_push_lt (h.length ▸ hlt)] at hstate
        exact h.covers ha (by rw [← hstate]; exact Array.getElem?_eq_getElem _)
      · -- The new account is the last.
        have hlast := (List.getElem?_eq_some_iff.mp ha).1
        rw [List.length_append, List.length_singleton] at hlast
        obtain rfl : promise = accounts.length := by omega
        rw [List.getElem?_concat_length] at ha
        rw [h.length, Array.getElem?_push_size] at hstate
        obtain rfl := Option.some.inj ha
        obtain ⟨-, rfl⟩ := SharedPromise.mk.inj (Option.some.inj hstate)
        rw [h.registry, h.path]
        exact covers_completion ht hpure
    · intro a ha
      rcases List.mem_append.mp ha with ha | ha
      · exact h.asked a ha
      · obtain rfl := List.mem_singleton.mp ha
        exact hasked
    · intro key promise hmem
      rcases List.mem_append.mp hmem with hmem | hmem
      · obtain ⟨a, ha, hkey⟩ := h.entries key promise hmem
        exact ⟨a, getElem?_of_prefix (List.prefix_append _ _) ha, hkey⟩
      · obtain ⟨rfl, rfl⟩ := Prod.mk.inj (List.mem_singleton.mp hmem)
        refine ⟨⟨node, fields, fun _ => 0⟩, ?_, rfl⟩
        rw [← h.length, List.getElem?_concat_length]

theorem Ledger.tasks {t : ObjectType} {fields : RequiredFields}
    (hpure : T.registry.PureOver T.stores t fields) (nodes : List Node)
    (h : T.Ledger orders m accounts) (hasked : ∀ node ∈ nodes, Order.Asks orders node fields)
    (ht : ∀ node ∈ nodes, T.registry.type? node.typeName = some t) :
    (∃ accounts', T.Ledger orders (m.tasks t fields nodes).1 accounts') ∧
      ∀ task ∈ (m.tasks t fields nodes).2, task.Cached := by
  induction nodes generalizing m accounts with
  | nil => exact ⟨⟨accounts, h⟩, fun _ hmem => nomatch hmem⟩
  | cons node rest ih =>
      obtain ⟨⟨accounts₁, hfirst⟩, hcached⟩ := h.task (hasked node List.mem_cons_self)
        (ht node List.mem_cons_self) hpure
      obtain ⟨hmore, hrest⟩ := ih hfirst (fun n hn => hasked n (List.mem_cons_of_mem node hn))
        fun n hn => ht n (List.mem_cons_of_mem node hn)
      refine ⟨hmore, fun task hmem => ?_⟩
      rcases List.mem_cons.mp hmem with rfl | hmem
      · exact hcached
      · exact hrest task hmem

theorem Ledger.of_progress {now : NodeStore} (hnow : T.stores now) {tasks tasks' : List Task}
    (hprogress : (Materializer.crowdRule now).Progress m tasks m' tasks') (h : T.Ledger orders m accounts)
    (htasks : ∀ task ∈ tasks, task.Cached) :
    (∃ accounts', T.Ledger orders m' accounts') ∧ ∀ task ∈ tasks', task.Cached := by
  induction hprogress with
  | refl => exact ⟨⟨accounts, h⟩, htasks⟩
  | agenda agenda _ ih =>
      obtain ⟨⟨accounts', h'⟩, hcached⟩ := ih
      exact ⟨⟨accounts', h'.of_eq rfl rfl rfl rfl rfl rfl rfl⟩, hcached⟩
  | @poll m' tasks' waker index task _ hpart ih =>
      obtain ⟨⟨accounts', h'⟩, hcached⟩ := ih
      obtain ⟨hledger, htask⟩ :=
        h'.pollTask hnow waker (hcached task (List.mem_of_getElem? hpart))
      refine ⟨hledger, fun other hmem => ?_⟩
      rcases List.mem_or_eq_of_mem_set hmem with hmem | rfl
      · exact hcached other hmem
      · exact htask

/-! ## Batches and requests -/

/-- **One poll of a batch** is charged to the accounts of its nodes. -/
theorem Ledger.pollBatch (h : T.Ledger orders m accounts) {now : NodeStore} (hnow : T.stores now)
    (waker : Waker) {batch : Batch} (hbatch : batch.IsFor orders) :
    (∃ accounts', T.Ledger orders (m.pollBatch now waker batch).1 accounts') ∧
      ∀ batch', (m.pollBatch now waker batch).2 = .pending batch' → batch'.IsFor orders := by
  rcases Materializer.pollBatch_progress now m waker batch with
    ⟨typeName, nodes, fields, -, -, hpolled⟩ | ⟨m₁, tasks, tasks', hsetUp, hprogress, hpolled⟩
  · rw [hpolled]
    exact ⟨⟨accounts, h⟩, fun _ heq => nomatch heq⟩
  · have hbefore : (∃ accounts', T.Ledger orders m₁ accounts') ∧ ∀ task ∈ tasks, task.Cached := by
      cases hsetUp with
      | running => exact ⟨⟨accounts, h⟩, hbatch⟩
      | crowd number => exact ⟨⟨accounts, h⟩, hbatch⟩
      | @fresh typeName nodes fields t ht =>
          obtain ⟨hown, hpure⟩ := h.fair _ hbatch
          rw [h.registry] at ht
          exact Ledger.tasks (hpure t ht) nodes h (fun node hmem => ⟨_, hbatch, hmem, rfl⟩)
            fun node hmem => by rw [hown node hmem, ht]
    obtain ⟨⟨accounts₁, h₁⟩, htasks⟩ := hbefore
    obtain ⟨hledger, htasks'⟩ := Ledger.of_progress hnow hprogress h₁ htasks
    refine ⟨hledger, fun batch' heq => ?_⟩
    rw [heq] at hpolled
    cases hpolled with
    | running => exact htasks'
    | crowd number => exact htasks'

end Terms

/-- As with a batch, if the request has one of its own. -/
def SnapshotRequest.IsFor (orders : List Order) : SnapshotRequest → Prop
  | .own batch => batch.IsFor orders
  | .shared _ _ => True

theorem SnapshotRequest.IsFor.append {orders : List Order} {request : SnapshotRequest}
    (h : request.IsFor orders) (order : Order) : request.IsFor (orders ++ [order]) := by
  cases request with
  | own batch => exact Batch.IsFor.append h order
  | shared key promise => trivial

namespace Terms

variable {T : Terms} {orders : List Order} {m m' : Materializer} {accounts : List Account}

/-- A batch goes on under its promise. -/
theorem Ledger.advanceBatch (h : T.Ledger orders m accounts) {key : BatchKey} {promise bell : Nat}
    {state : Promise Batch (List Node)}
    (hstate : ∀ batch, state = .pending batch → batch.IsFor orders) (agenda : Agenda) :
    T.Ledger orders (m.withBatchCache agenda (m.batchCache.advance key promise bell state)) accounts where
  fair := h.fair
  registry := h.registry
  path := h.path
  caching := h.caching
  length := h.length
  total := h.total
  covers := h.covers
  asked := h.asked
  entries := h.entries
  batches := by
    intro other bell' batch hother
    have hset : (m.batchCache.advance key promise bell state).promises[other]? =
        some ⟨bell', .pending batch⟩ := hother
    rw [Cache.promises_advance] at hset
    rcases SharedPromise.eq_or_of_set hset with heq | hother
    · exact hstate batch heq.symm
    · exact h.batches hother

/-- **One poll of a request** is charged to the accounts of its nodes, whoever shares its batch. -/
theorem Ledger.poll (h : T.Ledger orders m accounts) {now : NodeStore} (hnow : T.stores now)
    (waker : Waker) {request : SnapshotRequest} (hrequest : request.IsFor orders) :
    (∃ accounts', T.Ledger orders (m.poll now waker request).1 accounts') ∧
      ∀ request', (m.poll now waker request).2 = .pending request' → request'.IsFor orders := by
  cases request with
  | own batch =>
      obtain ⟨hledger, hbatch⟩ := h.pollBatch hnow waker hrequest
      rw [Materializer.poll_own]
      refine ⟨hledger, fun request' heq => ?_⟩
      generalize (m.pollBatch now waker batch).2 = state at hbatch heq
      cases state <;> cases heq
      exact hbatch _ rfl
  | shared key promise =>
      cases hpromise : m.batchPromises[promise]? with
      | none =>
          rw [Materializer.poll, hpromise]
          refine ⟨⟨accounts, h⟩, ?_⟩
          rintro _ ⟨⟩
          trivial
      | some shared =>
          obtain ⟨bell, state⟩ := shared
          obtain ⟨m₁, agenda, state', hpolls, hpolled⟩ :=
            Materializer.poll_shared now waker key hpromise
          rw [hpolled]
          have hbatch : ∃ accounts', T.Ledger orders m₁ accounts' ∧
              ∀ batch, state' = .pending batch → batch.IsFor orders := by
            cases hpolls with
            | kept result =>
                refine ⟨accounts, h, fun batch heq => ?_⟩
                cases heq
            | pending agenda' waker' batch =>
                have hlistening : T.Ledger orders { m with agenda := agenda' } accounts :=
                  h.of_eq rfl rfl rfl rfl rfl rfl rfl
                obtain ⟨⟨accounts', h'⟩, hstate⟩ :=
                  hlistening.pollBatch hnow waker' (h.batches hpromise)
                exact ⟨accounts', h', hstate⟩
          obtain ⟨accounts', h', hstate⟩ := hbatch
          refine ⟨⟨accounts', h'.advanceBatch hstate agenda⟩, fun request' heq => ?_⟩
          cases state' <;> cases heq
          trivial

/-- One more order is made. -/
theorem Ledger.append (h : T.Ledger orders m accounts) {order : Order} (horder : T.Fair order) :
    T.Ledger (orders ++ [order]) m accounts where
  fair := by
    intro other hother
    rcases List.mem_append.mp hother with hother | hother
    · exact h.fair other hother
    · obtain rfl := List.mem_singleton.mp hother
      exact horder
  registry := h.registry
  path := h.path
  caching := h.caching
  length := h.length
  total := h.total
  covers := h.covers
  asked := by
    intro a ha
    obtain ⟨other, hother, hasks⟩ := h.asked a ha
    exact ⟨other, List.mem_append_left _ hother, hasks⟩
  entries := h.entries
  batches hstate := (h.batches hstate).append order

/-- A request opens no account before it is polled. -/
theorem Ledger.request (h : T.Ledger orders m accounts) {order : Order} (horder : T.Fair order) :
    T.Ledger (orders ++ [order]) (m.request order.typeName order.nodes order.fields).1 accounts ∧
      (m.request order.typeName order.nodes order.fields).2.IsFor (orders ++ [order]) := by
  have h := h.append horder
  have hmem : order ∈ orders ++ [order] := List.mem_append_right _ (List.mem_singleton_self _)
  unfold Materializer.request
  dsimp only
  split
  · exact ⟨h, hmem⟩
  · split
    · exact ⟨h.of_eq rfl rfl rfl rfl rfl rfl rfl, trivial⟩
    · refine ⟨⟨h.fair, h.registry, h.path, h.caching, h.length, h.total, h.covers, h.asked,
        h.entries, ?_⟩, trivial⟩
      intro promise bell batch hpromise
      rcases SharedPromise.eq_or_of_push hpromise with heq | hpromise
      · cases heq
        exact hmem
      · exact h.batches hpromise

end Terms

end ContentQuery
