import ContentQuery.Proofs.Engine.Exchange
import ContentQuery.Proofs.Engine.Refinement

/-!
# Invalidation is final

When an engine is told that a node has changed, its cache drops the snapshots of the node at other
versions and all batches. Batches that are under way at that moment go on, fail, or are asked for
again; still none of that is ever entered anew (**`Exchange.invalidation_final`**). Entries are made
only in the poll that makes the request, of nodes that the store holds then (`Demand.Turn.enters`).
-/

namespace ContentQuery

/-! ## What polls and signals do to the caches -/

/-- All that a demand waits for was begun. -/
def Demand.Begun (d : Demand) : Prop := ∀ request ∈ d.request?, request.Begun

/-- **One turn** enters nodes that the store holds, and leaves nothing to be begun. -/
theorem Demand.Turn.enters {e : Engine} {waker : Waker} {d : Demand} {m : Materializer}
    {rest : Option SnapshotRequest} (h : Turn e waker d m rest) (horderly : e.materializer.Orderly)
    (hd : d.Begun) :
    m.Orderly ∧ e.materializer.Enters m e.store.nodes.toList ∧
      ∀ request ∈ rest, request.Begun := by
  cases h with
  | none => exact ⟨horderly, .refl _, nofun⟩
  | @wait request hwait =>
      refine (Materializer.OrderlyBut.mono horderly request.promise?).poll e.store waker ?_
      -- What was begun has nothing more to enter.
      intro batch hbatch
      have hbegun : batch.awaited = [] := by
        cases request with
        | own own => exact hbatch ▸ hd _ hwait
        | shared key promise =>
            obtain ⟨bell, hpromise⟩ := hbatch
            exact horderly.begun promise bell _ hpromise nofun
      rw [hbegun]
      exact List.nil_subset _
  | @begin m₁ request hadmitted hrequest =>
      have hasked := Materializer.OrderlyBut.request horderly d.query.typeName
        (e.store.ofType d.query.typeName) d.query.required
      rw [hrequest] at hasked
      obtain ⟨horderly', henters, hbatch, -⟩ := hasked
      obtain ⟨hpolled, henters', hbegun⟩ := horderly'.poll e.store waker hbatch
      have hstored : e.store.ofType d.query.typeName ⊆ e.store.nodes.toList :=
        fun _ => List.mem_of_mem_filter
      exact ⟨hpolled, (henters.trans henters').mono hstored, hbegun⟩

namespace Engine

/-- The caches are in order, and all batches entered are as new as the promise. -/
structure Renewed (e : Engine) (promise : Nat) : Prop where
  orderly : e.materializer.Orderly
  entries : ∀ key other, (key, other) ∈ e.materializer.batchEntries → promise ≤ other
  size : promise ≤ e.materializer.batchPromises.size

/-- The caches are in order, and neither the cache of snapshots nor the store knows the id at any
other version. -/
structure Current (e : Engine) (id version : String) : Prop where
  orderly : e.materializer.Orderly
  entries : ∀ key promise, (key, promise) ∈ e.materializer.nodeEntries → key.id = id →
    key.version = version
  store : ∀ node ∈ e.store.nodes.toList, node.id = id → node.digest = version

end Engine

namespace Exchange

theorem kept_renewed (promise : Nat) :
    Kept (fun _ => True) (fun (_ : Unit) e => e.Renewed promise) fun _ => Demand.Begun where
  ask _ _ _ := nofun
  askNodes _ _ _ := nofun
  poll := by
    intro g e d he hd waker
    obtain ⟨-, -, hturn⟩ := d.poll_turn e waker
    obtain ⟨horderly, henters, hbegun⟩ := hturn.enters he.orderly hd
    refine ⟨g, ⟨horderly, fun key other hmem => ?_, Nat.le_trans he.size henters.size⟩, hbegun,
      fun _ h => h⟩
    rcases henters.batches key other hmem with hmem | hnew
    · exact he.entries key other hmem
    · exact Nat.le_trans he.size hnew
  upsert he _ _ := .self ⟨he.orderly, he.entries, he.size⟩
  remove he _ := .self ⟨he.orderly, he.entries, he.size⟩
  signal := by
    intro g e he signal
    obtain ⟨-, -, hdrops⟩ := e.drops_handle signal
    exact .self ⟨he.orderly.drops hdrops,
      fun key other hmem => he.entries key other (hdrops.batchEntries.mem hmem),
      hdrops.batchPromises ▸ he.size⟩
  agenda he _ := .self ⟨he.orderly.drops (Materializer.drops_agenda _ _), he.entries, he.size⟩

/-- A node of the id is stored. -/
def Event.Stores (id : String) (event : Event) : Prop := ∃ node, event = .upsert node ∧ node.id = id

theorem kept_current (id version : String) :
    Kept (fun event => ¬event.Stores id) (fun (_ : Unit) e => e.Current id version)
      fun _ => Demand.Begun where
  ask _ _ _ := nofun
  askNodes _ _ _ := nofun
  poll := by
    intro g e d he hd waker
    obtain ⟨-, hstore, hturn⟩ := d.poll_turn e waker
    obtain ⟨horderly, henters, hbegun⟩ := hturn.enters he.orderly hd
    refine ⟨g, ⟨horderly, fun key promise hmem hid => ?_, hstore ▸ he.store⟩, hbegun, fun _ h => h⟩
    rcases henters.snapshots key promise hmem with hmem | ⟨node, hnode, hkeyId, hkeyVersion⟩
    · exact he.entries key promise hmem hid
    · rw [hkeyVersion]
      exact he.store node hnode (hkeyId.symm.trans hid)
  upsert := by
    intro g e he node hother
    refine .self ⟨he.orderly, he.entries, fun stored hstored hid => ?_⟩
    rcases NodeStore.mem_upsert hstored with hstored | rfl
    · exact he.store stored hstored hid
    · exact absurd ⟨node, rfl, hid⟩ hother
  remove he id' :=
    .self ⟨he.orderly, he.entries, fun node hnode =>
      he.store node ((NodeStore.sublist_remove _ id').mem hnode)⟩
  signal := by
    intro g e he signal
    obtain ⟨-, hstore, hdrops⟩ := e.drops_handle signal
    exact .self ⟨he.orderly.drops hdrops,
      fun key promise hmem => he.entries key promise (hdrops.nodeEntries.mem hmem),
      hstore ▸ he.store⟩
  agenda he _ := .self ⟨he.orderly.drops (Materializer.drops_agenda _ _), he.entries, he.store⟩

/-- In every exchange the caches are in order. -/
theorem orderly_run (registry : Registry) (config : Config) (path : Option String)
    (nodes : List Node) (events : List Event) :
    ((start registry config path nodes).run events).engine.materializer.Orderly ∧
      ∀ d ∈ ((start registry config path nodes).run events).demands, d.Begun := by
  have hstart : (start registry config path nodes).Holds (fun (_ : Unit) e => e.Renewed 0)
      fun _ => Demand.Begun := by
    refine ⟨(), ⟨⟨fun _ _ hmem => (List.not_mem_nil hmem).elim,
      fun promise bell state hstate => ?_⟩, fun _ _ hmem => (List.not_mem_nil hmem).elim,
      Nat.zero_le _⟩, fun _ hmem => (List.not_mem_nil hmem).elim⟩
    simp [start, Engine.start] at hstate
  have hall : ∀ event ∈ events, True := fun _ _ => trivial
  obtain ⟨_, hengine, hdemands⟩ := hstart.run (kept_renewed 0) hall
  exact ⟨hengine.orderly, hdemands⟩

/-! ## After the signal -/

/-- What a signal leaves of an id has the version that the store holds, the only one of the id. -/
theorem current_told {x : Exchange} (horderly : x.engine.materializer.Orderly)
    (hbegun : ∀ d ∈ x.demands, d.Begun) (hplaced : x.engine.store.Placed) {id : String}
    {node : Node} (hnode : x.engine.store.node? id = some node) :
    (x.step (.signal (.nodeChanged id node.digest))).Holds
      (fun (_ : Unit) e => e.Current id node.digest) fun _ => Demand.Begun := by
  obtain ⟨hmem, hid⟩ := hplaced.node?_eq_some_iff.mp hnode
  refine ⟨(), ⟨horderly.drops (x.engine.materializer.drops_invalidate id node.digest),
    fun key promise hkey hkeyId => ?_, fun other hother hotherId => ?_⟩, hbegun⟩
  · have hkept := (List.mem_filter.mp hkey).2
    simpa [hkeyId] using hkept
  · rw [hplaced.eq_of_mem hother hmem (hotherId.trans hid.symm)]

/-- All promises of batches that are entered after a signal are yet to be made then. -/
theorem renewed_told {x : Exchange} (horderly : x.engine.materializer.Orderly)
    (hbegun : ∀ d ∈ x.demands, d.Begun) (id version : String) :
    (x.step (.signal (.nodeChanged id version))).Holds
      (fun (_ : Unit) e => e.Renewed x.engine.materializer.batchPromises.size)
      fun _ => Demand.Begun :=
  ⟨(), ⟨horderly.drops (x.engine.materializer.drops_invalidate id version),
    fun _ _ hmem => (List.not_mem_nil hmem).elim, Nat.le_refl _⟩, hbegun⟩

/-- A request waits for such a promise only. -/
theorem le_of_request {e : Engine} {first : Nat} (h : e.Renewed first) {typeName : String}
    {nodes : List Node} {fields : RequiredFields} {key : BatchKey} {promise : Nat}
    (hrequest : (e.materializer.request typeName nodes fields).2 = .shared key promise) :
    first ≤ promise := by
  obtain ⟨-, -, -, hpromise⟩ :=
    Materializer.OrderlyBut.request h.orderly typeName nodes fields
  rw [hrequest] at hpromise
  rcases hpromise promise rfl with ⟨key, hmem⟩ | hnew
  · exact h.entries key promise hmem
  · exact Nat.le_trans h.size hnew

/-- **Invalidation is final.** The engine is told that a node has changed while the store holds the
version told of. From then on, until a node of the id is stored again, no snapshot of the id is
entered at any other version, and no request ever waits for a batch that was entered before. Entries
of other ids stay as they are, with their promises. -/
theorem invalidation_final (registry : Registry) (config : Config) (path : Option String)
    (nodes : List Node) (before after : List Event) {id version : String} {node : Node}
    (hnode : ((start registry config path nodes).run before).engine.store.node? id = some node)
    (hversion : node.digest = version) :
    let x := (start registry config path nodes).run before
    let y := x.step (.signal (.nodeChanged id version))
    ((∀ event ∈ after, ¬event.Stores id) →
      ∀ key promise, (key, promise) ∈ (y.run after).engine.materializer.nodeEntries →
        key.id = id → key.version = version) ∧
    (∀ typeName nodes fields key promise,
      ((y.run after).engine.materializer.request typeName nodes fields).2 = .shared key promise →
        ∀ key', (key', promise) ∉ x.engine.materializer.batchEntries) ∧
    y.engine.materializer.nodeEntries.filter (fun entry => entry.1.id != id) =
      x.engine.materializer.nodeEntries.filter (fun entry => entry.1.id != id) ∧
    y.engine.materializer.nodePromises = x.engine.materializer.nodePromises := by
  intro x y
  subst hversion
  obtain ⟨horderly, hbegun⟩ := orderly_run registry config path nodes before
  have hplaced : x.engine.store.Placed := (frame_run registry config path nodes before).2.2
  refine ⟨fun hquiet => ?_, ?_, ?_, rfl⟩
  · have hcurrent := current_told horderly hbegun hplaced hnode
    obtain ⟨-, hafter, -⟩ := hcurrent.run (kept_current id node.digest) hquiet
    exact hafter.entries
  · have hrenewed := renewed_told horderly hbegun id node.digest
    have hall : ∀ event ∈ after, True := fun _ _ => trivial
    obtain ⟨-, hafter, -⟩ := hrenewed.run (kept_renewed _) hall
    intro typeName nodes fields key promise hrequest key' hentry
    have hlt := horderly.entries key' promise hentry
    exact absurd (le_of_request hafter hrequest) (Nat.not_le.mpr hlt)
  · show ((x.engine.materializer.nodeEntries.filter _).filter _) = _
    rw [List.filter_filter]
    refine List.filter_congr ?_
    rintro ⟨key, promise⟩ -
    cases hkey : key.id != id <;> simp [hkey]

/-! ### A post that is retitled while a query is under way -/

/-- A post waits for its shout, by way of a cached batch, and is stored with a new title. -/
def retitled : Exchange :=
  (start Session.shoutRegistry { production := true } none [Session.titled "old"]).run
    [.ask Session.shouts, .poll 0 .caller, .upsert (Session.titled "new")]

/-- The query goes on, and is put to the engine once more. -/
def askingOn : List Event := [.poll 0 .caller, .ask Session.shouts, .poll 1 .caller]

theorem node?_retitled :
    ∃ stamp, retitled.engine.store.node? "post" = some { Session.titled "new" with stamp } := by
  have hplaced : ((start Session.shoutRegistry { production := true } none
      [Session.titled "old"]).run [.ask Session.shouts, .poll 0 .caller]).engine.store.Placed :=
    (frame_run _ _ _ _ _).2.2
  exact ⟨_, hplaced.node?_upsert (Session.titled "new")⟩

/-- Once the engine is told of the new title, the batch that was under way serves nobody else. -/
theorem invalidation_final_retitled :
    let told := (retitled.step (.signal (.nodeChanged "post" "new"))).run askingOn
    retitled.engine.materializer.batchEntries = [(⟨"Post", 1, Session.shouts.required⟩, 0)] ∧
    (∀ key promise, (key, promise) ∈ told.engine.materializer.nodeEntries →
      key.id = "post" → key.version = "new") ∧
    ∀ typeName nodes fields key,
      (told.engine.materializer.request typeName nodes fields).2 ≠ .shared key 0 := by
  have hentries :
      retitled.engine.materializer.batchEntries = [(⟨"Post", 1, Session.shouts.required⟩, 0)] := by
    rw [retitled, start, Session.ofList_titled]
    with_unfolding_all rfl
  obtain ⟨stamp, hnode⟩ := node?_retitled
  have hquiet : ∀ event ∈ askingOn, ¬event.Stores "post" := by
    simp [askingOn, Event.Stores]
  obtain ⟨hversions, hbatches, -⟩ := invalidation_final Session.shoutRegistry { production := true }
    none [Session.titled "old"] _ askingOn hnode rfl
  refine ⟨hentries, hversions hquiet, ?_⟩
  intro typeName nodes fields key hrequest
  apply hbatches typeName nodes fields key 0 hrequest
  rw [show ((start _ _ none _).run _).engine.materializer.batchEntries = _ from hentries]
  exact List.mem_singleton_self _

end Exchange

end ContentQuery
