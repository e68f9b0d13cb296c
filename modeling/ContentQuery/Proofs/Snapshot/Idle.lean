import ContentQuery.Proofs.Snapshot.Queues
import ContentQuery.Proofs.Snapshot.Tasks
import ContentQuery.Proofs.Snapshot.View

/-!
# Where there is nothing to resolve

Work that calls no resolver ends as soon as it is polled. If none of the required fields of a type
has a resolver, the work on a node is of this kind and leaves the node as it is
(`Completion.idle_fields`), so that a request for snapshots gives copies of its nodes at once and
calls nobody (**`Materializer.ask_idle`**).
-/

namespace ContentQuery

open Json (Object)

/-! ## Work without resolvers -/

namespace Work

mutual

/-- The work calls no resolver, and comes to the value. -/
inductive Idle : Work → Json → Prop
  | done (v : Json) : Idle (.done v) v
  | join {parts : List Work} {next : List Json → Work} {vs : List Json} {v : Json} :
      AllIdle parts vs → Idle (next vs) v → Idle (.join parts next) v

/-- The works call no resolvers, and come to the values. -/
inductive AllIdle : List Work → List Json → Prop
  | nil : AllIdle [] []
  | cons {w : Work} {v : Json} {rest : List Work} {vs : List Json} :
      Idle w v → AllIdle rest vs → AllIdle (w :: rest) (v :: vs)

end

theorem Idle.bind {k : Json → Work} {v' : Json} :
    ∀ {w : Work} {v : Json}, w.Idle v → (k v).Idle v' → (w.bind k).Idle v'
  | _, _, .done _, hk => hk
  | _, _, .join hparts hnext, hk => .join hparts (hnext.bind hk)

theorem AllIdle.forall₂ {parts : List Work} {vs : List Json} (h : AllIdle parts vs) :
    List.Forall₂ Idle parts vs := by
  cases h with
  | nil => exact .nil
  | cons hfirst hrest => exact .cons hfirst hrest.forall₂

end Work

namespace Completion

mutual

/-- If the work on each object leaves it as it is, so does the work on a value. -/
theorem idle_inObjects {complete : Object → Work}
    (h : ∀ members, (complete members).Idle (.object members)) (v : Json) :
    (inObjects complete v).Idle v := by
  cases v with
  | object members => exact h members
  | array items => exact .join (allIdle_inItems h items) (.done _)
  | _ => exact .done _

theorem allIdle_inItems {complete : Object → Work}
    (h : ∀ members, (complete members).Idle (.object members)) (items : List Json) :
    Work.AllIdle (inItems complete items) items := by
  cases items with
  | nil => exact .nil
  | cons item rest => exact .cons (idle_inObjects h item) (allIdle_inItems h rest)

end

end Completion

/-- What it means for required fields that they need no resolver. -/
theorem Registry.of_needsResolver_cons {r : Registry} {t : ObjectType} {name : String}
    {inner rest : List RequiredField}
    (h : r.needsResolver t (⟨name, inner⟩ :: rest) = .ok false) :
    ∃ field, t.field? name = some field ∧ field.resolver = none ∧
      r.needsResolver t rest = .ok false ∧
      ∀ nested, field.kind.objectType? = some nested → ¬inner.isEmpty →
        ∃ t', r.type? nested = some t' ∧ r.needsResolver t' inner = .ok false := by
  rw [needsResolver, fieldNeedsResolver] at h
  cases hfield : t.field? name with
  | none =>
      rw [hfield] at h
      cases h
  | some field =>
      simp only [hfield] at h
      cases hresolver : field.resolver with
      | some resolver => simp [hresolver] at h
      | none =>
          simp only [hresolver, Option.isSome_none, Bool.false_eq_true, if_false] at h
          refine ⟨field, rfl, hresolver, ?_, fun nested hkind hinner => ?_⟩
          · split at h
            · cases h
            · exact h
            · cases h
          · simp only [hkind, if_neg hinner] at h
            cases ht : r.type? nested with
            | none => simp [ht] at h
            | some t' =>
                simp only [ht] at h
                refine ⟨t', rfl, ?_⟩
                split at h
                · cases h
                · assumption
                · cases h

namespace Completion

theorem idle_insideWork (c : Completion) {field : Field} {inner : List RequiredField}
    (h : ∀ nested, field.kind.objectType? = some nested → ¬inner.isEmpty →
      ∃ t, c.registry.type? nested = some t ∧
        ∀ members, (c.fields t inner members).Idle (.object members))
    (v : Json) : (c.insideWork field inner v).Idle v := by
  unfold insideWork
  cases hkind : field.kind.objectType? with
  | none => exact .done v
  | some nested =>
      dsimp only
      split
      · exact .done v
      · rename_i hwhole
        obtain ⟨t, ht, hmembers⟩ := h nested hkind fun hinner => hwhole (by simp [hinner])
        rw [ht]
        exact idle_inObjects hmembers v

/-- **Where no resolver is needed**, the work on required fields leaves the object as it is. -/
theorem idle_fields (c : Completion) (t : ObjectType) (required : List RequiredField)
    (hneeds : c.registry.needsResolver t required = .ok false) (source : Object) :
    (c.fields t required source).Idle (.object source) := by
  match required with
  | [] =>
      rw [fields]
      exact .done _
  | ⟨name, inner⟩ :: rest =>
      obtain ⟨field, hfield, hresolver, hrest, hinner⟩ := Registry.of_needsResolver_cons hneeds
      have hinside : ∀ v, (c.insideWork field inner v).Idle v := by
        refine c.idle_insideWork fun nested hkind hwhole => ?_
        obtain ⟨t', ht', hneeds'⟩ := hinner nested hkind hwhole
        exact ⟨t', ht', idle_fields c t' inner hneeds'⟩
      rw [fields_cons]
      simp only [hfield, hresolver]
      cases hvalue : source.get? name with
      | some v =>
          refine (hinside v).bind ?_
          rw [insert_get? hvalue]
          exact idle_fields c t rest hrest source
      | none => exact idle_fields c t rest hrest source
termination_by sizeOf required

end Completion

/-! ## Polls -/

namespace Work

/-- Polled so, work without resolvers ends at once, and nobody is called. -/
def Poll.Finishes (poll : Poll) : Prop :=
  ∀ w v, w.Idle v → ∀ waker s, ∃ agenda, poll waker w s = ({ s with agenda }, .done v) ∧
    s.agenda.Grows s.agenda.queues.size agenda

/-- Parts of a crowd that call no resolvers never pause. -/
theorem Poll.Finishes.prompt {poll : Poll} (h : poll.Finishes) :
    (crowdRule poll).Prompt (fun s s' => s'.journal = s.journal) (fun _ w v => w.Idle v)
      fun v' v => v' = v where
  agenda_withAgenda _ _ := rfl
  trans h h' := h'.trans h
  withAgenda _ _ := rfl
  mono _ hidle := hidle
  outcome := by
    intro s w v hidle result hresult
    cases hidle with
    | done => exact ⟨v, (Option.some.inj hresult).symm, rfl⟩
    | join => cases hresult
  poll := by
    intro s w v hidle waker
    obtain ⟨agenda, hpoll, hgrows⟩ := h w v hidle waker s
    rw [show (crowdRule poll).poll waker w s = _ from hpoll]
    exact ⟨rfl, .done v, rfl, hgrows⟩

theorem mapM_value?_done (vs : List Json) : (vs.map done).mapM value? = some vs := by
  induction vs with
  | nil => rfl
  | cons v rest ih =>
      rw [List.map_cons, List.mapM_cons, ih]
      rfl

/-- Work goes on from where the agenda was left. -/
theorem grows_trans {a a' a'' : Agenda} (h : a.Grows a.queues.size a')
    (h' : a'.Grows a'.queues.size a'') : a.Grows a.queues.size a'' := h.trans (h'.mono h.size)

mutual

theorem pollWith_idle (store : NodeStore) {inner : Option Poll}
    (hinner : ∀ poll ∈ inner, poll.Finishes) (waker : Waker) :
    ∀ {w : Work} {v : Json}, w.Idle v → ∀ s, ∃ agenda,
      pollWith store inner waker w s = ({ s with agenda }, .done v) ∧
        s.agenda.Grows s.agenda.queues.size agenda
  | _, v, .done _, s => ⟨s.agenda, rfl, .refl _⟩
  | _, v, @Idle.join parts next vs _ hparts hnext, s => by
      -- The parts end first, as a crowd or one by one, and then what follows.
      have hgoesOn : ∀ agenda, s.agenda.Grows s.agenda.queues.size agenda →
          ∃ agenda', pollWith store inner waker (next vs) { s with agenda } =
            ({ s with agenda := agenda' }, .done v) ∧
            s.agenda.Grows s.agenda.queues.size agenda' := by
        intro agenda hgrows
        obtain ⟨agenda', hpoll, hgrows'⟩ :=
          pollWith_idle store hinner waker hnext { s with agenda }
        exact ⟨agenda', hpoll, grows_trans hgrows hgrows'⟩
      rw [pollWith.eq_def]
      dsimp only
      split
      · rename_i poll _
        have hnew : s.agenda.Grows s.agenda.queues.size (s.agenda.newQueue parts.length).1 :=
          Agenda.grows_newQueue (Nat.le_refl _) parts.length
        let s₁ : PollState := { s with agenda := (s.agenda.newQueue parts.length).1 }
        have hqueue : ((crowdRule poll).agenda s₁).At (s.agenda.newQueue parts.length).2 0
            parts.length := s.agenda.at_newQueue parts.length
        obtain ⟨s', parts', vs', hpoll, hvs, hjournal, hgrows⟩ :=
          (hinner poll rfl).prompt.pollCrowd hparts.forall₂ hqueue (Nat.le_refl _) waker
        obtain rfl := List.forall₂_eq_eq_eq ▸ hvs
        obtain ⟨journal, agenda⟩ := s'
        obtain rfl := hjournal
        rw [hpoll]
        exact hgoesOn agenda (hnew.trans hgrows)
      · obtain ⟨agenda, hpoll, hgrows⟩ := pollAll_idle store hinner waker hparts s
        rw [hpoll]
        simp only [mapM_value?_done]
        exact hgoesOn agenda hgrows

theorem pollAll_idle (store : NodeStore) {inner : Option Poll}
    (hinner : ∀ poll ∈ inner, poll.Finishes) (waker : Waker) :
    ∀ {parts : List Work} {vs : List Json}, AllIdle parts vs → ∀ s, ∃ agenda,
      pollAll store inner waker parts s = ({ s with agenda }, .ok (vs.map done)) ∧
        s.agenda.Grows s.agenda.queues.size agenda
  | _, _, .nil, s => ⟨s.agenda, rfl, .refl _⟩
  | _, _, .cons hfirst hrest, s => by
      obtain ⟨agenda, hpoll, hgrows⟩ := pollWith_idle store hinner waker hfirst s
      obtain ⟨agenda', hpollRest, hgrows'⟩ :=
        pollAll_idle store hinner waker hrest { s with agenda }
      refine ⟨agenda', ?_, grows_trans hgrows hgrows'⟩
      rw [pollAll, hpoll]
      simp only [hpollRest]
      rfl

end

/-- **Work without resolvers ends at once**, however deep crowds are nested in it. -/
theorem finishes_poll (store : NodeStore) : Poll.Finishes (poll store) := by
  have hdown : ∀ depth, (pollDown store depth).Finishes := by
    intro depth
    induction depth with
    | zero => exact fun w v h waker s => pollWith_idle store (fun _ h => by cases h) waker h s
    | succ depth ih =>
        refine fun w v h waker s => pollWith_idle store ?_ waker h s
        rintro poll ⟨⟩
        exact ih
  exact hdown maxDepth

end Work

/-! ## Tasks -/

/-- A snapshot shows the node or, if snapshots are shared, one with its id and its version. -/
def Node.Copies (shared : Bool) (nodes : List Node) (snapshot node : Node) : Prop :=
  ∃ other ∈ nodes, snapshot.Alike other ∧
    (other = node ∨ shared = true ∧ other.id = node.id ∧ other.digest = node.digest)

section

variable (nodes : List Node) (fields : RequiredFields)

/-- The promise is kept with a copy of a node with the key, or will be at the next poll. -/
def Promise.Copies (key : NodeKey) : Promise (Node × Work) Node → Prop
  | .pending (copy, work) =>
    copy ∈ nodes ∧ NodeKey.ofNode copy fields = key ∧ work.Idle (.object copy.body)
  | .kept (.ok snapshot) =>
    ∃ node ∈ nodes, NodeKey.ofNode node fields = key ∧ snapshot.Alike node
  | .kept (.error _) => False

/-- The same for a promise by its number. -/
def Materializer.Copies (m : Materializer) (key : NodeKey) (promise : Nat) : Prop :=
  ∃ bell state, m.nodePromises[promise]? = some ⟨bell, state⟩ ∧ state.Copies nodes fields key

/-- The task comes to a copy of the node as soon as it is polled. -/
def Task.Ready (m : Materializer) (task : Task) (node : Node) : Prop :=
  match task with
  | .own copy work => copy = node ∧ node ∈ nodes ∧ work.Idle (.object node.body)
  | .shared key promise =>
    m.policy.nodes = true ∧ key = .ofNode node fields ∧ m.Copies nodes fields key promise
  | .finished snapshot => snapshot.Copies m.policy.nodes nodes node
  | .failed _ => False

/-- Nobody was called, and promises come to what they did. -/
structure Materializer.Calm (m m' : Materializer) : Prop where
  registry : m'.registry = m.registry
  policy : m'.policy = m.policy
  journal : m'.journal = m.journal
  copies : ∀ key promise, m.Copies nodes fields key promise → m'.Copies nodes fields key promise

end

namespace Materializer

variable {nodes : List Node} {fields : RequiredFields} {m m' : Materializer}

namespace Calm

theorem refl (m : Materializer) : m.Calm nodes fields m := ⟨rfl, rfl, rfl, fun _ _ h => h⟩

theorem trans {m'' : Materializer} (h : m.Calm nodes fields m') (h' : m'.Calm nodes fields m'') :
    m.Calm nodes fields m'' where
  registry := h'.registry.trans h.registry
  policy := h'.policy.trans h.policy
  journal := h'.journal.trans h.journal
  copies key promise hcopies := h'.copies key promise (h.copies key promise hcopies)

theorem agenda (m : Materializer) (agenda : Agenda) : m.Calm nodes fields { m with agenda } :=
  ⟨rfl, rfl, rfl, fun _ _ h => h⟩

theorem ready (h : m.Calm nodes fields m') {task : Task} {node : Node}
    (htask : task.Ready nodes fields m node) : task.Ready nodes fields m' node := by
  cases task with
  | own copy work => exact htask
  | shared key promise =>
      obtain ⟨hpolicy, hkey, hcopies⟩ := htask
      exact ⟨h.policy ▸ hpolicy, hkey, h.copies key promise hcopies⟩
  | finished snapshot =>
      unfold Task.Ready
      rw [h.policy]
      exact htask
  | failed e => exact htask

end Calm

/-- Work without resolvers on a node comes to a copy of it at once. -/
theorem pollWork_idle (m : Materializer) (store : NodeStore) (waker : Waker) {copy : Node}
    {work : Work} (h : work.Idle (.object copy.body)) :
    ∃ agenda, m.pollWork store waker copy work =
        ({ m with agenda, nextStamp := m.nextStamp + 1 },
          .kept (.ok (copy.withBody copy.body m.nextStamp))) ∧
      m.agenda.Grows m.agenda.queues.size agenda := by
  obtain ⟨agenda, hpoll, hgrows⟩ := Work.finishes_poll store work _ h waker m.toPollState
  refine ⟨agenda, ?_, hgrows⟩
  rw [pollWork, hpoll]
  rfl

/-- A promise that was pending is kept with a copy of its node. -/
theorem Calm.keep {promise bell : Nat} {copy : Node} {work : Work}
    (hpending : m.nodePromises[promise]? = some ⟨bell, .pending (copy, work)⟩) {snapshot : Node}
    (halike : snapshot.Alike copy) (agenda : Agenda) (stamp : Nat) :
    m.Calm nodes fields { m with
      agenda
      nextStamp := stamp
      nodePromises := m.nodePromises.setIfInBounds promise ⟨bell, .kept (.ok snapshot)⟩ } where
  registry := rfl
  policy := rfl
  journal := rfl
  copies := by
    rintro key other ⟨bell', state, hstate, hcopies⟩
    have hlt : promise < m.nodePromises.size := (Array.getElem?_eq_some_iff.mp hpending).1
    by_cases heq : promise = other
    · subst heq
      obtain ⟨-, rfl⟩ := SharedPromise.mk.inj (Option.some.inj (hstate.symm.trans hpending))
      obtain ⟨hmem, hkey, -⟩ := hcopies
      exact ⟨bell, _, Array.getElem?_setIfInBounds_self_of_lt hlt, copy, hmem, hkey, halike⟩
    · exact ⟨bell', state, (Array.getElem?_setIfInBounds_ne heq).trans hstate, hcopies⟩

/-- **A task that is ready** comes to a copy of its node as soon as it is polled. -/
theorem pollTask_ready {task : Task} {node : Node} (h : task.Ready nodes fields m node)
    (store : NodeStore) (waker : Waker) :
    ∃ snapshot, (pollTask store waker task m).2 = .finished snapshot ∧
      snapshot.Copies m.policy.nodes nodes node ∧
      m.Calm nodes fields (pollTask store waker task m).1 ∧
      m.agenda.Grows m.agenda.queues.size (pollTask store waker task m).1.agenda := by
  cases task with
  | finished snapshot => exact ⟨snapshot, rfl, h, .refl m, .refl _⟩
  | failed e => exact h.elim
  | own copy work =>
      obtain ⟨rfl, hmem, hidle⟩ := h
      obtain ⟨agenda, hpoll, hgrows⟩ := m.pollWork_idle store waker hidle
      rw [pollTask, hpoll]
      exact ⟨_, rfl, ⟨copy, hmem, rfl, .inl rfl⟩, ⟨rfl, rfl, rfl, fun _ _ hcopies => hcopies⟩,
        hgrows⟩
  | shared key promise =>
      obtain ⟨hshared, rfl, bell, state, hstate, hcopies⟩ := h
      rcases state with ⟨copy, work⟩ | e | snapshot
      · obtain ⟨hmem, hkey, hidle⟩ := hcopies
        let listening : Materializer := { m with agenda := m.agenda.listen bell waker }
        obtain ⟨agenda, hpoll, hgrows⟩ := listening.pollWork_idle store (.bell bell) hidle
        have halike : (copy.withBody copy.body m.nextStamp).Alike copy := rfl
        have hpolled : pollTask store waker (.shared (.ofNode node fields) promise) m =
            ({ m with
              agenda := agenda.ring bell
              nextStamp := m.nextStamp + 1
              nodePromises := m.nodePromises.setIfInBounds promise
                ⟨bell, .kept (.ok (copy.withBody copy.body m.nextStamp))⟩ },
              .finished (copy.withBody copy.body m.nextStamp)) := by
          simp only [pollTask, hstate]
          rw [hpoll]
          rfl
        rw [hpolled]
        have hlistening : m.agenda.Grows m.agenda.queues.size listening.agenda := .of_queues rfl
        obtain ⟨hid, hdigest, -⟩ := NodeKey.mk.inj hkey
        exact ⟨_, rfl, ⟨copy, hmem, halike, .inr ⟨hshared, hid, hdigest⟩⟩, .keep hstate halike _ _,
          (Work.grows_trans hlistening hgrows).trans (Agenda.grows_ring agenda bell)⟩
      · exact hcopies.elim
      · obtain ⟨other, hmem, hkey, halike⟩ := hcopies
        obtain ⟨hid, hdigest, -⟩ := NodeKey.mk.inj hkey
        simp only [pollTask, hstate, settle]
        exact ⟨snapshot, rfl, ⟨other, hmem, halike, .inr ⟨hshared, hid, hdigest⟩⟩, .refl m, .refl _⟩

/-- Ready tasks never pause. -/
theorem prompt_tasks (store : NodeStore) (nodes : List Node) (fields : RequiredFields)
    (shared : Bool) :
    (crowdRule store).Prompt (Calm nodes fields)
      (fun m task node => m.policy.nodes = shared ∧ task.Ready nodes fields m node)
      (Node.Copies shared nodes) where
  agenda_withAgenda _ _ := rfl
  trans h h' := h.trans h'
  withAgenda m agenda := .agenda m agenda
  mono := by
    rintro m m' task node hcalm ⟨hpolicy, htask⟩
    exact ⟨hcalm.policy ▸ hpolicy, hcalm.ready htask⟩
  outcome := by
    rintro m task node ⟨rfl, htask⟩ result hresult
    cases task with
    | finished snapshot => exact ⟨snapshot, (Option.some.inj hresult).symm, htask⟩
    | failed e => exact htask.elim
    | _ => cases hresult
  poll := by
    rintro m task node ⟨rfl, htask⟩ waker
    obtain ⟨snapshot, hpoll, hcopies, hcalm, hgrows⟩ := pollTask_ready htask store waker
    show ((pollTask store waker task m).2.outcome?).isSome ∧ _
    rw [hpoll]
    refine ⟨rfl, ⟨congrArg CachePolicy.nodes hcalm.policy, ?_⟩, hcalm, hgrows⟩
    show (pollTask store waker task m).2.Ready nodes fields (pollTask store waker task m).1 node
    rw [hpoll, Task.Ready, hcalm.policy]
    exact hcopies

/-- Ready tasks that are polled in turn all come to copies of their nodes. -/
theorem pollTasks_ready (store : NodeStore) (waker : Waker) {tasks : List Task} {asked : List Node}
    (h : List.Forall₂ (Task.Ready nodes fields m) tasks asked) :
    ∃ snapshots, (pollTasks store waker tasks m).2 = .ok (snapshots.map .finished) ∧
      List.Forall₂ (Node.Copies m.policy.nodes nodes) snapshots asked ∧
      m.Calm nodes fields (pollTasks store waker tasks m).1 := by
  induction tasks generalizing asked m with
  | nil =>
      cases h
      exact ⟨[], rfl, .nil, .refl m⟩
  | cons task rest ih =>
      cases h with
      | @cons _ node _ others hfirst hrest =>
          obtain ⟨snapshot, hpoll, hcopies, hcalm, -⟩ := pollTask_ready hfirst store waker
          rcases hpolled : pollTask store waker task m with ⟨m₁, task'⟩
          rw [hpolled] at hpoll hcalm
          obtain rfl : task' = .finished snapshot := hpoll
          obtain ⟨snapshots, hpollRest, hcopiesRest, hcalmRest⟩ :=
            ih (hrest.imp fun _ _ hready => hcalm.ready hready)
          rcases hpolledRest : pollTasks store waker rest m₁ with ⟨m₂, result⟩
          rw [hpolledRest] at hpollRest hcalmRest
          obtain rfl : result = .ok (snapshots.map .finished) := hpollRest
          rw [hcalm.policy] at hcopiesRest
          rw [pollTasks, hpolled]
          simp only [hpolledRest]
          exact ⟨snapshot :: snapshots, rfl, .cons hcopies hcopiesRest, hcalm.trans hcalmRest⟩

theorem mapM_snapshot?_finished (snapshots : List Node) :
    (snapshots.map Task.finished).mapM Task.snapshot? = some snapshots := by
  induction snapshots with
  | nil => rfl
  | cons snapshot rest ih =>
      rw [List.map_cons, List.mapM_cons, ih]
      rfl

/-! ## Batches -/

/-- Every entry leads to a promise that comes to a copy of one of the nodes. -/
def Seeded (nodes : List Node) (fields : RequiredFields) (m : Materializer) : Prop :=
  ∀ key promise, (key, promise) ∈ m.nodeEntries → m.Copies nodes fields key promise

/-- A task that is set up is ready, if no resolver is needed. -/
theorem task_ready (hseeded : m.Seeded nodes fields) {t : ObjectType}
    (hneeds : m.registry.needsResolver t fields = .ok false) {node : Node} (hnode : node ∈ nodes) :
    (m.task t fields node).1.Seeded nodes fields ∧
      m.Calm nodes fields (m.task t fields node).1 ∧
      (m.task t fields node).2.Ready nodes fields (m.task t fields node).1 node := by
  have hidle : (node.completion m.registry m.path t fields).Idle (.object node.body) :=
    Completion.idle_fields ⟨m.registry, m.path, node.id⟩ t fields hneeds node.body
  unfold task
  dsimp only
  split
  · exact ⟨hseeded, .refl m, rfl, hnode, hidle⟩
  · rename_i hpolicy
    have hshared : m.policy.nodes = true := by simpa using hpolicy
    split
    · rename_i promise hlookup
      obtain ⟨before, after, hentries, _⟩ := List.lookup_eq_some_iff.mp hlookup
      exact ⟨hseeded, ⟨rfl, rfl, rfl, fun _ _ h => h⟩, hshared, rfl,
        hseeded _ promise (by simp [hentries])⟩
    · let made : Materializer := { m with
        agenda := m.agenda.newBell.1
        nodePromises := m.nodePromises.push
          ⟨m.agenda.newBell.2, .pending (node, node.completion m.registry m.path t fields)⟩
        nodeEntries := m.nodeEntries ++ [(.ofNode node fields, m.nodePromises.size)]
        nodeMisses := m.nodeMisses + 1 }
      have hold : ∀ key promise, m.Copies nodes fields key promise →
          made.Copies nodes fields key promise := by
        rintro key promise ⟨bell, state, hstate, hcopies⟩
        exact ⟨bell, state, SharedPromise.getElem?_push_of_some hstate, hcopies⟩
      have hnew : made.Copies nodes fields (.ofNode node fields) m.nodePromises.size :=
        ⟨_, _, Array.getElem?_push_size, hnode, rfl, hidle⟩
      refine ⟨fun key promise hmem => ?_, ⟨rfl, rfl, rfl, hold⟩, hshared, rfl, hnew⟩
      rcases List.mem_append.mp hmem with hmem | hmem
      · exact hold key promise (hseeded key promise hmem)
      · obtain ⟨rfl, rfl⟩ := Prod.mk.inj (List.mem_singleton.mp hmem)
        exact hnew

theorem tasks_ready {t : ObjectType} (asked : List Node) (hasked : asked ⊆ nodes)
    (hseeded : m.Seeded nodes fields) (hneeds : m.registry.needsResolver t fields = .ok false) :
    m.Calm nodes fields (m.tasks t fields asked).1 ∧
      List.Forall₂ (Task.Ready nodes fields (m.tasks t fields asked).1)
        (m.tasks t fields asked).2 asked := by
  induction asked generalizing m with
  | nil => exact ⟨.refl m, .nil⟩
  | cons node rest ih =>
      obtain ⟨hseeded', hcalm, hready⟩ := task_ready hseeded hneeds (hasked List.mem_cons_self)
      obtain ⟨hcalm', hrest⟩ := ih (fun _ hother => hasked (List.mem_cons_of_mem _ hother)) hseeded'
        (hcalm.registry ▸ hneeds)
      exact ⟨hcalm.trans hcalm', .cons (hcalm'.ready hready) hrest⟩

/-- Ready tasks that are polled in turn finish their batch. -/
theorem pollRunning_ready (store : NodeStore) (waker : Waker) {tasks : List Task}
    {asked : List Node} (h : List.Forall₂ (Task.Ready nodes fields m) tasks asked) :
    ∃ m' snapshots, m.pollRunning store waker tasks = (m', .kept (.ok snapshots)) ∧
      List.Forall₂ (Node.Copies m.policy.nodes nodes) snapshots asked ∧ m.Calm nodes fields m' := by
  obtain ⟨snapshots, hpoll, hcopies, hcalm⟩ := pollTasks_ready store waker h
  rcases hpolled : pollTasks store waker tasks m with ⟨m', result⟩
  rw [hpolled] at hpoll hcalm
  obtain rfl : result = .ok (snapshots.map .finished) := hpoll
  refine ⟨m', snapshots, ?_, hcopies, hcalm⟩
  rw [pollRunning, hpolled]
  simp only [mapM_snapshot?_finished]

/-- Ready tasks that are a new crowd finish their batch. -/
theorem pollCrowd_ready (store : NodeStore) (waker : Waker) {number : Nat} {tasks : List Task}
    {asked : List Node} (h : List.Forall₂ (Task.Ready nodes fields m) tasks asked)
    (hqueue : m.agenda.At number 0 tasks.length) :
    ∃ m' snapshots, m.pollCrowd store waker number tasks = (m', .kept (.ok snapshots)) ∧
      List.Forall₂ (Node.Copies m.policy.nodes nodes) snapshots asked ∧ m.Calm nodes fields m' := by
  obtain ⟨m', tasks', snapshots, hpoll, hcopies, hcalm, -⟩ :=
    (prompt_tasks store nodes fields m.policy.nodes).pollCrowd
      (h.imp fun _ _ hready => ⟨rfl, hready⟩) hqueue (Nat.zero_le _) waker
  refine ⟨m', snapshots, ?_, hcopies, hcalm⟩
  rw [pollCrowd, hpoll]

/-- A batch that is begun while no snapshots are cached is finished by its first poll. -/
theorem pollBatch_idle (hempty : m.nodeEntries = []) {typeName : String}
    (hneeds : m.needsResolution typeName fields = .ok false) (nodes : List Node) (store : NodeStore)
    (waker : Waker) :
    ∃ m' snapshots,
      m.pollBatch store waker (.fresh typeName nodes fields) = (m', .kept (.ok snapshots)) ∧
      List.Forall₂ (Node.Copies m.policy.nodes nodes) snapshots nodes ∧ m.Calm nodes fields m' := by
  rw [needsResolution, Registry.needsResolution] at hneeds
  cases ht : m.registry.type? typeName with
  | none =>
      rw [ht] at hneeds
      cases hneeds
  | some t =>
      rw [ht] at hneeds
      have hseeded : m.Seeded nodes fields := by simp [Seeded, hempty]
      obtain ⟨hcalm, hready⟩ := tasks_ready nodes (List.Subset.refl nodes) hseeded hneeds
      simp only [pollBatch, ht]
      rcases hmade : m.tasks t fields nodes with ⟨m₁, tasks⟩
      rw [hmade] at hcalm hready
      rw [← hcalm.policy]
      dsimp only
      split
      · have hagenda : m₁.Calm nodes fields
            { m₁ with agenda := (m₁.agenda.newQueue tasks.length).1 } := .agenda m₁ _
        obtain ⟨m', snapshots, hpoll, hcopies, hcalm'⟩ :=
          pollCrowd_ready store waker (hready.imp fun _ _ htask => hagenda.ready htask)
            (m₁.agenda.at_newQueue tasks.length)
        exact ⟨m', snapshots, hpoll, hcopies, hcalm.trans (hagenda.trans hcalm')⟩
      · obtain ⟨m', snapshots, hpoll, hcopies, hcalm'⟩ := pollRunning_ready store waker hready
        exact ⟨m', snapshots, hpoll, hcopies, hcalm.trans hcalm'⟩

/-! ## Requests -/

/-- Asks for snapshots and begins to make them. -/
def ask (m : Materializer) (store : NodeStore) (waker : Waker) (typeName : String)
    (nodes : List Node) (fields : RequiredFields) :
    Materializer × Promise SnapshotRequest (List Node) :=
  let (m, request) := m.request typeName nodes fields
  m.poll store waker request

/-- A shared batch that is finished by a poll hands on its snapshots. -/
theorem poll_of_finishes {store : NodeStore} {waker : Waker} {promise bell : Nat} {batch : Batch}
    {snapshots : List Node} (key : BatchKey)
    (hpending : m.batchPromises[promise]? = some ⟨bell, .pending batch⟩)
    (hpoll : { m with agenda := m.agenda.listen bell waker }.pollBatch store (.bell bell) batch =
      (m', .kept (.ok snapshots))) :
    m.poll store waker (.shared key promise) =
      ({ m' with
        agenda := m'.agenda.ring bell
        batchPromises := m'.batchPromises.setIfInBounds promise ⟨bell, .kept (.ok snapshots)⟩ },
        .kept (.ok snapshots)) := by
  simp only [poll, hpending]
  rw [hpoll]
  rfl

/-- **Where there is nothing to resolve and nothing is cached**, snapshots are there at once, each a
copy of its node or of one that has its id and its version, and nobody is called for them. -/
theorem ask_idle (hnodes : m.nodeEntries = []) (hbatches : m.batchEntries = []) {typeName : String}
    (hneeds : m.needsResolution typeName fields = .ok false) (nodes : List Node) (store : NodeStore)
    (waker : Waker) :
    ∃ m' snapshots,
      m.ask store waker typeName nodes fields = (m', .kept (.ok snapshots)) ∧
      m'.journal = m.journal ∧ List.Forall₂ (Node.Copies m.policy.nodes nodes) snapshots nodes := by
  unfold ask request
  dsimp only
  split
  · obtain ⟨m', snapshots, hpoll, hcopies, hcalm⟩ := pollBatch_idle hnodes hneeds nodes store waker
    refine ⟨m', snapshots, ?_, hcalm.journal, hcopies⟩
    simp only [poll, hpoll]
  · -- The batch is one that others may wait for, and is finished before anyone can.
    simp only [hbatches, List.lookup_nil]
    let listening : Materializer := { m with
      agenda := m.agenda.newBell.1.listen m.agenda.newBell.2 waker
      batchPromises := m.batchPromises.push
        ⟨m.agenda.newBell.2, .pending (.fresh typeName nodes fields)⟩
      batchEntries := [(⟨typeName, nodes.length, fields⟩, m.batchPromises.size)]
      batchMisses := m.batchMisses + 1 }
    obtain ⟨m', snapshots, hpoll, hcopies, hcalm⟩ :=
      pollBatch_idle (m := listening) hnodes hneeds nodes store (.bell m.agenda.newBell.2)
    exact ⟨_, snapshots, poll_of_finishes _ Array.getElem?_push_size hpoll, hcalm.journal, hcopies⟩

end Materializer

end ContentQuery
