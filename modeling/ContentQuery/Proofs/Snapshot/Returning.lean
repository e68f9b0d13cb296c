import ContentQuery.Proofs.Snapshot.Desk
import ContentQuery.Proofs.Snapshot.Minding
import ContentQuery.Proofs.Snapshot.Resolution
import Mathlib.Logic.Function.Iterate

/-!
# Every request returns

A request that is polled in rounds, at the end of each of which all who asked for it are woken, comes to
an end (**`Desk.returns`**), if nothing is cached.
-/

namespace ContentQuery

open CrowdRule (AllMinded InTurn Manned Minds Stride)
open Json (Object)

/-! ## Completing a node takes no crowds at first -/

theorem Work.Fresh.bind {w : Work} (h : w.Fresh) {k : Json → Work} (hk : ∀ v, (k v).Fresh) :
    (w.bind k).Fresh := by
  induction h with
  | done v => exact hk v
  | failed e => exact .failed e
  | call _ ih => exact .call ih
  | waiting _ ih => exact .waiting ih
  | join hparts _ _ ih => exact .join hparts ih

namespace Completion

mutual

theorem fresh_inObjects {complete : Object → Work} (h : ∀ members, (complete members).Fresh) (v : Json) :
    (inObjects complete v).Fresh := by
  cases v with
  | object members => exact h members
  | array items => exact .join (fresh_inItems h items) fun vs => .done _
  | _ => exact .done _

theorem fresh_inItems {complete : Object → Work} (h : ∀ members, (complete members).Fresh)
    (items : List Json) : ∀ part ∈ inItems complete items, part.Fresh := by
  cases items with
  | nil => exact fun _ hmem => nomatch hmem
  | cons item rest => exact List.forall_mem_cons.mpr ⟨fresh_inObjects h item, fresh_inItems h rest⟩

end

theorem fresh_fields (c : Completion) (t : ObjectType) (required : List RequiredField)
    (source : Object) : (c.fields t required source).Fresh := by
  match required with
  | [] =>
      rw [fields]
      exact .done _
  | ⟨name, inner⟩ :: rest =>
      rw [fields_cons]
      cases t.field? name with
      | none => exact .failed _
      | some field =>
          have hgoesOn : ∀ v, ((c.insideWork field inner v).bind fun w =>
              c.fields t rest (source.insert name w)).Fresh := by
            intro v
            refine Work.Fresh.bind ?_ fun w => fresh_fields c t rest _
            unfold insideWork
            split
            · exact .done v
            · split
              · exact .done v
              · split
                · exact .failed _
                · exact fresh_inObjects (fun members => fresh_fields c _ inner members) v
          dsimp only
          split
          · refine .call fun answer => ?_
            split
            · exact hgoesOn _
            · exact .failed _
          · split
            · exact hgoesOn _
            · exact fresh_fields c t rest source
termination_by sizeOf required

end Completion

/-! ## Tasks -/

namespace Task

/-- A task has minded work of its own, or it is finished. Work that was finished from the start is still
to be polled once. -/
def Minded (a : Agenda) (X : Nat → Prop) (waker : Waker) (Told : Prop) : Task → Prop
  | .own _ work => work.Minded a Work.maxDepth X waker Told ∧ (work.outcome? = none ∨ Told)
  | .shared _ _ => False
  | _ => True

theorem minds : Minds outcome? Minded where
  finished {a X waker Told task} hsome := by
    cases task with
    | own node work => cases hsome
    | shared key promise => cases hsome
    | _ => trivial
  told {a X waker Told task} h hsleepers hpending := by
    cases task with
    | own node work =>
        rcases h.2 with hwork | htold
        · exact h.1.told hsleepers hwork
        · exact htold
    | shared key promise => exact h.elim
    | _ => cases hpending
  keeps {a a' X waker Told Told' task} h hkeeps htold := by
    cases task with
    | own node work => exact ⟨h.1.keeps hkeeps htold, h.2.imp_right htold⟩
    | shared key promise => exact h.elim
    | _ => trivial
  widen {a X X' waker Told task} h hX := by
    cases task with
    | own node work => exact ⟨h.1.widen hX, h.2⟩
    | shared key promise => exact h.elim
    | _ => trivial

end Task

namespace Materializer

variable {m : Materializer} {X : Nat → Prop} {waker : Waker}

/-- **One poll of a minded task is a stride.** -/
theorem pollTask_stride (store : NodeStore) (task : Task) (hsound : m.agenda.Sound)
    (hwaker : waker.Within fun number => ¬ X number ∧ number < m.agenda.queues.size)
    (h : task.Minded m.agenda X waker True) :
    Stride Task.outcome? Task.Goes Task.Minded X waker m.agenda task
      (pollTask store waker task m).1.agenda (pollTask store waker task m).2 := by
  cases task with
  | finished snapshot => exact ⟨.refl _, trivial, .refl, fun _ hpending => by cases hpending⟩
  | failed e => exact ⟨.refl _, trivial, .refl, fun _ hpending => by cases hpending⟩
  | shared key promise => exact h.elim
  | own node work =>
      rw [pollTask, pollWork]
      rcases hpolled : Work.poll store waker work m.toPollState with ⟨s, left⟩
      obtain ⟨hstride, hpending⟩ := Work.poll_stride hsound hwaker h.1 hpolled
      have hfollows : Relation.ReflTransGen Task.Goes (.own node work) (.own node left) :=
        hstride.follows.lift (Task.own node) fun _ _ => .work
      cases left with
      | done v =>
          have hfinish := Relation.TransGen.tail' hfollows
            (.finish (node.withBody v.members m.nextStamp))
          exact ⟨hstride.leaves, trivial, hfinish.to_reflTransGen, fun _ _ => hfinish⟩
      | failed e =>
          have hfail := Relation.TransGen.tail' hfollows (.fail e)
          exact ⟨hstride.leaves, trivial, hfail.to_reflTransGen, fun _ _ => hfail⟩
      | call | waiting | join | crowd =>
          refine ⟨hstride.leaves, ⟨hstride.minded, .inl rfl⟩, hfollows, fun hsleepers _ => ?_⟩
          exact (hstride.advances hsleepers (hpending rfl)).lift (Task.own node) fun _ _ => .work

/-- Tasks that are polled in turn make a stride each, up to the first that fails. -/
theorem pollTasks_inTurn (store : NodeStore) {tasks : List Task} (hsound : m.agenda.Sound)
    (hwaker : waker.Within fun number => ¬ X number ∧ number < m.agenda.queues.size)
    (h : AllMinded Task.Minded m.agenda X waker True tasks) :
    m.agenda.Leaves (fun number => ¬ X number) waker (pollTasks store waker tasks m).1.agenda ∧
      ∀ tasks', (pollTasks store waker tasks m).2 = .ok tasks' →
        InTurn Task.outcome? Task.Goes Task.Minded X waker m.agenda tasks
          (pollTasks store waker tasks m).1.agenda tasks' ∧
        ∀ task ∈ tasks', ∀ e, task ≠ .failed e := by
  induction tasks generalizing m X with
  | nil =>
      refine ⟨.refl _, fun tasks' hok => ?_⟩
      obtain rfl := Except.ok.inj hok
      exact ⟨.nil, fun _ hmem => nomatch hmem⟩
  | cons task rest ih =>
      obtain ⟨place, hminded⟩ := h
      have hfirst := pollTask_stride (X := fun number => X number ∧ place number = 0) store task hsound
        (hwaker.imp fun _ hnumber => ⟨fun hin => hnumber.1 hin.1, hnumber.2⟩) (hminded 0 task rfl)
      have hrest := hfirst.allMinded Task.minds hminded hwaker
      have hidle : (task.outcome?).isSome → (pollTask store waker task m).2 = task ∧
          (pollTask store waker task m).1.agenda.sleepers = m.agenda.sleepers := by
        intro hsome
        cases task <;> cases hsome <;> exact ⟨rfl, rfl⟩
      rw [pollTasks]
      rcases hpoll : pollTask store waker task m with ⟨m₁, task'⟩
      rw [hpoll] at hfirst hrest hidle
      obtain ⟨hleaves₁, hsound₁, hwaker₁⟩ := hfirst.others_ready hsound hwaker
      obtain ⟨hleaves, hturn⟩ := ih hsound₁ hwaker₁ hrest
      have hleaves₂ := hleaves₁.trans hleaves fun _ _ hX hin => hX hin.1.1
      split
      · rename_i heq
        obtain ⟨rfl, -⟩ := Prod.mk.inj heq
        exact ⟨hleaves₁, fun _ hok => by cases hok⟩
      · rename_i hsucceeds heq
        obtain ⟨rfl, rfl⟩ := Prod.mk.inj heq
        split
        · rename_i m₂ e hmore
          rw [hmore] at hleaves₂
          exact ⟨hleaves₂, fun _ hok => by cases hok⟩
        · rename_i m₂ rest' hmore
          rw [hmore] at hleaves₂ hturn
          refine ⟨hleaves₂, fun _ hok => ?_⟩
          obtain rfl := Except.ok.inj hok
          obtain ⟨hturn, hfailed⟩ := hturn rest' rfl
          refine ⟨.cons Task.minds hwaker hfirst hidle hturn, List.forall_mem_cons.mpr ⟨?_, hfailed⟩⟩
          rintro e rfl
          exact hsucceeds e rfl

/-- **A crowd of tasks is attended.** -/
theorem attends_crowdRule (store : NodeStore) :
    (crowdRule store).Attends Task.Goes Task.Minded where
  toMinds := Task.minds
  agenda _ _ := rfl
  idle {waker task m} hsome := by
    cases task <;> cases hsome <;> rfl
  poll hsound hwaker h := pollTask_stride store _ hsound hwaker h

end Materializer

/-! ## Batches -/

/-- A batch whose tasks are minded for whoever polls from outside. -/
inductive Batch.Minded (a : Agenda) : Batch → List Task → Prop
  | running {tasks : List Task} :
      AllMinded Task.Minded a (fun _ => True) .caller True tasks → Minded a (.running tasks) tasks
  | crowd {number : Nat} {tasks : List Task} :
      Manned Task.outcome? Task.Minded (fun _ => True) number a tasks →
      Minded a (.crowd number tasks) tasks

/-- A batch has gone on: it is kept, or its tasks are minded. They have gone forward if everyone had
been woken. -/
structure Batch.GoesOn (a : Agenda) (tasks : List Task) (a' : Agenda)
    (state : Promise Batch (List Node)) : Prop where
  sound : a'.Sound
  pending : ∀ batch, state = .pending batch → ∃ tasks', batch.Minded a' tasks' ∧
    (a.sleepers = [] → Relation.TransGen (OneGoes Task.Goes) tasks tasks')

/-- Minding lasts until the next round. -/
theorem Batch.Minded.rouse {a : Agenda} {batch : Batch} {tasks : List Task} (h : batch.Minded a tasks)
    (hsound : a.Sound) : batch.Minded a.rouse tasks := by
  have hkeeps := hsound.rouse.2.2 (fun _ => True) .caller
  rw [Agenda.called_caller] at hkeeps
  cases h with
  | running hminded => exact .running (hminded.keeps Task.minds hkeeps id)
  | crowd hmanned => exact .crowd (hmanned.keeps Task.minds hkeeps)

namespace Materializer

variable {m : Materializer} {tasks : List Task}

theorem pollRunning_goesOn (store : NodeStore) (hsound : m.agenda.Sound)
    (h : AllMinded Task.Minded m.agenda (fun _ => True) .caller True tasks) :
    Batch.GoesOn m.agenda tasks (m.pollRunning store .caller tasks).1.agenda
      (m.pollRunning store .caller tasks).2 := by
  have hcaller : Waker.caller.Within fun number => ¬ True ∧ number < m.agenda.queues.size := trivial
  obtain ⟨hleaves, hturn⟩ := pollTasks_inTurn store hsound hcaller h
  rw [pollRunning]
  rcases hpolled : pollTasks store .caller tasks m with ⟨m', e | tasks'⟩
  · rw [hpolled] at hleaves
    exact ⟨hleaves.sound hsound trivial, fun _ heq => by cases heq⟩
  · rw [hpolled] at hleaves hturn
    obtain ⟨⟨-, hminded, -, hadvances⟩, hfailed⟩ := hturn tasks' rfl
    have hsound' := hleaves.sound hsound trivial
    dsimp only
    split
    · exact ⟨hsound', fun _ heq => by cases heq⟩
    · rename_i hnone
      refine ⟨hsound', fun batch heq => ?_⟩
      obtain rfl := Promise.pending.inj heq
      simp only [Agenda.called_caller] at hminded
      refine ⟨tasks', .running (hminded.widen Task.minds fun _ _ _ => trivial), fun hsleepers => ?_⟩
      obtain ⟨task, hmem, htask⟩ := exists_of_mapM_none hnone
      refine hadvances hsleepers ⟨task, hmem, ?_⟩
      cases task with
      | finished snapshot => cases htask
      | failed e => exact absurd rfl (hfailed _ hmem e)
      | _ => rfl

theorem pollCrowd_goesOn (store : NodeStore) {number : Nat} (hsound : m.agenda.Sound)
    (h : Manned Task.outcome? Task.Minded (fun _ => True) number m.agenda tasks) :
    Batch.GoesOn m.agenda tasks (m.pollCrowd store .caller number tasks).1.agenda
      (m.pollCrowd store .caller number tasks).2 := by
  have hcaller : Waker.caller.Within fun number => ¬ True ∧ number < m.agenda.queues.size := trivial
  obtain ⟨hleaves, -, hadvanced⟩ := (attends_crowdRule store).pollCrowd hsound h hcaller
  rw [pollCrowd]
  rcases hpolled : (crowdRule store).pollCrowd number .caller m tasks with ⟨m', tasks', _ | result⟩
  · rw [hpolled] at hleaves hadvanced
    refine ⟨hleaves.sound hsound trivial, fun batch heq => ?_⟩
    obtain rfl := Promise.pending.inj heq
    obtain ⟨hmanned, -, -, hadvances⟩ := hadvanced rfl
    exact ⟨tasks', .crowd (hmanned.widen Task.minds fun _ _ _ => trivial), hadvances⟩
  · rw [hpolled] at hleaves
    exact ⟨hleaves.sound hsound trivial, fun _ heq => by cases heq⟩

/-- **A minded batch goes on** each time it is polled. -/
theorem pollBatch_goesOn (store : NodeStore) {batch : Batch} (hsound : m.agenda.Sound)
    (h : batch.Minded m.agenda tasks) :
    Batch.GoesOn m.agenda tasks (m.pollBatch store .caller batch).1.agenda
      (m.pollBatch store .caller batch).2 := by
  cases h with
  | running hminded => exact pollRunning_goesOn store hsound hminded
  | crowd hmanned => exact pollCrowd_goesOn store hsound hmanned

/-- Tasks of their own start with work without crowds. -/
theorem minded_own (registry : Registry) (path : Option String) (t : ObjectType)
    (fields : RequiredFields) (node : Node) {a : Agenda} {X : Nat → Prop} {waker : Waker}
    {Told : Prop} (htold : Told) :
    (Task.own node (node.completion registry path t fields)).Minded a X waker Told :=
  ⟨.fresh (Completion.fresh_fields _ t fields node.body) htold, .inr htold⟩

/-- A batch without caches is minded after its first poll, unless it is kept. -/
theorem pollBatch_fresh (store : NodeStore) (hnodes : m.policy.nodes = false)
    (hsound : m.agenda.Sound) (typeName : String) (nodes : List Node) (fields : RequiredFields) :
    ∃ tasks, Batch.GoesOn m.agenda tasks
      (m.pollBatch store .caller (.fresh typeName nodes fields)).1.agenda
      (m.pollBatch store .caller (.fresh typeName nodes fields)).2 := by
  rw [pollBatch]
  cases ht : m.registry.type? typeName with
  | none => exact ⟨[], hsound, fun _ heq => by cases heq⟩
  | some t =>
      dsimp only
      rw [tasks_own hnodes]
      generalize htasks : nodes.map (fun node => Task.own node _) = tasks
      have hminded : ∀ task ∈ tasks, ∀ (a : Agenda) (X : Nat → Prop) (waker : Waker) (Told : Prop),
          Told → task.Minded a X waker Told := by
        intro task hmem a X waker Told htold
        rw [← htasks] at hmem
        obtain ⟨node, -, rfl⟩ := List.mem_map.mp hmem
        exact minded_own m.registry m.path t fields node htold
      refine ⟨tasks, ?_⟩
      split
      · -- The crowd gets a queue of its own before its first poll.
        have hnew : m.agenda.Leaves (fun _ => True) .caller (m.agenda.newQueue tasks.length).1 :=
          m.agenda.leaves_newQueue _
        have hmanned : Manned Task.outcome? Task.Minded (m.agenda.Since fun _ => True)
            m.agenda.queues.size (m.agenda.newQueue tasks.length).1 tasks :=
          CrowdRule.manned_newQueue hsound fun task hmem => hminded task hmem _
        obtain ⟨hsound', hpending⟩ := pollCrowd_goesOn
          (m := { m with agenda := (m.agenda.newQueue tasks.length).1 }) store
          (hnew.sound hsound trivial) (hmanned.widen Task.minds fun _ _ _ => trivial)
        exact ⟨hsound', hpending⟩
      · refine pollRunning_goesOn store hsound ⟨fun _ => 0, fun i task htask => ?_⟩
        exact hminded task (List.mem_of_getElem? htask) _ _ _ _ trivial

end Materializer

/-! ## Rounds -/

namespace Desk

/-- One request is polled, and then all are woken who asked for it. -/
def round (index : Nat) (d : Desk) : Desk :=
  let d := d.step (.poll index .caller)
  { d with maker := d.maker.endRound }

theorem round_eq_run (index : Nat) (d : Desk) : d.round index =
    d.run [.poll index .caller, .agenda (d.step (.poll index .caller)).maker.agenda.rouse] := rfl

variable {d : Desk} {index : Nat} {order : Order} {batch : Batch} {tasks : List Task}

/-- A request of its own whose batch is minded, when everyone has been woken. -/
structure Awaits (d : Desk) (index : Nat) (order : Order) (batch : Batch) (tasks : List Task) : Prop
    where
  errand : d.errands[index]? = some ⟨order, .pending (.own batch)⟩
  sound : d.maker.agenda.Sound
  sleepers : d.maker.agenda.sleepers = []
  minded : batch.Minded d.maker.agenda tasks

/-- **One round**: the request is kept, or its tasks have gone forward if everyone had been woken. -/
theorem round_goesOn (h : d.errands[index]? = some ⟨order, .pending (.own batch)⟩)
    (hgoesOn : Batch.GoesOn d.maker.agenda tasks (d.maker.pollBatch d.store .caller batch).1.agenda
      (d.maker.pollBatch d.store .caller batch).2) :
    (∃ result, (d.round index).errands[index]? = some ⟨order, .kept result⟩) ∨
      ∃ batch' tasks', (d.round index).Awaits index order batch' tasks' ∧
        (d.maker.agenda.sleepers = [] → Relation.TransGen (OneGoes Task.Goes) tasks tasks') := by
  have hround : (d.round index).maker.agenda =
        (d.maker.pollBatch d.store .caller batch).1.agenda.rouse ∧
      (d.round index).errands[index]? =
        some ⟨order, SnapshotRequest.ofOwn (d.maker.pollBatch d.store .caller batch).2⟩ := by
    rw [round, step, h]
    dsimp only
    rw [Materializer.poll_own]
    exact ⟨rfl, List.getElem?_set_self (List.getElem?_eq_some_iff.mp h).1⟩
  obtain ⟨hagenda, herrand⟩ := hround
  rcases hstate : (d.maker.pollBatch d.store .caller batch).2 with batch' | result
  · obtain ⟨tasks', hminded, hadvances⟩ := hgoesOn.pending batch' hstate
    obtain ⟨hsound, hsleepers, -⟩ := hgoesOn.sound.rouse
    rw [hstate] at herrand
    refine .inr ⟨batch', tasks', ⟨herrand, ?_, ?_, ?_⟩, hadvances⟩
    all_goals rw [hagenda]
    · exact hsound
    · exact hsleepers
    · exact hminded.rouse hgoesOn.sound
  · rw [hstate] at herrand
    exact .inl ⟨result, herrand⟩

/-- **Each round takes a minded batch forward**, and it does not go forward for ever. -/
theorem Awaits.returns (h : d.Awaits index order batch tasks) :
    ∃ n result, ((round index)^[n] d).errands[index]? = some ⟨order, .kept result⟩ := by
  -- Induction on how the tasks go forward.
  have hacc := OneGoes.acc_transGen fun task (_ : task ∈ tasks) => task.acc_goes
  induction hacc generalizing d batch with
  | intro tasks _ ih =>
      rcases round_goesOn h.errand (Materializer.pollBatch_goesOn d.store h.sound h.minded) with
        ⟨result, hkept⟩ | ⟨batch', tasks', hawaits, hadvances⟩
      · exact ⟨1, result, hkept⟩
      · obtain ⟨n, result, hkept⟩ := ih tasks' (hadvances h.sleepers) hawaits
        exact ⟨n + 1, result, hkept⟩

/-- **A request without caches returns**, whatever the resolvers do: after some number of rounds it is
kept. -/
theorem returns (hnodes : d.maker.policy.nodes = false) (hbatches : d.maker.policy.batches = false)
    (hsound : d.maker.agenda.Sound) (order : Order) :
    ∃ n result, ((round d.errands.length)^[n] (d.step (.request order))).errands[d.errands.length]? =
      some ⟨order, .kept result⟩ := by
  have hstep : d.step (.request order) = { d with errands := d.errands ++
      [⟨order, .pending (.own (.fresh order.typeName order.nodes order.fields))⟩] } := by
    rw [step, Materializer.request_own hbatches]
  have herrand : (d.step (.request order)).errands[d.errands.length]? =
      some ⟨order, .pending (.own (.fresh order.typeName order.nodes order.fields))⟩ := by
    simp [hstep]
  obtain ⟨tasks, hgoesOn⟩ := d.maker.pollBatch_fresh d.store hnodes hsound order.typeName order.nodes
    order.fields
  -- Only from the first round on everyone has been woken.
  rcases round_goesOn herrand (by rwa [hstep]) with ⟨result, hkept⟩ | ⟨batch, tasks', hawaits, -⟩
  · exact ⟨1, result, hkept⟩
  · obtain ⟨n, result, hkept⟩ := hawaits.returns
    exact ⟨n + 1, result, hkept⟩

end Desk

end ContentQuery
