import ContentQuery.Proofs.Snapshot.Resolution
import ContentQuery.Snapshot.Cache

/-!
# What a snapshot may be

A `View` says what may be relied on when snapshots are made: which stores the resolvers have answered
from, which nodes are asked for, and under which keys. Seen so, a snapshot of a node is one that
resolving its fields may give (`View.Makes`), and work on the node serves it if it can end with
nothing else (`View.Serves`). Polling the work keeps that (`View.Serves.pollWork`).
-/

namespace ContentQuery

open Json (Object)

/-! ## Copies of a node -/

/-- The node without what tells its copies apart. -/
def Node.unstamped (n : Node) : Node := { n with stamp := 0 }

/-- Two copies of one node. -/
def Node.Alike (a b : Node) : Prop := a.unstamped = b.unstamped

namespace Node.Alike

variable {a b c : Node}

theorem refl (a : Node) : a.Alike a := rfl

theorem symm (h : a.Alike b) : b.Alike a := Eq.symm h

theorem trans (h : a.Alike b) (h' : b.Alike c) : a.Alike c := Eq.trans h h'

theorem id (h : a.Alike b) : a.id = b.id := (congrArg Node.id h :)

theorem typeName (h : a.Alike b) : a.typeName = b.typeName := (congrArg Node.typeName h :)

theorem digest (h : a.Alike b) : a.digest = b.digest := (congrArg Node.digest h :)

theorem body (h : a.Alike b) : a.body = b.body := (congrArg Node.body h :)

theorem withBody (h : a.Alike b) (body : Object) (stamp stamp' : Nat) :
    (a.withBody body stamp).Alike (b.withBody body stamp') := by
  simp [Alike, unstamped, Node.withBody, h.id, h.typeName, h.digest]

theorem key (h : a.Alike b) (fields : RequiredFields) :
    NodeKey.ofNode a fields = NodeKey.ofNode b fields := by
  rw [NodeKey.ofNode, NodeKey.ofNode, h.id, h.digest]

end Node.Alike

/-! ## Views -/

/-- What may be relied on when snapshots are made. -/
structure View where
  registry : Registry
  path : Option String
  /-- Stores that resolvers may have answered from when the snapshot of a key was made. -/
  stores : NodeKey → NodeStore → Prop
  /-- Nodes for which snapshots are asked. -/
  nodes : Node → Prop
  /-- Keys of batches whose entries are known to stem from these stores. -/
  watchedBatches : BatchKey → Prop
  /-- A version says what the node is. -/
  determined : ∀ a b, nodes a → nodes b → a.id = b.id → a.digest = b.digest → a.Alike b

namespace View

variable (V : View)

/-- The completion of a node. -/
def completion (node : Node) : Completion := ⟨V.registry, V.path, node.id⟩

/-- The outcome is one that resolving the fields of the node may have. -/
def Makes (fields : RequiredFields) (node : Node) : Except SnapshotError Node → Prop
  | .ok snapshot =>
    ∃ t out, V.registry.type? node.typeName = some t ∧
      (V.completion node).Resolves (V.stores (.ofNode node fields)) t fields node.body (some out) ∧
      snapshot.Alike (node.withBody out 0)
  | .error _ =>
    ∃ t, V.registry.type? node.typeName = some t ∧
      (V.completion node).Resolves (V.stores (.ofNode node fields)) t fields node.body none

/-- A promise in this state serves the node: it is kept with what the node resolves to, or the work
that is left can end with nothing else. -/
def Serves (fields : RequiredFields) (node : Node) : Promise (Node × Work) Node → Prop
  | .pending (copy, work) =>
    copy.Alike node ∧ ∃ t, V.registry.type? node.typeName = some t ∧
      work.Refines (V.stores (.ofNode node fields)) (node.completion V.registry V.path t fields)
  | .kept result => V.Makes fields node result

variable {V} {fields : RequiredFields} {node node' : Node}

theorem Makes.of_alike (h : node.Alike node') {result : Except SnapshotError Node}
    (hmakes : V.Makes fields node result) : V.Makes fields node' result := by
  have hcompletion : V.completion node = V.completion node' := by
    rw [completion, completion, h.id]
  cases result with
  | ok snapshot =>
      obtain ⟨t, out, ht, hresolves, hsnapshot⟩ := hmakes
      refine ⟨t, out, h.typeName ▸ ht, ?_, hsnapshot.trans (h.withBody out 0 0)⟩
      rw [← hcompletion, ← h.body, ← h.key]
      exact hresolves
  | error e =>
      obtain ⟨t, ht, hresolves⟩ := hmakes
      refine ⟨t, h.typeName ▸ ht, ?_⟩
      rw [← hcompletion, ← h.body, ← h.key]
      exact hresolves

theorem Serves.of_alike (h : node.Alike node') {state : Promise (Node × Work) Node}
    (hserves : V.Serves fields node state) : V.Serves fields node' state := by
  cases state with
  | pending work =>
      obtain ⟨hcopy, t, ht, hwork⟩ := hserves
      refine ⟨hcopy.trans h, t, h.typeName ▸ ht, ?_⟩
      have hcompletion : node.completion V.registry V.path t fields =
          node'.completion V.registry V.path t fields := by
        rw [Node.completion, Node.completion, h.id, h.body]
      rw [← hcompletion, ← h.key]
      exact hwork
  | kept result => exact Makes.of_alike h hserves

/-- What a poll makes of work on a node serves the node. -/
theorem Serves.pollWork {copy : Node} {work : Work} (h : V.Serves fields node (.pending (copy, work)))
    {store : NodeStore} (hS : ∀ key, V.stores key store) (m : Materializer) (waker : Waker) :
    V.Serves fields node (m.pollWork store waker copy work).2 := by
  obtain ⟨hcopy, t, ht, hwork⟩ := h
  have hpoll := Work.poll_refines (hS (.ofNode node fields)) waker work m.toPollState
  unfold Materializer.pollWork
  split
  · -- Done work is a completed object, since an outcome of work on fields is nothing else.
    rename_i s v heq
    rw [heq] at hpoll
    obtain ⟨out, hresolves, hv⟩ :=
      (V.completion node).resolves_of_ends t fields node.body (hwork _ (hpoll _ rfl))
    obtain ⟨members, rfl, rfl⟩ : ∃ members, out = some members ∧ v = .object members := by
      cases out with
      | none => cases hv
      | some members => exact ⟨members, rfl, Option.some.inj hv⟩
    exact ⟨t, members, ht, hresolves, hcopy.withBody members _ _⟩
  · rename_i s e heq
    rw [heq] at hpoll
    obtain ⟨out, hresolves, hv⟩ :=
      (V.completion node).resolves_of_ends t fields node.body (hwork _ (hpoll _ rfl))
    cases out with
    | none => exact ⟨t, ht, hresolves⟩
    | some members => cases hv
  · rename_i s work' _ _ heq
    rw [heq] at hpoll
    exact ⟨hcopy, t, ht, hpoll.trans hwork⟩

end View

end ContentQuery
