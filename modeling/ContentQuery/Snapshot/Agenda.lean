/-!
# Who waits for whom

Work that pauses asks to be woken. At the end of a round everyone who asked is woken, whoever asked
last first. Being woken means one of three things: a part of a crowd joins the queue of its crowd
and the crowd's owner is woken in turn; a bell wakes all who listen to it; and whoever polls from
outside needs no telling. One who was woken has to ask again before it is woken anew.
-/

namespace ContentQuery

/-- Who is woken. -/
inductive Waker where
  /-- Whoever polls from outside. -/
  | caller
  /-- A part of a crowd. -/
  | part (crowd index : Nat)
  /-- All who listen to a bell. -/
  | bell (number : Nat)
  deriving DecidableEq, Repr

/-- One who was given a waker; it is told once for each time it asks. -/
structure Listener where
  waker : Waker
  asks : Bool
  deriving DecidableEq, Repr

/-- Listeners of a bell, in the order in which they came. -/
abbrev Bell := List Listener

namespace Bell

/-- Someone asks to be told, and keeps its place if it has one. -/
def listen (waker : Waker) : Bell → Bell
  | [] => [⟨waker, true⟩]
  | l :: rest => if l.waker = waker then ⟨waker, true⟩ :: rest else l :: listen waker rest

/-- Those who ask to be told. -/
def asking (b : Bell) : List Waker := (b.filter (·.asks)).map (·.waker)

/-- All have been told. -/
def rung (b : Bell) : Bell := b.map fun l => { l with asks := false }

end Bell

/-- The queue of a crowd. -/
structure Queue where
  /-- Parts to be polled, by index. -/
  awake : List Nat
  /-- Parts that are finished. -/
  settled : List Nat := []
  /-- The owner of the crowd. -/
  owner : Waker := .caller
  /-- The owner asks to be told when a part is woken. -/
  asks : Bool := false
  /-- Nobody waits for the crowd any more. -/
  closed : Bool := false
  deriving DecidableEq, Repr

namespace Queue

/-- A part that cannot be woken: it is in the queue already, or nobody waits for it. -/
def ignores (q : Queue) (index : Nat) : Bool :=
  q.closed || q.awake.contains index || q.settled.contains index

/-- Those to be woken together with a part. -/
def told (q : Queue) (index : Nat) : List Waker :=
  if q.asks && !q.ignores index then [q.owner] else []

/-- Wakes a part. -/
def wake (q : Queue) (index : Nat) : Queue :=
  if q.ignores index then q else { q with awake := q.awake ++ [index], asks := false }

/-- The first part in the queue that is not finished, and the queue after it. -/
def next? (q : Queue) : Option (Nat × Queue) :=
  match q.awake.dropWhile q.settled.contains with
  | [] => none
  | index :: rest => some (index, { q with awake := rest })

end Queue

/-- Everyone who waits. -/
structure Agenda where
  /-- Those to be woken at the end of the round, first the one who asked last. -/
  sleepers : List Waker := []
  bells : Array Bell := #[]
  queues : Array Queue := #[]

namespace Agenda

/-- Asks to be woken at the end of the round. -/
def sleep (a : Agenda) (waker : Waker) : Agenda := { a with sleepers := waker :: a.sleepers }

/-! ## Bells -/

/-- A new bell, with its number. -/
def newBell (a : Agenda) : Agenda × Nat := ({ a with bells := a.bells.push [] }, a.bells.size)

def listen (a : Agenda) (bell : Nat) (waker : Waker) : Agenda :=
  { a with bells := a.bells.modify bell (·.listen waker) }

/-! ## Queues -/

/-- A new crowd of so many parts, all awake, with its number. -/
def newQueue (a : Agenda) (parts : Nat) : Agenda × Nat :=
  ({ a with queues := a.queues.push { awake := List.range parts } }, a.queues.size)

def queue (a : Agenda) (crowd : Nat) : Queue := a.queues.getD crowd { awake := [], closed := true }

def onQueue (a : Agenda) (crowd : Nat) (f : Queue → Queue) : Agenda :=
  { a with queues := a.queues.modify crowd f }

/-- The owner of a crowd asks to be told when a part is woken. -/
def watch (a : Agenda) (crowd : Nat) (owner : Waker) : Agenda :=
  a.onQueue crowd fun q => { q with owner, asks := true }

/-- The part of a crowd to be polled next. -/
def next? (a : Agenda) (crowd : Nat) : Option (Nat × Agenda) :=
  (a.queue crowd).next?.map fun (index, q) => (index, a.onQueue crowd fun _ => q)

def isAwake (a : Agenda) (crowd index : Nat) : Bool := (a.queue crowd).awake.contains index

/-- A part is finished. -/
def settle (a : Agenda) (crowd index : Nat) : Agenda :=
  a.onQueue crowd fun q => { q with settled := index :: q.settled }

/-- Nobody waits for the crowd any more. -/
def close (a : Agenda) (crowd : Nat) : Agenda :=
  a.onQueue crowd fun _ => { awake := [], closed := true }

/-! ## Waking -/

/-- Wakes one, and gives those to be woken next. -/
def wakeOne (a : Agenda) : Waker → Agenda × List Waker
  | .caller => (a, [])
  | .part crowd index =>
    (a.onQueue crowd (·.wake index), (a.queue crowd).told index)
  | .bell number =>
    ({ a with bells := a.bells.modify number Bell.rung }, (a.bells.getD number []).asking)

/-- How often anyone can be told before asking again. -/
def asking (a : Agenda) : Nat :=
  a.bells.foldl (fun n b => n + b.asking.length) 0 + a.queues.toList.countP (·.asks)

/-- Wakes some, and all whom that wakes, at most so many. -/
def wakeUpTo : Nat → List Waker → Agenda → Agenda
  | 0, _, a => a
  | _, [], a => a
  | n + 1, w :: rest, a =>
    let (a, more) := a.wakeOne w
    wakeUpTo n (more ++ rest) a

/-- Wakes some, and all whom that wakes. -/
def wakeAll (a : Agenda) (wakers : List Waker) : Agenda :=
  wakeUpTo (wakers.length + a.asking) wakers a

def wake (a : Agenda) (waker : Waker) : Agenda := a.wakeAll [waker]

/-- Wakes all who listen to a bell, and nobody listens to it any more. -/
def ring (a : Agenda) (bell : Nat) : Agenda :=
  let wakers := (a.bells.getD bell []).asking
  { a with bells := a.bells.setIfInBounds bell [] }.wakeAll wakers

/-- Ends the round: wakes all who asked for it. -/
def rouse (a : Agenda) : Agenda := { a with sleepers := [] }.wakeAll a.sleepers

end Agenda

end ContentQuery
