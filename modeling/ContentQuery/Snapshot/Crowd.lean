import ContentQuery.Snapshot.Agenda

/-!
# Crowds

A crowd is a number of parts, each of which is polled only after it was woken, in the order in which
the parts were woken. What the parts end with is gathered from the first to the last, so a failure
counts once all parts before it are done; until then the other parts go on.

So as not to hold up others, polling a crowd ends early once every unfinished part was polled since
the last one finished, or once two of these were woken again while they were polled; whoever owns
the crowd is then woken at once.
-/

namespace ContentQuery

/-- What the parts end with, from the first to the last, or the first failure that counts already. -/
def gather {ε β : Type} : List (Option (Except ε β)) → Option (Except ε (List β))
  | [] => some (.ok [])
  | none :: _ => none
  | some (.error e) :: _ => some (.error e)
  | some (.ok b) :: rest =>
    match gather rest with
    | some (.ok bs) => some (.ok (b :: bs))
    | other => other

/-- How the parts of a crowd are polled, and what they end with. -/
structure CrowdRule (σ α ε β : Type) where
  agenda : σ → Agenda
  withAgenda : σ → Agenda → σ
  poll : Waker → α → σ → σ × α
  outcome? : α → Option (Except ε β)

/-- Parts of which there are no more than this are polled in turn; more are a crowd. -/
def crowdSize : Nat := 30

namespace CrowdRule

variable {σ α ε β : Type} (k : CrowdRule σ α ε β)

def change (f : Agenda → Agenda) (s : σ) : σ := k.withAgenda s (f (k.agenda s))

/-- Number of parts that are not finished. -/
def unfinished (parts : List α) : Nat := parts.countP fun part => (k.outcome? part).isNone

/-- Polls parts from the queue until one finishes, at most so many. Tells whether one finished. The
flag says that a part was woken while it was polled. -/
def sweep (crowd : Nat) (owner : Waker) : Nat → Bool → σ → List α → σ × List α × Bool
  | 0, _, s, parts => (s, parts, false)
  | n + 1, again, s, parts =>
    match (k.agenda s).next? crowd with
    | none => (s, parts, false)
    | some (index, agenda) =>
      match parts[index]? with
      | none => (k.withAgenda s agenda, parts, false)
      | some part =>
        let (s, part) := k.poll (.part crowd index) part (k.withAgenda s agenda)
        let parts := parts.set index part
        if (k.outcome? part).isSome then (k.change (·.settle crowd index) s, parts, true)
        else
          let woken := (k.agenda s).isAwake crowd index
          if n == 0 || (again && woken) then (k.change (·.wake owner) s, parts, false)
          else sweep crowd owner n (again || woken) s parts

/-- Goes on with a crowd; at most so many parts finish. -/
def advance (crowd : Nat) (owner : Waker) :
    Nat → σ → List α → σ × List α × Option (Except ε (List β))
  | 0, s, parts => (s, parts, none)
  | n + 1, s, parts =>
    match gather (parts.map k.outcome?) with
    | some result => (k.change (·.close crowd) s, parts, some result)
    | none =>
      let s := k.change (·.watch crowd owner) s
      match k.sweep crowd owner (k.unfinished parts) false s parts with
      | (s, parts, true) => advance crowd owner n s parts
      | (s, parts, false) => (s, parts, none)

/-- Goes on with a crowd. Gives its parts and, once it is finished, what it ends with. -/
def pollCrowd (crowd : Nat) (owner : Waker) (s : σ) (parts : List α) :
    σ × List α × Option (Except ε (List β)) :=
  k.advance crowd owner (parts.length + 1) s parts

end CrowdRule

end ContentQuery
