import ContentQuery.Engine.Basic

/-!
# Queries answered together

Several queries may be under way at once. They are polled in rounds, each in its turn; many of them
are a crowd, and are polled as they are woken.
-/

namespace ContentQuery

/-- A query with how far it has come. -/
structure Asking where
  query : Query
  call : Call := .fresh

namespace Asking

/-- The answer, once there is one. -/
def result? (a : Asking) : Option (Except EngineError Answer) :=
  match a.call with
  | .finished result => some result
  | _ => none

end Asking

/-- Queries under way together. -/
inductive Together where
  | few (askings : List Asking)
  /-- The queries are a crowd that has its queue. -/
  | many (number : Nat) (askings : List Asking)

namespace Together

def askings : Together → List Asking
  | few askings => askings
  | many _ askings => askings

/-- All answers, once there are all of them. -/
def results? (t : Together) : Option (List (Except EngineError Answer)) :=
  t.askings.mapM Asking.result?

end Together

namespace Engine

/-- Goes on with a query. -/
def pollAsking (waker : Waker) (a : Asking) (e : Engine) : Engine × Asking :=
  let (e, call) := e.poll waker a.query a.call
  (e, { a with call })

def pollAskings (e : Engine) : List Asking → Engine × List Asking
  | [] => (e, [])
  | a :: rest =>
    let (e, a) := pollAsking .caller a e
    let (e, rest) := pollAskings e rest
    (e, a :: rest)

/-- The rule for crowds of queries. A query that ends in an error does not end the others. -/
def crowdRule : CrowdRule Engine Asking Empty (Except EngineError Answer) where
  agenda e := e.materializer.agenda
  withAgenda e agenda := { e with materializer := { e.materializer with agenda } }
  poll := pollAsking
  outcome? a := a.result?.map .ok

/-- Begins to answer some queries together. -/
def together (e : Engine) (askings : List Asking) : Engine × Together :=
  if askings.length > crowdSize then
    let (agenda, number) := e.materializer.agenda.newQueue askings.length
    ({ e with materializer := { e.materializer with agenda } }, .many number askings)
  else (e, .few askings)

/-- Goes on with queries under way together, for one round. -/
def pollTogether (e : Engine) : Together → Engine × Together
  | .few askings =>
    let (e, askings) := e.pollAskings askings
    (e.endRound, .few askings)
  | .many number askings =>
    let (e, askings, _) := crowdRule.pollCrowd number .caller e askings
    (e.endRound, .many number askings)

end Engine

end ContentQuery
