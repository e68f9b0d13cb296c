import ContentQuery.Schema.Resolver
import ContentQuery.Severity
import ContentQuery.Snapshot.Crowd

/-!
# Work in progress

Completing a value takes calls of resolvers, and a resolver may pause. `Work` is what is left to do:
it is polled, goes on until a resolver pauses, and asks to be woken and polled again. Parts that do
not depend on each other are polled in turn, and the first that fails ends the whole; if there are
many they are a crowd.

Every call of a resolver is written into a journal.
-/

namespace ContentQuery

open Json (Object)

/-- Why a snapshot cannot be made. -/
inductive SnapshotError where
  | unknownType (name : String)
  | unknownField (typeName field : String)
  /-- A resolver failed on an object of the node. -/
  | failure (typeName field nodeId cause : String)
  deriving DecidableEq

namespace SnapshotError

def code : SnapshotError → String
  | .unknownType _ => "NQ_UNKNOWN_TYPE"
  | .unknownField .. => "NQ_UNKNOWN_FIELD"
  | .failure .. => "NQ_RESOLUTION_FAILURE"

def severity : SnapshotError → Severity
  | .failure .. => .error
  | _ => .reject

def message : SnapshotError → String
  | .unknownType name => "Unknown type '" ++ name ++ "'"
  | .unknownField typeName field => "Type '" ++ typeName ++ "' has no field '" ++ field ++ "'"
  | .failure typeName field nodeId cause =>
    "Resolver for " ++ typeName ++ "." ++ field ++ " failed on node " ++ nodeId ++ ": " ++ cause

/-- Id of the node that a resolver failed on. -/
def node? : SnapshotError → Option String
  | .failure _ _ nodeId _ => some nodeId
  | _ => none

def report (e : SnapshotError) : String := ContentQuery.report e.severity e.code e.message

end SnapshotError

/-- One call of a resolver. -/
structure ResolverCall where
  parentType : String
  fieldName : String
  /-- Id of the object that the field was resolved on, if it has one. -/
  sourceId : Option String
  deriving DecidableEq, Repr

/-- Calls so far, latest first. -/
abbrev Journal := List ResolverCall

namespace Journal

/-- Number of calls of a field so far. -/
def attempts (j : Journal) (request : ResolveRequest) : Nat :=
  j.countP fun call => call.parentType == request.parentType && call.fieldName == request.fieldName

def record (j : Journal) (request : ResolveRequest) : Journal :=
  { parentType := request.parentType
    fieldName := request.fieldName
    sourceId := (request.source.get? "id").bind Json.string? } :: j

end Journal

inductive Work where
  | done (v : Json)
  | failed (e : SnapshotError)
  /-- Calls a resolver and goes on with its answer. -/
  | call (resolver : Resolver) (request : ResolveRequest) (next : Except String Json → Work)
  /-- Waits for a resolver that pauses some times more. -/
  | waiting (pauses : Nat) (answer : NodeStore → Except String Json)
      (next : Except String Json → Work)
  /-- Completes all parts and goes on with their values. -/
  | join (parts : List Work) (next : List Json → Work)
  /-- As `join`, when the parts are a crowd that has its queue. -/
  | crowd (number : Nat) (parts : List Work) (next : List Json → Work)

/-- What polling changes. -/
structure PollState where
  journal : Journal := []
  agenda : Agenda := {}

namespace PollState

def sleep (s : PollState) (waker : Waker) : PollState := { s with agenda := s.agenda.sleep waker }

end PollState

namespace Work

instance : Inhabited Work := ⟨done .null⟩

/-- The value of work that is done. -/
def value? : Work → Option Json
  | done v => some v
  | _ => none

/-- What finished work ends with. -/
def outcome? : Work → Option (Except SnapshotError Json)
  | done v => some (.ok v)
  | failed e => some (.error e)
  | _ => none

/-- Goes on with the value of the work. -/
def bind : Work → (Json → Work) → Work
  | done v, k => k v
  | failed e, _ => failed e
  | call resolver request next, k => call resolver request fun answer => (next answer).bind k
  | waiting pauses answer next, k => waiting pauses answer fun a => (next a).bind k
  | join parts next, k => join parts fun vs => (next vs).bind k
  | crowd number parts next, k => crowd number parts fun vs => (next vs).bind k

/-- How a part of a crowd is polled. -/
abbrev Poll := Waker → Work → PollState → PollState × Work

/-- The rule for crowds of work. -/
def crowdRule (poll : Poll) : CrowdRule PollState Work SnapshotError Json where
  agenda s := s.agenda
  withAgenda s agenda := { s with agenda }
  poll
  outcome? := outcome?

mutual

/-- Goes on with work until it pauses or ends. Parts of a crowd are polled as given; if no way is
given, many parts are polled in turn too. -/
def pollWith (store : NodeStore) (inner : Option Poll) (waker : Waker) :
    Work → PollState → PollState × Work
  | done v, s => (s, done v)
  | failed e, s => (s, failed e)
  | call resolver request next, s =>
    let reply := resolver.reply (s.journal.attempts request + 1) request
    let s := { s with journal := s.journal.record request }
    match reply.pauses with
    | 0 => pollWith store inner waker (next (reply.answer store)) s
    | n + 1 => (s.sleep waker, waiting n reply.answer next)
  | waiting 0 answer next, s => pollWith store inner waker (next (answer store)) s
  | waiting (n + 1) answer next, s => (s.sleep waker, waiting n answer next)
  | join parts next, s =>
    match inner, decide (parts.length > crowdSize) with
    | some poll, true =>
      let (agenda, number) := s.agenda.newQueue parts.length
      match (crowdRule poll).pollCrowd number waker { s with agenda } parts with
      | (s, _, some (.ok vs)) => pollWith store inner waker (next vs) s
      | (s, _, some (.error e)) => (s, failed e)
      | (s, parts, none) => (s, crowd number parts next)
    | _, _ =>
      match pollAll store inner waker parts s with
      | (s, .error e) => (s, failed e)
      | (s, .ok parts) =>
        match parts.mapM value? with
        | some vs => pollWith store inner waker (next vs) s
        | none => (s, join parts next)
  | crowd number parts next, s =>
    match inner with
    | some poll =>
      match (crowdRule poll).pollCrowd number waker s parts with
      | (s, _, some (.ok vs)) => pollWith store inner waker (next vs) s
      | (s, _, some (.error e)) => (s, failed e)
      | (s, parts, none) => (s, crowd number parts next)
    | none => (s, crowd number parts next)

/-- Goes on with each of some works, up to the first that fails. -/
def pollAll (store : NodeStore) (inner : Option Poll) (waker : Waker) :
    List Work → PollState → PollState × Except SnapshotError (List Work)
  | [], s => (s, .ok [])
  | w :: rest, s =>
    match pollWith store inner waker w s with
    | (s, failed e) => (s, .error e)
    | (s, w) =>
      match pollAll store inner waker rest s with
      | (s, .ok rest) => (s, .ok (w :: rest))
      | (s, .error e) => (s, .error e)

end

/-- Goes on with work in which crowds are nested no deeper than this; deeper down, many parts are
polled in turn. -/
def pollDown (store : NodeStore) : Nat → Poll
  | 0 => pollWith store none
  | depth + 1 => pollWith store (some (pollDown store depth))

/-- Far deeper than lists in values are nested. -/
def maxDepth : Nat := 1000

/-- Goes on with work until it pauses or ends. Who polls it is woken when it can go on. -/
def poll (store : NodeStore) : Poll := pollDown store maxDepth

end Work

end ContentQuery
