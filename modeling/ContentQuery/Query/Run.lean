import ContentQuery.Filter.Match
import ContentQuery.Query.Sorting

/-!
# Running a query

A predicate is evaluated on nodes in store order. A source of nodes may know, for some tests, the
positions where they can pass at all; then only positions that all of these have in common are looked
at. The answer is the same as without, since the whole predicate is evaluated there.
-/

namespace ContentQuery

/-- Nodes to be queried. -/
structure NodeSource where
  nodes : Array Node
  /-- Ascending positions that include every node on which the test passes at the path; nothing when
  the source cannot tell. -/
  candidates : String → Test → Option (List Nat)

/-- Nodes about which nothing is known. -/
def NodeSource.plain (nodes : List Node) : NodeSource := ⟨nodes.toArray, fun _ _ => none⟩

/-- The answer to a query: all nodes, or the first if only that was asked for. -/
inductive Answer where
  | many (nodes : List Node)
  | one (node : Option Node)

namespace Answer

def nodes : Answer → List Node
  | .many nodes => nodes
  | .one node => node.toList

def ids (a : Answer) : List String := a.nodes.map (·.id)

def size (a : Answer) : Nat := a.nodes.length

/-- Leaves out nodes at the start and keeps no more than a number of the rest. A single node stays
as it is. -/
def paginate (skip limit : Option Nat) : Answer → Answer
  | .many nodes =>
    let rest := nodes.drop (skip.getD 0)
    .many (match limit with
      | some n => rest.take n
      | none => rest)
  | .one node => .one node

def toJson : Answer → Json
  | .many nodes => .array (nodes.map (·.toJson))
  | .one node => node.elim .null (·.toJson)

end Answer

/-- A predicate that holds an operator nobody knows. -/
structure UnknownOperator where
  operator : String

namespace UnknownOperator

def code : UnknownOperator → String := fun _ => "NQ_MALFORMED_QUERY"

def severity : UnknownOperator → Severity := fun _ => .reject

def message (e : UnknownOperator) : String := "Cannot evaluate operator '" ++ e.operator ++ "'"

def report (e : UnknownOperator) : String := ContentQuery.report e.severity e.code e.message

end UnknownOperator

/-- An answer, and what it cost. -/
structure Run where
  answer : Answer
  /-- Number of nodes that the predicate was evaluated on. -/
  scanned : Nat
  /-- Candidates narrowed the scan. -/
  indexed : Bool

namespace Run

/-- What two ascending lists have in common. -/
def common : List Nat → List Nat → List Nat
  | [], _ => []
  | _, [] => []
  | a :: as, b :: bs =>
    if a < b then common as (b :: bs)
    else if b < a then common (a :: as) bs
    else a :: common as bs
termination_by as bs => as.length + bs.length

/-- Candidate positions of the tests of a predicate, for each test that the source can tell about. -/
def candidateLists (source : NodeSource) (p : Predicate) : List (List Nat) :=
  p.flatMap fun
    | .tests path ts => ts.filterMap (source.candidates path)
    | .elements .. => []

/-- Positions to look at; nothing stands for all of them. -/
def candidates? (source : NodeSource) (p : Predicate) : Option (List Nat) :=
  match candidateLists source p with
  | [] => none
  | first :: rest => some (rest.foldl common first)

/-- The nodes to look at. -/
def scan (source : NodeSource) : Option (List Nat) → List Node
  | none => source.nodes.toList
  | some positions => positions.filterMap (source.nodes[·]?)

end Run

/-- Runs a predicate over a source. -/
def NodeSource.run (source : NodeSource) (p : Predicate) (sort : Option SortSpec)
    (firstOnly : Bool) : Except UnknownOperator Run :=
  match p.unknown? with
  | some operator => .error ⟨operator⟩
  | none =>
    let positions := Run.candidates? source p
    let found := (Run.scan source positions).filter fun n => p.holds n.body
    let sorted := (sort.getD []).sort found
    .ok {
      answer := if firstOnly then .one sorted.head? else .many sorted
      scanned := (positions.map List.length).getD source.nodes.size
      indexed := positions.isSome }

end ContentQuery
