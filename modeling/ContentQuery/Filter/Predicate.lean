import ContentQuery.Node.Path
import ContentQuery.Pattern.Basic

/-!
# Predicates

What a filter compiles to: conditions on dotted paths, all of which must hold. The tests of one path
are gathered in one condition; a condition on the elements of a list has a predicate of its own.
-/

namespace ContentQuery

/-- A test of the value at a path. -/
inductive Test where
  | eq (v : Json)
  | ne (v : Json)
  | lt (bound : Json)
  | lte (bound : Json)
  | gt (bound : Json)
  | gte (bound : Json)
  | oneOf (vs : List Json)
  /-- None of the values; if `excludeAbsent`, the field must be there. -/
  | noneOf (vs : List Json) (excludeAbsent : Bool)
  /-- A list that holds the value. -/
  | contains (v : Json)
  /-- A list that holds one of the values. -/
  | containsAny (vs : List Json)
  | containsNone (vs : List Json)
  | regex (pattern : RegexPattern)
  | glob (pattern : GlobPattern)
  /-- Null or not there. -/
  | missing
  | present
  /-- Anything but `true`, also when the path leads nowhere. -/
  | notTrue
  /-- An operator nobody knows. -/
  | unknown (operator : String) (operand : Json)

inductive Condition where
  /-- Each test passes on some slot of the path. -/
  | tests (path : String) (tests : List Test)
  /-- Some element of a list at the path satisfies the conditions. -/
  | elements (path : String) (inner : List Condition)

abbrev Predicate := List Condition

namespace Test

def name : Test → String
  | .eq _ => "$eq"
  | .ne _ => "$ne"
  | .lt _ => "$lt"
  | .lte _ => "$lte"
  | .gt _ => "$gt"
  | .gte _ => "$gte"
  | .oneOf _ => "$in"
  | .noneOf .. => "$nin"
  | .contains _ => "$contains"
  | .containsAny _ => "$containsAny"
  | .containsNone _ => "$containsNone"
  | .regex _ => "$regex"
  | .glob _ => "$glob"
  | .missing => "$missing"
  | .present => "$present"
  | .notTrue => "$notTrue"
  | .unknown operator _ => operator

/-- The operator of a test that cannot be evaluated. -/
def unknown? : Test → Option String
  | .unknown operator _ => some operator
  | _ => none

/-- A field that differs from `true` need not be there at all. -/
def relaxed : Test → Test
  | .ne (.bool true) => .notTrue
  | t => t

end Test

def Condition.path : Condition → String
  | .tests path _ | .elements path _ => path

namespace Predicate

/-- Adds a test to the condition on its path, or a new condition at the end. -/
def addTest (path : String) (test : Test) : Predicate → Predicate
  | [] => [.tests path [test]]
  | .tests p ts :: rest =>
    if p = path then .tests p (ts ++ [test]) :: rest else .tests p ts :: addTest path test rest
  | c :: rest => c :: addTest path test rest

def addElements (p : Predicate) (path : String) (inner : Predicate) : Predicate :=
  p ++ [.elements path inner]

/-- Paths of the conditions, each once, in order of first use. Paths inside element conditions do
not count. -/
def paths (p : Predicate) : List String :=
  p.foldl (fun acc c => if acc.contains c.path then acc else acc ++ [c.path]) []

/-- Tests on a path. -/
def tests? (path : String) : Predicate → Option (List Test)
  | [] => none
  | .tests p ts :: rest => if p = path then some ts else tests? path rest
  | .elements .. :: rest => tests? path rest

mutual

/-- The first operator, at any depth, that cannot be evaluated. -/
def unknown? : Predicate → Option String
  | [] => none
  | c :: rest => (unknownIn? c).or (unknown? rest)

def unknownIn? : Condition → Option String
  | .tests _ ts => ts.findSome? Test.unknown?
  | .elements _ inner => unknown? inner

end

mutual

/-- Relaxes every test, at every depth. -/
def relaxed : Predicate → Predicate
  | [] => []
  | c :: rest => relaxedCondition c :: relaxed rest

def relaxedCondition : Condition → Condition
  | .tests path ts => .tests path (ts.map Test.relaxed)
  | .elements path inner => .elements path (relaxed inner)

end

end Predicate

end ContentQuery
