import ContentQuery.Filter.Predicate
import ContentQuery.Json.Order

/-!
# Matching

A body matches a predicate when every condition holds. A path may reach several slots, and a test
passes on a path when it passes on one of them. On a slot whose member is absent only negative tests
pass and those that ask for absence; where the path leads nowhere, only the latter.
-/

namespace ContentQuery

namespace Json

/-- Some value of the list equals the value. -/
def isAmong (v : Json) (vs : List Json) : Bool := vs.any fun w => w.equals v

/-- Items of a list; any other value is its own only item. -/
def items : Json → List Json
  | .array items => items
  | v => [v]

end Json

namespace Test

/-- Does the test pass on a value that is there? -/
def passesOn (v : Json) : Test → Bool
  | .eq w => v.equals w
  | .ne w => !v.equals w
  | .lt bound => v.compare? bound == some .lt
  | .lte bound => v.compare? bound == some .lt || v.compare? bound == some .eq
  | .gt bound => v.compare? bound == some .gt
  | .gte bound => v.compare? bound == some .gt || v.compare? bound == some .eq
  | .oneOf vs => v.isAmong vs
  | .noneOf vs _ => !v.isAmong vs
  | .contains w => v.items.any fun item => item.equals w
  | .containsAny vs => v.items.any fun item => item.isAmong vs
  | .containsNone vs => !v.items.any fun item => item.isAmong vs
  | .regex p => p.isMatch v
  | .glob p => p.isMatch v
  | .missing => v.isNull
  | .present => !v.isNull
  | .notTrue => !v.isTrue
  | .unknown .. => false

/-- Does the test pass where a member is absent? -/
def passesAbsent : Test → Bool
  | .ne _ | .containsNone _ | .missing | .notTrue => true
  | .noneOf _ excludeAbsent => !excludeAbsent
  | _ => false

/-- Does the test pass where the path leads nowhere? -/
def passesUnreachable : Test → Bool
  | .missing | .notTrue => true
  | _ => false

def passes (test : Test) : Slot → Bool
  | .value v => test.passesOn v
  | .absent => test.passesAbsent
  | .unreachable => test.passesUnreachable

end Test

/-- The objects in which a value may satisfy an element condition: those of its items, or itself. -/
def Slot.elements : Slot → List Json.Object
  | .value (.array items) => items.filterMap Json.object?
  | .value (.object members) => [members]
  | _ => []

namespace Predicate

mutual

/-- Does a body satisfy every condition? -/
def holds (body : Json.Object) : Predicate → Bool
  | [] => true
  | c :: rest => holdsCondition body c && holds body rest

def holdsCondition (body : Json.Object) : Condition → Bool
  | .tests path ts =>
    let slots := Path.lookup body path
    ts.all fun test => slots.any test.passes
  | .elements path inner =>
    (Path.lookup body path).any fun slot => slot.elements.any fun element => holds element inner

end

end Predicate

end ContentQuery
