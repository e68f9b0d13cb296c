import ContentQuery.Json.Basic

/-!
# Dotted paths into a body

A path names members one inside the other, parted by dots. `Path.lookup` walks it with fan-out: a
list on the way stands for all of its elements, so a path may reach several slots. `Path.resolve`
walks it without, and a list on the way blocks it.
-/

namespace ContentQuery

/-- What a path reaches. -/
inductive Slot where
  /-- The member is there, perhaps null. -/
  | value (v : Json)
  /-- The object before the last step is there and lacks the member. -/
  | absent
  /-- Some step before the last one meets no object. -/
  | unreachable
  deriving Inhabited

/-- The value in a slot, unless it is null. -/
def Slot.present? : Slot → Option Json
  | .value .null => none
  | .value v => some v
  | _ => none

namespace Path

/-- Parts a list of characters at every dot. -/
def splitDots : List Char → List (List Char)
  | [] => [[]]
  | c :: cs =>
    if c = '.' then [] :: splitDots cs
    else match splitDots cs with
      | [] => [[c]]
      | s :: rest => (c :: s) :: rest

/-- The steps of a path. There is always at least one, perhaps with an empty name. -/
def steps (path : String) : List String := (splitDots path.toList).map String.ofList

/-- The path of a member inside the object at `path`; an empty path is the body itself. -/
def child (path name : String) : String := if path = "" then name else path ++ "." ++ name

end Path

mutual

/-- The objects that a value stands for on the way along a path: itself, or those of its elements,
however deep lists nest. `none` marks a dead end: a scalar, null, or an empty list. -/
def Json.spread : Json → List (Option Json.Object)
  | .object members => [some members]
  | .array [] => [none]
  | .array (v :: rest) => v.spread ++ Json.spreadItems rest
  | _ => [none]

def Json.spreadItems : List Json → List (Option Json.Object)
  | [] => []
  | v :: rest => v.spread ++ Json.spreadItems rest

end

namespace Path

/-- Slots reached by the steps from an object, in the order of the body. -/
def walk : List String → Json.Object → List Slot
  | [], _ => []
  | [name], members =>
    match members.get? name with
    | some v => [.value v]
    | none => [.absent]
  | name :: rest, members =>
    match members.get? name with
    | some v => v.spread.flatMap fun
      | some inner => walk rest inner
      | none => [.unreachable]
    | none => [.unreachable]

/-- Every slot that a path reaches. -/
def lookup (body : Json.Object) (path : String) : List Slot := walk (steps path) body

/-- The slot reached by the steps from an object when lists on the way block. -/
def walkDirect : List String → Json.Object → Slot
  | [], _ => .unreachable
  | [name], members =>
    match members.get? name with
    | some v => .value v
    | none => .absent
  | name :: rest, members =>
    match members.get? name with
    | some (.object inner) => walkDirect rest inner
    | _ => .unreachable

/-- The one slot that a path reaches without fan-out. -/
def resolve (body : Json.Object) (path : String) : Slot := walkDirect (steps path) body

end Path

end ContentQuery
