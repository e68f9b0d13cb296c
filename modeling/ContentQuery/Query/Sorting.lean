import ContentQuery.Json.Order
import ContentQuery.Node.Basic
import ContentQuery.Node.Path
import ContentQuery.Query.Args

/-!
# Sorting nodes

Nodes are sorted by several keys, each in its own direction; nodes alike in every key keep their
order. In ascending order values come before nulls, and nulls before members that are not there.
-/

namespace ContentQuery

namespace Slot

/-- Place of a slot among values, nulls and missing members. -/
def rank : Slot → Nat
  | .value .null => 1
  | .value _ => 0
  | .absent | .unreachable => 2

/-- The ascending order of slots. -/
def order (a b : Slot) : Ordering :=
  match a.present?, b.present? with
  | some x, some y => Json.order x y
  | _, _ => compare a.rank b.rank

end Slot

/-- The order of two bodies by one key. -/
def SortKey.order (key : SortKey) (a b : Json.Object) : Ordering :=
  key.direction.apply (Slot.order (Path.resolve a key.path) (Path.resolve b key.path))

namespace SortSpec

/-- The order of two bodies: by the first key that tells them apart. -/
def order : SortSpec → Json.Object → Json.Object → Ordering
  | [], _, _ => .eq
  | key :: rest, a, b => (key.order a b).then (order rest a b)

def notAfter (s : SortSpec) (a b : Node) : Bool := s.order a.body b.body != .gt

def sort (s : SortSpec) (nodes : List Node) : List Node := nodes.mergeSort s.notAfter

end SortSpec

end ContentQuery
