/-!
# How large an automaton is

An automaton takes room for its states and for the lists that some of them hold. A pattern whose
automaton would take more than `Extent.limit` is refused.
-/

namespace ContentQuery

/-- The extent of an automaton or of a part of it. -/
structure Extent where
  states : Nat
  /-- Bytes of the lists of states. -/
  lists : Nat
  deriving DecidableEq, Repr

namespace Extent

def zero : Extent := ⟨0, 0⟩

instance : Add Extent := ⟨fun a b => ⟨a.states + b.states, a.lists + b.lists⟩⟩

/-- A state with a list of transitions, eight bytes each. -/
def withTransitions (n : Nat) : Extent := ⟨1, 8 * n⟩

/-- Ways on from states that hold a list of them, four bytes each. -/
def ofBranches (n : Nat) : Extent := ⟨0, 4 * n⟩

/-- Plain states, with at most one way on. -/
def plain (n : Nat) : Extent := ⟨n, 0⟩

/-- All the bytes: thirty-two for a state, and the lists. -/
def size (e : Extent) : Nat := 32 * e.states + e.lists

/-- Ten mebibytes. -/
def limit : Nat := 10 <<< 20

def fits (e : Extent) : Bool := e.size ≤ limit

end Extent

end ContentQuery
