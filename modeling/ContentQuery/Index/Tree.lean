import ContentQuery.Index.Key
import Std.Data.TreeMap

/-!
# Indexes

An index holds, for every key, the positions of the nodes that have it, in ascending order. A node
may stand under several keys.
-/

namespace ContentQuery

/-- Adds a position to ascending positions, unless it is there. -/
def insertPosition (position : Nat) : List Nat → List Nat
  | [] => [position]
  | p :: rest =>
    if position < p then position :: p :: rest
    else if position = p then p :: rest
    else p :: insertPosition position rest

/-- Positions in ascending order, each once. -/
def ascending (positions : List Nat) : List Nat :=
  (positions.mergeSort (· ≤ ·)).foldr
    (fun p rest => if rest.head? = some p then rest else p :: rest) []

structure IndexTree where
  positions : Std.TreeMap IndexKey (List Nat)

namespace IndexTree

def empty : IndexTree := ⟨∅⟩

instance : Inhabited IndexTree := ⟨empty⟩

/-- Positions under a key. -/
def at_ (t : IndexTree) (key : IndexKey) : List Nat := (t.positions[key]?).getD []

def insert (t : IndexTree) (key : IndexKey) (position : Nat) : IndexTree :=
  ⟨t.positions.insert key (insertPosition position (t.at_ key))⟩

/-- Positions under any of some keys. -/
def atAny (t : IndexTree) (keys : List IndexKey) : List Nat := ascending (keys.flatMap t.at_)

/-- Entries with keys between two ends that leave room for one. -/
def span (t : IndexTree) (low high : Bound) (_room : Bound.crossed low high = false) :
    List (IndexKey × List Nat) :=
  t.positions.toList.filter fun (key, _) => low.allowsFrom key && high.allowsTo key

/-- Positions under the keys between two ends. -/
def between (t : IndexTree) (low high : Bound) : List Nat :=
  if room : Bound.crossed low high = false then
    ascending ((t.span low high room).flatMap Prod.snd)
  else []

/-- The index without any entry. -/
def clear (_ : IndexTree) : IndexTree := empty

def keyCount (t : IndexTree) : Nat := t.positions.size

/-- Number of positions under all keys. -/
def entryCount (t : IndexTree) : Nat :=
  t.positions.foldl (fun n _ positions => n + positions.length) 0

end IndexTree

end ContentQuery
