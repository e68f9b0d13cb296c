import ContentQuery.Pattern.Regex.Extent

/-!
# Trees of words

A choice between words is made byte by byte along a tree. Earlier words come first in a choice, so
where a word ends the tree begins anew: what was added to a node before a word ended there stays
apart from what is added later.
-/

namespace ContentQuery

/-- A node of a tree of words, with the bytes that lead on from it: those that were added before the
last word that ended here, parted by the ends of words, and those added since then. -/
inductive WordTree where
  | node (closed : List (List (UInt8 × WordTree))) (recent : List (UInt8 × WordTree))

namespace WordTree

def empty : WordTree := .node [] []

/-- Ends a word at a node. Where no word goes on, one end is enough. -/
def close : WordTree → WordTree
  | .node closed recent =>
    if closed.all List.isEmpty && recent.isEmpty && !closed.isEmpty then .node closed recent
    else .node (closed ++ [recent]) []

/-- Replaces the node that a byte leads to; bytes are kept in order. -/
def update (b : UInt8) (f : WordTree → WordTree) :
    List (UInt8 × WordTree) → List (UInt8 × WordTree)
  | [] => [(b, f empty)]
  | (c, t) :: rest =>
    if b < c then (b, f empty) :: (c, t) :: rest
    else if b == c then (c, f t) :: rest
    else (c, t) :: update b f rest

def add : List UInt8 → WordTree → WordTree
  | [], t => t.close
  | b :: bs, .node closed recent => .node closed (update b (add bs) recent)

def ofWords (words : List (List UInt8)) : WordTree := words.foldl (fun t w => t.add w) empty

/-! ## Extent -/

/-- The states of one node: one for the node, which leads to its groups of bytes and, between them,
past the ends of words; and one for each group, with a list of transitions unless it is a single
byte. A node that no word goes on from has none. -/
def nodeExtent (closed : List (List (UInt8 × WordTree))) (recent : List (UInt8 × WordTree)) :
    Extent :=
  let groups := (closed ++ [recent]).filter (!·.isEmpty)
  if groups.isEmpty then .zero
  else
    groups.foldl
      (fun e g => e + if g.length == 1 then .plain 1 else .withTransitions g.length)
      (.plain 1 + .ofBranches (groups.length + closed.length))

mutual

/-- The extent of the automaton of a tree. -/
def extent : WordTree → Extent
  | .node closed recent => nodeExtent closed recent + groupsExtent closed + groupExtent recent

def groupsExtent : List (List (UInt8 × WordTree)) → Extent
  | [] => .zero
  | g :: gs => groupExtent g + groupsExtent gs

def groupExtent : List (UInt8 × WordTree) → Extent
  | [] => .zero
  | (_, t) :: rest => t.extent + groupExtent rest

end

end WordTree

end ContentQuery
