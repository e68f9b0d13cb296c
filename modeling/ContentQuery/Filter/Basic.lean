import ContentQuery.Filter.Operator
import ContentQuery.Query.Rejection

/-!
# Filters

A filter is a tree: fields hold filters, and operators with their operands are its leaves. In a JSON
filter an object is the filter of a field, or of the elements of a list; every other value makes its
key an operator, known or not.
-/

namespace ContentQuery

/-- One entry of a filter. -/
inductive FilterEntry where
  /-- A filter on a member of the object. -/
  | field (name : String) (inner : List FilterEntry)
  /-- A filter that some element of a list has to pass. -/
  | elemMatch (inner : List FilterEntry)
  | operator (name : String) (operand : Json)
  deriving Inhabited

/-- Entries in the order of the request, all of which have to hold. -/
abbrev Filter := List FilterEntry

namespace Filter

mutual

/-- Reads the entries of an object. -/
def ofMembers : List (String × Json) → Filter
  | [] => []
  | (key, v) :: rest => ofMember key v :: ofMembers rest

def ofMember (key : String) : Json → FilterEntry
  | .object inner => if key = "elemMatch" then .elemMatch (ofMembers inner) else .field key (ofMembers inner)
  | v => .operator key v

end

/-- Reads a filter; only objects are filters. -/
def ofJson : Json → Except Rejection Filter
  | .object members => .ok (ofMembers members)
  | v => .error (.malformed (.filterNotObject v))

end Filter

end ContentQuery
