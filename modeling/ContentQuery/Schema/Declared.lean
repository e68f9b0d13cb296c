import ContentQuery.Text.Blank

/-!
# Declared types

A field's type is declared as a name, as in `String!`, or as a list of a name, as in `[Node!]!`.
Exclamation marks after a name or a bracket carry no meaning here, and blanks are allowed around the
whole and inside the brackets.
-/

namespace ContentQuery

structure DeclaredType where
  name : String
  list : Bool
  deriving DecidableEq, Repr

namespace DeclaredType

/-- Why a text declares no type. -/
inductive Fault where
  | unterminatedList
  | nestedList
  | invalidName
  deriving DecidableEq, Repr

def Fault.message : Fault → String
  | .unterminatedList => "unterminated list type"
  | .nestedList => "nested list types are not supported"
  | .invalidName => "invalid type name"

def isNameChar (c : Char) : Bool := c.isAlphanum || c == '_'

def dropMarks (cs : List Char) : List Char := Text.dropEndWhile (· == '!') cs

/-- A name on its own, once brackets, marks and blanks are gone. -/
def ofName (cs : List Char) (list : Bool) : Except Fault DeclaredType :=
  if cs.head? = some '[' then .error .nestedList
  else if cs.isEmpty || !cs.all isNameChar then .error .invalidName
  else .ok ⟨String.ofList cs, list⟩

def parseChars (cs : List Char) : Except Fault DeclaredType :=
  match dropMarks (Text.trim cs) with
  | '[' :: rest =>
    if rest.getLast? = some ']' then ofName (dropMarks (Text.trim rest.dropLast)) true
    else .error .unterminatedList
  | name => ofName name false

/-- Reads a declared type. -/
def parse (text : String) : Except Fault DeclaredType := parseChars text.toList

end DeclaredType

end ContentQuery
