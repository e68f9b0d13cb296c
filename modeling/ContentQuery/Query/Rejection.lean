import ContentQuery.Json.Decode
import ContentQuery.Json.Printer
import ContentQuery.Pattern.Basic
import ContentQuery.Severity

/-!
# Rejected queries

A filter, a sort or the arguments of a query are rejected before anything runs. `Rejection` names the
cause; the wording is in `Rejection.message` alone.
-/

namespace ContentQuery

/-- How a filter or a path fails to fit the kind of a field. -/
inductive KindConflict where
  | noOperators (declared operator : String)
  | unsupportedOperator (operator declared : String)
  /-- An element filter on the object itself. -/
  | elementsOfObject
  | elementsOfField (declared : String)
  | noNestedField (declared field : String)
  | noNestedFields (step : String)

/-- What is wrong with the operand of an operator. -/
inductive OperandFault where
  | notList (operator : String)
  | pattern (fault : PatternFault)

/-- What is wrong with the form of the arguments. -/
inductive ArgumentFault where
  | filterNotObject (found : Json)
  | strayOperator (operator typeName : String)
  | sort (mismatch : Json.Mismatch)
  | surplusOrders (orders fields : Nat)
  | emptySortField
  | sortOrder (text : String)
  | arguments (mismatch : Json.Mismatch)

inductive Rejection where
  | unknownType (name : String)
  | unknownField (typeName path : String)
  | conflict (path : String) (cause : KindConflict)
  | operand (path : String) (fault : OperandFault)
  | malformed (fault : ArgumentFault)

def KindConflict.message : KindConflict → String
  | .noOperators declared operator =>
    declared ++ " accepts no filter operators, found '" ++ operator ++ "'"
  | .unsupportedOperator operator declared =>
    "operator '" ++ operator ++ "' is not supported on " ++ declared
  | .elementsOfObject => "elemMatch requires a list of objects"
  | .elementsOfField declared => "elemMatch requires a list of objects, found " ++ declared
  | .noNestedField declared field => declared ++ " has no nested field '" ++ field ++ "'"
  | .noNestedFields step => "'" ++ step ++ "' has no nested fields"

def OperandFault.message : OperandFault → String
  | .notList operator => "'" ++ operator ++ "' expects a list of values"
  | .pattern fault => fault.message

def ArgumentFault.message : ArgumentFault → String
  | .filterNotObject found => "filter must be an object, got " ++ found.compact
  | .strayOperator operator typeName =>
    "operator '" ++ operator ++ "' must be applied to a field of " ++ typeName
  | .sort mismatch => "invalid sort: " ++ mismatch.message
  | .surplusOrders orders fields =>
    "sort has " ++ toString orders ++ " orders for " ++ toString fields ++ " fields"
  | .emptySortField => "sort field must not be empty"
  | .sortOrder text => "sort order must be ASC or DESC, got '" ++ text ++ "'"
  | .arguments mismatch => "invalid query arguments: " ++ mismatch.message

namespace Rejection

def code : Rejection → String
  | .unknownType _ => "NQ_UNKNOWN_TYPE"
  | .unknownField .. => "NQ_UNKNOWN_FIELD"
  | .conflict .. => "NQ_SCHEMA_MISMATCH"
  | .operand .. | .malformed _ => "NQ_MALFORMED_FILTER"

def severity : Rejection → Severity := fun _ => .reject

def message : Rejection → String
  | .unknownType name => "Unknown type: " ++ name
  | .unknownField typeName path => "Field '" ++ path ++ "' is not declared on type " ++ typeName
  | .conflict path cause => "Field '" ++ path ++ "': " ++ cause.message
  | .operand path fault => "Field '" ++ path ++ "': " ++ fault.message
  | .malformed fault => fault.message

/-- The field that the query is rejected for, if it is one. -/
def field? : Rejection → Option String
  | .unknownField _ path | .conflict path _ | .operand path _ => some path
  | .unknownType _ | .malformed _ => none

def report (r : Rejection) : String := ContentQuery.report r.severity r.code r.message

end Rejection

end ContentQuery
