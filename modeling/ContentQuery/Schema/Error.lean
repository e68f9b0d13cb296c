import ContentQuery.Schema.Declared
import ContentQuery.Severity

/-!
# Schema errors
-/

namespace ContentQuery

/-- What is wrong with a type definition. -/
inductive DefinitionFault where
  /-- The declared type of a field cannot be read. -/
  | declared (text : String) (fault : DeclaredType.Fault)
  | undefinedType (name : String)
  | repeatedField
  /-- A definition file is no JSON text, or not one of definitions. -/
  | invalidText (detail : String)
  /-- What is written for a field is no field definition. -/
  | invalidField (typeName field detail : String)
  | unreadable (cause : String)

def DefinitionFault.message : DefinitionFault → String
  | .declared text fault => text ++ ": " ++ fault.message
  | .undefinedType name => "type " ++ name ++ " is not defined"
  | .repeatedField => "field declared twice"
  | .invalidText detail => "Invalid JSON: " ++ detail
  | .invalidField typeName field detail => typeName ++ "." ++ field ++ ": " ++ detail
  | .unreadable cause => "Failed to read file: " ++ cause

inductive SchemaError where
  | unknownType (name : String)
  | unknownField (typeName field : String)
  | duplicateType (name : String)
  /-- A text on its own declares no type. -/
  | undeclared (text : String) (fault : DeclaredType.Fault)
  /-- A definition is wrong; `place` is the field or the file where it stands. -/
  | malformed (place : String) (fault : DefinitionFault)

namespace SchemaError

def code : SchemaError → String
  | .unknownType _ => "NQ_UNKNOWN_TYPE"
  | .unknownField .. => "NQ_UNKNOWN_FIELD"
  | .duplicateType _ => "NQ_DUPLICATE_TYPE"
  | .undeclared .. | .malformed .. => "NQ_MALFORMED_TYPE_DEFINITION"

def severity : SchemaError → Severity := fun _ => .reject

def message : SchemaError → String
  | .unknownType name => "Unknown type: " ++ name
  | .unknownField typeName field => "Unknown field " ++ typeName ++ "." ++ field
  | .duplicateType name => "Type " ++ name ++ " is already registered"
  | .undeclared text fault => text ++ ": " ++ fault.message
  | .malformed place fault => place ++ ": " ++ fault.message

def report (e : SchemaError) : String := ContentQuery.report e.severity e.code e.message

end SchemaError

end ContentQuery
