/-!
# Severity of an error

Every error of the library has a code, a severity and a message; `report` is the line that shows all
three.
-/

namespace ContentQuery

inductive Severity where
  /-- The caller asked for something that cannot be. -/
  | reject
  /-- The request was fine and failed while it ran. -/
  | error
  /-- Something failed, and the request goes on without it. -/
  | warn
  deriving DecidableEq

def Severity.name : Severity → String
  | .reject => "REJECT"
  | .error => "ERROR"
  | .warn => "WARN"

/-- The line that shows an error. -/
def report (severity : Severity) (code message : String) : String :=
  "[" ++ severity.name ++ "] " ++ code ++ ": " ++ message

end ContentQuery
