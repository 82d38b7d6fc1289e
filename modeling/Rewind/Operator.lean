/-!
The name of whoever runs the program.
-/

namespace Rewind

/-- The variables that may hold the name, in the order in which they are asked. -/
def userVariables : List String :=
  ["USER", "LOGNAME", "USERNAME"]

/-- The first of the variables that is not empty, or `unknown`. -/
def operatorName (environment : String → Option String) : String :=
  (userVariables.findSome? fun name => (environment name).filter (· ≠ "")).getD "unknown"

end Rewind
