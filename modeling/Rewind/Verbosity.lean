/-!
How much is logged.
-/

namespace Rewind

/-- The filter of log lines for a number of verbosity flags. -/
def logFilter : Nat → String
  | 0 => "warn,wfreset_agent=info"
  | 1 => "info"
  | 2 => "debug"
  | _ => "trace"

end Rewind
