import Rewind.Error
import Rewind.Text.Blank
import Rewind.Text.Split
import Rewind.Workflow

/-!
Lines that name targets.

The first column of a line is a workflow id and the second, if there is one, a run id; further
columns are not looked at. Blank lines and lines that start with `#` name nothing.
-/

namespace Rewind

/-- What a line holds. -/
inductive TargetLine where
  | blank
  | comment
  | target (ref : WorkflowRef)
deriving DecidableEq, Repr, Inhabited

namespace TargetLine

/-- The first two columns of a line, blanks at their ends removed. -/
def columns (separator text : List Char) : List Char × Option (List Char) :=
  (Text.trim (Text.before separator text),
    (Text.after? separator text).map fun rest => Text.trim (Text.before separator rest))

/-- Reads a line, which stands at a place in its file. -/
def parse (text separator : String) (line : Nat) : Except ResetError TargetLine :=
  match Text.trim text.toList with
  | [] => .ok .blank
  | '#' :: _ => .ok .comment
  | text =>
      match columns separator.toList text with
      | ([], _) => .error (.malformedLine line)
      | (workflowId, runId) =>
          .ok (.target (.of (String.ofList workflowId) (runId.map String.ofList)))

end TargetLine

end Rewind
