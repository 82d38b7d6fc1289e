import Rewind.Json.Record

/-!
References to workflow executions.

A workflow id names a workflow; a run id names one of its runs. A reference without a run id, or
with an empty one, means the workflow's current run.
-/

namespace Rewind

/-- A workflow, or one run of it. -/
structure WorkflowRef where
  workflowId : String
  runId : Option String
deriving DecidableEq, Repr, Inhabited

namespace WorkflowRef

/-- A reference in which an empty run id counts as none. -/
def of (workflowId : String) (runId : Option String) : WorkflowRef :=
  ⟨workflowId, runId.filter (· ≠ "")⟩

/-- The run id, empty if there is none. -/
def runIdOrEmpty (ref : WorkflowRef) : String :=
  ref.runId.getD ""

def text (ref : WorkflowRef) : String :=
  match ref.runId with
  | some runId => s!"{ref.workflowId}/{runId}"
  | none => s!"{ref.workflowId}/<current>"

def toJson (ref : WorkflowRef) : Json :=
  .obj (("workflow_id", .str ref.workflowId) :: Json.optionalMember "run_id" .str ref.runId)

def ofJson : Json.Decoder WorkflowRef := fun json => do
  let fields ← json.fields ["workflow_id", "run_id"]
  let workflowId ← fields.required "workflow_id" Json.asString
  let runId ← fields.defaulted "run_id" none (Json.asOption Json.asString)
  .ok ⟨workflowId, runId⟩

end WorkflowRef

end Rewind
