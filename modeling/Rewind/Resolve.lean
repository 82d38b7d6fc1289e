import Rewind.Anchor
import Rewind.History.Scan
import Rewind.Program
import Rewind.Strategy

/-!
Resolving a strategy: from a run to the event to reset it to.
-/

namespace Rewind

/-- The id of the run that a reference names, or of the workflow's current run. -/
def WorkflowRef.concreteRun (ref : WorkflowRef) (domain : String) : Procedure String :=
  match ref.runId with
  | some runId => pure runId
  | none => do
      let description ← Procedure.describe ⟨domain, ref.workflowId, none⟩
      pure description.currentRunId

namespace Strategy

/-- The anchor at an event that a scan found. -/
def anchorAt (workflowId runId : String) : Option Int → Except ResetError ResetAnchor
  | some eventId => ResetAnchor.of runId eventId
  | none => .error (.noTaskFound workflowId runId)

/-- The last workflow task of a run. -/
def lastTask (domain workflowId runId : String) : Procedure ResetAnchor := do
  let events ← Procedure.readAll (.start domain workflowId runId)
  .mk (pure (anchorAt workflowId runId (LastTaskScan.ofEvents events).eventId?))

/-- The first workflow task of a run. Reading stops behind the first completed one. -/
def firstTask (domain workflowId runId : String) : Procedure ResetAnchor := do
  let events ← Procedure.readUntil (fun events => (FirstTaskScan.ofEvents events).isFinal)
    (.start domain workflowId runId)
  .mk (pure (anchorAt workflowId runId (FirstTaskScan.ofEvents events).eventId?))

/-- The run that a run continues, by its first event. -/
def continuedRun? (events : List Event) : Option String :=
  (events.head?.bind Event.continuedFrom).filter (· ≠ "")

/-- The last workflow task of the run that a run continues. -/
def lastTaskOfContinued (domain workflowId runId : String) : Procedure ResetAnchor := do
  let events ← Procedure.readUntil (fun events => !events.isEmpty)
    ((HistoryCursor.start domain workflowId runId).withPageSize 1)
  match continuedRun? events with
  | some continued => lastTask domain workflowId continued
  | none => throw (.notContinued workflowId runId)

/-- The last point of a run that another binary than the bad one completed. -/
def lastGoodPoint (domain workflowId runId badChecksum : String) : Procedure ResetAnchor := do
  let description ← Procedure.describe ⟨domain, workflowId, some runId⟩
  match ResetPoint.select? description.points badChecksum with
  | some point => .mk (pure (ResetAnchor.of runId point.completedTaskId))
  | none => throw (.noResetPoint workflowId runId)

/-- The anchor for one run. -/
def resolve (strategy : Strategy) (domain workflowId runId : String) : Procedure ResetAnchor :=
  match strategy with
  | .lastWorkflowTask => lastTask domain workflowId runId
  | .firstWorkflowTask => firstTask domain workflowId runId
  | .lastContinuedAsNew => lastTaskOfContinued domain workflowId runId
  | .badBinary checksum => lastGoodPoint domain workflowId runId checksum

/-- The anchor for a reference, in the current run if it names none. -/
def resolveRef (strategy : Strategy) (domain : String) (target : WorkflowRef) :
    Procedure ResetAnchor := do
  let runId ← target.concreteRun domain
  strategy.resolve domain target.workflowId runId

end Strategy

end Rewind
