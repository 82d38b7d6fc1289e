import Rewind.Json.Record

/-!
Events of a run's history, as far as a reset looks at them.

Kinds and causes that the library has no name for are read as `other`, so a history of a newer
service can still be scanned. The ids of events are signed words of 64 bits.
-/

namespace Rewind

/-- What happened. -/
inductive EventKind where
  | executionStarted
  | taskScheduled
  | taskStarted
  | taskCompleted
  | taskFailed
  | taskTimedOut
  | activityScheduled
  | activityCompleted
  | timerStarted
  | executionSignaled
  | executionCompleted
  | executionFailed
  | continuedAsNew
  | other
deriving DecidableEq, Repr, Inhabited

namespace EventKind

def name : EventKind → String
  | .executionStarted => "WorkflowExecutionStarted"
  | .taskScheduled => "WorkflowTaskScheduled"
  | .taskStarted => "WorkflowTaskStarted"
  | .taskCompleted => "WorkflowTaskCompleted"
  | .taskFailed => "WorkflowTaskFailed"
  | .taskTimedOut => "WorkflowTaskTimedOut"
  | .activityScheduled => "ActivityTaskScheduled"
  | .activityCompleted => "ActivityTaskCompleted"
  | .timerStarted => "TimerStarted"
  | .executionSignaled => "WorkflowExecutionSignaled"
  | .executionCompleted => "WorkflowExecutionCompleted"
  | .executionFailed => "WorkflowExecutionFailed"
  | .continuedAsNew => "WorkflowExecutionContinuedAsNew"
  | .other => "Other"

/-- The kinds with a name of their own. -/
def named : List EventKind :=
  [.executionStarted, .taskScheduled, .taskStarted, .taskCompleted, .taskFailed, .taskTimedOut,
    .activityScheduled, .activityCompleted, .timerStarted, .executionSignaled,
    .executionCompleted, .executionFailed, .continuedAsNew]

def ofName (name : String) : EventKind :=
  (named.find? (·.name = name)).getD .other

def toJson (kind : EventKind) : Json :=
  .str kind.name

def ofJson : Json.Decoder EventKind :=
  Json.asUnitVariant fun name => some (ofName name)

theorem ofName_name (kind : EventKind) : ofName kind.name = kind := by
  cases kind <;> rfl

end EventKind

/-- Why a workflow task failed. -/
inductive FailureCause where
  | unspecified
  | workerUnhandledFailure
  | nonDeterministicError
  | badBinary
  | resetWorkflow
  | other
deriving DecidableEq, Repr, Inhabited

namespace FailureCause

def name : FailureCause → String
  | .unspecified => "Unspecified"
  | .workerUnhandledFailure => "WorkerUnhandledFailure"
  | .nonDeterministicError => "NonDeterministicError"
  | .badBinary => "BadBinary"
  | .resetWorkflow => "ResetWorkflow"
  | .other => "Other"

/-- The causes with a name of their own. -/
def named : List FailureCause :=
  [.unspecified, .workerUnhandledFailure, .nonDeterministicError, .badBinary, .resetWorkflow]

def ofName (name : String) : FailureCause :=
  (named.find? (·.name = name)).getD .other

def toJson (cause : FailureCause) : Json :=
  .str cause.name

def ofJson : Json.Decoder FailureCause :=
  Json.asUnitVariant fun name => some (ofName name)

theorem ofName_name (cause : FailureCause) : ofName cause.name = cause := by
  cases cause <;> rfl

end FailureCause

/-- One event of a history. -/
structure Event where
  eventId : Int
  kind : EventKind
  completedTaskId : Option Int
  scheduledTaskId : Option Int
  failureCause : Option FailureCause
  failureMessage : Option String
  /-- The run that this run continues, on the event that starts it. -/
  continuedFrom : Option String
deriving DecidableEq, Repr, Inhabited

namespace Event

/-- The largest id. -/
def lastId : Int :=
  9223372036854775807

/-- The id behind an id. Behind the largest one the words begin again. -/
def idAfter (eventId : Int) : Int :=
  if eventId = lastId then -lastId - 1 else eventId + 1

theorem idAfter_of_lt {eventId : Int} (h : eventId < lastId) : idAfter eventId = eventId + 1 :=
  if_neg (Int.ne_of_lt h)

/-- This is how words count. -/
theorem idAfter_toInt (word : Int64) : idAfter word.toInt = (word + 1).toInt := by
  have hlow := word.le_toInt
  have hhigh := word.toInt_lt
  rw [Int64.toInt_add, idAfter, lastId, Int64.toInt_one, Int.bmod_def]
  split <;> split <;> omega

/-- An event of which nothing more is known. -/
def plain (eventId : Int) (kind : EventKind) : Event :=
  ⟨eventId, kind, none, none, none, none, none⟩

def started (eventId : Int) (continuedFrom : Option String) : Event :=
  { plain eventId .executionStarted with continuedFrom }

def taskScheduled (eventId : Int) : Event :=
  plain eventId .taskScheduled

def taskCompleted (eventId scheduledTaskId : Int) : Event :=
  { plain eventId .taskCompleted with scheduledTaskId := some scheduledTaskId }

def taskFailed (eventId : Int) (cause : FailureCause) (message : Option String) : Event :=
  { plain eventId .taskFailed with failureCause := some cause, failureMessage := message }

def toJson (event : Event) : Json :=
  .obj ([("event_id", .int event.eventId), ("event_type", event.kind.toJson)]
    ++ Json.optionalMember "completed_task_id" .int event.completedTaskId
    ++ Json.optionalMember "scheduled_task_id" .int event.scheduledTaskId
    ++ Json.optionalMember "failure_cause" FailureCause.toJson event.failureCause
    ++ Json.optionalMember "failure_message" .str event.failureMessage
    ++ Json.optionalMember "continued_from_run_id" .str event.continuedFrom)

def ofJson : Json.Decoder Event := fun json => do
  let fields ← json.fields ["event_id", "event_type", "completed_task_id", "scheduled_task_id",
    "failure_cause", "failure_message", "continued_from_run_id"]
  let eventId ← fields.required "event_id" Json.asInt64
  let kind ← fields.required "event_type" EventKind.ofJson
  let completedTaskId ← fields.defaulted "completed_task_id" none (Json.asOption Json.asInt64)
  let scheduledTaskId ← fields.defaulted "scheduled_task_id" none (Json.asOption Json.asInt64)
  let failureCause ← fields.defaulted "failure_cause" none (Json.asOption FailureCause.ofJson)
  let failureMessage ← fields.defaulted "failure_message" none (Json.asOption Json.asString)
  let continuedFrom ← fields.defaulted "continued_from_run_id" none (Json.asOption Json.asString)
  .ok ⟨eventId, kind, completedTaskId, scheduledTaskId, failureCause, failureMessage,
    continuedFrom⟩

end Event

end Rewind
