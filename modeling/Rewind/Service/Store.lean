import Rewind.Service.Error
import Rewind.Service.Message
import Rewind.Service.Paging

/-!
A workflow service held in memory.

The store knows runs, which of them is current for each workflow, and the answers to visibility
queries. A reset copies the history of a run up to an event, adds the failure that documents the
reset and a fresh workflow task, and makes the copy the current run. Failures can be scripted: each
is handed to the next call of its method and subject, and the call then does nothing else.
-/

namespace Rewind

/-- One run of a workflow. -/
structure Run where
  workflowId : String
  runId : String
  isOpen : Bool
  points : List ResetPoint
  history : List Event
deriving DecidableEq, Repr, Inhabited

/-- How often each method was called. -/
structure CallCounts where
  describe : Nat
  getHistory : Nat
  scan : Nat
  reset : Nat
deriving DecidableEq, Repr, Inhabited

namespace CallCounts

def zero : CallCounts :=
  ⟨0, 0, 0, 0⟩

def of (counts : CallCounts) : Method → Nat
  | .describe => counts.describe
  | .getHistory => counts.getHistory
  | .scan => counts.scan
  | .reset => counts.reset

def increment (counts : CallCounts) : Method → CallCounts
  | .describe => { counts with describe := counts.describe + 1 }
  | .getHistory => { counts with getHistory := counts.getHistory + 1 }
  | .scan => { counts with scan := counts.scan + 1 }
  | .reset => { counts with reset := counts.reset + 1 }

end CallCounts

/-- The state of a service. -/
structure Store where
  /-- The runs by workflow id and run id. -/
  runs : String → String → Option Run
  /-- The current run of each workflow. -/
  current : String → Option String
  /-- What each query finds. -/
  visibility : String → List WorkflowRef
  /-- The scripted failures that are still to come, by method and subject. -/
  failures : Method → String → List ServiceError
  calls : CallCounts
  /-- The accepted resets in order. -/
  resets : List ResetRequest
  /-- The largest number of entries that a page may hold. -/
  pageCap : Nat
  /-- The number of events of all runs that were ever put in; no history is longer. -/
  volume : Nat
  /-- The run id that the n-th accepted reset of a workflow gives out, counted from one. -/
  naming : String → Nat → String

namespace Store

/-- A store without runs. -/
def empty (naming : String → Nat → String) : Store where
  runs _ _ := none
  current _ := none
  visibility _ := []
  failures _ _ := []
  calls := .zero
  resets := []
  pageCap := UInt64.size - 1
  volume := 0
  naming := naming

/-! ### Building -/

def setRun (s : Store) (run : Run) : Store :=
  { s with
    runs := fun w r => if w = run.workflowId ∧ r = run.runId then some run else s.runs w r
    volume := s.volume + run.history.length }

def setCurrent (s : Store) (workflowId runId : String) : Store :=
  { s with current := fun w => if w = workflowId then some runId else s.current w }

/-- Adds a run, which becomes the current one of its workflow. -/
def insertRun (s : Store) (run : Run) : Store :=
  (s.setRun run).setCurrent run.workflowId run.runId

def setVisibility (s : Store) (query : String) (found : List WorkflowRef) : Store :=
  { s with visibility := fun q => if q = query then found else s.visibility q }

def setFailures (s : Store) (method : Method) (subject : String)
    (queue : List ServiceError) : Store :=
  { s with
    failures := fun m k => if m = method ∧ k = subject then queue else s.failures m k }

/-- Scripts one more failure. -/
def failNext (s : Store) (method : Method) (subject : String) (error : ServiceError) : Store :=
  s.setFailures method subject (s.failures method subject ++ [error])

/-! ### Looking up -/

def run? (s : Store) (workflowId runId : String) : Except ServiceError Run :=
  match s.runs workflowId runId with
  | some run => .ok run
  | none => .error ⟨.notFound, s!"run {workflowId}/{runId} not found"⟩

def currentRun? (s : Store) (workflowId : String) : Except ServiceError String :=
  match s.current workflowId with
  | some runId => .ok runId
  | none => .error ⟨.notFound, s!"workflow {workflowId} not found"⟩

/-- The run of that id, or the current one for an empty id or none. -/
def resolve (s : Store) (workflowId : String) (runId : Option String) :
    Except ServiceError Run :=
  match runId.filter (· ≠ "") with
  | some runId => s.run? workflowId runId
  | none => (s.currentRun? workflowId).bind (s.run? workflowId)

/-! ### Answering -/

def describe (s : Store) (r : DescribeRequest) : Except ServiceError Description :=
  (s.currentRun? r.workflowId).bind fun currentRunId =>
    (s.resolve r.workflowId r.runId).map fun run => ⟨currentRunId, run.isOpen, run.points⟩

def historyPage (s : Store) (r : HistoryRequest) : Except ServiceError (Page Event) :=
  (Paging.offsetOf? r.token).bind fun offset =>
    (s.resolve r.workflowId (some r.runId)).map fun run =>
      Paging.page run.history offset (Paging.limit s.pageCap r.pageSize)

def scanPage (s : Store) (r : ScanRequest) : Except ServiceError (Page WorkflowRef) :=
  (Paging.offsetOf? r.token).map fun offset =>
    Paging.page (s.visibility r.query) offset (Paging.limit s.pageCap r.pageSize)

/-- The events up to and with the first one of that id, if there is one. -/
def historyThrough? (eventId : Int) : List Event → Option (List Event)
  | [] => none
  | event :: events =>
      if event.eventId = eventId then some [event]
      else (historyThrough? eventId events).map (event :: ·)

/-- The two events that a reset puts behind the ones it keeps. -/
def resetEvents (r : ResetRequest) : List Event :=
  let failedId := Event.idAfter r.eventId
  [.taskFailed failedId .resetWorkflow (some r.reason), .taskScheduled (Event.idAfter failedId)]

/-- How many resets of a workflow were accepted. -/
def resetCount (s : Store) (workflowId : String) : Nat :=
  s.resets.countP (·.workflowId = workflowId)

/-- The run id that the next accepted reset of a workflow gives out. -/
def nextRunId (s : Store) (workflowId : String) : String :=
  s.naming workflowId (s.resetCount workflowId + 1)

/-- The run that a reset makes out of the events it keeps. -/
def resetRun (s : Store) (r : ResetRequest) (kept : List Event) : Run :=
  ⟨r.workflowId, s.nextRunId r.workflowId, true, [], kept ++ resetEvents r⟩

def reset (s : Store) (r : ResetRequest) : Except ServiceError ResetResponse × Store :=
  match s.resolve r.workflowId (some r.runId) with
  | .error error => (.error error, s)
  | .ok base =>
      match historyThrough? r.eventId base.history with
      | none =>
          let event := Decimal.signedText r.eventId
          (.error ⟨.invalidArgument,
            s!"event {event} does not exist in {r.workflowId}/{r.runId}"⟩, s)
      | some kept =>
          let run := s.resetRun r kept
          (.ok ⟨run.runId⟩, { s.insertRun run with resets := s.resets ++ [r] })

/-- Answers a call that no scripted failure meets. -/
def serve (s : Store) : (q : Request) → Except ServiceError q.Response × Store
  | .describe r => (s.describe r, s)
  | .history r => (s.historyPage r, s)
  | .scan r => (s.scanPage r, s)
  | .reset r => s.reset r

/-- Counts a call. -/
def count (s : Store) (method : Method) : Store :=
  { s with calls := s.calls.increment method }

/-- Answers a call: with the next scripted failure for it, if there is one. -/
def call (s : Store) (q : Request) : Except ServiceError q.Response × Store :=
  match s.failures q.method q.subject with
  | error :: later => (.error error, (s.count q.method).setFailures q.method q.subject later)
  | [] => (s.count q.method).serve q

end Store

end Rewind
