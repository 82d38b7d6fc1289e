import Rewind.Config
import Rewind.Outcome
import Rewind.Resolve
import Rewind.Settings

/-!
What is done with one target.

A target passes the safety checks, its anchor is found, and the reset is asked for or, in a dry run,
left out. All of this is one attempt; a failed one is made again from the start, under the request
id that the target was given at first, so the service can tell a repeated reset from a second one.
-/

namespace Rewind

/-- How the anchor of a target is found. -/
inductive Approach where
  /-- Behind the safety checks, by the strategy. -/
  | checked
  /-- Without checks, at a given event or by the strategy. -/
  | direct (eventId : Option Int)
deriving DecidableEq, Repr, Inhabited

/-- What is fixed for a batch. -/
structure Plan where
  config : BatchConfig
  settings : Settings
  /-- Who asks for the resets. -/
  operator : String
  /-- The request id of the n-th target that is taken up, counted from zero. -/
  requestIds : Nat → String
  /-- The random number behind the n-th pause of a batch, counted from zero. -/
  randoms : Nat → UInt64
  /-- The time that outcomes bear. -/
  stamp : Timestamp

/-- Counts an outcome, and the attempts before the last one as retries. -/
def Metrics.recordOutcome (metrics : Metrics) (outcome : Outcome) : Metrics :=
  (metrics.recordRetries (UInt64.ofNat (outcome.attempts - 1))).recordTiming outcome.status.kind
    .zero

namespace Plan

/-- A plan with a valid setup. -/
def of (config : BatchConfig) (settings : Settings) (operator : String)
    (requestIds : Nat → String) (randoms : Nat → UInt64) (stamp : Timestamp) :
    Except ResetError Plan :=
  config.validate.map fun _ => ⟨config, settings, operator, requestIds, randoms, stamp⟩

/-- The reason given to the service: who resets, and why. -/
def reason (plan : Plan) : String :=
  s!"{plan.operator}:{plan.config.reason}"

/-- How many targets may wait in the queue. -/
def capacity (plan : Plan) : Nat :=
  max 1 plan.settings.queueCapacity

/-- The reset of a workflow to an anchor. -/
def resetRequest (plan : Plan) (workflowId requestId : String) (anchor : ResetAnchor) :
    ResetRequest where
  domain := plan.config.domain
  workflowId := workflowId
  runId := anchor.runId
  eventId := anchor.eventId
  reason := plan.reason
  requestId := requestId
  reapply := plan.config.reapply

/-- Asks for the reset, except in a dry run. -/
def submit (plan : Plan) (workflowId requestId : String) (anchor : ResetAnchor) :
    Procedure OutcomeStatus :=
  if plan.config.dryRun then pure (.dryRun anchor)
  else do
    let response ← Procedure.reset (plan.resetRequest workflowId requestId anchor)
    pure (.reset anchor response.newRunId)

/-- One attempt at a target that has to pass the safety checks. -/
def attemptChecked (plan : Plan) (target : WorkflowRef) (requestId : String) :
    Procedure OutcomeStatus := do
  match ← plan.config.safetyFilter.check plan.config.domain target with
  | .skip reason => pure (.skipped reason)
  | .proceed runId =>
      let anchor ← plan.config.strategy.resolve plan.config.domain target.workflowId runId
      plan.submit target.workflowId requestId anchor

/-- One attempt at a target without checks. -/
def attemptDirect (plan : Plan) (target : WorkflowRef) (eventId : Option Int)
    (requestId : String) : Procedure OutcomeStatus := do
  match eventId with
  | none =>
      let anchor ← plan.config.strategy.resolveRef plan.config.domain target
      plan.submit target.workflowId requestId anchor
  | some eventId =>
      let runId ← target.concreteRun plan.config.domain
      let anchor ← ExceptT.mk (pure (ResetAnchor.of runId eventId))
      plan.submit target.workflowId requestId anchor

/-- One attempt at a target. -/
def attempt (plan : Plan) (approach : Approach) (target : WorkflowRef) (requestId : String) :
    Procedure OutcomeStatus :=
  match approach with
  | .checked => plan.attemptChecked target requestId
  | .direct eventId => plan.attemptDirect target eventId requestId

/-- All attempts at a target. -/
def process (plan : Plan) (approach : Approach) (target : WorkflowRef) (requestId : String) :
    Program (Attempted ResetError OutcomeStatus) :=
  retrying plan.settings.retry Program.rest ResetError.isRetryable fun _ =>
    ExceptT.run (plan.attempt approach target requestId)

/-- The outcome of a target whose last attempt ended so. -/
def outcome (plan : Plan) (target : WorkflowRef)
    (attempted : Attempted ResetError OutcomeStatus) : Outcome :=
  let status := match attempted.result with
    | .ok status => status
    | .error error => .failed error.text
  .of target status attempted.attempts plan.stamp

/-- What comes of a target whose last attempt ended so: its outcome, and the counters behind it. -/
def conclude (plan : Plan) (metrics : Metrics) (target : WorkflowRef)
    (attempted : Attempted ResetError OutcomeStatus) : Outcome × Metrics :=
  let outcome := plan.outcome target attempted
  (outcome, metrics.recordOutcome outcome)

@[simp] theorem conclude_fst (plan : Plan) (metrics : Metrics) (target : WorkflowRef)
    (attempted : Attempted ResetError OutcomeStatus) :
    (plan.conclude metrics target attempted).1 = plan.outcome target attempted := rfl

@[simp] theorem conclude_snd (plan : Plan) (metrics : Metrics) (target : WorkflowRef)
    (attempted : Attempted ResetError OutcomeStatus) :
    (plan.conclude metrics target attempted).2 =
      metrics.recordOutcome (plan.outcome target attempted) := rfl

end Plan

end Rewind
