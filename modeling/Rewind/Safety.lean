import Rewind.History.Scan
import Rewind.Program

/-!
Safety checks: conditions under which a target is left alone.
-/

namespace Rewind

/-- Why a target was left alone. -/
inductive SkipReason where
  /-- The run named is not the workflow's current one. -/
  | baseNotCurrent (currentRunId : String)
  /-- The current run is still open. -/
  | currentRunOpen (currentRunId : String)
  /-- The run does not end in a failure of non-determinism. -/
  | notNonDeterministic
deriving DecidableEq, Repr, Inhabited

namespace SkipReason

def text : SkipReason → String
  | .baseNotCurrent currentRunId => s!"base run is different from current run {currentRunId}"
  | .currentRunOpen currentRunId => s!"current run {currentRunId} is open"
  | .notNonDeterministic => "last workflow task did not fail with a nondeterministic error"

def toJson : SkipReason → Json
  | .baseNotCurrent runId =>
      .obj [("BaseNotCurrent", .obj [("current_run_id", .str runId)])]
  | .currentRunOpen runId =>
      .obj [("CurrentRunOpen", .obj [("current_run_id", .str runId)])]
  | .notNonDeterministic => .str "NotNonDeterministic"

/-- Reads a reason, given what may stand as the payload of the one that carries nothing. -/
def ofJsonWith (isEmpty : Option Json → Bool) : Json.Decoder SkipReason := fun json => do
  let (name, payload) ← json.asVariant
  if name = "BaseNotCurrent" then do
    let fields ← Json.payloadFields ["current_run_id"] payload
    let runId ← fields.required "current_run_id" Json.asString
    .ok (.baseNotCurrent runId)
  else if name = "CurrentRunOpen" then do
    let fields ← Json.payloadFields ["current_run_id"] payload
    let runId ← fields.required "current_run_id" Json.asString
    .ok (.currentRunOpen runId)
  else if name = "NotNonDeterministic" then
    if isEmpty payload then .ok .notNonDeterministic else .error (.mismatch "null")
  else .error (.unknownVariant name)

def ofJson : Json.Decoder SkipReason :=
  ofJsonWith Json.isUnit

/-- Reads a reason that was held back, where an empty object may stand for no payload. -/
def ofHeldBack : Json.Decoder SkipReason :=
  ofJsonWith fun payload =>
    match payload with
    | some (.obj []) => true
    | payload => Json.isUnit payload

end SkipReason

/-- The outcome of the checks for one target. -/
inductive Verdict where
  /-- Go on with that run. -/
  | proceed (runId : String)
  | skip (reason : SkipReason)
deriving DecidableEq, Repr, Inhabited

/-- The conditions that are checked. -/
structure SafetyFilter where
  skipIfOpen : Bool
  skipIfBaseNotCurrent : Bool
  nonDeterministicOnly : Bool
deriving DecidableEq, Repr, Inhabited

namespace SafetyFilter

/-- Checks a target. Its run id is compared before the current run stands in for a missing one, so
a target without run id is skipped too when the base has to be current. -/
def check (filter : SafetyFilter) (domain : String) (target : WorkflowRef) :
    Procedure Verdict := do
  let description ← Procedure.describe ⟨domain, target.workflowId, none⟩
  let current := description.currentRunId
  if filter.skipIfBaseNotCurrent && target.runIdOrEmpty ≠ current then
    return .skip (.baseNotCurrent current)
  else if filter.skipIfOpen && description.isOpen then
    return .skip (.currentRunOpen current)
  else
    let runId := target.runId.getD current
    if filter.nonDeterministicOnly then
      let events ← Procedure.readAll (.start domain target.workflowId runId)
      if (NonDeterminismScan.ofEvents events).isNonDeterministic then
        return .proceed runId
      else
        return .skip .notNonDeterministic
    else
      return .proceed runId

def toJson (filter : SafetyFilter) : Json :=
  .obj [("skip_if_open", .bool filter.skipIfOpen),
    ("skip_if_base_not_current", .bool filter.skipIfBaseNotCurrent),
    ("non_deterministic_only", .bool filter.nonDeterministicOnly)]

def ofJson : Json.Decoder SafetyFilter := fun json => do
  let fields ←
    json.fields ["skip_if_open", "skip_if_base_not_current", "non_deterministic_only"]
  let skipIfOpen ← fields.required "skip_if_open" Json.asBool
  let skipIfBaseNotCurrent ← fields.required "skip_if_base_not_current" Json.asBool
  let nonDeterministicOnly ← fields.required "non_deterministic_only" Json.asBool
  .ok ⟨skipIfOpen, skipIfBaseNotCurrent, nonDeterministicOnly⟩

end SafetyFilter

end Rewind
