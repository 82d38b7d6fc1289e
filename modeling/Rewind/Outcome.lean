import Rewind.Anchor
import Rewind.Metrics
import Rewind.Safety
import Rewind.Time.Timestamp

/-!
Outcomes: what became of each target.
-/

namespace Rewind

/-- How a target ended. -/
inductive OutcomeStatus where
  /-- The service accepted the reset and started a new run. -/
  | reset (anchor : ResetAnchor) (newRunId : String)
  /-- The anchor was found and nothing was submitted. -/
  | dryRun (anchor : ResetAnchor)
  | skipped (reason : SkipReason)
  | excluded
  | failed (error : String)
deriving DecidableEq, Repr, Inhabited

namespace OutcomeStatus

def kind : OutcomeStatus → OutcomeKind
  | .reset _ _ => .reset
  | .dryRun _ => .dryRun
  | .skipped _ => .skipped
  | .excluded => .excluded
  | .failed _ => .failed

/-- The names of the statuses in written outcomes. -/
def tag : OutcomeStatus → String
  | .reset _ _ => "reset"
  | .dryRun _ => "dry_run"
  | .skipped _ => "skipped"
  | .excluded => "excluded"
  | .failed _ => "failed"

def anchorMembers (anchor : ResetAnchor) : List (String × Json) :=
  [("anchor_run_id", .str anchor.runId), ("event_id", .int anchor.eventId)]

/-- The members of a written outcome that tell its status. -/
def members (status : OutcomeStatus) : List (String × Json) :=
  ("status", .str status.tag) ::
    match status with
    | .reset anchor newRunId => anchorMembers anchor ++ [("new_run_id", .str newRunId)]
    | .dryRun anchor => anchorMembers anchor
    | .skipped reason => [("reason", reason.toJson)]
    | .excluded => []
    | .failed error => [("error", .str error)]

def toJson (status : OutcomeStatus) : Json :=
  .obj status.members

/-- The tags by which a status is read. -/
def tags : List String :=
  ["reset", "dry_run", "skipped", "excluded", "failed"]

/-- Reads the fields of a status whose tag is known. -/
def ofTagged (tag : String) (json : Json) : Except Json.Fault OutcomeStatus :=
  if tag = "reset" then do
    let fields ← json.fields ["anchor_run_id", "event_id", "new_run_id"]
    let runId ← fields.required "anchor_run_id" Json.asString
    let eventId ← fields.required "event_id" Json.asInt64
    let newRunId ← fields.required "new_run_id" Json.asString
    .ok (.reset ⟨runId, eventId⟩ newRunId)
  else if tag = "dry_run" then do
    let fields ← json.fields ["anchor_run_id", "event_id"]
    let runId ← fields.required "anchor_run_id" Json.asString
    let eventId ← fields.required "event_id" Json.asInt64
    .ok (.dryRun ⟨runId, eventId⟩)
  else if tag = "skipped" then do
    let fields ← json.fields ["reason"]
    let reason ← fields.required "reason" SkipReason.ofHeldBack
    .ok (.skipped reason)
  else if tag = "excluded" then
    match json with
    | .arr (_ :: _) => .error .tooLong
    | _ => .ok .excluded
  else if tag = "failed" then do
    let fields ← json.fields ["error"]
    let error ← fields.required "error" Json.asString
    .ok (.failed error)
  else .error (.unknownVariant tag)

/-- The deepest nesting of a value that is held back until the tag is known. -/
def heldBackLimit : Nat := 127

/-- Reads a status: an object with the tag among its members, or an array that begins with it. -/
def ofJson : Json.Decoder OutcomeStatus := fun json => do
  let json ← json.heldBack heldBackLimit
  match json with
  | .obj members =>
      match members.filter (·.1 = "status") with
      | [] => .error (.missing "status")
      | [(_, tag)] => do
          ofTagged (← tag.asString) (.obj (members.filter (·.1 ≠ "status")))
      | _ => .error (.repeated "status")
  | .arr (tag :: items) => do ofTagged (← tag.asString) (.arr items)
  | _ => .error (.mismatch "a status")

end OutcomeStatus

/-- The end of one target. -/
structure Outcome where
  workflowId : String
  runId : Option String
  status : OutcomeStatus
  attempts : Nat
  timestamp : Timestamp
deriving DecidableEq, Repr, Inhabited

namespace Outcome

def of (target : WorkflowRef) (status : OutcomeStatus) (attempts : Nat)
    (timestamp : Timestamp) : Outcome :=
  ⟨target.workflowId, target.runId, status, attempts, timestamp⟩

/-- An excluded target is never attempted. -/
def excluded (target : WorkflowRef) (timestamp : Timestamp) : Outcome :=
  of target .excluded 0 timestamp

def isFailure (outcome : Outcome) : Bool :=
  match outcome.status with
  | .failed _ => true
  | _ => false

/-- The target that an outcome is about. -/
def ref (outcome : Outcome) : WorkflowRef :=
  ⟨outcome.workflowId, outcome.runId⟩

/-- The outcome on one line, with a tab behind each id. -/
def line (outcome : Outcome) : String :=
  let runId := outcome.runId.getD "-"
  let target := s!"{outcome.workflowId}\t{runId}\t"
  match outcome.status with
  | .reset anchor newRunId => target ++ s!"reset anchor={anchor.text} new_run_id={newRunId}"
  | .dryRun anchor => target ++ s!"dry-run anchor={anchor.text}"
  | .skipped reason => target ++ s!"skipped: {reason.text}"
  | .excluded => target ++ "excluded"
  | .failed error => target ++ s!"failed after {outcome.attempts} attempt(s): {error}"

/-- The members of a written outcome but for its time. -/
def membersWithoutTime (outcome : Outcome) : List (String × Json) :=
  [("workflow_id", .str outcome.workflowId), ("run_id", .ofOption .str outcome.runId)]
    ++ outcome.status.members ++ [("attempts", .nat outcome.attempts)]

def toJson (outcome : Outcome) : Json :=
  .obj (outcome.membersWithoutTime ++ [("timestamp", outcome.timestamp.toJson)])

/-- The members of an outcome that do not tell its status. -/
def ownNames : List String :=
  ["workflow_id", "run_id", "attempts", "timestamp"]

/-- The tag of a status, by its name or by its place among the tags. -/
def asTag : Json.Decoder String
  | .str tag => .ok tag
  | .int n =>
      match OutcomeStatus.tags[n.toNat]? with
      | some tag => if n ≥ 0 then .ok tag else .error .outOfRange
      | none => .error .outOfRange
  | _ => .error (.mismatch "a status")

/-- Reads an outcome that stands inside `depth` arrays and objects. What does not belong to the
outcome itself is held back for the status. -/
def ofJsonAt (depth : Nat) : Json.Decoder Outcome
  | .obj members => do
      let fields ← (Json.obj members).fields ownNames
      let others ← (members.filter fun entry => !ownNames.contains entry.1).mapM fun entry =>
        (entry.2.heldBack (OutcomeStatus.heldBackLimit - 1 - depth)).map fun value =>
          (entry.1, value)
      let workflowId ← fields.required "workflow_id" Json.asString
      let runId ← fields.optional "run_id" Json.asString
      let status ← match others.filter (·.1 = "status") with
        | [] => .error (.missing "status")
        | [(_, tag)] => do
            OutcomeStatus.ofTagged (← asTag tag) (.obj (others.filter (·.1 ≠ "status")))
        | _ => .error (.repeated "status")
      let attempts ← fields.required "attempts" (Json.asNat UInt32.size)
      let timestamp ← fields.required "timestamp" Timestamp.ofJson
      .ok ⟨workflowId, runId, status, attempts, timestamp⟩
  | _ => .error (.mismatch "an outcome")

def ofJson : Json.Decoder Outcome :=
  ofJsonAt 0

end Outcome

end Rewind
