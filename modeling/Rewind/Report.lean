import Rewind.Files
import Rewind.Json.Printer
import Rewind.Json.Reader
import Rewind.Outcome
import Rewind.Text.Utf8
import Rewind.Uuid

/-!
Reports: the outcomes of a batch with its counters, and the file they are kept in.
-/

namespace Rewind

structure BatchReport where
  batchId : Uuid
  startedAt : Timestamp
  finishedAt : Timestamp
  dryRun : Bool
  summary : MetricsSummary
  outcomes : List Outcome
deriving DecidableEq, Repr, Inhabited

/-- Why a report can not be kept or read. -/
inductive ReportError where
  | json (fault : Json.Fault)
  | file (fault : FileFault)
deriving DecidableEq, Repr

def ReportError.text : ReportError → String
  | .json fault => s!"Serialization failed: {fault.message}"
  | .file fault => s!"Write failed: {fault.text}"

namespace BatchReport

def hasFailures (report : BatchReport) : Bool :=
  report.outcomes.any Outcome.isFailure

/-- The outcomes of one kind in order. -/
def outcomesOf (report : BatchReport) (kind : OutcomeKind) : List Outcome :=
  report.outcomes.filter (·.status.kind = kind)

/-- The outcomes on a line each. -/
def lines (report : BatchReport) : List String :=
  report.outcomes.map Outcome.line

def toJson (report : BatchReport) : Json :=
  .obj [("batch_id", report.batchId.toJson), ("started_at", report.startedAt.toJson),
    ("finished_at", report.finishedAt.toJson), ("dry_run", .bool report.dryRun),
    ("summary", report.summary.toJson), ("outcomes", .ofList Outcome.toJson report.outcomes)]

def ofJson : Json.Decoder BatchReport := fun json => do
  let fields ← json.fields ["batch_id", "started_at", "finished_at", "dry_run", "summary",
    "outcomes"]
  let batchId ← fields.required "batch_id" Uuid.ofJson
  let startedAt ← fields.required "started_at" Timestamp.ofJson
  let finishedAt ← fields.required "finished_at" Timestamp.ofJson
  let dryRun ← fields.required "dry_run" Json.asBool
  let summary ← fields.required "summary" MetricsSummary.ofJson
  let outcomes ← fields.required "outcomes" (Json.asList (Outcome.ofJsonAt 2))
  .ok ⟨batchId, startedAt, finishedAt, dryRun, summary, outcomes⟩

/-- The text of a report file. -/
def text (report : BatchReport) : String :=
  report.toJson.indented

/-- Reads the text of a report file. -/
def ofText (text : String) : Except ReportError BatchReport :=
  match Json.parse? text with
  | none => .error (.json .malformed)
  | some json => (ofJson json).mapError .json

/-- Writes a report file, and makes the directories above it first. -/
def persist (report : BatchReport) (files : Files) (path : String) : Except ReportError Files :=
  (files.writeWithParents path (Utf8.encode report.text)).mapError .file

/-- Reads a report file. -/
def ofContent : FileContent → Except ReportError BatchReport
  | .directory => .error (.file .isADirectory)
  | .bytes content =>
      match Utf8.decode content with
      | .ok text => ofText text
      | .error _ => .error (.file .notUtf8)

/-- Reads the report file at a path. -/
def load (files : Files) (path : String) : Except ReportError BatchReport :=
  ((files.read path).mapError .file).bind ofContent

end BatchReport

end Rewind
