import Rewind.Files
import Rewind.Json.Reader
import Rewind.Service.Store

/-!
Fixtures: the written form of a store.

Of the runs listed for one workflow the last one is current, unless `current_runs` says otherwise.
-/

namespace Rewind

namespace Run

def toJson (run : Run) : Json :=
  .obj [("workflow_id", .str run.workflowId), ("run_id", .str run.runId),
    ("is_open", .bool run.isOpen), ("auto_reset_points", .ofList ResetPoint.toJson run.points),
    ("history", .ofList Event.toJson run.history)]

def ofJson : Json.Decoder Run := fun json => do
  let fields ← json.fields ["workflow_id", "run_id", "is_open", "auto_reset_points", "history"]
  let workflowId ← fields.required "workflow_id" Json.asString
  let runId ← fields.required "run_id" Json.asString
  let isOpen ← fields.defaulted "is_open" false Json.asBool
  let points ← fields.defaulted "auto_reset_points" [] (Json.asList ResetPoint.ofJson)
  let history ← fields.defaulted "history" [] (Json.asList Event.ofJson)
  .ok ⟨workflowId, runId, isOpen, points, history⟩

end Run

/-- The runs and visibility results that a store starts with, in the order of the keys. -/
structure Fixture where
  runs : List Run
  currentRuns : List (String × String)
  visibility : List (String × List WorkflowRef)
deriving DecidableEq, Repr, Inhabited

namespace Fixture

/-- The store that a fixture describes. -/
def store (fixture : Fixture) (naming : String → Nat → String) : Store :=
  let withRuns := fixture.runs.foldl Store.insertRun (.empty naming)
  let withCurrent :=
    fixture.currentRuns.foldl (fun s entry => s.setCurrent entry.1 entry.2) withRuns
  fixture.visibility.foldl (fun s entry => s.setVisibility entry.1 entry.2) withCurrent

def toJson (fixture : Fixture) : Json :=
  .obj [("runs", .ofList Run.toJson fixture.runs),
    ("current_runs", .obj (fixture.currentRuns.map fun entry => (entry.1, .str entry.2))),
    ("visibility",
      .obj (fixture.visibility.map fun entry => (entry.1, .ofList WorkflowRef.toJson entry.2)))]

def ofJson : Json.Decoder Fixture := fun json => do
  let fields ← json.fields ["runs", "current_runs", "visibility"]
  let runs ← fields.defaulted "runs" [] (Json.asList Run.ofJson)
  let currentRuns ← fields.defaulted "current_runs" [] (Json.asMap Json.asString)
  let visibility ← fields.defaulted "visibility" [] (Json.asMap (Json.asList WorkflowRef.ofJson))
  .ok ⟨runs, currentRuns, visibility⟩

/-- Reads the text of a fixture file. -/
def ofText (text : String) : Except ResetError Fixture :=
  match Json.parse? text with
  | none => .error (.json .malformed)
  | some json => (ofJson json).mapError .json

/-- Reads a fixture file; `files` gives the content of a path. -/
def load (files : String → Except FileFault FileContent) (path : String) :
    Except ResetError Fixture :=
  match files path with
  | .error fault => .error (.inputFile path fault)
  | .ok .directory => .error (.inputFile path .isADirectory)
  | .ok (.bytes content) =>
      match Utf8.decode content with
      | .ok text => ofText text
      | .error _ => .error (.inputFile path .notUtf8)

end Fixture

end Rewind
