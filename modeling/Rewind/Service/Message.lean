import Rewind.History.Event
import Rewind.ReapplyPolicy
import Rewind.ResetPoint
import Rewind.Workflow

/-!
What is asked of a workflow service, and what it answers.

The type of an answer follows from the request. Lists come in pages: a page says by its token where
the next one starts, and a page without a token, or with an empty one, is the last.
-/

namespace Rewind

/-- The bytes by which a service recognises where a page starts. -/
abbrev Token := List UInt8

/-- Whether a page with this token is followed by another one. -/
def hasMore : Option Token → Bool
  | some token => !token.isEmpty
  | none => false

def tokenToJson : Option Token → Json :=
  Json.ofOption (Json.ofList fun b => .nat b.toNat)

def tokenOfJson (fields : Json.Fields) : Except Json.Fault (Option Token) :=
  fields.optional "next_page_token"
    (Json.asList fun json => (json.asNat UInt8.size).map Nat.toUInt8)

/-- The items that one answer holds, and where the next one starts. -/
structure Page (α : Type) where
  items : List α
  token : Option Token
deriving DecidableEq, Repr, Inhabited

structure DescribeRequest where
  domain : String
  workflowId : String
  /-- The current run if there is none. -/
  runId : Option String
deriving DecidableEq, Repr, Inhabited

structure HistoryRequest where
  domain : String
  workflowId : String
  runId : String
  pageSize : Nat
  token : Option Token
deriving DecidableEq, Repr, Inhabited

structure ScanRequest where
  domain : String
  query : String
  pageSize : Nat
  token : Option Token
deriving DecidableEq, Repr, Inhabited

structure ResetRequest where
  domain : String
  workflowId : String
  runId : String
  eventId : Int
  reason : String
  /-- The same for every attempt at one target. -/
  requestId : String
  reapply : ReapplyPolicy
deriving DecidableEq, Repr, Inhabited

structure ResetResponse where
  newRunId : String
deriving DecidableEq, Repr, Inhabited

/-- What a service knows of a workflow and one of its runs. -/
structure Description where
  currentRunId : String
  isOpen : Bool
  points : List ResetPoint
deriving DecidableEq, Repr, Inhabited

/-- How many entries are asked for when nothing else is said. -/
def defaultPageSize : Nat := 1000

/-- The kinds of requests. -/
inductive Method where
  | describe
  | getHistory
  | scan
  | reset
deriving DecidableEq, Repr, Inhabited

namespace Method

def all : List Method :=
  [.describe, .getHistory, .scan, .reset]

def name : Method → String
  | .describe => "Describe"
  | .getHistory => "GetHistory"
  | .scan => "Scan"
  | .reset => "Reset"

/-- The name of the call in full. -/
def callName : Method → String
  | .describe => "DescribeExecution"
  | .getHistory => "GetHistoryPage"
  | .scan => "ScanExecutions"
  | .reset => "ResetExecution"

def ofName? (name : String) : Option Method :=
  all.find? (·.name = name)

end Method

/-- A call. -/
inductive Request where
  | describe (request : DescribeRequest)
  | history (request : HistoryRequest)
  | scan (request : ScanRequest)
  | reset (request : ResetRequest)
deriving DecidableEq, Repr

namespace Request

/-- What a call answers when it succeeds. -/
def Response : Request → Type
  | describe _ => Description
  | history _ => Page Event
  | scan _ => Page WorkflowRef
  | reset _ => ResetResponse

def method : Request → Method
  | describe _ => .describe
  | history _ => .getHistory
  | scan _ => .scan
  | reset _ => .reset

/-- What a call is about: its workflow, or the query of a scan. -/
def subject : Request → String
  | describe request => request.workflowId
  | history request => request.workflowId
  | scan request => request.query
  | reset request => request.workflowId

end Request

/-! ### Written forms -/

def DescribeRequest.toJson (r : DescribeRequest) : Json :=
  .obj [("namespace", .str r.domain), ("workflow_id", .str r.workflowId),
    ("run_id", .ofOption .str r.runId)]

def DescribeRequest.ofJson : Json.Decoder DescribeRequest := fun json => do
  let fields ← json.fields ["namespace", "workflow_id", "run_id"]
  let domain ← fields.required "namespace" Json.asString
  let workflowId ← fields.required "workflow_id" Json.asString
  let runId ← fields.optional "run_id" Json.asString
  .ok ⟨domain, workflowId, runId⟩

def HistoryRequest.toJson (r : HistoryRequest) : Json :=
  .obj [("namespace", .str r.domain), ("workflow_id", .str r.workflowId), ("run_id", .str r.runId),
    ("page_size", .nat r.pageSize), ("next_page_token", tokenToJson r.token)]

def HistoryRequest.ofJson : Json.Decoder HistoryRequest := fun json => do
  let fields ← json.fields ["namespace", "workflow_id", "run_id", "page_size", "next_page_token"]
  let domain ← fields.required "namespace" Json.asString
  let workflowId ← fields.required "workflow_id" Json.asString
  let runId ← fields.required "run_id" Json.asString
  let pageSize ← fields.required "page_size" (Json.asNat UInt64.size)
  let token ← tokenOfJson fields
  .ok ⟨domain, workflowId, runId, pageSize, token⟩

def ScanRequest.toJson (r : ScanRequest) : Json :=
  .obj [("namespace", .str r.domain), ("query", .str r.query), ("page_size", .nat r.pageSize),
    ("next_page_token", tokenToJson r.token)]

def ScanRequest.ofJson : Json.Decoder ScanRequest := fun json => do
  let fields ← json.fields ["namespace", "query", "page_size", "next_page_token"]
  let domain ← fields.required "namespace" Json.asString
  let query ← fields.required "query" Json.asString
  let pageSize ← fields.required "page_size" (Json.asNat UInt64.size)
  let token ← tokenOfJson fields
  .ok ⟨domain, query, pageSize, token⟩

def ResetRequest.toJson (r : ResetRequest) : Json :=
  .obj [("namespace", .str r.domain), ("workflow_id", .str r.workflowId), ("run_id", .str r.runId),
    ("event_id", .int r.eventId), ("reason", .str r.reason), ("request_id", .str r.requestId),
    ("reapply_policy", r.reapply.toJson)]

def ResetRequest.ofJson : Json.Decoder ResetRequest := fun json => do
  let fields ← json.fields ["namespace", "workflow_id", "run_id", "event_id", "reason",
    "request_id", "reapply_policy"]
  let domain ← fields.required "namespace" Json.asString
  let workflowId ← fields.required "workflow_id" Json.asString
  let runId ← fields.required "run_id" Json.asString
  let eventId ← fields.required "event_id" Json.asInt64
  let reason ← fields.required "reason" Json.asString
  let requestId ← fields.required "request_id" Json.asString
  let reapply ← fields.required "reapply_policy" ReapplyPolicy.ofJson
  .ok ⟨domain, workflowId, runId, eventId, reason, requestId, reapply⟩

def ResetResponse.toJson (r : ResetResponse) : Json :=
  .obj [("new_run_id", .str r.newRunId)]

def ResetResponse.ofJson : Json.Decoder ResetResponse := fun json => do
  let fields ← json.fields ["new_run_id"]
  let newRunId ← fields.required "new_run_id" Json.asString
  .ok ⟨newRunId⟩

def Description.toJson (d : Description) : Json :=
  .obj [("current_run_id", .str d.currentRunId), ("is_open", .bool d.isOpen),
    ("auto_reset_points", .ofList ResetPoint.toJson d.points)]

def Description.ofJson : Json.Decoder Description := fun json => do
  let fields ← json.fields ["current_run_id", "is_open", "auto_reset_points"]
  let currentRunId ← fields.required "current_run_id" Json.asString
  let isOpen ← fields.required "is_open" Json.asBool
  let points ← fields.defaulted "auto_reset_points" [] (Json.asList ResetPoint.ofJson)
  .ok ⟨currentRunId, isOpen, points⟩

/-- A page under the name that its items go by. -/
def Page.toJson {α : Type} (name : String) (encode : α → Json) (page : Page α) : Json :=
  .obj [(name, .ofList encode page.items), ("next_page_token", tokenToJson page.token)]

def Page.ofJson {α : Type} (name : String) (decode : Json.Decoder α) : Json.Decoder (Page α) :=
  fun json => do
    let fields ← json.fields [name, "next_page_token"]
    let items ← fields.required name (Json.asList decode)
    let token ← tokenOfJson fields
    .ok ⟨items, token⟩

end Rewind
