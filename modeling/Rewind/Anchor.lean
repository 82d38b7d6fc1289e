import Rewind.Error

/-!
Anchors: the run and the event that a reset goes back to.
-/

namespace Rewind

/-- An event of a run. Event ids start at one; `ResetAnchor.of` refuses all others. -/
structure ResetAnchor where
  runId : String
  eventId : Int
deriving DecidableEq, Repr, Inhabited

namespace ResetAnchor

def of (runId : String) (eventId : Int) : Except ResetError ResetAnchor :=
  if eventId < 1 then .error (.invalidAnchor eventId) else .ok ⟨runId, eventId⟩

def text (anchor : ResetAnchor) : String :=
  s!"{anchor.runId}@{Decimal.signedText anchor.eventId}"

def toJson (anchor : ResetAnchor) : Json :=
  .obj [("anchor_run_id", .str anchor.runId), ("event_id", .int anchor.eventId)]

def ofJson : Json.Decoder ResetAnchor := fun json => do
  let fields ← json.fields ["anchor_run_id", "event_id"]
  let runId ← fields.required "anchor_run_id" Json.asString
  let eventId ← fields.required "event_id" Json.asInt64
  .ok ⟨runId, eventId⟩

end ResetAnchor

end Rewind
