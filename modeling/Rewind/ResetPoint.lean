import Rewind.Json.Record

/-!
Reset points: the events that a service remembers as the last good ones of a worker binary.
-/

namespace Rewind

/-- The last workflow task that one binary completed. -/
structure ResetPoint where
  /-- The checksum of the binary. -/
  checksum : String
  completedTaskId : Int
  resettable : Bool
deriving DecidableEq, Repr, Inhabited

namespace ResetPoint

/-- Whether a run can be reset to this point to get rid of a bad binary. -/
def isUsable (badChecksum : String) (point : ResetPoint) : Bool :=
  point.checksum ≠ badChecksum && point.resettable && point.completedTaskId > 0

/-- The first usable point; services list the most recent one first. -/
def select? (points : List ResetPoint) (badChecksum : String) : Option ResetPoint :=
  points.find? (isUsable badChecksum)

def toJson (point : ResetPoint) : Json :=
  .obj [("checksum", .str point.checksum), ("completed_task_id", .int point.completedTaskId),
    ("resettable", .bool point.resettable)]

def ofJson : Json.Decoder ResetPoint := fun json => do
  let fields ← json.fields ["checksum", "completed_task_id", "resettable"]
  let checksum ← fields.required "checksum" Json.asString
  let completedTaskId ← fields.required "completed_task_id" Json.asInt64
  let resettable ← fields.defaulted "resettable" true Json.asBool
  .ok ⟨checksum, completedTaskId, resettable⟩

end ResetPoint

end Rewind
