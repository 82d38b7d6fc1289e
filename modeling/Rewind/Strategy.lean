import Rewind.Error
import Rewind.Text.Blank

/-!
Reset strategies: how the event to reset to is found when none is named.
-/

namespace Rewind

/-- The ways to find an event. -/
inductive ResetType where
  | lastWorkflowTask
  | firstWorkflowTask
  | lastContinuedAsNew
  | badBinary
deriving DecidableEq, Repr, Inhabited

namespace ResetType

def all : List ResetType :=
  [.lastWorkflowTask, .firstWorkflowTask, .lastContinuedAsNew, .badBinary]

def name : ResetType → String
  | .lastWorkflowTask => "LastWorkflowTask"
  | .firstWorkflowTask => "FirstWorkflowTask"
  | .lastContinuedAsNew => "LastContinuedAsNew"
  | .badBinary => "BadBinary"

def ofName (name : String) : Except ResetError ResetType :=
  match all.find? (·.name = name) with
  | some type => .ok type
  | none => .error (.config (.unsupportedType name))

theorem ofName_name (type : ResetType) : ofName type.name = .ok type := by
  cases type <;> rfl

end ResetType

/-- A way to find an event, with what it needs to know. -/
inductive Strategy where
  /-- The last workflow task of the run. -/
  | lastWorkflowTask
  /-- The first workflow task of the run. -/
  | firstWorkflowTask
  /-- The last workflow task of the run that this one continues. -/
  | lastContinuedAsNew
  /-- The last event that a binary with another checksum completed. -/
  | badBinary (checksum : String)
deriving DecidableEq, Repr, Inhabited

namespace Strategy

/-- Builds a strategy; only a bad binary needs a checksum, which may not be blank. -/
def ofParts (type : ResetType) (checksum : Option String) : Except ResetError Strategy :=
  match type with
  | .lastWorkflowTask => .ok .lastWorkflowTask
  | .firstWorkflowTask => .ok .firstWorkflowTask
  | .lastContinuedAsNew => .ok .lastContinuedAsNew
  | .badBinary =>
      match checksum.map Text.trimmed with
      | some checksum =>
          if checksum = "" then .error (.config .missingChecksum) else .ok (.badBinary checksum)
      | none => .error (.config .missingChecksum)

def resetType : Strategy → ResetType
  | .lastWorkflowTask => .lastWorkflowTask
  | .firstWorkflowTask => .firstWorkflowTask
  | .lastContinuedAsNew => .lastContinuedAsNew
  | .badBinary _ => .badBinary

def text : Strategy → String
  | .badBinary checksum => s!"BadBinary({checksum})"
  | strategy => strategy.resetType.name

def toJson : Strategy → Json
  | .badBinary checksum => .obj [("BadBinary", .obj [("checksum", .str checksum)])]
  | strategy => .str strategy.resetType.name

def ofJson : Json.Decoder Strategy := fun json => do
  let (name, payload) ← json.asVariant
  match ResetType.all.find? (·.name = name) with
  | none => .error (.unknownVariant name)
  | some .badBinary => do
      let fields ← Json.payloadFields ["checksum"] payload
      let checksum ← fields.required "checksum" Json.asString
      .ok (.badBinary checksum)
  | some .lastWorkflowTask => bare .lastWorkflowTask payload
  | some .firstWorkflowTask => bare .firstWorkflowTask payload
  | some .lastContinuedAsNew => bare .lastContinuedAsNew payload
where
  bare (strategy : Strategy) (payload : Option Json) : Except Json.Fault Strategy :=
    if Json.isUnit payload then .ok strategy else .error (.mismatch "null")

end Strategy

end Rewind
