import Rewind.Error

/-!
Which events behind the reset point a service applies again to the new run.
-/

namespace Rewind

inductive ReapplyPolicy where
  | all
  | signal
  | nothing
deriving DecidableEq, Repr, Inhabited

namespace ReapplyPolicy

def name : ReapplyPolicy → String
  | .all => "All"
  | .signal => "Signal"
  | .nothing => "None"

def ofName? (name : String) : Option ReapplyPolicy :=
  [ReapplyPolicy.all, .signal, .nothing].find? (·.name = name)

/-- Reads an option's value; an empty one means all. -/
def ofText (text : String) : Except ResetError ReapplyPolicy :=
  if text = "" then .ok .all
  else
    match ofName? text with
    | some policy => .ok policy
    | none => .error (.config (.unsupportedReapply text))

def toJson (policy : ReapplyPolicy) : Json :=
  .str policy.name

def ofJson : Json.Decoder ReapplyPolicy :=
  Json.asUnitVariant ofName?

theorem ofName?_name (policy : ReapplyPolicy) : ofName? policy.name = some policy := by
  cases policy <;> rfl

end ReapplyPolicy

end Rewind
