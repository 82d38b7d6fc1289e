import Rewind.Service.Error
import Rewind.Text.Quoted
import Rewind.Text.Utf8

/-!
What can go wrong with a reset, by cause, and the text of each cause.
-/

namespace Rewind

/-- Why a setup is refused. -/
inductive ConfigFault where
  | unsupportedType (name : String)
  | missingChecksum
  | unsupportedReapply (name : String)
  | emptyReason
  | noWorkers
  | emptyNamespace
  | emptySeparator
  | noInput
  | twoInputs
  | noAttempts
  | nonPositiveEvent (eventId : Int)
  | noService
  | other (text : String)
deriving DecidableEq, Repr

def ConfigFault.text : ConfigFault → String
  | .unsupportedType name =>
      s!"reset type is not supported: {name} (expected one of LastWorkflowTask, "
        ++ "FirstWorkflowTask, LastContinuedAsNew, BadBinary)"
  | .missingChecksum => "option reset-bad-binary-checksum is required for BadBinary"
  | .unsupportedReapply name =>
      s!"must specify valid reset reapply type: All, Signal, None (got {name})"
  | .emptyReason => "reason flag cannot be empty"
  | .noWorkers => "parallelism must be at least 1"
  | .emptyNamespace => "namespace cannot be empty"
  | .emptySeparator => "input separator cannot be empty"
  | .noInput => "must provide input file or list query to get target workflows to reset"
  | .twoInputs => "input file and list query are mutually exclusive"
  | .noAttempts => "max attempts must be at least 1"
  | .nonPositiveEvent eventId =>
      s!"event id must be a positive number, got {Decimal.signedText eventId}"
  | .noService => "no workflow service configured: pass --fixture or set WFRESET_FIXTURE"
  | .other text => text

/-- Why a file can not be read or written. -/
inductive FileFault where
  | notFound
  | alreadyThere
  | notADirectory
  | isADirectory
  | nameTooLong
  | nulInName
  /-- The file as a whole is not UTF-8. -/
  | notUtf8
  /-- One line is not UTF-8. -/
  | badLine (fault : Utf8.Fault)
  | other (text : String)
deriving DecidableEq, Repr

def FileFault.text : FileFault → String
  | .notFound => "No such file or directory (os error 2)"
  | .alreadyThere => "File exists (os error 17)"
  | .notADirectory => "Not a directory (os error 20)"
  | .isADirectory => "Is a directory (os error 21)"
  | .nameTooLong => "File name too long (os error 36)"
  | .nulInName => "file name contained an unexpected NUL byte"
  | .notUtf8 => "stream did not contain valid UTF-8"
  | .badLine fault => fault.message
  | .other text => text

/-- Why a reset, or a part of it, failed. -/
inductive ResetError where
  | config (fault : ConfigFault)
  | inputFile (path : String) (fault : FileFault)
  | malformedLine (line : Nat)
  | noTaskFound (workflowId runId : String)
  | notContinued (workflowId runId : String)
  | noResetPoint (workflowId runId : String)
  | invalidAnchor (eventId : Int)
  | historyFetch (workflowId runId : String) (cause : ServiceError)
  | service (cause : ServiceError)
  | io (fault : FileFault)
  | json (fault : Json.Fault)
deriving DecidableEq, Repr

namespace ResetError

def text : ResetError → String
  | .config fault => s!"Configuration error: {fault.text}"
  | .inputFile path fault => s!"Unable to read {Text.quoted path}: {fault.text}"
  | .malformedLine line => s!"Malformed input at line {line}: missing workflow id"
  | .noTaskFound w r => s!"No workflow task found in history of {w}/{r}"
  | .notContinued w r => s!"Run {w}/{r} was not continued from a previous run"
  | .noResetPoint w r => s!"No reset point available for {w}/{r}"
  | .invalidAnchor eventId =>
      s!"Invalid reset anchor: event id must be >= 1, got {Decimal.signedText eventId}"
  | .historyFetch w r cause => s!"Failed to fetch history of {w}/{r}: {cause.text}"
  | .service cause => s!"Service error: {cause.text}"
  | .io fault => s!"I/O error: {fault.text}"
  | .json fault => s!"JSON error: {fault.message}"

/-- The causes behind an error, each in words, the nearest first. -/
def causes : ResetError → List String
  | .inputFile _ fault | .io fault => [fault.text]
  | .historyFetch _ _ cause | .service cause => [cause.text]
  | .json fault => [fault.message]
  | _ => []

/-- The failed call behind an error, if one is. -/
def serviceError? : ResetError → Option ServiceError
  | .historyFetch _ _ cause | .service cause => some cause
  | _ => none

/-- Whether another attempt may succeed. -/
def isRetryable : ResetError → Bool
  | .historyFetch _ _ cause | .service cause => cause.isRetryable
  | .io _ => true
  | _ => false

end ResetError

end Rewind
