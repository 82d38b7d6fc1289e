import Rewind.ReapplyPolicy
import Rewind.Strategy

/-!
The options of the command line: their names, and what their values may be.
-/

namespace Rewind.Command

/-- Why a command line names no command that can be run. -/
inductive UsageError where
  | unknownArgument
  /-- A value that its own reader refuses. -/
  | valueValidation
  /-- A value that is missing, empty, or not among the possible ones. -/
  | invalidValue
  | missingRequiredArgument
  /-- Options that exclude each other, or one option twice. -/
  | argumentConflict
  | invalidSubcommand
  | missingSubcommand
  | displayHelp
  | displayVersion
  | displayHelpOnMissingArgumentOrSubcommand
  /-- A value for an option that takes none. -/
  | tooManyValues
deriving DecidableEq, Repr, Inhabited

namespace UsageError

def name : UsageError → String
  | .unknownArgument => "UnknownArgument"
  | .valueValidation => "ValueValidation"
  | .invalidValue => "InvalidValue"
  | .missingRequiredArgument => "MissingRequiredArgument"
  | .argumentConflict => "ArgumentConflict"
  | .invalidSubcommand => "InvalidSubcommand"
  | .missingSubcommand => "MissingSubcommand"
  | .displayHelp => "DisplayHelp"
  | .displayVersion => "DisplayVersion"
  | .displayHelpOnMissingArgumentOrSubcommand => "DisplayHelpOnMissingArgumentOrSubcommand"
  | .tooManyValues => "TooManyValues"

/-- Help and version that were asked for are no failure. -/
def exitCode : UsageError → Nat
  | .displayHelp | .displayVersion => 0
  | _ => 2

end UsageError

/-- How much may be logged where. -/
inductive LogFormat where
  | text
  | json
deriving DecidableEq, Repr, Inhabited

def LogFormat.ofName? : String → Option LogFormat
  | "text" => some .text
  | "json" => some .json
  | _ => none

/-- The values that an option takes. -/
inductive ValueKind where
  | text
  /-- A path, which may not be empty. -/
  | path
  /-- A natural number of 64 bits. -/
  | count
  /-- A natural number of 32 bits. -/
  | smallCount
  /-- A signed number of 64 bits. -/
  | integer
  | resetType
  | reapplyPolicy
  | logFormat
deriving DecidableEq, Repr

/-- Reads a natural number of 64 bits. -/
def count? (text : String) : Option Nat :=
  (Decimal.plusNat? text.toList).filter (· < UInt64.size)

/-- Reads a signed number of 64 bits. -/
def integer? (text : String) : Option Int :=
  (Decimal.signed? text.toList).filter fun n => Int64.minValue.toInt ≤ n && n ≤ Int64.maxValue.toInt

/-- Reads a natural number of 32 bits; a minus sign is read too, in front of zero. -/
def smallCount? (text : String) : Option Nat :=
  (((integer? text).filter (0 ≤ ·)).map Int.toNat).filter (· < UInt32.size)

/-- Checks a value. -/
def ValueKind.check (kind : ValueKind) (text : String) : Except UsageError Unit :=
  match kind with
  | .text => .ok ()
  | .path => if text = "" then .error .invalidValue else .ok ()
  | .count => valid (count? text).isSome
  | .smallCount => valid (smallCount? text).isSome
  | .integer => valid (integer? text).isSome
  | .resetType => valid (ResetType.ofName text).toOption.isSome
  | .reapplyPolicy => valid (ReapplyPolicy.ofText text).toOption.isSome
  | .logFormat => if (LogFormat.ofName? text).isSome then .ok () else .error .invalidValue
where
  valid (ok : Bool) : Except UsageError Unit :=
    if ok then .ok () else .error .valueValidation

/-- What an option does. -/
inductive OptionAction where
  /-- Takes a value, once. -/
  | value (kind : ValueKind)
  /-- Is there or not, once. -/
  | flag
  /-- Counts how often it is there. -/
  | counter
  | help
  | version
deriving DecidableEq, Repr

/-- An option. -/
structure OptionSpec where
  name : String
  letter : Option Char
  action : OptionAction
deriving DecidableEq, Repr

def OptionSpec.takesValue (spec : OptionSpec) : Bool :=
  match spec.action with
  | .value _ => true
  | _ => false

/-- The commands. -/
inductive Subcommand where
  | resetBatch
  | reset
deriving DecidableEq, Repr, Inhabited

def Subcommand.ofName? : String → Option Subcommand
  | "reset-batch" => some .resetBatch
  | "reset" => some .reset
  | _ => none

/-- Options that may stand in front of a command and behind it. -/
def globalOptions : List OptionSpec := [
  ⟨"namespace", none, .value .text⟩,
  ⟨"fixture", none, .value .path⟩,
  ⟨"context-timeout", none, .value .count⟩,
  ⟨"log-format", none, .value .logFormat⟩,
  ⟨"verbose", some 'v', .counter⟩,
  ⟨"help", some 'h', .help⟩]

/-- Options in front of a command. -/
def rootOptions : List OptionSpec :=
  globalOptions ++ [⟨"version", some 'V', .version⟩]

/-- Options that only one command has. -/
def ownOptions : Subcommand → List OptionSpec
  | .resetBatch => [
      ⟨"input-file", none, .value .path⟩,
      ⟨"query", some 'q', .value .text⟩,
      ⟨"exclude-file", none, .value .path⟩,
      ⟨"input-separator", none, .value .text⟩,
      ⟨"reason", none, .value .text⟩,
      ⟨"reset-type", none, .value .resetType⟩,
      ⟨"reset-bad-binary-checksum", none, .value .text⟩,
      ⟨"reapply-type", none, .value .reapplyPolicy⟩,
      ⟨"parallelism", none, .value .count⟩,
      ⟨"dry-run", none, .flag⟩,
      ⟨"skip-current-open", none, .flag⟩,
      ⟨"skip-base-is-not-current", none, .flag⟩,
      ⟨"non-deterministic", none, .flag⟩,
      ⟨"max-attempts", none, .value .smallCount⟩,
      ⟨"retry-jitter-ms", none, .value .count⟩,
      ⟨"pacing-ms", none, .value .count⟩,
      ⟨"report-file", none, .value .path⟩]
  | .reset => [
      ⟨"workflow-id", some 'w', .value .text⟩,
      ⟨"run-id", some 'r', .value .text⟩,
      ⟨"reason", none, .value .text⟩,
      ⟨"event-id", none, .value .integer⟩,
      ⟨"reset-type", none, .value .resetType⟩,
      ⟨"reset-bad-binary-checksum", none, .value .text⟩,
      ⟨"reapply-type", none, .value .reapplyPolicy⟩]

/-- Options behind a command. -/
def commandOptions (command : Subcommand) : List OptionSpec :=
  ownOptions command ++ globalOptions

end Rewind.Command
