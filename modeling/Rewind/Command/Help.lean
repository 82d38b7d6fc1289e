import Rewind.Command.Parser

/-!
What the program says about itself and about command lines that it does not understand.
-/

namespace Rewind.Command

/-- One option with the form of its value. -/
def OptionSpec.usage (spec : OptionSpec) : String :=
  let letter := match spec.letter with
    | some letter => s!"-{letter}, "
    | none => "    "
  let value := if spec.takesValue then " <VALUE>" else ""
  s!"  {letter}--{spec.name}{value}"

def optionList (title : String) (specs : List OptionSpec) : List String :=
  "" :: title :: specs.map OptionSpec.usage

/-- The commands and all options. -/
def helpText : String :=
  "\n".intercalate <|
    ["Reset workflow executions, one or in bulk", "", "Usage: wfreset [OPTIONS] <COMMAND>", "",
      "Commands:", "  reset-batch  Reset a batch of workflows", "  reset        Reset one workflow",
      "  help         Print this message"]
    ++ optionList "Options:" rootOptions
    ++ optionList "Options of reset-batch:" (ownOptions .resetBatch)
    ++ optionList "Options of reset:" (ownOptions .reset)

namespace UsageError

/-- The error in words. -/
def text : UsageError → String
  | .unknownArgument => "error: unexpected argument found"
  | .valueValidation => "error: invalid value for an option"
  | .invalidValue => "error: a value is required for an option, or not one of the possible values"
  | .missingRequiredArgument => "error: required arguments were not provided"
  | .argumentConflict => "error: an argument cannot be used together with another one, or twice"
  | .invalidSubcommand => "error: unrecognized subcommand"
  | .missingSubcommand => "error: a subcommand is required"
  | .displayHelp | .displayHelpOnMissingArgumentOrSubcommand => helpText
  | .displayVersion => versionText
  | .tooManyValues => "error: unexpected value for an option that takes none"

end UsageError

end Rewind.Command
