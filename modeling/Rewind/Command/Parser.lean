import Rewind.Command.Option

/-!
Reading a command line.

Words are read from left to right. An option that takes a value may hold it behind an equals sign,
behind its letter, or in the next word, unless that word begins with a hyphen. The value of an
option is looked at when the next option comes or the words end, and all words behind a command are
read before what was left open in front of it.
-/

namespace Rewind.Command

/-- The name and the version of the program. -/
def versionText : String := "wfreset 0.4.0"

/-- The options that were found, and the one whose value is still open. -/
structure Given where
  /-- Names and values; options without a value have an empty one. -/
  found : List (String × String)
  pending : Option (OptionSpec × Option String)
deriving DecidableEq, Repr

namespace Given

def nothing : Given :=
  ⟨[], none⟩

def has (given : Given) (name : String) : Bool :=
  given.found.any (·.1 = name)

def value? (given : Given) (name : String) : Option String :=
  (given.found.find? (·.1 = name)).map Prod.snd

/-- Whether the next word is a value. -/
def isWaiting (given : Given) : Bool :=
  match given.pending with
  | some (_, none) => true
  | _ => false

def add (given : Given) (spec : OptionSpec) (value : String) : Given :=
  { given with found := given.found ++ [(spec.name, value)] }

/-- Takes an option in. -/
def accept (given : Given) (spec : OptionSpec) (value : Option String) :
    Except UsageError Given :=
  match spec.action with
  | .help => .error .displayHelp
  | .version => .error .displayVersion
  | .counter => .ok (given.add spec "")
  | .flag => if given.has spec.name then .error .argumentConflict else .ok (given.add spec "")
  | .value kind =>
      match value with
      | none => .error .invalidValue
      | some value =>
          if given.has spec.name then .error .argumentConflict
          else (kind.check value).map fun _ => given.add spec value

/-- Takes in the option whose value was open. -/
def settle (given : Given) : Except UsageError Given :=
  match given.pending with
  | none => .ok given
  | some (spec, value) => { given with pending := none }.accept spec value

/-- Takes in the open option and then another one. -/
def react (given : Given) (spec : OptionSpec) (value : Option String) :
    Except UsageError Given :=
  given.settle.bind fun given => given.accept spec value

/-- Takes in the open option and opens another one. -/
def await (given : Given) (spec : OptionSpec) : Except UsageError Given :=
  given.settle.map fun given => { given with pending := some (spec, none) }

end Given

/-- Reads an option by its name, behind the two hyphens. -/
def readLong (specs : List OptionSpec) (given : Given) (word : List Char) :
    Except UsageError Given :=
  let name := String.ofList (word.takeWhile (· ≠ '='))
  let value := match word.dropWhile (· ≠ '=') with
    | [] => none
    | _ :: value => some (String.ofList value)
  match specs.find? (·.name = name) with
  | none => .error .unknownArgument
  | some spec =>
      match spec.takesValue, value with
      | false, some _ => .error .tooManyValues
      | true, none => given.await spec
      | _, value => given.react spec value

/-- Reads options by their letters, behind one hyphen. -/
def readLetters (specs : List OptionSpec) (given : Given) :
    List Char → Except UsageError Given
  | [] => .ok given
  | letter :: rest =>
      match specs.find? (·.letter = some letter) with
      | none => .error .unknownArgument
      | some spec =>
          if spec.takesValue then
            match rest with
            | [] => given.await spec
            | '=' :: value => given.react spec (some (String.ofList value))
            | value => given.react spec (some (String.ofList value))
          else (given.react spec none).bind fun given => readLetters specs given rest

/-- Whether the words behind `help` lead to a command. -/
def leadsToCommand : List String → Bool
  | [] => true
  | [name] => name = "help" || (Subcommand.ofName? name).isSome
  | _ => false

/-- What the words in front of a command tell: the command, and the words behind it. -/
abbrev Rest := Option (Subcommand × List String)

/-- A word that is no option, where commands may stand. -/
def readCommandName (word : String) (rest : List String) : Except UsageError Rest :=
  match Subcommand.ofName? word with
  | some command => .ok (some (command, rest))
  | none =>
      if word = "help" then
        .error (if leadsToCommand rest then .displayHelp else .invalidSubcommand)
      else .ok none

/-- A word that has no meaning at its place. -/
def refuse (atRoot trailing : Bool) (word : String) : UsageError :=
  if atRoot && !(trailing && (word = "help" || (Subcommand.ofName? word).isSome)) then
    .invalidSubcommand
  else .unknownArgument

/-- Reads words up to a command, or to the end. -/
def readWords (specs : List OptionSpec) (atRoot : Bool) :
    Bool → Given → List String → Except UsageError (Given × Rest)
  | _, given, [] => .ok (given, none)
  | true, _, word :: _ => .error (refuse atRoot true word)
  | false, given, word :: rest =>
      let command := if atRoot && !given.isWaiting then readCommandName word rest else .ok none
      match command, word.toList with
      | .error error, _ => .error error
      | .ok (some found), _ => .ok (given, some found)
      | .ok none, ['-', '-'] => readWords specs atRoot true given rest
      | .ok none, '-' :: '-' :: name =>
          (readLong specs given name).bind fun given => readWords specs atRoot false given rest
      | .ok none, '-' :: letter :: letters =>
          (readLetters specs given (letter :: letters)).bind fun given =>
            readWords specs atRoot false given rest
      | .ok none, _ =>
          match given.pending with
          | some (spec, none) =>
              readWords specs atRoot false { given with pending := some (spec, some word) } rest
          | _ => .error (refuse atRoot false word)

/-- The value of an option with its rank: given on the command line, or by the environment. -/
abbrev Ranked := Option (String × Nat)

/-- The value that options at one place and the environment give to a name. -/
def ranked (given : Given) (name : String) (fromEnvironment : Option String) : Ranked :=
  match given.value? name with
  | some value => some (value, 2)
  | none => fromEnvironment.map fun value => (value, 1)

/-- The value behind the command, unless the one in front of it has a higher rank. -/
def prevailing (front back : Ranked) : Option String :=
  match front, back with
  | some (value, rank), some (value', rank') => some (if rank > rank' then value else value')
  | some (value, _), none | none, some (value, _) => some value
  | none, none => none

/-- Checks a path from the environment that the command line does not override. -/
def checkEnvironment (environment : String → Option String) (given : Given) :
    Except UsageError Unit :=
  if given.has "fixture" then .ok ()
  else
    match environment "WFRESET_FIXTURE" with
    | some path => ValueKind.path.check path
    | none => .ok ()

/-- Checks that the options of a command fit together. -/
def checkTogether (command : Subcommand) (given : Given) : Except UsageError Unit :=
  match command with
  | .resetBatch => needs (given.has "reason" && given.has "reset-type")
  | .reset =>
      if given.has "event-id" && given.has "reset-type" then .error .argumentConflict
      else needs (given.has "workflow-id" && given.has "reason" &&
        (given.has "event-id" || given.has "reset-type"))
where
  needs (ok : Bool) : Except UsageError Unit :=
    if ok then .ok () else .error .missingRequiredArgument

/-- The options of a batch. -/
structure BatchOptions where
  inputFile : Option String
  query : Option String
  excludeFile : Option String
  separator : String
  reason : String
  resetType : ResetType
  checksum : Option String
  reapply : ReapplyPolicy
  parallelism : Nat
  dryRun : Bool
  skipCurrentOpen : Bool
  skipBaseIsNotCurrent : Bool
  nonDeterministic : Bool
  maxAttempts : Nat
  retryJitterMs : Nat
  pacingMs : Nat
  reportFile : Option String
deriving DecidableEq, Repr, Inhabited

/-- The options of a single reset. -/
structure ResetOptions where
  workflowId : String
  runId : Option String
  reason : String
  eventId : Option Int
  resetType : Option ResetType
  checksum : Option String
  reapply : ReapplyPolicy
deriving DecidableEq, Repr, Inhabited

/-- What a command line asks for. -/
inductive Action where
  | resetBatch (options : BatchOptions)
  | reset (options : ResetOptions)
deriving DecidableEq, Repr

/-- A command line that was understood. -/
structure Invocation where
  domain : String
  fixture : Option String
  /-- The deadline of a call in seconds. -/
  contextTimeout : Nat
  logFormat : LogFormat
  verbosity : Nat
  action : Action
deriving DecidableEq, Repr

namespace Given

def count (given : Given) (name : String) (default : Nat) : Nat :=
  ((given.value? name).bind count?).getD default

def resetType? (given : Given) : Option ResetType :=
  (given.value? "reset-type").bind fun name => (ResetType.ofName name).toOption

def reapply (given : Given) : ReapplyPolicy :=
  ((given.value? "reapply-type").bind fun name => (ReapplyPolicy.ofText name).toOption).getD .all

def batchOptions (given : Given) : BatchOptions where
  inputFile := given.value? "input-file"
  query := given.value? "query"
  excludeFile := given.value? "exclude-file"
  separator := (given.value? "input-separator").getD "\t"
  reason := (given.value? "reason").getD ""
  resetType := given.resetType?.getD .lastWorkflowTask
  checksum := given.value? "reset-bad-binary-checksum"
  reapply := given.reapply
  parallelism := given.count "parallelism" 1
  dryRun := given.has "dry-run"
  skipCurrentOpen := given.has "skip-current-open"
  skipBaseIsNotCurrent := given.has "skip-base-is-not-current"
  nonDeterministic := given.has "non-deterministic"
  maxAttempts := ((given.value? "max-attempts").bind smallCount?).getD 3
  retryJitterMs := given.count "retry-jitter-ms" 2000
  pacingMs := given.count "pacing-ms" 1000
  reportFile := given.value? "report-file"

def resetOptions (given : Given) : ResetOptions where
  workflowId := (given.value? "workflow-id").getD ""
  runId := given.value? "run-id"
  reason := (given.value? "reason").getD ""
  eventId := (given.value? "event-id").bind integer?
  resetType := given.resetType?
  checksum := given.value? "reset-bad-binary-checksum"
  reapply := given.reapply

end Given

def actionOf (command : Subcommand) (given : Given) : Action :=
  match command with
  | .resetBatch => .resetBatch given.batchOptions
  | .reset => .reset given.resetOptions

/-- Puts together what stands in front of a command and behind it. -/
def invocation (environment : String → Option String) (command : Subcommand)
    (front back : Given) : Invocation :=
  let value (name : String) (fromEnvironment : Option String) :=
    prevailing (ranked front name fromEnvironment) (ranked back name fromEnvironment)
  { domain := (value "namespace" (environment "WFRESET_NAMESPACE")).getD "default"
    fixture := value "fixture" (environment "WFRESET_FIXTURE")
    contextTimeout := ((value "context-timeout" none).bind count?).getD 5
    logFormat := ((value "log-format" none).bind LogFormat.ofName?).getD .text
    verbosity := max (verbosityOf front) (verbosityOf back)
    action := actionOf command back }
where
  verbosityOf (given : Given) : Nat :=
    given.found.countP (·.1 = "verbose")

/-- Reads the words behind a command. -/
def parseCommand (environment : String → Option String) (command : Subcommand)
    (words : List String) : Except UsageError Given := do
  let (given, _) ← readWords (commandOptions command) false false .nothing words
  let given ← given.settle
  checkEnvironment environment given
  checkTogether command given
  return given

/-- The error of a command line without a command. -/
def missingCommand (environment : String → Option String) (given : Given) : UsageError :=
  if given.found.isEmpty && (environment "WFRESET_NAMESPACE").isNone &&
      (environment "WFRESET_FIXTURE").isNone then
    .displayHelpOnMissingArgumentOrSubcommand
  else .missingSubcommand

/-- Reads the words behind the program's name. -/
def parse (environment : String → Option String) (words : List String) :
    Except UsageError Invocation := do
  let (front, rest) ← readWords rootOptions true false .nothing words
  match rest with
  | some (command, words) => do
      let back ← parseCommand environment command words
      let front ← front.settle
      checkEnvironment environment front
      return invocation environment command front back
  | none => do
      let front ← front.settle
      checkEnvironment environment front
      throw (missingCommand environment front)

end Rewind.Command
