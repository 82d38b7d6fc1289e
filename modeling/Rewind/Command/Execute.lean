import Rewind.Batch.Run
import Rewind.Command.Parser
import Rewind.Service.Fixture

/-!
Running a command.

Everything that can be wrong with a command is found before the first service call: its options, the
exclude file, the fixture and the input file. A command ends with its lines of output, the calls that
it made and its success; between its last outcome and its end a batch may have a report to write.
-/

namespace Rewind.Command

/-- Why a command fails. -/
inductive CommandError where
  | reset (error : ResetError)
  | fixture (path : String) (error : ResetError)
  | report (error : ReportError)
deriving DecidableEq, Repr

namespace CommandError

/-- The parts of the message: what was done, what went wrong, and what was behind it. -/
def parts : CommandError → List String
  | .reset error => error.text :: error.causes
  | .fixture path error => s!"loading service fixture {path}" :: error.text :: error.causes
  | .report error =>
      match error with
      | .json fault => [error.text, fault.message]
      | .file fault => [error.text, fault.text]

def text (error : CommandError) : String :=
  ": ".intercalate error.parts

end CommandError

/-- What a command finds around it. -/
structure Surroundings where
  files : String → Except FileFault FileContent
  operator : String
  /-- The run ids that resets give out. -/
  naming : String → Nat → String
  requestIds : Nat → String
  /-- The random numbers behind pauses. -/
  randoms : Nat → UInt64
  batchId : Uuid
  stamp : Timestamp

/-- The end of a command. -/
structure Ending where
  stdout : List String
  stderr : List String
  /-- The service calls that were made, in order. -/
  calls : List Exchange
  /-- Whether a target failed, if the command itself did not. -/
  result : Except CommandError Bool

namespace Ending

/-- An end before any call and any output. -/
def refused (error : CommandError) : Ending :=
  ⟨[], [], [], .error error⟩

/-- The standard error stream with the message of an error. -/
def errorLines (ending : Ending) : List String :=
  match ending.result with
  | .error error => ending.stderr ++ [s!"Error: {error.text}"]
  | .ok _ => ending.stderr

def exitCode (ending : Ending) : Nat :=
  match ending.result with
  | .ok false => 0
  | _ => 1

end Ending

/-- A command as far as it gets without writing a file. -/
inductive Progress where
  | ended (ending : Ending)
  /-- A report has to be written; the rest depends on how that goes. -/
  | writing (path : String) (report : BatchReport)
      (resume : Except ReportError Unit → Ending)

namespace BatchOptions

/-- The setup of a batch with this strategy. -/
def setup (options : BatchOptions) (domain : String) (strategy : Strategy) : BatchConfig where
  domain := domain
  reason := options.reason
  strategy := strategy
  skipIfOpen := options.skipCurrentOpen
  skipIfBaseNotCurrent := options.skipBaseIsNotCurrent
  nonDeterministicOnly := options.nonDeterministic
  dryRun := options.dryRun
  reapply := options.reapply
  parallelism := options.parallelism

/-- The setup of a batch, if it is a valid one. -/
def config (options : BatchOptions) (domain : String) : Except ResetError BatchConfig := do
  if options.maxAttempts = 0 then throw (.config .noAttempts)
  let strategy ← Strategy.ofParts options.resetType options.checksum
  let config := options.setup domain strategy
  config.validate
  return config

def settings (options : BatchOptions) (contextTimeout : Nat) : Settings :=
  { Settings.standard with
    retry := ⟨options.maxAttempts, ⟨options.retryJitterMs * 1000000⟩⟩
    deadline := .ofSeconds contextTimeout
    pacing := ⟨options.pacingMs * 1000000⟩ }

def input (options : BatchOptions) : Except ResetError TargetInput :=
  TargetInput.ofOptions options.inputFile options.query (some options.separator)

/-- The workflows that the exclude file names, if there is one; `files` gives the content of a path. -/
def exclusions (options : BatchOptions) (files : String → Except FileFault FileContent) :
    Except ResetError ExclusionSet :=
  match options.excludeFile with
  | some path => ExclusionSet.load files path options.separator
  | none => .ok .empty

end BatchOptions

namespace ResetOptions

/-- Refuses an event that no history has. -/
def checkEvent (options : ResetOptions) : Except ResetError Unit :=
  match options.eventId with
  | some eventId =>
      if eventId < 1 then .error (.config (.nonPositiveEvent eventId)) else .ok ()
  | none => .ok ()

/-- The strategy of a single reset. With an event it is never asked. -/
def strategy (options : ResetOptions) : Except ResetError Strategy :=
  match options.resetType with
  | some type => Strategy.ofParts type options.checksum
  | none => .ok .lastWorkflowTask

/-- The setup of a single reset with this strategy. -/
def setup (options : ResetOptions) (domain : String) (strategy : Strategy) : BatchConfig :=
  { BatchConfig.of options.reason strategy with domain, reapply := options.reapply }

/-- The setup of a single reset, if it is a valid one. -/
def config (options : ResetOptions) (domain : String) : Except ResetError BatchConfig := do
  options.checkEvent
  let strategy ← options.strategy
  let config := options.setup domain strategy
  config.validate
  return config

end ResetOptions

/-- The service that the fixture of a command line describes. -/
def connect (around : Surroundings) (invocation : Invocation) : Except CommandError Service :=
  match invocation.fixture with
  | none => .error (.reset (.config .noService))
  | some path =>
      match Fixture.load around.files path with
      | .error error => .error (.fixture path error)
      | .ok fixture => .ok
          { Service.ofStore (fixture.store around.naming) with
            deadline := some (.ofSeconds invocation.contextTimeout) }

/-- What a batch needs to start. -/
structure PreparedBatch where
  plan : Plan
  service : Service
  source : Source

/-- Checks the options of a batch and opens its files. -/
def prepareBatch (around : Surroundings) (invocation : Invocation) (options : BatchOptions) :
    Except CommandError PreparedBatch := do
  let config ← (options.config invocation.domain).mapError .reset
  let input ← options.input.mapError .reset
  let exclusions ← (options.exclusions around.files).mapError .reset
  let service ← connect around invocation
  let settings := options.settings invocation.contextTimeout
  let plan ←
    (Plan.of config settings around.operator around.requestIds around.randoms around.stamp).mapError
      .reset
  let source ← (Source.start around.files input invocation.domain exclusions).mapError .reset
  return ⟨plan, service, source⟩

/-- The end of a batch that was reported, if writing the report went well. Its outcomes were printed as
they came about. -/
def batchEnding (final : Batch.State) (report : BatchReport) (written : Except ReportError Unit) :
    Ending :=
  let stdout := final.reported.map Outcome.line
  match written with
  | .ok () => ⟨stdout, [report.summary.text], final.service.journal, .ok report.hasFailures⟩
  | .error error => ⟨stdout, [], final.service.journal, .error (.report error)⟩

/-- Ends a batch whose actors have come to this state. -/
def concludeBatch (around : Surroundings) (options : BatchOptions) (plan : Plan)
    (final : Batch.State) : Progress :=
  match final.result with
  | .error error =>
      .ended ⟨final.reported.map Outcome.line, [], final.service.journal, .error (.reset error)⟩
  | .ok outcomes =>
      let report := plan.report around.batchId around.stamp around.stamp final.metrics outcomes
      match options.reportFile with
      | some path => .writing path report (batchEnding final report)
      | none => .ended (batchEnding final report (.ok ()))

/-- Runs a batch that was prepared. -/
def runBatch (around : Surroundings) (options : BatchOptions) (batch : PreparedBatch) :
    Progress :=
  concludeBatch around options batch.plan (batch.plan.run batch.service .zero batch.source 0)

/-- What a single reset needs to start. -/
structure PreparedReset where
  plan : Plan
  service : Service
  target : WorkflowRef
  eventId : Option Int

/-- Checks the options of a single reset. -/
def prepareReset (around : Surroundings) (invocation : Invocation) (options : ResetOptions) :
    Except CommandError PreparedReset := do
  let config ← (options.config invocation.domain).mapError .reset
  let settings : Settings :=
    { Settings.standard with deadline := .ofSeconds invocation.contextTimeout, pacing := .zero }
  let service ← connect around invocation
  let plan ←
    (Plan.of config settings around.operator around.requestIds around.randoms around.stamp).mapError
      .reset
  return ⟨plan, service, .of options.workflowId options.runId, options.eventId⟩

/-- Makes a single reset that was prepared. -/
def runReset (reset : PreparedReset) : Ending :=
  let (outcome, service, _) :=
    reset.plan.resetOne reset.service .zero reset.target reset.eventId 0
  ⟨[outcome.line], [], service.journal, .ok outcome.isFailure⟩

/-- Runs a command as far as it gets without writing a file. -/
def execute (around : Surroundings) (invocation : Invocation) : Progress :=
  match invocation.action with
  | .resetBatch options =>
      match prepareBatch around invocation options with
      | .ok batch => runBatch around options batch
      | .error error => .ended (.refused error)
  | .reset options =>
      match prepareReset around invocation options with
      | .ok reset => .ended (runReset reset)
      | .error error => .ended (.refused error)

/-- The files that a command may read. -/
def Invocation.inputFiles (invocation : Invocation) : List String :=
  invocation.fixture.toList ++
    match invocation.action with
    | .resetBatch options => options.inputFile.toList ++ options.excludeFile.toList
    | .reset _ => []

end Rewind.Command
