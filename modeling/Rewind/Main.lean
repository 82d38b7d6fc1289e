import Rewind.Command.Execute
import Rewind.Command.Help
import Rewind.Operator
import Std.Time.DateTime.Timestamp

/-!
The program: reads the files that a command names, runs it, prints its lines and writes its report.
-/

namespace Rewind.Command

/-- The fault behind an error of the system. -/
def faultOf : IO.Error → FileFault
  | .noFileOrDirectory _ _ _ => .notFound
  | .alreadyExists _ _ _ => .alreadyThere
  | .inappropriateType _ 20 _ => .notADirectory
  | .inappropriateType _ 21 _ => .isADirectory
  | .invalidArgument _ 36 _ | .resourceExhausted _ 36 _ => .nameTooLong
  | .permissionDenied _ code details => .other s!"{details} (os error {code})"
  | error => .other error.toString

/-- The content of a path. -/
def readContent (path : String) : IO (Except FileFault FileContent) := do
  try
    let content ← IO.FS.readBinFile path
    return .ok (.bytes content.toList)
  catch error =>
    match faultOf error with
    | .isADirectory => return .ok .directory
    | fault => return .error fault

/-- The part of a path in front of its last slash, if that is not empty. -/
def directoryOf? (path : String) : Option String :=
  match path.toList.reverse.dropWhile (· ≠ '/') with
  | [] | ['/'] => none
  | _ :: directory => some (String.ofList directory.reverse)

/-- Writes a report file, and makes the directories above it first. -/
def writeReport (path : String) (report : BatchReport) : IO (Except ReportError Unit) := do
  try
    if let some directory := directoryOf? path then
      IO.FS.createDirAll directory
    IO.FS.writeFile path report.text
    return .ok ()
  catch error => return .error (.file (faultOf error))

/-- A random number of 128 bits. -/
def randomBits : IO (BitVec 128) := do
  let bytes ← IO.getRandomBytes 16
  return bytes.toList.foldl (fun bits b => (bits <<< 8) ||| BitVec.ofNat 128 b.toNat) 0

/-- The present time. -/
def now : IO Timestamp := do
  let time ← Std.Time.Timestamp.now
  return .ofEpochNanoseconds time.toNanosecondsSinceUnixEpoch.val.toNat

/-- The variables that the program looks at, as they are set. -/
def readEnvironment : IO (String → Option String) := do
  let names := userVariables ++ ["WFRESET_NAMESPACE", "WFRESET_FIXTURE"]
  let values ← names.mapM fun name => do return (name, ← IO.getEnv name)
  return fun name => (values.find? (·.1 = name)).bind Prod.snd

/-- What a command finds around it. -/
def readSurroundings (environment : String → Option String) (invocation : Invocation) :
    IO Surroundings := do
  let contents ← invocation.inputFiles.mapM fun path => do return (path, ← readContent path)
  let runSeed ← randomBits
  let requestSeed ← randomBits
  let pauseSeed ← randomBits
  let batchBits ← randomBits
  let stamp ← now
  return {
    files := fun path => ((contents.find? (·.1 = path)).map Prod.snd).getD (.error .notFound)
    operator := operatorName environment
    naming := fun workflowId n => (Uuid.derived runSeed s!"{n}:{workflowId}").toString
    requestIds := fun n => (Uuid.derived requestSeed s!"{n}").toString
    randoms := fun n => (Uuid.mix pauseSeed s!"{n} pauses before this one".toList).toNat.toUInt64
    batchId := .ofRandom batchBits
    stamp := stamp }

/-- Prints what a command has to say and gives its exit code. -/
def conclude (ending : Ending) : IO UInt32 := do
  for line in ending.stdout do
    IO.println line
  for line in ending.errorLines do
    IO.eprintln line
  return ending.exitCode.toUInt32

/-- Runs the command that was understood. -/
def runInvocation (environment : String → Option String) (invocation : Invocation) :
    IO UInt32 := do
  let around ← readSurroundings environment invocation
  match execute around invocation with
  | .ended ending => conclude ending
  | .writing path report resume => do
      let written ← writeReport path report
      conclude (resume written)

end Rewind.Command

def main (arguments : List String) : IO UInt32 := do
  let environment ← Rewind.Command.readEnvironment
  match Rewind.Command.parse environment arguments with
  | .ok invocation => Rewind.Command.runInvocation environment invocation
  | .error error => do
      if error.exitCode = 0 then IO.println error.text else IO.eprintln error.text
      return error.exitCode.toUInt32
