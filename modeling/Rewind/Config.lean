import Rewind.Safety
import Rewind.Strategy

/-!
What a batch is told to do, and the checks that come before anything is done.
-/

namespace Rewind

/-- The setup of a batch. -/
structure BatchConfig where
  domain : String
  /-- Why the workflows are reset. -/
  reason : String
  strategy : Strategy
  skipIfOpen : Bool
  skipIfBaseNotCurrent : Bool
  nonDeterministicOnly : Bool
  /-- Find the events to reset to, and reset nothing. -/
  dryRun : Bool
  reapply : ReapplyPolicy
  /-- How many targets are worked on at a time. -/
  parallelism : Nat
deriving DecidableEq, Repr, Inhabited

namespace BatchConfig

/-- A setup with everything at its default. -/
def of (reason : String) (strategy : Strategy) : BatchConfig :=
  ⟨"default", reason, strategy, false, false, false, false, .all, 1⟩

def safetyFilter (config : BatchConfig) : SafetyFilter :=
  ⟨config.skipIfOpen, config.skipIfBaseNotCurrent, config.nonDeterministicOnly⟩

/-- Refuses a blank reason, a batch without workers and an empty namespace, in this order. -/
def validate (config : BatchConfig) : Except ResetError Unit :=
  if Text.allBlank config.reason then .error (.config .emptyReason)
  else if config.parallelism = 0 then .error (.config .noWorkers)
  else if config.domain = "" then .error (.config .emptyNamespace)
  else .ok ()

def toJson (config : BatchConfig) : Json :=
  .obj [("namespace", .str config.domain), ("reason", .str config.reason),
    ("strategy", config.strategy.toJson), ("skip_if_open", .bool config.skipIfOpen),
    ("skip_if_base_not_current", .bool config.skipIfBaseNotCurrent),
    ("non_deterministic_only", .bool config.nonDeterministicOnly),
    ("dry_run", .bool config.dryRun), ("reapply_policy", config.reapply.toJson),
    ("parallelism", .nat config.parallelism)]

def ofJson : Json.Decoder BatchConfig := fun json => do
  let fields ← json.fields ["namespace", "reason", "strategy", "skip_if_open",
    "skip_if_base_not_current", "non_deterministic_only", "dry_run", "reapply_policy",
    "parallelism"]
  let domain ← fields.required "namespace" Json.asString
  let reason ← fields.required "reason" Json.asString
  let strategy ← fields.required "strategy" Strategy.ofJson
  let skipIfOpen ← fields.required "skip_if_open" Json.asBool
  let skipIfBaseNotCurrent ← fields.required "skip_if_base_not_current" Json.asBool
  let nonDeterministicOnly ← fields.required "non_deterministic_only" Json.asBool
  let dryRun ← fields.required "dry_run" Json.asBool
  let reapply ← fields.required "reapply_policy" ReapplyPolicy.ofJson
  let parallelism ← fields.required "parallelism" (Json.asNat UInt64.size)
  .ok ⟨domain, reason, strategy, skipIfOpen, skipIfBaseNotCurrent, nonDeterministicOnly, dryRun,
    reapply, parallelism⟩

end BatchConfig

/-- The separator of columns when none is given: a tab. -/
def defaultSeparator : String := "\t"

/-- Where the targets of a batch come from. -/
inductive TargetInput where
  | file (path separator : String)
  | query (query : String)
deriving DecidableEq, Repr, Inhabited

namespace TargetInput

/-- Takes exactly one of a file and a query; a blank query is none. -/
def ofOptions (inputFile query separator : Option String) : Except ResetError TargetInput :=
  match inputFile, query.filter fun query => !Text.allBlank query with
  | some path, none =>
      let separator := separator.getD defaultSeparator
      if separator = "" then .error (.config .emptySeparator)
      else .ok (.file path separator)
  | none, some query => .ok (.query query)
  | none, none => .error (.config .noInput)
  | some _, some _ => .error (.config .twoInputs)

end TargetInput

end Rewind
