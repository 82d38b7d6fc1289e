import Rewind.Time.Duration

/-!
Counters of a batch.

They are words of 64 bits and wrap around. A retry is counted beside the outcomes and is none.
-/

namespace Rewind

/-- What is counted. -/
inductive OutcomeKind where
  | reset
  | dryRun
  | skipped
  | excluded
  | failed
  | retry
deriving DecidableEq, Repr, Inhabited

namespace OutcomeKind

def all : List OutcomeKind :=
  [.reset, .dryRun, .skipped, .excluded, .failed, .retry]

def name : OutcomeKind → String
  | .reset => "Reset"
  | .dryRun => "DryRun"
  | .skipped => "Skipped"
  | .excluded => "Excluded"
  | .failed => "Failed"
  | .retry => "Retry"

def ofName? (name : String) : Option OutcomeKind :=
  all.find? (·.name = name)

end OutcomeKind

/-- The counters, and the time spent on targets in nanoseconds. -/
structure Metrics where
  reset : UInt64
  dryRun : UInt64
  skipped : UInt64
  excluded : UInt64
  failed : UInt64
  retries : UInt64
  busy : UInt64
deriving DecidableEq, Repr, Inhabited

namespace Metrics

def zero : Metrics :=
  ⟨0, 0, 0, 0, 0, 0, 0⟩

def count (metrics : Metrics) : OutcomeKind → UInt64
  | .reset => metrics.reset
  | .dryRun => metrics.dryRun
  | .skipped => metrics.skipped
  | .excluded => metrics.excluded
  | .failed => metrics.failed
  | .retry => metrics.retries

/-- Counts one. -/
def record (metrics : Metrics) : OutcomeKind → Metrics
  | .reset => { metrics with reset := metrics.reset + 1 }
  | .dryRun => { metrics with dryRun := metrics.dryRun + 1 }
  | .skipped => { metrics with skipped := metrics.skipped + 1 }
  | .excluded => { metrics with excluded := metrics.excluded + 1 }
  | .failed => { metrics with failed := metrics.failed + 1 }
  | .retry => { metrics with retries := metrics.retries + 1 }

/-- Counts several retries. -/
def recordRetries (metrics : Metrics) (n : UInt64) : Metrics :=
  { metrics with retries := metrics.retries + n }

/-- Counts one that took some time; no single time exceeds a word. -/
def recordTiming (metrics : Metrics) (kind : OutcomeKind) (time : Duration) : Metrics :=
  let metrics := metrics.record kind
  { metrics with busy := metrics.busy + UInt64.ofNat (min time.nanoseconds (UInt64.size - 1)) }

/-- How many outcomes were counted. -/
def processed (metrics : Metrics) : UInt64 :=
  metrics.reset + metrics.dryRun + metrics.skipped + metrics.excluded + metrics.failed

end Metrics

/-- The counters at one moment. -/
structure MetricsSummary where
  processed : UInt64
  reset : UInt64
  dryRun : UInt64
  skipped : UInt64
  excluded : UInt64
  failed : UInt64
  retries : UInt64
  busyTime : Duration
deriving DecidableEq, Repr, Inhabited

def Metrics.summary (metrics : Metrics) : MetricsSummary :=
  ⟨metrics.processed, metrics.reset, metrics.dryRun, metrics.skipped, metrics.excluded,
    metrics.failed, metrics.retries, ⟨metrics.busy.toNat⟩⟩

namespace MetricsSummary

def text (s : MetricsSummary) : String :=
  s!"processed={s.processed.toNat} reset={s.reset.toNat} dry_run={s.dryRun.toNat} "
    ++ s!"skipped={s.skipped.toNat} excluded={s.excluded.toNat} failed={s.failed.toNat} "
    ++ s!"retries={s.retries.toNat}"

def toJson (s : MetricsSummary) : Json :=
  .obj [("processed", .nat s.processed.toNat), ("reset", .nat s.reset.toNat),
    ("dry_run", .nat s.dryRun.toNat), ("skipped", .nat s.skipped.toNat),
    ("excluded", .nat s.excluded.toNat), ("failed", .nat s.failed.toNat),
    ("retries", .nat s.retries.toNat), ("busy_time", s.busyTime.toJson)]

/-- Reads a counter. -/
def counter : Json.Decoder UInt64 := fun json =>
  (json.asNat UInt64.size).map UInt64.ofNat

def ofJson : Json.Decoder MetricsSummary := fun json => do
  let fields ← json.fields ["processed", "reset", "dry_run", "skipped", "excluded", "failed",
    "retries", "busy_time"]
  let processed ← fields.required "processed" counter
  let reset ← fields.required "reset" counter
  let dryRun ← fields.required "dry_run" counter
  let skipped ← fields.required "skipped" counter
  let excluded ← fields.required "excluded" counter
  let failed ← fields.required "failed" counter
  let retries ← fields.required "retries" counter
  let busyTime ← fields.required "busy_time" Duration.ofJson
  .ok ⟨processed, reset, dryRun, skipped, excluded, failed, retries, busyTime⟩

end MetricsSummary

end Rewind
