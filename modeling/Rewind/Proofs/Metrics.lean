import Mathlib.Algebra.GroupWithZero.Nat
import Rewind.Batch.Plan

/-!
Counters and what they count.

A counter is a word, so it tells a number of outcomes only up to the size of a word. What is counted
does not depend on the order of the outcomes.

Main statements: counting one more outcome keeps the counters in step with the outcomes
(`Metrics.Counts.recordOutcome`, `Metrics.Counts.recordExcluded`), and counters that are in step tell
the numbers as long as these are numbers of a word (`Metrics.Counts.tells`).
-/

namespace Rewind

/-- How many outcomes are of a kind. -/
def tally (outcomes : List Outcome) (kind : OutcomeKind) : Nat :=
  outcomes.countP fun outcome => outcome.status.kind = kind

/-- How often targets were tried again, the excluded ones aside, which are never tried. -/
def retriesOf (outcomes : List Outcome) : Nat :=
  ((outcomes.filter fun outcome => outcome.status ≠ .excluded).map fun outcome =>
    outcome.attempts - 1).sum

section

variable {outcomes outcomes' : List Outcome} {outcome : Outcome}

theorem tally_append (outcomes outcomes' : List Outcome) (kind : OutcomeKind) :
    tally (outcomes ++ outcomes') kind = tally outcomes kind + tally outcomes' kind :=
  List.countP_append

theorem retriesOf_append (outcomes outcomes' : List Outcome) :
    retriesOf (outcomes ++ outcomes') = retriesOf outcomes + retriesOf outcomes' := by
  simp [retriesOf]

theorem tally_perm (h : outcomes.Perm outcomes') (kind : OutcomeKind) :
    tally outcomes kind = tally outcomes' kind :=
  h.countP_eq _

theorem retriesOf_perm (h : outcomes.Perm outcomes') : retriesOf outcomes = retriesOf outcomes' :=
  ((h.filter _).map _).sum_nat

@[simp] theorem tally_singleton (outcome : Outcome) (kind : OutcomeKind) :
    tally [outcome] kind = if kind = outcome.status.kind then 1 else 0 := by
  simp [tally, List.countP_singleton, eq_comm]

theorem retriesOf_singleton (h : outcome.status ≠ .excluded) :
    retriesOf [outcome] = outcome.attempts - 1 := by
  simp [retriesOf, h]

/-- Every outcome is of one kind, and none is a retry. -/
theorem sum_tally (outcomes : List Outcome) :
    tally outcomes .reset + tally outcomes .dryRun + tally outcomes .skipped +
      tally outcomes .excluded + tally outcomes .failed = outcomes.length := by
  induction outcomes with
  | nil => rfl
  | cons outcome outcomes ih =>
      rw [← List.singleton_append]
      simp only [tally_append, tally_singleton, List.length_append, List.length_singleton, ← ih]
      cases outcome.status <;> simp [OutcomeStatus.kind] <;> omega

end

namespace Metrics

variable {metrics : Metrics} {outcomes outcomes' : List Outcome} {retried : Nat}

/-- The counters are in step with outcomes, and with a number of other things that were tried again. -/
structure Counts (metrics : Metrics) (outcomes : List Outcome) (retried : Nat) : Prop where
  kinds : ∀ kind, kind ≠ .retry → metrics.count kind = UInt64.ofNat (tally outcomes kind)
  retries : metrics.retries = UInt64.ofNat (retriesOf outcomes + retried)

/-- Each counter tells its number, unless that is too large for a word. The outcomes as a whole are
counted by the sum of the counters of their kinds. -/
structure Tells (metrics : Metrics) (outcomes : List Outcome) (retried : Nat) : Prop where
  kinds : ∀ kind, kind ≠ .retry → tally outcomes kind < UInt64.size →
    (metrics.count kind).toNat = tally outcomes kind
  processed : outcomes.length < UInt64.size → metrics.processed.toNat = outcomes.length
  processed_eq : outcomes.length < UInt64.size →
    metrics.processed.toNat = metrics.reset.toNat + metrics.dryRun.toNat + metrics.skipped.toNat +
      metrics.excluded.toNat + metrics.failed.toNat
  retries : retriesOf outcomes + retried < UInt64.size →
    metrics.retries.toNat = retriesOf outcomes + retried

theorem count_record (metrics : Metrics) (kind kind' : OutcomeKind) :
    (metrics.record kind).count kind' = metrics.count kind' + if kind' = kind then 1 else 0 := by
  cases kind <;> cases kind' <;> simp [record, count]

theorem count_recordOutcome (metrics : Metrics) (outcome : Outcome) {kind : OutcomeKind}
    (hkind : kind ≠ .retry) :
    (metrics.recordOutcome outcome).count kind =
      metrics.count kind + if kind = outcome.status.kind then 1 else 0 := by
  have hcount (metrics : Metrics) (n : UInt64) (kind : OutcomeKind) :
      ({ metrics with busy := n } : Metrics).count kind = metrics.count kind := by
    cases kind <;> rfl
  rw [recordOutcome, recordTiming, hcount, count_record]
  cases kind <;> first | rfl | exact absurd rfl hkind

theorem retries_recordOutcome (metrics : Metrics) (outcome : Outcome) :
    (metrics.recordOutcome outcome).retries =
      metrics.retries + UInt64.ofNat (outcome.attempts - 1) := by
  unfold recordOutcome recordTiming
  cases outcome.status <;> rfl

namespace Counts

theorem zero : Counts .zero [] 0 := by
  refine ⟨fun kind _ => ?_, rfl⟩
  cases kind <;> rfl

theorem perm (h : Counts metrics outcomes retried) (hperm : outcomes.Perm outcomes') :
    Counts metrics outcomes' retried where
  kinds kind hkind := (h.kinds kind hkind).trans (congrArg _ (tally_perm hperm kind))
  retries := by rw [h.retries, retriesOf_perm hperm]

/-- One more is counted of the kind of an outcome. -/
theorem kinds_snoc (h : Counts metrics outcomes retried) (outcome : Outcome) {kind : OutcomeKind}
    (hkind : kind ≠ .retry) :
    metrics.count kind + (if kind = outcome.status.kind then 1 else 0) =
      UInt64.ofNat (tally (outcomes ++ [outcome]) kind) := by
  rw [h.kinds kind hkind, tally_append, tally_singleton, UInt64.ofNat_add]
  split <;> rfl

theorem recordOutcome (h : Counts metrics outcomes retried) {outcome : Outcome}
    (hstatus : outcome.status ≠ .excluded) :
    Counts (metrics.recordOutcome outcome) (outcomes ++ [outcome]) retried where
  kinds kind hkind := (metrics.count_recordOutcome outcome hkind).trans (h.kinds_snoc outcome hkind)
  retries := by
    rw [retries_recordOutcome, h.retries, ← UInt64.ofNat_add, retriesOf_append,
      retriesOf_singleton hstatus]
    congr 1
    omega

theorem recordExcluded (h : Counts metrics outcomes retried) (target : WorkflowRef)
    (stamp : Timestamp) :
    Counts (metrics.record .excluded) (outcomes ++ [.excluded target stamp]) retried where
  kinds kind hkind := (metrics.count_record .excluded kind).trans (h.kinds_snoc (.excluded target stamp) hkind)
  retries := by
    rw [retriesOf_append]
    exact h.retries

theorem recordRetry (h : Counts metrics outcomes retried) :
    Counts (metrics.record .retry) outcomes (retried + 1) where
  kinds kind hkind := by rw [count_record, if_neg hkind, h.kinds kind hkind, UInt64.add_zero]
  retries := by
    rw [← Nat.add_assoc, UInt64.ofNat_add, ← h.retries]
    rfl

theorem processed_eq (h : Counts metrics outcomes retried) :
    metrics.processed = UInt64.ofNat outcomes.length := by
  have hkinds := h.kinds
  simp only [← sum_tally outcomes, UInt64.ofNat_add, ← hkinds _ (by decide : OutcomeKind.reset ≠ .retry),
    ← hkinds _ (by decide : OutcomeKind.dryRun ≠ .retry),
    ← hkinds _ (by decide : OutcomeKind.skipped ≠ .retry),
    ← hkinds _ (by decide : OutcomeKind.excluded ≠ .retry),
    ← hkinds _ (by decide : OutcomeKind.failed ≠ .retry)]
  rfl

theorem tells (h : Counts metrics outcomes retried) : Tells metrics outcomes retried where
  kinds kind hkind hsmall := by rw [h.kinds kind hkind, UInt64.toNat_ofNat_of_lt' hsmall]
  processed hsmall := by rw [h.processed_eq, UInt64.toNat_ofNat_of_lt' hsmall]
  processed_eq hsmall := by
    have hsum := sum_tally outcomes
    have hkind (kind : OutcomeKind) (hkind : kind ≠ .retry) :
        (metrics.count kind).toNat = tally outcomes kind := by
      have hle : tally outcomes kind ≤ outcomes.length := List.countP_le_length
      rw [h.kinds kind hkind, UInt64.toNat_ofNat_of_lt' (by omega)]
    rw [h.processed_eq, UInt64.toNat_ofNat_of_lt' hsmall, ← hsum,
      ← hkind .reset (by decide), ← hkind .dryRun (by decide), ← hkind .skipped (by decide),
      ← hkind .excluded (by decide), ← hkind .failed (by decide)]
    rfl
  retries hsmall := by rw [h.retries, UInt64.toNat_ofNat_of_lt' hsmall]

end Counts

end Metrics

/-- A summary tells of outcomes, and of other things that were tried again, on top of what was counted
before. -/
structure MetricsSummary.AddsTo (summary : MetricsSummary) (before : Metrics)
    (outcomes : List Outcome) (retried : Nat) : Prop where
  reset : summary.reset = before.reset + UInt64.ofNat (tally outcomes .reset)
  dryRun : summary.dryRun = before.dryRun + UInt64.ofNat (tally outcomes .dryRun)
  skipped : summary.skipped = before.skipped + UInt64.ofNat (tally outcomes .skipped)
  excluded : summary.excluded = before.excluded + UInt64.ofNat (tally outcomes .excluded)
  failed : summary.failed = before.failed + UInt64.ofNat (tally outcomes .failed)
  processed : summary.processed = before.processed + UInt64.ofNat outcomes.length
  retries : summary.retries = before.retries + UInt64.ofNat (retriesOf outcomes + retried)

theorem Metrics.Counts.addsTo {before after : Metrics} {earlier outcomes : List Outcome}
    {retried more : Nat} (h : Counts before earlier retried)
    (h' : Counts after (earlier ++ outcomes) (retried + more)) :
    after.summary.AddsTo before outcomes more := by
  have hkind (kind : OutcomeKind) (hkind : kind ≠ .retry) :
      after.count kind = before.count kind + UInt64.ofNat (tally outcomes kind) := by
    rw [h'.kinds kind hkind, h.kinds kind hkind, tally_append, UInt64.ofNat_add]
  refine ⟨hkind .reset (by decide), hkind .dryRun (by decide), hkind .skipped (by decide),
    hkind .excluded (by decide), hkind .failed (by decide), ?_, ?_⟩
  · change after.processed = _
    rw [h'.processed_eq, h.processed_eq, List.length_append, UInt64.ofNat_add]
  · change after.retries = _
    rw [h'.retries, h.retries, ← UInt64.ofNat_add, retriesOf_append]
    congr 1
    omega

end Rewind
