import Rewind.Proofs.Batch.Feed
import Rewind.Proofs.Batch.Settled
import Rewind.Proofs.Rename

/-!
Two batches over the same targets.

The number of workers, the length of the queue and the turns that actors take decide who does what
when. They do not decide what comes of it: if the targets are of distinct workflows, two batches that
have ended return the same, and leave the same behind, up to times and generated ids.

Main statement: `same_end_of_schedules`.
-/

namespace Rewind

namespace OutcomeStatus

/-- The status with another id for its new run. -/
def renamed (rename : String → String) : OutcomeStatus → OutcomeStatus
  | .reset anchor newRunId => .reset anchor (rename newRunId)
  | status => status

end OutcomeStatus

namespace Outcome

/-- The outcome with another id for its new run. -/
def renamed (rename : String → String → String) (outcome : Outcome) : Outcome :=
  { outcome with status := outcome.status.renamed (rename outcome.workflowId) }

/-- The outcome without its time. -/
def untimed (outcome : Outcome) : Outcome :=
  { outcome with timestamp := .ofEpochNanoseconds 0 }

/-- The outcome without its time and the id of its new run. -/
def plain (outcome : Outcome) : Outcome :=
  (outcome.renamed fun _ _ => "").untimed

theorem renamed_id (outcome : Outcome) : (outcome.renamed fun _ => id) = outcome := by
  obtain ⟨workflowId, runId, status, attempts, timestamp⟩ := outcome
  cases status <;> rfl

/-- If new runs are named by their workflows, nothing gets lost with their ids. -/
theorem untimed_renamed_eq {rename : String → String → String} {name : String → String}
    {outcome : Outcome}
    (h : ∀ anchor newRunId, outcome.status = .reset anchor newRunId →
      rename outcome.workflowId newRunId = name outcome.workflowId) :
    (outcome.renamed rename).untimed = outcome.plain.renamed fun workflowId _ => name workflowId := by
  obtain ⟨workflowId, runId, status, attempts, timestamp⟩ := outcome
  cases status with
  | reset anchor newRunId =>
      have hname := h anchor newRunId rfl
      simp only [renamed, untimed, plain, OutcomeStatus.renamed, hname]
  | dryRun anchor | skipped reason | excluded | failed error => rfl

end Outcome

namespace Plan

theorem plain_outcome {plan plan' : Plan} {target : WorkflowRef}
    {attempted attempted' : Attempted ResetError OutcomeStatus}
    (h : attempted = attempted' ∨ BothAttempted attempted attempted') :
    (plan.outcome target attempted).plain = (plan'.outcome target attempted').plain := by
  rcases h with rfl | ⟨hattempts, anchor, newRunId, newRunId', hresult, hresult'⟩
  · rfl
  · simp only [outcome, Outcome.of, hresult, hresult', hattempts, Outcome.plain, Outcome.renamed,
      OutcomeStatus.renamed, Outcome.untimed]

end Plan

namespace Batch.Chronicle

variable {plan plan₁ plan₂ plan₀ : Plan} {service service₀ : Service} {c c₁ c₂ : Chronicle}

/-! ### Entries for one target -/

/-- What entries of two batches for one target have in common. -/
def summary (entry : Visit × Outcome) : Outcome × List Exchange :=
  (entry.2.plain, entry.1.outline)

theorem Isolated.summary_eq (h₁ : c₁.Isolated plan₁ plan₀ service₀)
    (h₂ : c₂.Isolated plan₂ plan₀ service₀) {entry₁ entry₂ : Visit × Outcome}
    (hentry₁ : entry₁ ∈ c₁.finished) (hentry₂ : entry₂ ∈ c₂.finished)
    (htarget : entry₁.1.target = entry₂.1.target) : summary entry₁ = summary entry₂ := by
  obtain ⟨attempted₁, alone₁, houtcome₁, hverdict₁, hsame₁⟩ := h₁.finished hentry₁
  obtain ⟨attempted₂, alone₂, houtcome₂, hverdict₂, hsame₂⟩ := h₂.finished hentry₂
  rw [htarget] at houtcome₁ hverdict₁
  obtain ⟨rfl, houtline⟩ := hverdict₁.unique hverdict₂
  have hplain₁ : entry₁.2.plain = (plan₀.outcome entry₂.1.target alone₁).plain := by
    rw [houtcome₁]
    exact Plan.plain_outcome hsame₁
  have hplain₂ : entry₂.2.plain = (plan₀.outcome entry₂.1.target alone₁).plain := by
    rw [houtcome₂]
    exact Plan.plain_outcome hsame₂
  rw [summary, summary, hplain₁, hplain₂, houtline]

theorem perm_summaries {service₁ service₂ : Service} (hsettled₁ : c₁.Settled plan₁ service₁)
    (hsettled₂ : c₂.Settled plan₂ service₂) (h₁ : c₁.Isolated plan₁ plan₀ service₀)
    (h₂ : c₂.Isolated plan₂ plan₀ service₀) (htargets : c₁.targets = c₂.targets) :
    (c₁.finished.map summary).Perm (c₂.finished.map summary) := by
  apply perm_of_keys (f := fun entry => entry.1.target) (g := fun entry => entry.1.target)
  · have hperm₁ := hsettled₁.perm_targets
    rw [htargets] at hperm₁
    exact hperm₁.trans hsettled₂.perm_targets.symm
  · intro entry₁ hentry₁ entry₂ hentry₂ htarget
    exact h₁.summary_eq h₂ hentry₁ hentry₂ htarget

namespace Settled

/-- The outcomes of processed targets, with the ids of their new runs in the other store. -/
theorem perm_renamed (h : c.Settled plan service) (rename : String → String → String)
    (name : String → String)
    (hrename : ∀ workflowId,
      rename workflowId (service.store.nextRunId workflowId) = name workflowId) :
    (c.state.processed.map fun outcome => (outcome.renamed rename).untimed).Perm
      ((c.finished.map summary).map fun entry =>
        entry.1.renamed fun workflowId _ => name workflowId) := by
  refine (h.perm_processed.map _).trans (.of_eq ?_)
  rw [List.map_map, List.map_map]
  apply List.map_congr_left
  intro entry hentry
  apply Outcome.untimed_renamed_eq
  intro anchor newRunId hstatus
  rw [h.newRunId_eq hentry hstatus, hrename]

theorem charges_eq (h : c.Settled plan service) :
    c.charges = c.scans.map (fun call => call.request.charge) ++
      (c.finished.map summary).flatMap fun entry =>
        entry.2.map fun exchange => exchange.request.charge := by
  rw [charges, List.map_append, h.calls_eq, List.map_flatMap, List.flatMap_map]
  congr 1
  apply List.flatMap_congr
  intro entry _
  exact entry.1.charges_outline.symm

end Settled

theorem perm_accepted {log : List (ResetRequest × String)}
    (hperm : log.Perm (c.finished.flatMap fun entry => entry.1.accepted)) :
    (log.map (·.1.anonymous)).Perm
      ((c.finished.map summary).flatMap fun entry => entry.2.filterMap Exchange.accepted?) := by
  refine (hperm.map _).trans (.of_eq ?_)
  rw [List.map_flatMap, List.flatMap_map]
  apply List.flatMap_congr
  intro entry _
  exact entry.1.accepted_outline.symm

end Batch.Chronicle

/-- The service with other run ids to give out. -/
def Service.withNaming (service : Service) (naming : String → Nat → String) : Service :=
  { service with store := { service.store with naming } }

namespace Batch

/-- Two batches have come to the same end, the second one with other ids for new runs and resets. -/
structure SameEnd (before : Store) (rename : String → String → String) (s t : State) : Prop where
  /-- Both return their outcomes, or both return the same failure of the source. -/
  result : (s.result = .ok s.outcomes ∧ t.result = .ok t.outcomes) ∨
    ∃ error, s.result = .error error ∧ t.result = .error error
  outcomes : (s.outcomes.map fun outcome => (outcome.renamed rename).untimed).Perm
    (t.outcomes.map Outcome.untimed)
  runs : ∀ workflowId runId,
    t.service.store.runs workflowId (rename workflowId runId) =
      (s.service.store.runs workflowId runId).map fun run =>
        if rename workflowId runId = runId then run else run.withId (rename workflowId runId)
  current : ∀ workflowId,
    t.service.store.current workflowId = (s.service.store.current workflowId).map (rename workflowId)
  failures : t.service.store.failures = s.service.store.failures
  calls : t.service.store.calls = s.service.store.calls
  /-- The same resets were accepted, each under a request id of its own. -/
  resets : ∃ accepted accepted', s.service.store.resets = before.resets ++ accepted ∧
    t.service.store.resets = before.resets ++ accepted' ∧
    (accepted.map ResetRequest.requestId).Nodup ∧ (accepted'.map ResetRequest.requestId).Nodup ∧
    ∃ renameId : String → String,
      (accepted.map fun reset => reset.withId (renameId reset.requestId)).Perm accepted'

namespace Chronicle

variable {plan₁ plan₂ : Plan} {service : Service} {naming : String → Nat → String}
  {c₁ c₂ : Chronicle}

theorem SameFeed.targets_eq (h : SameFeed c₁ c₂) : c₁.targets = c₂.targets := by
  rw [targets, targets, items, items, h.answers]

theorem SameFeed.exclusions_eq (h : SameFeed c₁ c₂) : c₁.exclusions = c₂.exclusions := by
  rw [exclusions, exclusions, items, items, h.answers]

theorem SameFeed.result (h : SameFeed c₁ c₂) :
    (c₁.state.result = .ok c₁.state.outcomes ∧ c₂.state.result = .ok c₂.state.outcomes) ∨
    ∃ error, c₁.state.result = .error error ∧ c₂.state.result = .error error := by
  rw [State.result, State.result, h.producer]
  split
  · rename_i error _
    exact .inr ⟨error, rfl, rfl⟩
  · exact .inl ⟨rfl, rfl⟩

theorem SameFeed.perm_charges (h : SameFeed c₁ c₂) (h₁ : c₁.Settled plan₁ service)
    (h₂ : c₂.Settled plan₂ (service.withNaming naming))
    (hsummaries : (c₁.finished.map summary).Perm (c₂.finished.map summary)) :
    c₁.charges.Perm c₂.charges := by
  have hscans := congrArg (List.map fun exchange => exchange.request.charge) h.scans
  rw [List.map_map, List.map_map] at hscans
  rw [h₁.charges_eq, h₂.charges_eq]
  exact (List.Perm.of_eq hscans).append (hsummaries.flatMap_right _)

theorem SameFeed.perm_outcomes (h : SameFeed c₁ c₂) (h₁ : c₁.Settled plan₁ service)
    (h₂ : c₂.Settled plan₂ (service.withNaming naming))
    (hsummaries : (c₁.finished.map summary).Perm (c₂.finished.map summary)) :
    (c₁.state.outcomes.map fun outcome => (outcome.renamed fun workflowId =>
      service.store.renameRun (service.withNaming naming).store workflowId).untimed).Perm
      (c₂.state.outcomes.map Outcome.untimed) := by
  have hexcluded : (c₁.state.excluded.map fun outcome => (outcome.renamed fun workflowId =>
      service.store.renameRun (service.withNaming naming).store workflowId).untimed) =
      c₂.state.excluded.map Outcome.untimed := by
    rw [h₁.accounted.exclusions, h₂.accounted.exclusions, h.exclusions_eq, List.map_map,
      List.map_map]
    rfl
  have hprocessed₁ := h₁.perm_renamed _ _ fun workflowId =>
    service.store.renameRun_next (service.withNaming naming).store workflowId
  have hprocessed₂ := h₂.perm_renamed (fun _ => id) _ fun _ => rfl
  simp only [Outcome.renamed_id] at hprocessed₂
  rw [State.outcomes, State.outcomes, List.map_append, List.map_append, hexcluded]
  apply List.Perm.append_left
  calc c₁.state.processed.map _
    _ |>.Perm ((c₁.finished.map summary).map _) := hprocessed₁
    _ |>.Perm ((c₂.finished.map summary).map _) := hsummaries.map _
    _ |>.Perm (c₂.state.processed.map Outcome.untimed) := hprocessed₂.symm

theorem sameFeed_start (metrics₁ metrics₂ : Metrics) (source : Source) (started₁ started₂ : Nat) :
    SameFeed (start plan₁ service metrics₁ source started₁)
      (start plan₂ (service.withNaming naming) metrics₂ source started₂) :=
  ⟨rfl, rfl, rfl, rfl, rfl, rfl, rfl, rfl⟩

/-- However many workers there are, however long the queue is and however the actors take turns, two
batches over the same targets come to the same end, if no two targets are of one workflow. -/
theorem same_end_of_schedules {metrics₁ metrics₂ : Metrics} {source : Source}
    {started₁ started₂ : Nat} {schedule₁ schedule₂ : List Actor} (hlike : plan₁.Like plan₂)
    (hparallelism₁ : 1 ≤ plan₁.config.parallelism) (hparallelism₂ : 1 ≤ plan₂.config.parallelism)
    (hids₁ : Function.Injective plan₁.requestIds) (hids₂ : Function.Injective plan₂.requestIds)
    (hfresh₁ : service.store.NextFresh) (hfresh₂ : (service.withNaming naming).store.NextFresh)
    (hrun₁ : (start plan₁ service metrics₁ source started₁).follow? plan₁ schedule₁ = some c₁)
    (hrun₂ : (start plan₂ (service.withNaming naming) metrics₂ source started₂).follow? plan₂
      schedule₂ = some c₂)
    (hfinal₁ : c₁.state.isFinal) (hfinal₂ : c₂.state.isFinal) (hdistinct : c₁.workflows.Nodup) :
    SameEnd service.store
      (fun workflowId => service.store.renameRun (service.withNaming naming).store workflowId)
      c₁.state c₂.state := by
  -- Both producers have heard the same, so both batches have the same targets.
  have hfeed : SameFeed c₁ c₂ :=
    SameFeed.of_ended (sameFeed_start metrics₁ metrics₂ source started₁ started₂)
      hlike.maxAttempts.symm (sameFeed_of_follow? hrun₁) (sameFeed_of_follow? hrun₂)
      (ended_of_isFinal hfinal₁).1 (ended_of_isFinal hfinal₂).1
  have hdistinct₂ : c₂.workflows.Nodup := by
    rw [workflows, ← hfeed.targets_eq]
    exact hdistinct
  have h₁ := settled_of_follow? hparallelism₁ hrun₁ hfinal₁ hdistinct
  have h₂ := settled_of_follow? hparallelism₂ hrun₂ hfinal₂ hdistinct₂
  -- Every target goes the way that it takes alone with the first service.
  have hisolated₁ : c₁.Isolated plan₁ plan₁ service :=
    isolated_of_follow? (.refl plan₁) rfl (fun workflowId => .refl workflowId _) hrun₁ hdistinct
  have hmissed : (service.withNaming naming).missed? = service.missed? := rfl
  have hpart (workflowId : String) :
      (service.withNaming naming).store.SamePart workflowId service.store :=
    ⟨rfl, fun _ => rfl, rfl, fun _ _ => rfl⟩
  have hisolated₂ : c₂.Isolated plan₂ plan₁ service :=
    isolated_of_follow? hlike.symm hmissed hpart hrun₂ hdistinct₂
  have hsummaries := perm_summaries h₁ h₂ hisolated₁ hisolated₂ hfeed.targets_eq
  have hcharged := h₂.charged.perm (hfeed.perm_charges h₁ h₂ hsummaries).symm
  obtain ⟨log₁, hlog₁, hperm₁, hnodup₁⟩ := h₁.exists_log
  obtain ⟨log₂, hlog₂, hperm₂, hnodup₂⟩ := h₂.exists_log
  have hsame : (log₁.map (·.1.anonymous)).Perm (log₂.map (·.1.anonymous)) :=
    (perm_accepted hperm₁).trans ((hsummaries.flatMap_right _).trans (perm_accepted hperm₂).symm)
  have hlogs : Store.SameLogs service.store (service.withNaming naming).store
      c₁.state.service.store c₂.state.service.store log₁ log₂ :=
    ⟨hlog₁, hlog₂, hnodup₁, hnodup₂, hsame⟩
  have hruns : service.store.SameRuns (service.withNaming naming).store := ⟨rfl, rfl⟩
  have hreset₁ := h₁.accepted_requestIds_nodup (requestIds_nodup hids₁ hrun₁) hperm₁
  have hreset₂ := h₂.accepted_requestIds_nodup (requestIds_nodup hids₂ hrun₂) hperm₂
  constructor
  · exact hfeed.result
  · exact hfeed.perm_outcomes h₁ h₂ hsummaries
  · exact hlogs.runs_renamed hruns hfresh₁ hfresh₂
  · exact hlogs.current_renamed hruns hfresh₁ hfresh₂
  · exact hcharged.store.failures_eq h₁.charged.store (.refl _) rfl
  · exact hcharged.store.calls_eq h₁.charged.store (.refl _) rfl
  · refine ⟨log₁.map Prod.fst, log₂.map Prod.fst, hlog₁.resets_eq, hlog₂.resets_eq, ?_, ?_, ?_⟩
    · rw [List.map_map]
      exact hreset₁
    · rw [List.map_map]
      exact hreset₂
    · apply exists_requestIds
      · rw [List.map_map, List.map_map]
        exact hsame
      · rw [List.map_map]
        exact hreset₁

/-- The sample plan with a single worker, a queue of one and other request ids. -/
def lonePlan : Plan :=
  { samplePlan with
    config := { samplePlan.config with parallelism := 1 }
    settings := samplePlan.settings.withQueueCapacity 1
    requestIds := fun n => sampleId (n + 7) }

/-- The producer has to wait until the worker has taken the first target. -/
def loneSchedule : List Actor :=
  List.replicate 3 .producer ++ [.worker 0] ++ List.replicate 2 .producer ++
    List.replicate 12 (.worker 0)

theorem sampleService_nextFresh (shift : Nat) :
    (sampleService.withNaming fun _ n => sampleId (n + shift)).store.NextFresh := by
  constructor
  · intro workflowId
    simp [Service.withNaming, Store.nextRunId, sampleService, Service.ofStore, Store.insertRun,
      Store.setRun, Store.setCurrent, Store.empty, sampleRun, sampleId_ne_base]
  · intro workflowId
    have hbase : sampleService.store.current workflowId = none ∨
        sampleService.store.current workflowId = some "base" := by
      by_cases hship : workflowId = "ship"
      · exact .inr (if_pos hship)
      · by_cases hpay : workflowId = "pay"
        · exact .inr ((if_neg hship).trans (if_pos hpay))
        · exact .inl ((if_neg hship).trans (if_neg hpay))
    intro hcurrent
    rcases hbase with hnone | hbase
    · exact absurd (hnone.symm.trans hcurrent) (by simp)
    · exact sampleId_ne_base _ (Option.some.inj (hcurrent.symm.trans hbase))

theorem same_end_of_schedules_sample :
    ∃ c₁ c₂, (sampleStart ["pay", "ship"]).follow? samplePlan crossedSchedule = some c₁ ∧
      (start lonePlan (sampleService.withNaming fun _ n => sampleId (n + 1)) .zero
        (sampleSource ["pay", "ship"]) 0).follow? lonePlan loneSchedule = some c₂ ∧
      c₁.state.isFinal ∧ c₂.state.isFinal ∧
      SameEnd sampleService.store
        (fun workflowId => sampleService.store.renameRun
          (sampleService.withNaming fun _ n => sampleId (n + 1)).store workflowId)
        c₁.state c₂.state := by
  have hends₁ : ((sampleStart ["pay", "ship"]).follow? samplePlan crossedSchedule).map
      (fun c => (c.state.isFinal, c.workflows)) = some (true, ["pay", "ship"]) := by
    decide +kernel
  have hends₂ : ((start lonePlan (sampleService.withNaming fun _ n => sampleId (n + 1)) .zero
      (sampleSource ["pay", "ship"]) 0).follow? lonePlan loneSchedule).map
      (fun c => c.state.isFinal) = some true := by
    decide +kernel
  obtain ⟨c₁, hrun₁, hends₁⟩ := Option.map_eq_some_iff.mp hends₁
  obtain ⟨c₂, hrun₂, hfinal₂⟩ := Option.map_eq_some_iff.mp hends₂
  obtain ⟨hfinal₁, hworkflows⟩ := Prod.mk.inj hends₁
  have hinjective (shift : Nat) : Function.Injective fun n => sampleId (n + shift) := by
    intro m n hid
    exact Nat.add_right_cancel (sampleId_injective hid)
  have hlike : samplePlan.Like lonePlan := ⟨rfl, rfl, rfl⟩
  refine ⟨c₁, c₂, hrun₁, hrun₂, hfinal₁, hfinal₂, ?_⟩
  apply same_end_of_schedules hlike (by decide) (by decide) (hinjective 0) (hinjective 7)
    (sampleService_nextFresh 0) (sampleService_nextFresh 1) hrun₁ hrun₂ hfinal₁ hfinal₂
  rw [hworkflows]
  decide

end Chronicle

end Batch

end Rewind
