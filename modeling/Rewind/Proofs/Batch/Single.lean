import Rewind.Proofs.Batch.Confluence
import Rewind.Proofs.Batch.Retried
import Rewind.Proofs.Batch.Unchecked

/-!
Batches of one target.

A batch of one target whose safety checks are all switched off does what a reset of that target alone
does: it comes to the same outcome after as many attempts, asks for the same resets, and leaves the
same behind, up to times and generated ids. Only the looks at the current run differ, and the scans by
which the batch has found its target.

Main statement: `same_as_alone`.
-/

namespace Rewind

/-! ### What runs have written down -/

/-- The reset that was asked for, accepted or not. -/
def Exchange.reset? (exchange : Exchange) : Option ResetRequest :=
  match exchange.request with
  | .reset request => some request
  | _ => none

theorem Exchange.reset?_outline (exchange : Exchange) :
    exchange.outline.reset? = exchange.reset?.map ResetRequest.anonymous := by
  obtain ⟨request, failure⟩ := exchange
  cases request <;> rfl

theorem filterMap_reset?_outline (exchanges : List Exchange) :
    (exchanges.map Exchange.outline).filterMap Exchange.reset? =
      (exchanges.filterMap Exchange.reset?).map ResetRequest.anonymous := by
  rw [List.filterMap_map, List.map_filterMap]
  apply List.filterMap_congr
  intro exchange _
  exact exchange.reset?_outline

/-- The resets that a service was asked for, in order. -/
def Service.resetsAsked (s : Service) : List ResetRequest :=
  s.journal.filterMap Exchange.reset?

/-- Descriptions are no resets. -/
theorem filterMap_undescribed (exchanges : List Exchange) :
    (undescribed exchanges).filterMap Exchange.reset? =
      (exchanges.filterMap Exchange.reset?).map ResetRequest.anonymous := by
  rw [undescribed, filterMap_reset?_outline, List.filterMap_filter]
  congr 1
  apply List.filterMap_congr
  rintro ⟨request, failure⟩ _
  cases request <;> rfl

/-- What calls are written down for, they are charged for. -/
theorem Service.Later.exists_made {s t : Service} (h : s.Later t) :
    ∃ made, t.journal = s.journal ++ made ∧
      s.Charged (made.map fun exchange => exchange.request.charge) t := by
  induction h with
  | same => exact ⟨[], (List.append_nil _).symm, .refl s⟩
  | @called t request _ ih =>
      obtain ⟨made, hjournal, hcharged⟩ := ih
      refine ⟨made ++ [⟨request, Service.failure? (t.call request).1⟩], ?_, ?_⟩
      · rw [Batch.Chronicle.journal_call, hjournal, List.append_assoc]
      · rw [List.map_append]
        exact hcharged.call request

namespace Batch

/-! ### The work alone, in one go -/

namespace Solo

/-- Going on by a call or a pause does not change what a run comes to. -/
theorem run_advance {x : Solo} (hbounded : x.service.store.Bounded) :
    x.advance.service.store.Bounded ∧
      x.advance.work.run x.advance.service = x.work.run x.service := by
  have hrun := Program.run_eq_next x.work hbounded
  cases hnext : x.work.next with
  | done attempted =>
      rw [advance_of_done hnext]
      exact ⟨hbounded, rfl⟩
  | ask request resume =>
      rw [advance_of_ask hnext, hrun, hnext]
      exact ⟨(x.service.call_step request).bounded hbounded, rfl⟩
  | pause resume =>
      rw [advance_of_pause hnext, hrun, hnext]
      exact ⟨hbounded, rfl⟩

theorem run_iterate {x : Solo} (hbounded : x.service.store.Bounded) (n : Nat) :
    (advance^[n] x).service.store.Bounded ∧
      (advance^[n] x).work.run (advance^[n] x).service = x.work.run x.service := by
  induction n with
  | zero => exact ⟨hbounded, rfl⟩
  | succ n ih =>
      obtain ⟨hbehind, hsame⟩ := ih
      rw [Function.iterate_succ_apply']
      exact ⟨(run_advance hbehind).1, (run_advance hbehind).2.trans hsame⟩

end Solo

/-- How the work on a target ends alone, a run of it ends too. -/
theorem Verdict.exists_run {plan : Plan} {home : Service} {target : WorkflowRef}
    {attempted : Attempted ResetError OutcomeStatus} {outline : List Exchange}
    (h : Verdict plan home target attempted outline) (hbounded : home.store.Bounded) :
    ∃ behind,
      (plan.process .checked target "").run { home with journal := [] } = (attempted, behind) ∧
        behind.journal.map Exchange.outline = outline := by
  obtain ⟨n, hdone, houtline⟩ := h
  obtain ⟨hbehind, hsame⟩ := Solo.run_iterate (x := .begin plan home target) hbounded n
  refine ⟨_, hsame.symm.trans ?_, houtline⟩
  rw [Program.run_eq_next _ hbehind, hdone]

end Batch

/-! ### A reset of a single target -/

namespace Standing

/-- The first reset that is accepted is the one in the standing. -/
theorem accepted_after {standing : Standing} (hopen : standing.accepted = none) (request : Request)
    (answer : Except ServiceError request.Response) :
    (standing.after request answer).accepted = request.accepted? answer := by
  cases request <;> cases answer <;> first | exact hopen | rfl

end Standing

namespace Plan

variable {plan plan' : Plan}

/-- What was accepted for a single target is what its outcome reports. -/
theorem logs_resetOne (hskip : plan.config.skipIfOpen = false) (service : Service)
    (metrics : Metrics) (target : WorkflowRef) (started : Nat) :
    Store.Logs service.store (plan.resetOne service metrics target none started).2.1.store
      (Batch.resetOf plan (plan.requestIds started)
        (plan.resetOne service metrics target none started).1).toList := by
  have hkeep (s : Service) (standing : Standing) (request : Request)
      (hs : Store.Logs service.store s.store standing.accepted.toList)
      (hallowed : (plan.rules target.workflowId (plan.requestIds started)).allows standing request) :
      Store.Logs service.store (s.call request).2.store
        (standing.after request (s.call request).1).accepted.toList := by
    have hstep := hs.step (s.call_step request)
    rw [hallowed.1, Option.toList_none, List.nil_append] at hstep
    rw [Standing.accepted_after hallowed.1]
    exact hstep
  obtain ⟨standing, hends, hlogs⟩ :=
    (plan.processDirect_obeys hskip target (plan.requestIds started)).run hkeep .start
  rw [Batch.accepted_eq_resetOf hends] at hlogs
  exact hlogs

/-- A reset that was the only one made the first run id that was to be given out. -/
theorem newRunId_of_logs {before after : Store} {requestId : String} {outcome : Outcome}
    (h : Store.Logs before after (Batch.resetOf plan requestId outcome).toList) {anchor : ResetAnchor}
    {newRunId : String} (hstatus : outcome.status = .reset anchor newRunId) :
    newRunId = before.nextRunId outcome.workflowId := by
  rw [Batch.resetOf, hstatus] at h
  obtain ⟨-, -, hname, -⟩ := h.once (by simp) (List.mem_singleton_self _)
  exact hname

/-- Outcomes that differ in no more than their times and new runs report the same reset. -/
theorem Like.anonymous_resetOf (hlike : plan.Like plan') {outcome outcome' : Outcome}
    (hplain : outcome.plain = outcome'.plain) (requestId requestId' : String) :
    (Batch.resetOf plan requestId outcome).map (·.1.anonymous) =
      (Batch.resetOf plan' requestId' outcome').map (·.1.anonymous) := by
  obtain ⟨workflowId, runId, status, attempts, timestamp⟩ := outcome
  obtain ⟨workflowId', runId', status', attempts', timestamp'⟩ := outcome'
  simp only [Outcome.plain, Outcome.renamed, Outcome.untimed, Outcome.mk.injEq] at hplain
  obtain ⟨rfl, -, hstatus, -⟩ := hplain
  cases status with
  | reset anchor newRunId =>
      cases status' with
      | reset anchor' newRunId' =>
          obtain ⟨rfl, -⟩ := OutcomeStatus.reset.inj hstatus
          exact congrArg some (hlike.anonymous_resetRequest _ _ _ _)
      | dryRun | skipped | excluded | failed => cases hstatus
  | dryRun | skipped | excluded | failed =>
      cases status' with
      | reset => cases hstatus
      | dryRun | skipped | excluded | failed => rfl

end Plan

namespace Batch

/-- A batch has come to what a reset of its only target alone has come to. Request ids, the id of a
new run and times aside, both have the same outcome, have asked for the same resets in the same order,
and leave the same runs, current runs, accepted resets and scripted failures behind. The scans that
the batch has made for its source have taken failures of their own. -/
structure SameAsAlone (rename : String → String → String) (c : Chronicle) (alone : Outcome)
    (behind : Service) : Prop where
  outcome : ∃ outcome, c.state.result = .ok [outcome] ∧
    (outcome.renamed rename).untimed = alone.untimed
  asked : c.state.service.resetsAsked.map ResetRequest.anonymous =
    behind.resetsAsked.map ResetRequest.anonymous
  accepted : c.state.service.store.resets.map ResetRequest.anonymous =
    behind.store.resets.map ResetRequest.anonymous
  runs : ∀ workflowId runId,
    behind.store.runs workflowId (rename workflowId runId) =
      (c.state.service.store.runs workflowId runId).map fun run =>
        if rename workflowId runId = runId then run else run.withId (rename workflowId runId)
  current : ∀ workflowId, behind.store.current workflowId =
    (c.state.service.store.current workflowId).map (rename workflowId)
  failures : ∀ method subject, method ≠ .scan →
    c.state.service.store.failures method subject = behind.store.failures method subject
  scanFailures : ∀ query, c.state.service.store.failures .scan query =
    (behind.store.failures .scan query).drop (c.scans.countP (·.request.subject = query))

namespace Chronicle

variable {plan plan' : Plan} {service : Service} {c : Chronicle} {target : WorkflowRef}
  {entry : Visit × Outcome}

namespace Settled

theorem exists_entry (h : c.Settled plan service) (htargets : c.targets = [target]) :
    ∃ entry, c.finished = [entry] ∧ entry.1.target = target := by
  have hperm := h.perm_targets
  rw [htargets, List.perm_singleton] at hperm
  exact List.map_eq_singleton_iff.mp hperm

theorem visits_singleton (h : c.Settled plan service) (hentry : c.finished = [entry]) :
    c.visits = [entry.1] := by
  rw [visits, h.visits_eq, hentry]
  rfl

/-- All resets that were asked for are those of the only visit, in order. -/
theorem resetsAsked_eq (h : c.Settled plan service) (hisolated : c.Isolated plan plan service)
    {made : List Exchange} (hrecorded : c.Recorded service made) (hentry : c.finished = [entry]) :
    c.state.service.resetsAsked.map ResetRequest.anonymous =
      service.resetsAsked.map ResetRequest.anonymous ++
        entry.1.outline.filterMap Exchange.reset? := by
  obtain ⟨anchor, -, hsame⟩ := hisolated.exists_anchor h.accounted
    (show entry.1 ∈ c.visits by rw [h.visits_singleton hentry]; exact List.mem_singleton_self _)
  have hscans : (c.scans.map Call.exchange).filterMap Exchange.reset? = [] := by
    rw [List.filterMap_map, List.filterMap_eq_nil_iff]
    intro call hcall
    have hscan := hrecorded.scans call hcall
    obtain ⟨time, request, answer⟩ := call
    cases request with
    | scan request => rfl
    | describe | history | reset => simp [Request.method] at hscan
  have hperm := hrecorded.perm.filterMap Exchange.reset?
  rw [h.visits_singleton hentry, List.flatMap_singleton, List.map_append, List.filterMap_append,
    hscans, List.nil_append] at hperm
  -- They are all the same, so their order does not matter.
  have hreplicate : (entry.1.calls.map Call.exchange).filterMap Exchange.reset? =
      List.replicate ((entry.1.calls.map Call.exchange).filterMap Exchange.reset?).length
        (plan.resetRequest entry.1.target.workflowId entry.1.requestId anchor) := by
    rw [List.eq_replicate_iff]
    refine ⟨rfl, ?_⟩
    intro request hrequest
    obtain ⟨exchange, hexchange, hreset⟩ := List.mem_filterMap.mp hrequest
    obtain ⟨call, hcall, rfl⟩ := List.mem_map.mp hexchange
    refine hsame call hcall request ?_
    obtain ⟨time, asked, answer⟩ := call
    cases asked with
    | reset asked => exact congrArg Request.reset (Option.some.inj hreset)
    | describe | history | scan => simp [Exchange.reset?, Call.exchange] at hreset
  rw [hreplicate, List.perm_replicate, ← hreplicate] at hperm
  have houtline : entry.1.outline.filterMap Exchange.reset? =
      ((entry.1.calls.map Call.exchange).filterMap Exchange.reset?).map ResetRequest.anonymous := by
    rw [← filterMap_reset?_outline, List.map_map]
    rfl
  rw [Service.resetsAsked, hrecorded.journal, List.filterMap_append, List.map_append, hperm, houtline]
  rfl

/-- The failures that are left are those that the scans and the only visit have not taken. -/
theorem failures_eq (h : c.Settled plan service) (hmissed : service.missed? = none)
    (hentry : c.finished = [entry]) (method : Method) (subject : String) :
    c.state.service.store.failures method subject =
      ((service.store.failures method subject).drop
        ((entry.1.outline.map fun exchange => exchange.request.charge).count (method, subject))).drop
          ((c.scans.map fun call => call.request.charge).count (method, subject)) := by
  have hcharged := h.charged.store
  simp only [hmissed, Option.isSome_none, Bool.false_eq_true, if_false] at hcharged
  rw [hcharged.failures, h.charges_eq, hentry, List.map_singleton, List.flatMap_singleton,
    List.drop_drop, List.count_append, Nat.add_comm]
  rfl

end Settled

theorem Recorded.count_scans {made : List Exchange} (h : c.Recorded service made) (method : Method)
    (subject : String) :
    (c.scans.map fun call => call.request.charge).count (method, subject) =
      if method = .scan then c.scans.countP (·.request.subject = subject) else 0 := by
  rw [List.count, List.countP_map]
  split
  · rename_i hscan
    subst hscan
    apply List.countP_congr
    intro call hcall
    simp [Request.charge, h.scans call hcall]
  · rename_i hscan
    rw [List.countP_eq_zero]
    intro call hcall
    simp [Request.charge, h.scans call hcall, Ne.symm hscan]

/-- With all checks switched off, a visit has gone the way that a reset of its target alone goes, but
for the looks at the current run. -/
theorem Isolated.resetOne (h : c.Isolated plan plan' service)
    (hflags : plan'.config.safetyFilter = ⟨false, false, false⟩) (hbounded : service.store.Bounded)
    (hmem : entry ∈ c.finished) (hdescribes : service.Describes entry.1.target.workflowId)
    (naming : String → Nat → String) (metrics : Metrics) (started : Nat) :
    entry.2.plain =
        (plan'.resetOne (service.withNaming naming) metrics entry.1.target none started).1.plain ∧
      (plan'.resetOne (service.withNaming naming) metrics entry.1.target none
          started).2.1.resetsAsked.map ResetRequest.anonymous =
        service.resetsAsked.map ResetRequest.anonymous ++
          entry.1.outline.filterMap Exchange.reset? ∧
      ∀ method subject,
        (plan'.resetOne (service.withNaming naming) metrics entry.1.target none
            started).2.1.store.failures method subject =
          (service.store.failures method subject).drop
            ((entry.1.outline.map fun exchange => exchange.request.charge).count
              (method, subject)) := by
  obtain ⟨attempted, checked, houtcome, hverdict, hsame⟩ := h.finished hmem
  obtain ⟨solo, hsolo, houtline⟩ := hverdict.exists_run hbounded
  have hlevel : Service.Level (undescribed service.journal) { service with journal := [] }
      (service.withNaming naming) :=
    ⟨rfl, ⟨_, _, rfl⟩, (List.append_nil _).symm⟩
  have hmet := plan'.process_meets hflags entry.1.target "" (plan'.requestIds started) _ _ _ hlevel
    ⟨hdescribes.missed, hdescribes.current, hdescribes.failures⟩
  rw [hsolo] at hmet
  rw [Plan.resetOne]
  generalize (plan'.process (.direct none) entry.1.target (plan'.requestIds started)).run
    (service.withNaming naming) = ended at hmet ⊢
  obtain ⟨direct, behind⟩ := ended
  obtain ⟨hsame', hfailures, hjournal⟩ := hmet.behind
  refine ⟨?_, ?_, ?_⟩
  · calc entry.2.plain
      _ = (plan.outcome entry.1.target attempted).plain := by rw [houtcome]
      _ = (plan'.outcome entry.1.target checked).plain := Plan.plain_outcome hsame
      _ = (plan'.outcome entry.1.target direct).plain := Plan.plain_outcome hsame'
  · rw [Service.resetsAsked, ← filterMap_undescribed, hjournal, List.filterMap_append,
      filterMap_undescribed, filterMap_undescribed, ← houtline, filterMap_reset?_outline]
    rfl
  · -- The work with the checks has taken the failures that its calls are charged for.
    have hlater := Program.later_run (plan'.process .checked entry.1.target "")
      { service with journal := [] }
    rw [hsolo] at hlater
    obtain ⟨made, hmade, hcharged⟩ := hlater.exists_made
    obtain rfl : solo.journal = made := hmade
    have hstore := hcharged.store
    have hmissed : Service.missed? { service with journal := [] } = none := hdescribes.missed
    simp only [hmissed, Option.isSome_none, Bool.false_eq_true, if_false] at hstore
    have hcharges : (entry.1.outline.map fun exchange => exchange.request.charge) =
        solo.journal.map fun exchange => exchange.request.charge := by
      rw [← houtline, List.map_map]
      apply List.map_congr_left
      intro exchange _
      simp [Exchange.outline, Request.charge]
    intro method subject
    rw [hfailures, hstore.failures, hcharges]

/-- What a batch of one target returns. -/
theorem Settled.result_eq (h : c.Settled plan service) (hitems : c.items = [.target target])
    (hentry : c.finished = [entry]) {outcomes : List Outcome}
    (hresult : c.state.result = .ok outcomes) : c.state.result = .ok [entry.2] := by
  have hexcluded : c.state.excluded = [] := by
    rw [h.accounted.exclusions, exclusions, hitems]
    rfl
  have hprocessed := h.perm_processed
  rw [hentry, List.map_singleton, List.perm_singleton] at hprocessed
  rw [State.result] at hresult ⊢
  split at hresult
  · exact absurd hresult (by simp)
  · rw [State.outcomes, hexcluded, hprocessed]
    rfl

/-- A batch of one target with all checks switched off does what a reset of that target alone does, if
the target's workflow has a current run and no failures are scripted for describing it. -/
theorem same_as_alone {metrics metrics' : Metrics} {source : Source} {started started' : Nat}
    {schedule : List Actor} {naming : String → Nat → String} {runId : String} {run : Run}
    {outcomes : List Outcome} (hlike : plan.Like plan') (hparallelism : 1 ≤ plan.config.parallelism)
    (hflags : plan.config.safetyFilter = ⟨false, false, false⟩)
    (hbounded : service.store.Bounded) (hmissed : service.missed? = none)
    (hcurrent : service.store.current target.workflowId = some runId)
    (hthere : service.store.runs target.workflowId runId = some run)
    (hunscripted : service.store.failures .describe target.workflowId = [])
    (hfresh : service.store.NextFresh) (hfresh' : (service.withNaming naming).store.NextFresh)
    (hrun : (start plan service metrics source started).follow? plan schedule = some c)
    (hfinal : c.state.isFinal) (hitems : c.items = [.target target])
    (hresult : c.state.result = .ok outcomes) :
    SameAsAlone
      (fun workflowId => service.store.renameRun (service.withNaming naming).store workflowId) c
      (plan'.resetOne (service.withNaming naming) metrics' target none started').1
      (plan'.resetOne (service.withNaming naming) metrics' target none started').2.1 := by
  have htargets : c.targets = [target] := by rw [targets, hitems]; rfl
  have hdistinct : c.workflows.Nodup := by rw [workflows, htargets]; simp
  have hsettled := settled_of_follow? hparallelism hrun hfinal hdistinct
  obtain ⟨entry, hentry, rfl⟩ := hsettled.exists_entry htargets
  obtain ⟨made, hrecorded⟩ := recorded_of_follow? hrun
  have hmem : entry ∈ c.finished := hentry ▸ List.mem_singleton_self entry
  have hflags' : plan'.config.safetyFilter = ⟨false, false, false⟩ := by
    rw [← hflags, hlike.config]
    rfl
  obtain ⟨hplain, hasked, hfailures⟩ := (isolated_of_start hlike hrun hdistinct).resetOne hflags'
    hbounded hmem ⟨hmissed, ⟨runId, run, hcurrent, hthere⟩, hunscripted⟩ naming metrics' started'
  have hlog' := plan'.logs_resetOne (congrArg SafetyFilter.skipIfOpen hflags')
    (service.withNaming naming) metrics' entry.1.target started'
  generalize plan'.resetOne (service.withNaming naming) metrics' entry.1.target none started' = reset
    at hplain hasked hfailures hlog' ⊢
  obtain ⟨alone, behind, counted⟩ := reset
  -- The same reset was accepted, if any.
  obtain ⟨log, hlog, hperm, hnodup⟩ := hsettled.exists_log
  rw [hentry, List.flatMap_singleton, (hsettled.closed hmem).accepted_eq] at hperm
  have hlogged : log = (resetOf plan entry.1.requestId entry.2).toList := by
    cases hreported : resetOf plan entry.1.requestId entry.2 with
    | none => simpa [hreported] using hperm
    | some made => simpa [hreported] using hperm
  have hanonymous : log.map (·.1.anonymous) =
      (resetOf plan' (plan'.requestIds started') alone).toList.map (·.1.anonymous) := by
    rw [hlogged, ← Option.toList_map, ← Option.toList_map]
    exact congrArg Option.toList (hlike.anonymous_resetOf hplain _ _)
  have hlogs : Store.SameLogs service.store (service.withNaming naming).store c.state.service.store
      behind.store log (resetOf plan' (plan'.requestIds started') alone).toList := by
    refine ⟨hlog, hlog', hnodup, ?_, .of_eq hanonymous⟩
    cases resetOf plan' (plan'.requestIds started') alone <;> simp
  have hruns : service.store.SameRuns (service.withNaming naming).store := ⟨rfl, rfl⟩
  constructor
  · refine ⟨entry.2, hsettled.result_eq hitems hentry hresult, ?_⟩
    let rename (workflowId : String) :=
      service.store.renameRun (service.withNaming naming).store workflowId
    calc (entry.2.renamed fun workflowId => rename workflowId).untimed
      _ = entry.2.plain.renamed fun workflowId _ =>
            (service.withNaming naming).store.nextRunId workflowId := by
          apply Outcome.untimed_renamed_eq
          intro anchor newRunId hstatus
          rw [hsettled.newRunId_eq hmem hstatus]
          exact Store.renameRun_next _ _ _
      _ = alone.plain.renamed fun workflowId _ =>
            (service.withNaming naming).store.nextRunId workflowId := by rw [hplain]
      _ = (alone.renamed fun _ => id).untimed := by
          symm
          apply Outcome.untimed_renamed_eq
          intro anchor newRunId hstatus
          exact Plan.newRunId_of_logs hlog' hstatus
      _ = alone.untimed := by rw [Outcome.renamed_id]
  · rw [hsettled.resetsAsked_eq (isolated_of_start (.refl plan) hrun hdistinct) hrecorded hentry]
    exact hasked.symm
  · rw [hlog.resets_eq, hlog'.resets_eq, List.map_append, List.map_append, List.map_map, List.map_map]
    exact congrArg _ hanonymous
  · exact hlogs.runs_renamed hruns hfresh hfresh'
  · exact hlogs.current_renamed hruns hfresh hfresh'
  · intro method subject hscan
    rw [hsettled.failures_eq hmissed hentry, hfailures, hrecorded.count_scans, if_neg hscan,
      List.drop_zero]
  · intro query
    rw [hsettled.failures_eq hmissed hentry, hfailures, hrecorded.count_scans, if_pos rfl]

/-- The sample plan without checks. -/
def uncheckedPlan : Plan :=
  { samplePlan with config := { samplePlan.config with skipIfOpen := false } }

/-- A query that has found one target with its run. -/
def namedSource : Source where
  feed := .query ⟨"default", "all", ⟨[⟨"pay", some "base"⟩], none, true⟩⟩
  exclusions := .ofList []

theorem flakyService_bounded : flakyService.store.Bounded :=
  ((Store.bounded_empty fun _ => sampleId).insertRun (sampleRun "pay")).insertRun (sampleRun "ship")

theorem flakyService_nextFresh (shift : Nat) :
    (flakyService.withNaming fun _ n => sampleId (n + shift)).store.NextFresh :=
  ⟨(sampleService_nextFresh shift).runs, (sampleService_nextFresh shift).current⟩

/-- The first reset fails in passing, so the batch makes two attempts, and so does the reset of the
target alone. -/
theorem same_as_alone_flaky :
    ∃ c, (start uncheckedPlan flakyService .zero namedSource 0).follow? uncheckedPlan
          (List.replicate 3 .producer ++ List.replicate 11 (.worker 1) ++ [.worker 0]) = some c ∧
      c.state.isFinal ∧ c.state.outcomes.map Outcome.attempts = [2] ∧
      SameAsAlone
        (fun workflowId => flakyService.store.renameRun
          (flakyService.withNaming fun _ n => sampleId (n + 1)).store workflowId) c
        (uncheckedPlan.resetOne (flakyService.withNaming fun _ n => sampleId (n + 1)) .zero
          ⟨"pay", some "base"⟩ none 7).1
        (uncheckedPlan.resetOne (flakyService.withNaming fun _ n => sampleId (n + 1)) .zero
          ⟨"pay", some "base"⟩ none 7).2.1 := by
  have hends : ((start uncheckedPlan flakyService .zero namedSource 0).follow? uncheckedPlan
      (List.replicate 3 .producer ++ List.replicate 11 (.worker 1) ++ [.worker 0])).map
      (fun c => (c.state.isFinal, c.state.result.isOk, c.items,
        c.state.outcomes.map Outcome.attempts)) =
      some (true, true, [.target ⟨"pay", some "base"⟩], [2]) := by
    decide +kernel
  obtain ⟨c, hrun, hends⟩ := Option.map_eq_some_iff.mp hends
  simp only [Prod.mk.injEq] at hends
  obtain ⟨hfinal, hok, hitems, hattempts⟩ := hends
  obtain ⟨outcomes, hresult⟩ : ∃ outcomes, c.state.result = .ok outcomes := by
    cases hresult : c.state.result with
    | ok outcomes => exact ⟨outcomes, rfl⟩
    | error error => simp [hresult, Except.isOk, Except.toBool] at hok
  refine ⟨c, hrun, hfinal, hattempts, ?_⟩
  exact same_as_alone (.refl uncheckedPlan) (by decide) rfl flakyService_bounded rfl
    (show flakyService.store.current "pay" = some "base" by decide +kernel)
    (show flakyService.store.runs "pay" "base" = some (sampleRun "pay") by decide +kernel)
    (by decide +kernel) (flakyService_nextFresh 0) (flakyService_nextFresh 1) hrun hfinal hitems
    hresult

end Chronicle

end Batch

end Rewind
