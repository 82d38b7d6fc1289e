import Rewind.Proofs.Batch.Amid
import Rewind.Proofs.Batch.Steady
import Rewind.Proofs.Quiet
import Rewind.Proofs.Volume

/-!
Batches that are run again.

A reset documents itself as a failed workflow task with the reason of the reset as its message, and
nothing completes behind it. So the run that it makes ends like one of non-determinism exactly if that
reason speaks of it. A batch whose reason does not, and that leaves deterministic runs alone, leaves
its own results alone when it is run again.

Main statement: `rerun_passes_over`.
-/

namespace Rewind

/-- The run that a reset makes ends in a failure of non-determinism only if the reason says so. -/
theorem NonDeterminismScan.resetEvents (kept : List Event) (r : ResetRequest) :
    (ofEvents (kept ++ Store.resetEvents r)).isNonDeterministic =
      Text.contains r.reason "nondeterministic" := by
  simp [ofEvents, List.foldl_append, Store.resetEvents, observe, Event.taskFailed,
    Event.taskScheduled, Event.plain, isNonDeterministic, looksNonDeterministic]

namespace Service

/-- The run that an accepted reset has made. -/
theorem exists_run_of_reset {s : Service} {request : ResetRequest} {response : ResetResponse}
    (haccepted : (s.call (.reset request)).1 = .ok response) :
    ∃ run kept, (s.call (.reset request)).2.store.runs request.workflowId response.newRunId =
        some run ∧ run.history = kept ++ Store.resetEvents request := by
  obtain ⟨kept, calls, -, hid, hstore⟩ := exists_accept haccepted
  rw [hstore, hid]
  exact ⟨s.store.resetRun request kept, kept, by simp, rfl⟩

/-- Looking at a workflow may fail. -/
def Faulty (s : Service) (workflowId : String) : Prop :=
  s.missed? = none →
    s.store.failures .describe workflowId ≠ [] ∨ s.store.failures .getHistory workflowId ≠ []

end Service

/-- The current run of a workflow is open and does not end in a failure of non-determinism. -/
structure Remade (s : Store) (workflowId runId : String) (run : Run) : Prop where
  current : s.current workflowId = some runId
  there : s.runs workflowId runId = some run
  named : runId ≠ ""
  isOpen : run.isOpen = true
  deterministic : (NonDeterminismScan.ofEvents run.history).isNonDeterministic = false

/-- What the service says of such a workflow. -/
theorem Remade.describe_eq {s : Store} {workflowId runId : String} {run : Run}
    (h : Remade s workflowId runId run) (method : Method) (domain : String) :
    (s.count method).describe ⟨domain, workflowId, none⟩ = .ok ⟨runId, run.isOpen, run.points⟩ :=
  Store.describe_current (s := s.count method) h.current h.there domain

namespace Store.Logs

/-- Behind resets whose reasons do not speak of non-determinism the current run is as those resets have
made it. -/
theorem exists_remade {before after : Store} {log : List (ResetRequest × String)}
    (h : Logs before after log) (hfresh : before.Fresh)
    (hnamed : ∀ workflowId n, before.naming workflowId n ≠ "")
    (hreason : ∀ r ∈ log.map Prod.fst, Text.contains r.reason "nondeterministic" = false)
    {workflowId : String} (hreset : ∃ r ∈ log.map Prod.fst, r.workflowId = workflowId) :
    ∃ runId run, Remade after workflowId runId run := by
  obtain ⟨entry, hentry, rfl, hcurrent, kept, hmade⟩ := h.exists_made hfresh hreset
  obtain ⟨n, -, -, hid⟩ := h.numbered hentry
  refine ⟨entry.2, _, hcurrent, hmade, hid ▸ hnamed _ n, rfl, ?_⟩
  rw [NonDeterminismScan.resetEvents]
  exact hreason _ (List.mem_map_of_mem hentry)

end Store.Logs

namespace Plan

variable {plan : Plan} {home final s : Service} {workflowId : String}

/-- Why a target without run id is passed over whose current run is open and deterministic. -/
def PassesOver (config : BatchConfig) (reason : SkipReason) : Prop :=
  if config.skipIfBaseNotCurrent then ∃ runId, reason = .baseNotCurrent runId
  else if config.skipIfOpen then ∃ runId, reason = .currentRunOpen runId
  else reason = .notNonDeterministic

/-- A target is passed over for such a reason, or could not be looked at. -/
def PassedOver {α : Type} (plan : Plan) (home : Service) (workflowId : String)
    (skip : SkipReason → α) (result : Except ResetError α) : Prop :=
  (∃ reason, result = .ok (skip reason) ∧ PassesOver plan.config reason) ∨
    ∃ error, result = .error error ∧ error.serviceError?.isSome ∧ home.Faulty workflowId

/-- The history of such a run is read and found deterministic, or can not be read. -/
theorem scan_amid (hfresh : home.store.Fresh) (hlater : home.Later s) {runId : String} {run : Run}
    (hthere : s.store.runs workflowId runId = some run) (hnamed : runId ≠ "")
    (hdeterministic : (NonDeterminismScan.ofEvents run.history).isNonDeterministic = false)
    (hshort : run.history.length < UInt64.size)
    (hbase : plan.config.skipIfBaseNotCurrent = false) (hskip : plan.config.skipIfOpen = false) :
    Program.Amid final (plan.PassedOver home workflowId Verdict.skip) s (ExceptT.run (do
      let events ← Procedure.readAll (.start plan.config.domain workflowId runId)
      if (NonDeterminismScan.ofEvents events).isNonDeterministic then
        return Verdict.proceed runId
      else
        return .skip .notNonDeterministic)) := by
  have hunread : Program.Unread s run 0 (.start plan.config.domain workflowId runId) :=
    ⟨hlater.fresh hfresh, hthere, hnamed, hshort, .start _ _⟩
  refine (Program.readAll_amid hunread .same).exceptBind ?_ ?_
  · rintro t events - - (hread | ⟨error, hfailed, -⟩)
    · obtain rfl := Except.ok.inj hread
      simp only [hdeterministic, Bool.false_eq_true, if_false]
      exact .done fun _ => .inl ⟨_, rfl, by simp [PassesOver, hbase, hskip]⟩
    · exact absurd hfailed (by simp)
  · rintro error (hread | ⟨cause, hcause, hscripted⟩)
    · exact absurd hread (by simp)
    · obtain rfl := Except.error.inj hcause
      refine .inr ⟨_, rfl, rfl, fun htime => .inr fun hnil => ?_⟩
      exact hscripted (hlater.missed?_eq.trans htime) (hlater.failures_nil hnil)

theorem check_amid (honly : plan.config.nonDeterministicOnly = true) (hfresh : home.store.Fresh)
    (hshort : ∀ runId run, final.store.runs workflowId runId = some run →
      run.history.length < UInt64.size)
    (hremade : ∀ t, home.Later t → t.Later final →
      ∃ runId run, Remade t.store workflowId runId run)
    (hlater : home.Later s) :
    Program.Amid final (plan.PassedOver home workflowId Verdict.skip) s
      (ExceptT.run (plan.config.safetyFilter.check plan.config.domain ⟨workflowId, none⟩)) := by
  refine Program.callBind_amid ?_ ?_
  · intro t description ht hfinal hanswer
    have hcall := Service.Later.call t (.describe ⟨plan.config.domain, workflowId, none⟩)
    obtain ⟨runId, run, hrun⟩ := hremade t (hlater.trans ht) (hcall.trans hfinal)
    rcases t.call_cases (.describe ⟨plan.config.domain, workflowId, none⟩) with hserved |
      ⟨error, hfailed, -⟩
    · obtain rfl := Except.ok.inj (hanswer.symm.trans (hserved.trans (hrun.describe_eq _ _)))
      have hother : ("" : String) ≠ runId := fun heq => hrun.named heq.symm
      by_cases hbase : plan.config.skipIfBaseNotCurrent = true
      · simp only [BatchConfig.safetyFilter, hbase, WorkflowRef.runIdOrEmpty, Option.getD_none,
          hother, ne_eq, not_false_eq_true, decide_true, Bool.and_true, ↓reduceIte]
        exact .done fun _ => .inl ⟨_, rfl, by simp [PassesOver, hbase]⟩
      · rw [Bool.not_eq_true] at hbase
        by_cases hskip : plan.config.skipIfOpen = true
        · simp only [BatchConfig.safetyFilter, hbase, hskip, hrun.isOpen, Bool.false_and,
            Bool.false_eq_true, Bool.and_true, ↓reduceIte]
          exact .done fun _ => .inl ⟨_, rfl, by simp [PassesOver, hbase, hskip]⟩
        · rw [Bool.not_eq_true] at hskip
          simp only [BatchConfig.safetyFilter, hbase, hskip, honly, Option.getD_none,
            Bool.false_and, Bool.false_eq_true, ↓reduceIte]
          have htfresh := (hlater.trans ht).fresh hfresh
          have hlast := (hcall.trans hfinal).runs_kept htfresh hrun.there
          exact scan_amid hfresh ((hlater.trans ht).trans hcall) (hcall.runs_kept htfresh hrun.there)
            hrun.named hrun.deterministic (hshort runId run hlast) hbase hskip
    · rw [hfailed] at hanswer
      exact absurd hanswer (by simp)
  · intro t error ht hfinal hanswer
    refine .inr ⟨_, rfl, rfl, fun htime => .inl fun hnil => ?_⟩
    obtain ⟨runId, run, hrun⟩ :=
      hremade t (hlater.trans ht) ((Service.Later.call t _).trans hfinal)
    rcases t.call_cases (.describe ⟨plan.config.domain, workflowId, none⟩) with hserved |
      ⟨error, -, hscripted⟩
    · exact absurd (hanswer.symm.trans (hserved.trans (hrun.describe_eq _ _))) (by simp)
    · exact hscripted ((hlater.trans ht).missed?_eq.trans htime)
        ((hlater.trans ht).failures_nil hnil)

theorem attempt_amid (honly : plan.config.nonDeterministicOnly = true) (hfresh : home.store.Fresh)
    (hshort : ∀ runId run, final.store.runs workflowId runId = some run →
      run.history.length < UInt64.size)
    (hremade : ∀ t, home.Later t → t.Later final →
      ∃ runId run, Remade t.store workflowId runId run)
    (hlater : home.Later s) (requestId : String) :
    Program.Amid final (plan.PassedOver home workflowId OutcomeStatus.skipped) s
      (ExceptT.run (plan.attempt .checked ⟨workflowId, none⟩ requestId)) := by
  refine (check_amid honly hfresh hshort hremade hlater).exceptBind ?_ ?_
  · rintro t verdict - - (⟨reason, hskip, hreason⟩ | ⟨error, hfailed, -⟩)
    · obtain rfl := Except.ok.inj hskip
      exact .done fun _ => .inl ⟨reason, rfl, hreason⟩
    · exact absurd hfailed (by simp)
  · rintro error (⟨reason, hskip, -⟩ | ⟨cause, hcause, hservice, hfaulty⟩)
    · exact absurd hskip (by simp)
    · obtain rfl := Except.error.inj hcause
      exact .inr ⟨error, rfl, hservice, hfaulty⟩

end Plan

namespace Batch.Chronicle

variable {plan : Plan} {service : Service} {c c' : Chronicle}

/-- A reset that was accepted for a visit gives the reason of the batch. -/
theorem reason_of_accepted {visit : Visit} {standing : Standing} (h : visit.Ruled plan standing)
    {entry : ResetRequest × String} (hentry : entry ∈ visit.accepted) :
    entry.1.reason = plan.reason := by
  obtain ⟨⟨time, request, answer⟩, hcall, haccepted⟩ := List.mem_filterMap.mp hentry
  cases request with
  | describe | history | scan => simp [Call.accepted?, Request.accepted?] at haccepted
  | reset request =>
      obtain ⟨anchor, rfl⟩ := h.reset_eq hcall rfl
      cases answer with
      | error error => simp [Call.accepted?] at haccepted
      | ok response =>
          obtain rfl := Option.some.inj haccepted
          rfl

/-- All resets that were accepted during a batch give its reason. -/
theorem exists_log_of_reason {before : Store} (hc : c.Accounted plan) (hlogged : c.Logged before) :
    ∃ log, Store.Logs before c.state.service.store log ∧
      (∀ entry ∈ log, entry.1.reason = plan.reason) ∧
      ∀ visit ∈ c.desks.flatMap Desk.visits, ∀ entry ∈ visit.accepted, entry ∈ log := by
  obtain ⟨log, hlog, hperm⟩ := hlogged
  rw [← c.accepted_eq] at hperm
  refine ⟨log, hlog, ?_, ?_⟩
  · intro entry hentry
    obtain ⟨desk, hdesk, hmem⟩ := List.mem_flatMap.mp (hperm.mem_iff.mp hentry)
    obtain ⟨visit, hvisit, haccepted⟩ := List.mem_flatMap.mp hmem
    obtain ⟨standing, hruled⟩ := hc.lawful.ruled hc.seats hdesk hvisit
    exact reason_of_accepted hruled haccepted
  · intro visit hvisit entry hentry
    obtain ⟨desk, hdesk, hmem⟩ := List.mem_flatMap.mp hvisit
    exact hperm.mem_iff.mpr
      (List.mem_flatMap.mpr ⟨desk, hdesk, List.mem_flatMap.mpr ⟨visit, hmem, hentry⟩⟩)

/-- From the end of a batch that has reset a workflow to the end of the next run of the batch, the
current run of the workflow is as a reset of the batch has made it. -/
theorem exists_remade (hfresh : service.store.Fresh)
    (hnamed : ∀ workflowId n, service.store.naming workflowId n ≠ "")
    (hreason : Text.contains plan.reason "nondeterministic" = false)
    (hlater : service.Later c.state.service)
    (hc : c.Accounted plan) (hlogged : c.Logged service.store)
    (hc' : c'.Accounted plan) (hlogged' : c'.Logged c.state.service.store)
    {visit : Visit} (hvisit : visit ∈ c.desks.flatMap Desk.visits) {entry : ResetRequest × String}
    (hentry : entry ∈ visit.accepted) {t : Service} (ht : c.state.service.Later t)
    (htfinal : t.Later c'.state.service) :
    ∃ runId run, Remade t.store entry.1.workflowId runId run := by
  obtain ⟨first, hfirst, hreasons, haccepted⟩ := exists_log_of_reason hc hlogged
  obtain ⟨second, hsecond, hreasons', -⟩ := exists_log_of_reason hc' hlogged'
  obtain ⟨log, hlog⟩ := (hlater.trans ht).exists_logs
  obtain ⟨between, hbetween⟩ := ht.exists_logs
  obtain ⟨rest, hrest⟩ := htfinal.exists_logs
  -- What was accepted up to a moment was accepted in the first run, or up to then in the second.
  have hresets : log.map Prod.fst = first.map Prod.fst ++ between.map Prod.fst := by
    have hsame := hlog.resets_eq.symm.trans hbetween.resets_eq
    rw [hfirst.resets_eq, List.append_assoc] at hsame
    exact List.append_cancel_left hsame
  have hresets' : second.map Prod.fst = between.map Prod.fst ++ rest.map Prod.fst := by
    have hsame := hsecond.resets_eq.symm.trans hrest.resets_eq
    rw [hbetween.resets_eq, List.append_assoc] at hsame
    exact List.append_cancel_left hsame
  refine hlog.exists_remade hfresh hnamed ?_ ⟨entry.1, ?_, rfl⟩
  · intro r hr
    have hplan : r.reason = plan.reason := by
      rw [hresets] at hr
      rcases List.mem_append.mp hr with hold | hnew
      · obtain ⟨entry, hentry, rfl⟩ := List.mem_map.mp hold
        exact hreasons entry hentry
      · have hmem : r ∈ second.map Prod.fst := hresets' ▸ List.mem_append_left _ hnew
        obtain ⟨entry, hentry, rfl⟩ := List.mem_map.mp hmem
        exact hreasons' entry hentry
    rw [hplan]
    exact hreason
  · rw [hresets]
    exact List.mem_append_left _ (List.mem_map_of_mem (haccepted visit hvisit entry hentry))

/-- Work that meets such runs only, whenever it looks, passes its target over. -/
theorem passed_over_of_follow? {home : Service} {metrics : Metrics} {source : Source}
    {started : Nat} {schedule : List Actor} {workflowId : String}
    (honly : plan.config.nonDeterministicOnly = true) (hfresh : home.store.Fresh)
    (hrun : (start plan home metrics source started).follow? plan schedule = some c)
    (hshort : ∀ runId run, c.state.service.store.runs workflowId runId = some run →
      run.history.length < UInt64.size)
    (hremade : ∀ t, home.Later t → t.Later c.state.service →
      ∃ runId run, Remade t.store workflowId runId run)
    {entry : Visit × Outcome} (hentry : entry ∈ c.finished)
    (htarget : entry.1.target = ⟨workflowId, none⟩) :
    (∃ reason, entry.2.status = .skipped reason ∧ Plan.PassesOver plan.config reason) ∨
      ∃ error : ResetError, entry.2.status = .failed error.text ∧
        error.serviceError?.isSome ∧ home.Faulty workflowId := by
  have hwork (s : Service) (requestId : String) (hs : home.Later s)
      (_ : s.Later c.state.service) :=
    Program.attemptFrom_amid (s := s) (fun t ht _ =>
      Plan.attempt_amid honly hfresh hshort hremade (hs.trans ht) requestId)
      1 plan.settings.retry.spare
  obtain ⟨attempted, houtcome, hlast⟩ := ends_of_follow? hrun hwork hentry htarget
  rw [houtcome]
  rcases hlast.result with ⟨reason, hskip, hreason⟩ | ⟨error, hfailed, hfault⟩
  · exact .inl ⟨reason, by simp [Plan.outcome, Outcome.of, hskip], hreason⟩
  · exact .inr ⟨error, by simp [Plan.outcome, Outcome.of, hfailed], hfault⟩

/-- The run that a reset makes ends in a failure of non-determinism exactly if the reason of the reset
speaks of it. So if the reason of a batch does not, and the batch leaves deterministic runs alone, then
what it has reset without a run id it passes over when it is run again, or fails to look at; it never
resets it again. -/
theorem rerun_passes_over :
    (∀ (service : Service) (request : ResetRequest) (response : ResetResponse),
      (service.call (.reset request)).1 = .ok response →
      ∃ run, (service.call (.reset request)).2.store.runs request.workflowId response.newRunId =
          some run ∧
        (NonDeterminismScan.ofEvents run.history).isNonDeterministic =
          Text.contains request.reason "nondeterministic") ∧
    ∀ (plan : Plan) (service : Service) (metrics metrics' : Metrics) (source source' : Source)
      (started started' : Nat) (schedule schedule' : List Actor) (c c' : Chronicle)
      (workflowId : String),
      plan.config.nonDeterministicOnly = true →
      Text.contains plan.reason "nondeterministic" = false →
      1 ≤ plan.config.parallelism → service.store.Fresh →
      (∀ workflowId n, service.store.naming workflowId n ≠ "") →
      (start plan service metrics source started).follow? plan schedule = some c →
      (start plan c.state.service metrics' source' started').follow? plan schedule' = some c' →
      c'.state.isFinal →
      (∀ runId run, c'.state.service.store.runs workflowId runId = some run →
        run.history.length < UInt64.size) →
      (∃ entry ∈ c.finished, entry.1.target = ⟨workflowId, none⟩ ∧
        ∃ anchor newRunId, entry.2.status = .reset anchor newRunId) →
      (c'.state.processed.map Outcome.ref).Perm c'.targets ∧
      (∀ entry ∈ c'.finished, entry.1.target = ⟨workflowId, none⟩ → entry.1.accepted = []) ∧
      ∀ outcome ∈ c'.state.processed, outcome.ref = ⟨workflowId, none⟩ →
        (∃ reason, outcome.status = .skipped reason ∧ Plan.PassesOver plan.config reason) ∨
          ∃ error : ResetError, outcome.status = .failed error.text ∧
            error.serviceError?.isSome ∧ c.state.service.Faulty workflowId := by
  refine ⟨?_, ?_⟩
  · intro service request response haccepted
    obtain ⟨run, kept, hrun, hhistory⟩ := Service.exists_run_of_reset haccepted
    exact ⟨run, hrun, by rw [hhistory, NonDeterminismScan.resetEvents]⟩
  · intro plan service metrics metrics' source source' started started' schedule schedule' c c'
      workflowId honly hreason hparallelism hfresh hnamed hrun hrun' hfinal hshort hreset
    have hc := accounted_of_follow? hrun
    have hc' := accounted_of_follow? hrun'
    have hlater := later_of_follow? hrun
    obtain ⟨first, hfirst, htarget, anchor, newRunId, hstatus⟩ := hreset
    obtain ⟨desk, hdesk, hmem⟩ := List.mem_flatMap.mp hfirst
    have hclosed := hc.lawful.closed hdesk hmem
    have hid : first.2.workflowId = workflowId :=
      congrArg WorkflowRef.workflowId (hclosed.ref_eq.trans htarget)
    obtain ⟨entry, hentry, hworkflow⟩ : ∃ entry ∈ first.1.accepted,
        entry.1.workflowId = workflowId := by
      rw [hclosed.accepted_eq, resetOf, hstatus]
      exact ⟨_, List.mem_singleton_self _, hid⟩
    have hvisit : first.1 ∈ c.desks.flatMap Desk.visits :=
      List.mem_flatMap.mpr ⟨desk, hdesk, List.mem_append_left _ (List.mem_map_of_mem hmem)⟩
    have hremade (t : Service) (ht : c.state.service.Later t) (htfinal : t.Later c'.state.service) :
        ∃ runId run, Remade t.store workflowId runId run :=
      hworkflow ▸ exists_remade hfresh hnamed hreason hlater hc (logged_of_follow? hrun) hc'
        (logged_of_follow? hrun') hvisit hentry ht htfinal
    have hpassed {entry : Visit × Outcome} (hentry : entry ∈ c'.finished)
        (htarget : entry.1.target = ⟨workflowId, none⟩) :=
      passed_over_of_follow? honly (hlater.fresh hfresh) hrun' hshort hremade hentry htarget
    have hclear := hc'.cleared (by rw [size_workers hrun']; exact hparallelism) hfinal
    refine ⟨hc'.processed_perm hfinal hclear, ?_, ?_⟩
    · intro entry hentry htarget
      obtain ⟨desk, hdesk, hmem⟩ := List.mem_flatMap.mp hentry
      rw [(hc'.lawful.closed hdesk hmem).accepted_eq]
      rcases hpassed hentry htarget with ⟨reason, hskip, -⟩ | ⟨error, hfailed, -⟩
      · simp [resetOf, hskip]
      · simp [resetOf, hfailed]
    · intro outcome houtcome href
      obtain ⟨entry, hentry, rfl, htarget⟩ := hc'.exists_finished hfinal houtcome
      exact hpassed hentry (htarget.trans href)

/-- A plan for deterministic runs only. -/
def strictPlan (reason : String) : Plan :=
  { samplePlan with
    config := { samplePlan.config with
      reason, strategy := .firstWorkflowTask, skipIfOpen := false, nonDeterministicOnly := true } }

/-- A service with one run that ends in a failure of non-determinism. -/
def brokenService : Service :=
  .ofStore ((Store.empty fun _ => sampleId).insertRun
    { sampleRun "pay" with
      history := (sampleRun "pay").history ++ [.taskFailed 4 .workerUnhandledFailure none] })

theorem brokenService_fresh : brokenService.store.Fresh :=
  Store.fresh_insertRun ⟨fun _ _ _ => sampleId_injective, fun _ _ _ => rfl⟩ sampleId_ne_base

theorem sampleId_ne_empty (n : Nat) : sampleId n ≠ "" := by
  intro hid
  have hlists := congrArg String.toList hid
  rw [sampleId, String.toList_ofList] at hlists
  exact absurd hlists (by simp)

/-- One target is given out, and one worker makes that many steps. -/
def rerunSchedule (steps : Nat) : List Actor :=
  List.replicate 3 .producer ++ List.replicate steps (.worker 1) ++ [.worker 0]

/-- A batch with one target, and its next run. -/
def rerun? (reason : String) (steps : Nat) : Option (Chronicle × Chronicle) :=
  ((start (strictPlan reason) brokenService .zero (sampleSource ["pay"]) 0).follow?
    (strictPlan reason) (rerunSchedule 8)).bind fun c =>
  ((start (strictPlan reason) c.state.service .zero (sampleSource ["pay"]) 1).follow?
    (strictPlan reason) (rerunSchedule steps)).map fun c' => (c, c')

theorem rerun_passes_over_sample :
    ∃ c c', rerun? "rollback" 6 = some (c, c') ∧ c'.state.isFinal ∧
      c.finished.map (fun entry => (entry.1.target, entry.2.status)) =
        [(⟨"pay", none⟩, .reset ⟨"base", 3⟩ "#i")] ∧
      c'.targets = [⟨"pay", none⟩] ∧
      (∀ entry ∈ c'.finished, entry.1.target = ⟨"pay", none⟩ → entry.1.accepted = []) ∧
      ∀ outcome ∈ c'.state.processed, outcome.ref = ⟨"pay", none⟩ →
        outcome.status = .skipped .notNonDeterministic := by
  have hends : (rerun? "rollback" 6).map (fun runs =>
      (runs.2.state.isFinal, runs.2.targets, runs.2.state.service.store.volume,
        runs.1.finished.map fun entry => (entry.1.target, entry.2.status))) =
      some (true, [⟨"pay", none⟩], 9, [(⟨"pay", none⟩, .reset ⟨"base", 3⟩ "#i")]) := by
    decide +kernel
  obtain ⟨⟨first, second⟩, hsome, hends⟩ := Option.map_eq_some_iff.mp hends
  simp only [Prod.mk.injEq] at hends
  obtain ⟨hfinal, htargets, hvolume, hfinished⟩ := hends
  obtain ⟨c, hrun, hrest⟩ := Option.bind_eq_some_iff.mp hsome
  obtain ⟨c', hrun', hpair⟩ := Option.map_eq_some_iff.mp hrest
  obtain ⟨rfl, rfl⟩ := Prod.mk.inj hpair
  have hlater := later_of_follow? hrun
  have hshort (runId : String) (run : Run)
      (hrun : c'.state.service.store.runs "pay" runId = some run) :
      run.history.length < UInt64.size := by
    obtain ⟨log, hlog⟩ := (hlater.trans (later_of_follow? hrun')).exists_logs
    have hlength := hlog.bounded ((Store.bounded_empty _).insertRun _) "pay" runId run hrun
    rw [hvolume] at hlength
    exact Nat.lt_of_le_of_lt hlength (by decide)
  have hentry : ∃ entry ∈ c.finished, entry.1.target = ⟨"pay", none⟩ ∧
      ∃ anchor newRunId, entry.2.status = .reset anchor newRunId := by
    obtain ⟨entry, hentry, hstatus⟩ := List.mem_map.mp (hfinished ▸ List.mem_singleton_self _)
    obtain ⟨htarget, hstatus⟩ := Prod.mk.inj hstatus
    exact ⟨entry, hentry, htarget, _, _, hstatus⟩
  obtain ⟨-, hkept, hpassed⟩ := rerun_passes_over.2 (strictPlan "rollback") brokenService .zero .zero
    (sampleSource ["pay"]) (sampleSource ["pay"]) 0 1 (rerunSchedule 8) (rerunSchedule 6) c c' "pay"
    rfl (by decide +kernel) (by decide) brokenService_fresh (fun _ => sampleId_ne_empty) hrun hrun'
    hfinal hshort hentry
  refine ⟨c, c', hsome, hfinal, hfinished, htargets, hkept, fun outcome houtcome href => ?_⟩
  rcases hpassed outcome houtcome href with ⟨reason, hskip, hreason⟩ | ⟨error, -, -, hfaulty⟩
  · rw [hskip]
    exact congrArg _ hreason
  · rcases hfaulty (hlater.missed?_eq) with hnil | hnil
    · exact absurd (hlater.failures_nil rfl) hnil
    · exact absurd (hlater.failures_nil rfl) hnil

/-- A reason that speaks of non-determinism makes a batch reset its own results. -/
theorem rerun_resets_again :
    ∃ c c', rerun? "undo nondeterministic change" 8 = some (c, c') ∧ c.state.isFinal ∧
      c'.state.isFinal ∧
      c.state.outcomes.map Outcome.status = [.reset ⟨"base", 3⟩ "#i"] ∧
      (c.state.service.store.runs "pay" "#i").map (fun run =>
        (NonDeterminismScan.ofEvents run.history).isNonDeterministic) = some true ∧
      c'.state.outcomes.map Outcome.status = [.reset ⟨"#i", 3⟩ "#ii"] := by
  have hends : (rerun? "undo nondeterministic change" 8).map (fun runs =>
      (runs.1.state.isFinal, runs.2.state.isFinal, runs.1.state.outcomes.map Outcome.status,
        (runs.1.state.service.store.runs "pay" "#i").map (fun run =>
          (NonDeterminismScan.ofEvents run.history).isNonDeterministic),
        runs.2.state.outcomes.map Outcome.status)) =
      some (true, true, [.reset ⟨"base", 3⟩ "#i"], some true, [.reset ⟨"#i", 3⟩ "#ii"]) := by
    decide +kernel
  obtain ⟨⟨c, c'⟩, hsome, hends⟩ := Option.map_eq_some_iff.mp hends
  simp only [Prod.mk.injEq] at hends
  exact ⟨c, c', hsome, hends⟩

end Batch.Chronicle

end Rewind
