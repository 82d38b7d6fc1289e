import Rewind.Batch.Run
import Rewind.Proofs.EmptyRun

/-!
Resets of one target, without safety checks.

A single target with an empty run id is reset like one that names the current run, but the id stays
empty. The service is not even asked which run is the current one.

Main statements: `Unfilled.run`, and `Plan.resetOne_empty_runId`.
-/

namespace Rewind

open Program

variable {workflowId current : String} {elsewhere : Prop} {s t : Service} {α : Type}

namespace Program

/-- The pages of the run of the empty id are those of the current run. -/
theorem fetch_unfilled {cursor : HistoryCursor} {runId' : String} (enough : List Event → Bool)
    (budget : Nat) (hbeside : s.Beside workflowId current t)
    (hworkflow : cursor.workflowId = workflowId)
    (hid : StandsFor current elsewhere cursor.runId runId') :
    ∃ failure pages s' t', fetch enough budget cursor s = (failure, { cursor with pages }, s') ∧
      fetch enough budget { cursor with runId := runId' } t =
        (failure, { cursor with runId := runId', pages }, t') ∧
      s'.Beside workflowId current t' := by
  induction budget generalizing cursor s t with
  | zero => exact ⟨none, cursor.pages, s, t, rfl, rfl, hbeside⟩
  | succ budget ih =>
      have hsame : isSatisfied { cursor with runId := runId' } enough = isSatisfied cursor enough := rfl
      simp only [fetch, hsame]
      by_cases hsatisfied : isSatisfied cursor enough
      · simp only [hsatisfied, if_true]
        exact ⟨none, cursor.pages, s, t, rfl, rfl, hbeside⟩
      · simp only [hsatisfied, Bool.false_eq_true, if_false]
        obtain ⟨answer, hanswer, hanswer', hafter⟩ := hbeside.call_history
          (show cursor.request.workflowId = workflowId from hworkflow) hid
        have hrequest : HistoryCursor.request { cursor with runId := runId' } =
            { cursor.request with runId := runId' } := rfl
        rw [hrequest]
        have hs : s.call (.history cursor.request) =
            (answer, (s.call (.history cursor.request)).2) := Prod.ext hanswer rfl
        have ht : t.call (.history { cursor.request with runId := runId' }) =
            (answer, (t.call (.history { cursor.request with runId := runId' })).2) :=
          Prod.ext hanswer' rfl
        rw [hs, ht]
        cases answer with
        | error error => exact ⟨some error, cursor.pages, _, _, rfl, rfl, hafter⟩
        | ok page => exact ih hafter hworkflow hid

/-- Whatever the services answer, both programs come to the same end but for the id. -/
theorem Unfilled.run {plan : Plan} {requestId : String} {ends accepted : α → α → Prop}
    {program program' : Program α}
    (h : Unfilled plan workflowId requestId current elsewhere ends accepted program program')
    (haccepted : ∀ value value', accepted value value' → ends value value')
    (hbeside : s.Beside workflowId current t) :
    ends (program.run s).1 (program'.run t).1 := by
  induction h generalizing s t with
  | done hvalue => exact hvalue
  | lookup herror hok iherror ihok =>
      obtain ⟨answer, hanswer, hanswer', hcurrent, hafter⟩ := hbeside.call_lookup _
      simp only [Program.run]
      rw [hanswer, hanswer']
      cases answer with
      | error error => exact iherror error hafter
      | ok description => exact ihok description (hcurrent description rfl) hafter
  | describe hid _ ih =>
      obtain ⟨answer, hanswer, hanswer', hafter⟩ := hbeside.call_describe hid _
      simp only [Program.run]
      rw [hanswer, hanswer']
      exact ih answer hafter
  | @reset anchor anchor' resume resume' hanchor _ hok ih =>
      simp only [Program.run]
      rcases hbeside.call_reset plan requestId hanchor with
        ⟨error, error', hfailed, hfailed', hsame, hafter⟩ |
        ⟨response, response', hreset, hreset'⟩
      · rw [hfailed, hfailed']
        exact ih error error' hsame hafter
      · obtain ⟨value, value', hdone, hdone', hended⟩ := hok response response'
        rw [(congrArg resume hreset).trans hdone, (congrArg resume' hreset').trans hdone']
        exact haccepted value value' hended
  | pause _ ih => exact ih hbeside
  | @read cursor runId' enough resume resume' hworkflow hid _ ih =>
      have hbudget : pageBudget t = pageBudget s := by
        rw [pageBudget, pageBudget, hbeside.store]
      obtain ⟨failure, pages, s', t', hs, ht, hafter⟩ :=
        fetch_unfilled enough (pageBudget s) hbeside hworkflow hid
      simp only [Program.run, hbudget, hs, ht]
      exact ih failure pages hafter

end Program

namespace Plan

/-- Only without a run id is the service asked for the current run. -/
theorem attemptDirect_none (plan : Plan) (workflowId requestId : String) (eventId? : Option Int) :
    plan.attempt (.direct eventId?) ⟨workflowId, none⟩ requestId =
      Procedure.describe ⟨plan.config.domain, workflowId, none⟩ >>= fun description =>
        plan.attempt (.direct eventId?) ⟨workflowId, some description.currentRunId⟩ requestId := by
  cases eventId? with
  | none | some eventId =>
      refine congrArg (Program.call _) ?_
      funext answer
      cases answer <;> rfl

/-- One attempt without checks leaves the empty id as it is. -/
theorem attemptDirect_unfilled (plan : Plan) (workflowId requestId current : String)
    (eventId? : Option Int) :
    Unfilled plan workflowId requestId current plan.GoesBack
      (EndsUnfilled workflowId current plan.GoesBack
        (OutcomeStatus.Unfilled workflowId current plan.GoesBack))
      (BothResetUnfilled current plan.GoesBack)
      (ExceptT.run (plan.attempt (.direct eventId?) ⟨workflowId, some ""⟩ requestId))
      (ExceptT.run (plan.attempt (.direct eventId?) ⟨workflowId, some current⟩ requestId)) := by
  cases eventId? with
  | none =>
      apply (resolve_unfilled id plan.config.domain).bind
      intro anchor anchor' hanchor
      exact submit_unfilled hanchor
  | some eventId =>
      have hof : EndsUnfilled workflowId current plan.GoesBack
          (ResetAnchor.Unfilled current plan.GoesBack) (ResetAnchor.of "" eventId)
          (ResetAnchor.of current eventId) := by
        unfold ResetAnchor.of
        split
        · exact .error (.invalidAnchor _)
        · exact .ok ⟨.current, rfl⟩
      have hlook : LooksUnfilled plan workflowId requestId current plan.GoesBack
          (ResetAnchor.Unfilled current plan.GoesBack)
          (ExceptT.mk (pure (ResetAnchor.of "" eventId)))
          (ExceptT.mk (pure (ResetAnchor.of current eventId))) := .done hof
      apply hlook.bind
      intro anchor anchor' hanchor
      exact submit_unfilled hanchor

/-- A target with the empty run id is reset without checks like one that names the current run, at an
event or by the strategy, but the id stays empty. -/
theorem resetOne_empty_runId (plan : Plan) {service : Service}
    (hcurrent : service.store.current workflowId = some current) (metrics : Metrics)
    (eventId? : Option Int) (started : Nat) :
    (plan.resetOne service metrics ⟨workflowId, some ""⟩ eventId? started).1.attempts =
        (plan.resetOne service metrics ⟨workflowId, some current⟩ eventId? started).1.attempts ∧
      OutcomeStatus.Unfilled workflowId current plan.GoesBack
        (plan.resetOne service metrics ⟨workflowId, some ""⟩ eventId? started).1.status
        (plan.resetOne service metrics ⟨workflowId, some current⟩ eventId? started).1.status := by
  have hprocess := attemptFrom_unfilled
    (plan.attemptDirect_unfilled workflowId (plan.requestIds started) current eventId?) 1
    plan.settings.retry.spare
  have hends := hprocess.run (fun _ _ => id) ⟨rfl, rfl, hcurrent⟩
  exact ⟨hends.attempts, hends.status⟩

end Plan

end Rewind
