import Rewind.Batch.Plan
import Rewind.Proofs.Program

/-!
The rules that the work on one target keeps to.

All calls for a target are about its workflow, and none is a scan. Each reset is the one that the
plan asks for at some anchor, under the request id of the target. If open runs are to be skipped, the
workflow's current run was seen closed before. No call follows a reset that was accepted, and the
work then ends with that reset; otherwise it does not end as a reset.

Main statement: `process_obeys`.
-/

namespace Rewind

open Program

/-- What the calls for one target have brought so far. -/
structure Standing where
  /-- Whether the current run of the workflow was seen closed. -/
  sawClosed : Bool
  /-- The reset that was accepted, with the run that it made. -/
  accepted : Option (ResetRequest × String)

namespace Standing

def initial : Standing :=
  ⟨false, none⟩

/-- The standing behind a call. -/
def after (standing : Standing) :
    (request : Request) → Except ServiceError request.Response → Standing
  | .describe request, .ok description =>
      { standing with
        sawClosed :=
          standing.sawClosed || request.runId.isNone && !Description.isOpen description }
  | .reset request, .ok response =>
      { standing with accepted := some (request, ResetResponse.newRunId response) }
  | _, _ => standing

@[simp] theorem after_error (standing : Standing) (request : Request) (error : ServiceError) :
    standing.after request (.error error) = standing := by
  cases request <;> rfl

/-- No reset was accepted, and what was seen was not forgotten. -/
def Keeps (before after : Standing) : Prop :=
  after.accepted = none ∧ (before.sawClosed → after.sawClosed)

theorem Keeps.refl {standing : Standing} (h : standing.accepted = none) :
    standing.Keeps standing :=
  ⟨h, id⟩

theorem Keeps.trans {first second third : Standing} (h : first.Keeps second)
    (h' : second.Keeps third) : first.Keeps third :=
  ⟨h'.1, fun hsaw => h'.2 (h.2 hsaw)⟩

end Standing

namespace Plan

variable (plan : Plan) (workflowId requestId : String)

/-- The calls for a target of this workflow, under this request id. -/
def rules : Rules Standing where
  allows standing request :=
    standing.accepted = none ∧ request.subject = workflowId ∧ request.method ≠ .scan ∧
      ∀ reset, request = .reset reset →
        (∃ anchor, reset = plan.resetRequest workflowId requestId anchor) ∧
          (plan.config.skipIfOpen → standing.sawClosed)
  next := Standing.after

/-- How the work on such a target ends. -/
def Ends (standing : Standing) (result : Except ResetError OutcomeStatus) : Prop :=
  match standing.accepted with
  | none => ∀ status, result = .ok status →
      status ≠ .excluded ∧ ∀ anchor newRunId, status ≠ .reset anchor newRunId
  | some (reset, newRunId) => ∃ anchor,
      reset = plan.resetRequest workflowId requestId anchor ∧
        result = .ok (.reset anchor newRunId)

variable {plan workflowId requestId} {standing : Standing}

/-! ### Calls that only look -/

theorem describe_obeys (hopen : standing.accepted = none) (domain : String)
    (runId : Option String) :
    Obeys (plan.rules workflowId requestId)
      (fun after result => standing.Keeps after ∧
        (runId = none → ∀ description, result = .ok description →
          description.isOpen ∨ after.sawClosed))
      standing (ExceptT.run (Procedure.describe ⟨domain, workflowId, runId⟩)) := by
  refine .call ⟨hopen, rfl, by simp [Request.method], by simp⟩ ?_
  intro answer
  cases answer with
  | error error =>
      refine .done ⟨.refl hopen, ?_⟩
      exact fun _ description hfailed => absurd hfailed (mapError_ne_ok error description)
  | ok description =>
      refine .done ⟨⟨hopen, ?_⟩, ?_⟩
      · intro hsaw
        simp [rules, Standing.after, hsaw]
      · intro hcurrent described hdescribed
        obtain rfl : description = described := Except.ok.inj hdescribed
        by_cases hisOpen : Description.isOpen description
        · exact .inl hisOpen
        · exact .inr (by simp [rules, Standing.after, hcurrent, hisOpen])

theorem readUntil_obeys (hopen : standing.accepted = none) (enough : List Event → Bool)
    (cursor : HistoryCursor) (hcursor : cursor.workflowId = workflowId) :
    Obeys (plan.rules workflowId requestId) (fun after _ => standing.Keeps after) standing
      (ExceptT.run (Procedure.readUntil enough cursor)) := by
  refine .read ?_ ?_ ?_ ?_
  · intro token
    exact ⟨hopen, hcursor, by simp [pageRequest, Request.method], by simp [pageRequest]⟩
  · intro token page
    rfl
  · intro cursor
    exact .done (.refl hopen)
  · intro token error cursor'
    exact .done (.refl hopen)

theorem readAll_obeys (hopen : standing.accepted = none) (domain runId : String) :
    Obeys (plan.rules workflowId requestId) (fun after _ => standing.Keeps after) standing
      (ExceptT.run (Procedure.readAll (.start domain workflowId runId))) :=
  readUntil_obeys hopen _ _ rfl

/-- Looking on behind calls that only look. -/
theorem look_bind {α β : Type} {procedure : Procedure α} {f : α → Procedure β}
    (h : Obeys (plan.rules workflowId requestId) (fun after _ => standing.Keeps after) standing
      (ExceptT.run procedure))
    (hf : ∀ after value, standing.Keeps after →
      Obeys (plan.rules workflowId requestId) (fun last _ => after.Keeps last) after
        (ExceptT.run (f value))) :
    Obeys (plan.rules workflowId requestId) (fun after _ => standing.Keeps after) standing
      (ExceptT.run (procedure >>= f)) := by
  refine h.exceptBind ?_ fun _ _ hkeeps => hkeeps
  intro after value hkeeps
  exact (hf after value hkeeps).mono fun _ _ hlast => hkeeps.trans hlast

/-- Ending without a call. -/
theorem pure_obeys {α : Type} (hopen : standing.accepted = none) (result : Except ResetError α) :
    Obeys (plan.rules workflowId requestId) (fun after _ => standing.Keeps after) standing
      (ExceptT.run (ExceptT.mk (pure result) : Procedure α)) :=
  .done (.refl hopen)

theorem resolve_obeys (hopen : standing.accepted = none) (strategy : Strategy)
    (domain runId : String) :
    Obeys (plan.rules workflowId requestId) (fun after _ => standing.Keeps after) standing
      (ExceptT.run (strategy.resolve domain workflowId runId)) := by
  have hlast (standing : Standing) (hopen : standing.accepted = none) (runId : String) :
      Obeys (plan.rules workflowId requestId) (fun after _ => standing.Keeps after) standing
        (ExceptT.run (Strategy.lastTask domain workflowId runId)) :=
    look_bind (readAll_obeys hopen domain runId) fun _ _ hkeeps => pure_obeys hkeeps.1 _
  cases strategy with
  | lastWorkflowTask => exact hlast standing hopen runId
  | firstWorkflowTask =>
      exact look_bind (readUntil_obeys hopen _ _ rfl) fun _ _ hkeeps => pure_obeys hkeeps.1 _
  | lastContinuedAsNew =>
      refine look_bind (readUntil_obeys hopen _ _ rfl) ?_
      intro after events hkeeps
      split
      · exact hlast after hkeeps.1 _
      · exact pure_obeys hkeeps.1 _
  | badBinary checksum =>
      apply look_bind ((describe_obeys hopen domain _).mono fun _ _ hends => hends.1)
      intro after description hkeeps
      split
      · exact pure_obeys hkeeps.1 _
      · exact pure_obeys hkeeps.1 _

/-- A target passes the checks only if its workflow's current run was seen closed, where that is
asked for. -/
theorem check_obeys (hopen : standing.accepted = none) (domain : String) (target : WorkflowRef) :
    Obeys (plan.rules target.workflowId requestId)
      (fun after result => standing.Keeps after ∧
        ∀ runId, result = .ok (.proceed runId) → plan.config.skipIfOpen → after.sawClosed)
      standing (ExceptT.run (plan.config.safetyFilter.check domain target)) := by
  apply (describe_obeys hopen domain none).exceptBind
  · intro after description hends
    obtain ⟨hkeeps, hseen⟩ := hends
    have hclosed := hseen rfl description rfl
    by_cases hbase : plan.config.safetyFilter.skipIfBaseNotCurrent &&
        target.runIdOrEmpty ≠ description.currentRunId
    · simp only [hbase, ↓reduceIte]
      exact .done ⟨hkeeps, by simp⟩
    · simp only [hbase, Bool.false_eq_true, ↓reduceIte]
      by_cases hskip : plan.config.safetyFilter.skipIfOpen && description.isOpen
      · simp only [hskip, ↓reduceIte]
        exact .done ⟨hkeeps, by simp⟩
      · simp only [hskip, Bool.false_eq_true, ↓reduceIte]
        have hsaw : plan.config.skipIfOpen → after.sawClosed := by
          intro hflag
          have hnotOpen : description.isOpen = false := by
            simpa [BatchConfig.safetyFilter, hflag] using hskip
          simpa [hnotOpen] using hclosed
        split
        · apply (readAll_obeys hkeeps.1 domain _).exceptBind
          · intro last events hlast
            split
            · exact .done ⟨hkeeps.trans hlast, fun _ _ hflag => hlast.2 (hsaw hflag)⟩
            · exact .done ⟨hkeeps.trans hlast, by simp⟩
          · intro last error hlast
            exact ⟨hkeeps.trans hlast, by simp⟩
        · exact .done ⟨hkeeps, fun _ _ hflag => hsaw hflag⟩
  · intro after error hends
    exact ⟨hends.1, by simp⟩

/-! ### The whole work -/

theorem submit_obeys (hopen : standing.accepted = none)
    (hsaw : plan.config.skipIfOpen → standing.sawClosed) (anchor : ResetAnchor) :
    Obeys (plan.rules workflowId requestId) (plan.Ends workflowId requestId) standing
      (ExceptT.run (plan.submit workflowId requestId anchor)) := by
  unfold submit
  split
  · refine .done ?_
    rw [Ends, hopen]
    rintro status hstatus
    obtain rfl : OutcomeStatus.dryRun anchor = status := Except.ok.inj hstatus
    simp
  · refine .call ⟨hopen, rfl, by simp [Request.method], ?_⟩ ?_
    · intro reset hreset
      exact ⟨⟨anchor, (Request.reset.inj hreset).symm⟩, hsaw⟩
    · intro answer
      cases answer with
      | error error =>
          refine .done ?_
          simp [rules, Ends, hopen]
      | ok response => exact .done ⟨anchor, rfl, rfl⟩

theorem attempt_obeys (hopen : standing.accepted = none) (target : WorkflowRef) :
    Obeys (plan.rules target.workflowId requestId) (plan.Ends target.workflowId requestId) standing
      (ExceptT.run (plan.attempt .checked target requestId)) := by
  have hfailed (after : Standing) (error : ResetError) (hkeeps : standing.Keeps after) :
      plan.Ends target.workflowId requestId after (.error error) := by
    simp [Ends, hkeeps.1]
  apply (check_obeys hopen plan.config.domain target).exceptBind
  · intro after verdict hends
    obtain ⟨hkeeps, hsaw⟩ := hends
    cases verdict with
    | skip reason =>
        refine .done ?_
        rw [Ends, hkeeps.1]
        rintro status hstatus
        obtain rfl : OutcomeStatus.skipped reason = status := Except.ok.inj hstatus
        simp
    | proceed runId =>
        refine (resolve_obeys hkeeps.1 plan.config.strategy plan.config.domain runId).exceptBind
          ?_ ?_
        · intro last anchor hlast
          exact submit_obeys hlast.1 (fun hflag => hlast.2 (hsaw runId rfl hflag)) anchor
        · intro last error hlast
          exact hfailed last error (hkeeps.trans hlast)
  · intro after error hends
    exact hfailed after error hends.1

/-- Attempts that keep to the rules one by one keep to them together. -/
theorem attemptFrom_obeys {operation : Program (Except ResetError OutcomeStatus)}
    (hoperation : ∀ standing : Standing, standing.accepted = none →
      Obeys (plan.rules workflowId requestId) (plan.Ends workflowId requestId) standing operation)
    (hopen : standing.accepted = none) (attempt spare : Nat) :
    Obeys (plan.rules workflowId requestId)
      (fun after attempted => plan.Ends workflowId requestId after attempted.result) standing
      (attemptFrom Program.rest ResetError.isRetryable (fun _ => operation) attempt spare) := by
  induction spare generalizing attempt standing with
  | zero => exact (hoperation standing hopen).bind fun after result hends => .done hends
  | succ spare ih =>
      apply (hoperation standing hopen).bind
      intro after result hends
      cases result with
      | ok status => exact .done hends
      | error error =>
          -- A failed attempt had no reset accepted, so the next one starts like the first.
          have hstill : after.accepted = none := by
            cases haccepted : after.accepted with
            | none => rfl
            | some entry => simp [Ends, haccepted] at hends
          by_cases hretry : error.isRetryable
          · simp only [hretry, ↓reduceIte]
            exact .pause (ih hstill (attempt + 1))
          · simp only [hretry, Bool.false_eq_true, ↓reduceIte]
            exact .done hends

/-- The work on a target keeps to the rules. -/
theorem process_obeys (plan : Plan) (target : WorkflowRef) (requestId : String) :
    Obeys (plan.rules target.workflowId requestId)
      (fun after attempted => plan.Ends target.workflowId requestId after attempted.result) .initial
      (plan.process .checked target requestId) :=
  attemptFrom_obeys (fun _ hopen => attempt_obeys hopen target) rfl 1 plan.settings.retry.spare

end Plan

end Rewind
