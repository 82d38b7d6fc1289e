import Rewind.Proofs.Twin

/-!
Programs that rehearse others.

A dry run makes the same calls as the run that it rehearses, up to the point where that one asks for a
reset. There the dry run has ended, and reports the anchor.

Main statements: `Rehearses.next`, and `Plan.process_rehearses`.
-/

namespace Rewind

namespace Program

variable {α β : Type}

/-- A program goes on like another one, until both end with the same value or the first one has ended
with a value that the other one still has to play out. -/
inductive Rehearses (ends : α → Prop) (plays : α → Program α → Prop) : Program α → Program α → Prop
  | done {value : α} : ends value → Rehearses ends plays (.done value) (.done value)
  | played {value : α} {program : Program α} :
      plays value program → Rehearses ends plays (.done value) program
  | look {request : Request} {resume resume' : Except ServiceError request.Response → Program α} :
      request.method ≠ .reset →
      (∀ answer, Rehearses ends plays (resume answer) (resume' answer)) →
      Rehearses ends plays (.call request resume) (.call request resume')
  | pause {resume resume' : Unit → Program α} :
      Rehearses ends plays (resume ()) (resume' ()) →
      Rehearses ends plays (.pause resume) (.pause resume')
  | read {cursor : HistoryCursor} {enough : List Event → Bool}
      {resume resume' : Option ServiceError → HistoryCursor → Program α} :
      (∀ failure cursor, Rehearses ends plays (resume failure cursor) (resume' failure cursor)) →
      Rehearses ends plays (.read cursor enough resume) (.read cursor enough resume')

/-- What the two programs do next. -/
inductive NextRehearses (ends : α → Prop) (plays : α → Program α → Prop) : Next α → Next α → Prop
  | done {value : α} : ends value → NextRehearses ends plays (.done value) (.done value)
  | played {value : α} {program : Program α} :
      plays value program → NextRehearses ends plays (.done value) program.next
  | look {request : Request} {resume resume' : Except ServiceError request.Response → Program α} :
      request.method ≠ .reset →
      (∀ answer, Rehearses ends plays (resume answer) (resume' answer)) →
      NextRehearses ends plays (.ask request resume) (.ask request resume')
  | pause {resume resume' : Program α} :
      Rehearses ends plays resume resume' →
      NextRehearses ends plays (.pause resume) (.pause resume')

namespace Rehearses

variable {ends : α → Prop} {plays : α → Program α → Prop} {program program' : Program α}

theorem next (h : Rehearses ends plays program program') :
    NextRehearses ends plays program.next program'.next := by
  induction h with
  | done hvalue => exact .done hvalue
  | played hplays => exact .played hplays
  | look hmethod hresume => exact .look hmethod hresume
  | pause hresume => exact .pause hresume
  | @read cursor enough resume resume' hresume ih =>
      simp only [Program.next]
      by_cases hsatisfied : isSatisfied cursor enough
      · simpa only [hsatisfied, if_true] using ih none cursor
      · simp only [hsatisfied, Bool.false_eq_true, if_false]
        refine .look (by simp [Request.method]) ?_
        intro answer
        cases answer with
        | error error => exact hresume (some error) cursor
        | ok page => exact .read hresume

theorem bind {ends' : β → Prop} {plays' : β → Program β → Prop} {f f' : α → Program β}
    (h : Rehearses ends plays program program')
    (hends : ∀ value, ends value → Rehearses ends' plays' (f value) (f' value))
    (hplays : ∀ value program, plays value program →
      Rehearses ends' plays' (f value) (program.bind f')) :
    Rehearses ends' plays' (program.bind f) (program'.bind f') := by
  induction h with
  | done hvalue => exact hends _ hvalue
  | played hvalue => exact hplays _ _ hvalue
  | look hmethod _ ih => exact .look hmethod ih
  | pause _ ih => exact .pause ih
  | read _ ih => exact .read ih

end Rehearses

/-- Looks rehearse themselves. -/
theorem rehearses_looks {program program' : Program α}
    (h : Twin Eq (fun _ _ => False) program program') :
    Rehearses (fun _ => True) (fun _ _ => False) program program' := by
  induction h with
  | done heq => exact heq ▸ .done trivial
  | look hmethod _ ih => exact .look hmethod ih
  | reset _ _ hok =>
      obtain ⟨_, _, _, _, himpossible⟩ := hok ⟨""⟩ ⟨""⟩
      exact himpossible.elim
  | pause _ ih => exact .pause ih
  | read _ ih => exact .read ih

theorem Looks.bind_rehearses {procedure : Procedure α} {f f' : α → Procedure β}
    {ends : Except ResetError β → Prop}
    {plays : Except ResetError β → Program (Except ResetError β) → Prop}
    (h : Looks (ExceptT.run procedure)) (herror : ∀ error, ends (.error error))
    (hf : ∀ value, Rehearses ends plays (ExceptT.run (f value)) (ExceptT.run (f' value))) :
    Rehearses ends plays (ExceptT.run (procedure >>= f)) (ExceptT.run (procedure >>= f')) := by
  apply (rehearses_looks h).bind
  · intro result _
    cases result with
    | ok value => exact hf value
    | error error => exact .done (herror error)
  · exact fun _ _ => False.elim

end Program

open Program

namespace Plan

/-- A plan for a dry run, and one for the run that it rehearses. -/
structure Rehearses (plan plan' : Plan) : Prop where
  dry : plan.config.dryRun = true
  config : plan'.config =
    { plan.config with dryRun := false, parallelism := plan'.config.parallelism }
  operator : plan'.operator = plan.operator
  maxAttempts : plan'.settings.retry.maxAttempts = plan.settings.retry.maxAttempts

/-- Neither an anchor was reported nor a reset. -/
def IsPlain (result : Except ResetError OutcomeStatus) : Prop :=
  ∀ anchor, result ≠ .ok (.dryRun anchor) ∧ ∀ newRunId, result ≠ .ok (.reset anchor newRunId)

variable {plan plan' : Plan}

/-- An anchor was reported, and the reset to it is still to be asked for. -/
def Submits (plan' : Plan) (workflowId requestId : String) (result : Except ResetError OutcomeStatus)
    (program : Program (Except ResetError OutcomeStatus)) : Prop :=
  ∃ anchor, result = .ok (.dryRun anchor) ∧
    program = ExceptT.run (plan'.submit workflowId requestId anchor)

theorem submit_rehearses (hplans : plan.Rehearses plan') (workflowId requestId : String)
    (anchor : ResetAnchor) :
    Program.Rehearses IsPlain (plan'.Submits workflowId requestId)
      (ExceptT.run (plan.submit workflowId requestId anchor))
      (ExceptT.run (plan'.submit workflowId requestId anchor)) := by
  have hdry : ExceptT.run (plan.submit workflowId requestId anchor) =
      .done (.ok (.dryRun anchor)) := by
    rw [submit, if_pos hplans.dry]
    rfl
  rw [hdry]
  exact .played ⟨anchor, rfl, rfl⟩

theorem attempt_rehearses (hplans : plan.Rehearses plan') (target : WorkflowRef)
    (requestId : String) :
    Program.Rehearses IsPlain (plan'.Submits target.workflowId requestId)
      (ExceptT.run (plan.attempt .checked target requestId))
      (ExceptT.run (plan'.attempt .checked target requestId)) := by
  have hfilter : plan'.config.safetyFilter = plan.config.safetyFilter := by
    simp only [BatchConfig.safetyFilter]
    rw [hplans.config]
  have hdomain : plan'.config.domain = plan.config.domain := by rw [hplans.config]
  have hstrategy : plan'.config.strategy = plan.config.strategy := by rw [hplans.config]
  have herror (error : ResetError) : IsPlain (.error error) := fun _ => ⟨by simp, by simp⟩
  simp only [attempt, attemptChecked, hfilter, hdomain, hstrategy]
  apply (check_looks _ _ _).bind_rehearses herror
  intro verdict
  cases verdict with
  | skip reason => exact .done fun _ => ⟨by simp, by simp⟩
  | proceed runId =>
      apply (resolve_looks _ _ _ _).bind_rehearses herror
      intro anchor
      exact submit_rehearses hplans _ _ anchor

/-- An anchor was reported at the end of some attempt, and the same attempt is to ask for the reset. An
accepted one ends the work, and so does a failure that will not pass. -/
def Plays (plan' : Plan) (workflowId requestId : String)
    (attempted : Attempted ResetError OutcomeStatus)
    (program : Program (Attempted ResetError OutcomeStatus)) : Prop :=
  ∃ anchor resume, attempted.result = .ok (.dryRun anchor) ∧
    program = .call (.reset (plan'.resetRequest workflowId requestId anchor)) resume ∧
    (∀ response : ResetResponse, resume (.ok response) =
      .done ⟨.ok (.reset anchor response.newRunId), attempted.attempts⟩) ∧
    ∀ error : ServiceError, error.isRetryable = false →
      resume (.error error) = .done ⟨.error (.service error), attempted.attempts⟩

/-- What follows an attempt that has submitted a reset. -/
theorem plays_of_submits (hplans : plan.Rehearses plan') {workflowId requestId : String}
    {anchor : ResetAnchor} {attempt : Nat}
    {f : Except ResetError OutcomeStatus → Program (Attempted ResetError OutcomeStatus)}
    (hok : ∀ status, f (.ok status) = .done ⟨.ok status, attempt⟩)
    (herror : ∀ error : ResetError, error.isRetryable = false →
      f (.error error) = .done ⟨.error error, attempt⟩) :
    plan'.Plays workflowId requestId ⟨.ok (.dryRun anchor), attempt⟩
      ((ExceptT.run (plan'.submit workflowId requestId anchor)).bind f) := by
  have hreal : plan'.config.dryRun = false := by rw [hplans.config]
  refine ⟨anchor, fun answer => Program.bind (match answer with
    | .ok response => .done (.ok (.reset anchor (ResetResponse.newRunId response)))
    | .error error => .done (.error (.service error))) f, rfl, ?_, ?_, ?_⟩
  · simp only [submit, hreal, Bool.false_eq_true, if_false]
    refine congrArg (Program.call _) ?_
    funext answer
    cases answer <;> rfl
  · exact fun response => hok _
  · exact fun error hfinal => herror (.service error) hfinal

theorem attemptFrom_rehearses (hplans : plan.Rehearses plan') (target : WorkflowRef)
    (requestId : String) (attempt spare : Nat) :
    Program.Rehearses (fun attempted => IsPlain attempted.result)
      (plan'.Plays target.workflowId requestId)
      (attemptFrom Program.rest ResetError.isRetryable
        (fun _ => ExceptT.run (plan.attempt .checked target requestId)) attempt spare)
      (attemptFrom Program.rest ResetError.isRetryable
        (fun _ => ExceptT.run (plan'.attempt .checked target requestId)) attempt spare) := by
  induction spare generalizing attempt with
  | zero =>
      apply (attempt_rehearses hplans target requestId).bind
      · exact fun result hplain => .done hplain
      · rintro _ _ ⟨anchor, rfl, rfl⟩
        exact .played (plays_of_submits hplans (fun _ => rfl) fun _ _ => rfl)
  | succ spare ih =>
      apply (attempt_rehearses hplans target requestId).bind
      · intro result hplain
        cases result with
        | ok status => exact .done hplain
        | error error =>
            by_cases hretry : error.isRetryable
            · simp only [hretry, if_true]
              exact .pause (ih (attempt + 1))
            · simp only [hretry, Bool.false_eq_true, if_false]
              exact .done hplain
      · rintro _ _ ⟨anchor, rfl, rfl⟩
        refine .played (plays_of_submits hplans (fun _ => rfl) fun error hfinal => ?_)
        simp only [hfinal, Bool.false_eq_true, if_false]
        rfl

/-- The work on a target in a dry run rehearses the work on it. -/
theorem process_rehearses (hplans : plan.Rehearses plan') (target : WorkflowRef)
    (requestId : String) :
    Program.Rehearses (fun attempted => IsPlain attempted.result)
      (plan'.Plays target.workflowId requestId) (plan.process .checked target requestId)
      (plan'.process .checked target requestId) := by
  have hspare : plan'.settings.retry.spare = plan.settings.retry.spare := by
    rw [RetryPolicy.spare, RetryPolicy.spare, hplans.maxAttempts]
  simp only [process, retrying, hspare]
  exact attemptFrom_rehearses hplans target requestId 1 _

end Plan

end Rewind
