import Rewind.Proofs.Part
import Rewind.Proofs.Process

/-!
Programs that go on alike.

Twins make the same calls as long as they get the same answers, but for the request ids of resets. A
reset that is accepted ends both of them, whatever ids the new runs bear. The work on a target is the
twin of the same work under another request id, in a batch that differs in nothing but the number of
workers, the length of the queue and the times of its pauses.

Main statements: `Twin.next`, and `process_twin`.
-/

namespace Rewind

namespace Program

variable {α β : Type}

/-- Two programs go on alike. They end with values of one relation, and behind accepted resets with
values of another one. -/
inductive Twin (ends accepted : α → α → Prop) : Program α → Program α → Prop
  | done {value value' : α} :
      ends value value' → Twin ends accepted (.done value) (.done value')
  | look {request : Request} {resume resume' : Except ServiceError request.Response → Program α} :
      request.method ≠ .reset → (∀ answer, Twin ends accepted (resume answer) (resume' answer)) →
      Twin ends accepted (.call request resume) (.call request resume')
  | reset {request request' : ResetRequest}
      {resume : Except ServiceError (Request.reset request).Response → Program α}
      {resume' : Except ServiceError (Request.reset request').Response → Program α} :
      request.anonymous = request'.anonymous →
      (∀ error, Twin ends accepted (resume (.error error)) (resume' (.error error))) →
      (∀ response response', ∃ value value', resume (.ok response) = .done value ∧
        resume' (.ok response') = .done value' ∧ accepted value value') →
      Twin ends accepted (.call (.reset request) resume) (.call (.reset request') resume')
  | pause {resume resume' : Unit → Program α} :
      Twin ends accepted (resume ()) (resume' ()) →
      Twin ends accepted (.pause resume) (.pause resume')
  | read {cursor : HistoryCursor} {enough : List Event → Bool}
      {resume resume' : Option ServiceError → HistoryCursor → Program α} :
      (∀ failure cursor, Twin ends accepted (resume failure cursor) (resume' failure cursor)) →
      Twin ends accepted (.read cursor enough resume) (.read cursor enough resume')

/-- What twins do next. -/
inductive NextTwin (ends accepted : α → α → Prop) : Next α → Next α → Prop
  | done {value value' : α} : ends value value' → NextTwin ends accepted (.done value) (.done value')
  | look {request : Request} {resume resume' : Except ServiceError request.Response → Program α} :
      request.method ≠ .reset → (∀ answer, Twin ends accepted (resume answer) (resume' answer)) →
      NextTwin ends accepted (.ask request resume) (.ask request resume')
  | reset {request request' : ResetRequest}
      {resume : Except ServiceError (Request.reset request).Response → Program α}
      {resume' : Except ServiceError (Request.reset request').Response → Program α} :
      request.anonymous = request'.anonymous →
      (∀ error, Twin ends accepted (resume (.error error)) (resume' (.error error))) →
      (∀ response response', ∃ value value', resume (.ok response) = .done value ∧
        resume' (.ok response') = .done value' ∧ accepted value value') →
      NextTwin ends accepted (.ask (.reset request) resume) (.ask (.reset request') resume')
  | pause {resume resume' : Program α} :
      Twin ends accepted resume resume' → NextTwin ends accepted (.pause resume) (.pause resume')

namespace Twin

theorem next {ends accepted : α → α → Prop} {program program' : Program α}
    (h : Twin ends accepted program program') :
    NextTwin ends accepted program.next program'.next := by
  induction h with
  | done hends => exact .done hends
  | look hmethod hresume => exact .look hmethod hresume
  | reset hsame herror hok => exact .reset hsame herror hok
  | pause hresume => exact .pause hresume
  | @read cursor enough resume resume' hresume ih =>
      simp only [Program.next]
      by_cases hsatisfied : isSatisfied cursor enough
      · simpa only [hsatisfied, if_true] using ih none cursor
      · simp only [hsatisfied, Bool.false_eq_true, if_false]
        refine .look (by simp [Request.method]) ?_
        intro answer
        cases answer with
        | error error => exact hresume (some error) cursor
        | ok page => exact .read hresume

theorem bind {ends accepted : α → α → Prop} {ends' accepted' : β → β → Prop}
    {program program' : Program α} {f f' : α → Program β}
    (h : Twin ends accepted program program')
    (hends : ∀ value value', ends value value' → Twin ends' accepted' (f value) (f' value'))
    (haccepted : ∀ value value', accepted value value' → ∃ next next', f value = .done next ∧
      f' value' = .done next' ∧ accepted' next next') :
    Twin ends' accepted' (program.bind f) (program'.bind f') := by
  induction h with
  | done hvalue => exact hends _ _ hvalue
  | look hmethod _ ih => exact .look hmethod ih
  | reset hsame _ hok ih =>
      refine .reset hsame ih ?_
      intro response response'
      obtain ⟨value, value', hresume, hresume', hvalue⟩ := hok response response'
      obtain ⟨next, next', hnext, hnext', hboth⟩ := haccepted value value' hvalue
      refine ⟨next, next', ?_, ?_, hboth⟩
      · rw [hresume]
        exact hnext
      · rw [hresume']
        exact hnext'
  | pause _ ih => exact .pause ih
  | read _ ih => exact .read ih

end Twin

/-- A program that asks for no reset is its own twin. -/
def Looks (program : Program α) : Prop :=
  Twin Eq (fun _ _ => False) program program

theorem Looks.bind_twin {accepted : β → β → Prop} {program : Program α} {f f' : α → Program β}
    (h : Looks program) (hf : ∀ value, Twin Eq accepted (f value) (f' value)) :
    Twin Eq accepted (program.bind f) (program.bind f') := by
  refine Twin.bind h ?_ fun _ _ => False.elim
  rintro value _ rfl
  exact hf value

/-- Going on alike behind a procedure that asks for no reset. A failure is passed on. -/
theorem Looks.exceptBind_twin {accepted : Except ResetError β → Except ResetError β → Prop}
    {procedure : Procedure α} {f f' : α → Procedure β} (h : Looks (ExceptT.run procedure))
    (hf : ∀ value, Twin Eq accepted (ExceptT.run (f value)) (ExceptT.run (f' value))) :
    Twin Eq accepted (ExceptT.run (procedure >>= f)) (ExceptT.run (procedure >>= f')) := by
  apply Looks.bind_twin h
  intro result
  cases result with
  | ok value => exact hf value
  | error error => exact .done rfl

end Program

open Program

namespace Plan

/-! ### Calls that only look -/

theorem describe_looks (request : DescribeRequest) :
    Looks (ExceptT.run (Procedure.describe request)) :=
  .look (by simp [Request.method]) fun _ => .done rfl

theorem readUntil_looks (enough : List Event → Bool) (cursor : HistoryCursor) :
    Looks (ExceptT.run (Procedure.readUntil enough cursor)) :=
  .read fun _ _ => .done rfl

theorem resolve_looks (strategy : Strategy) (domain workflowId runId : String) :
    Looks (ExceptT.run (strategy.resolve domain workflowId runId)) := by
  have hlast (runId : String) : Looks (ExceptT.run (Strategy.lastTask domain workflowId runId)) :=
    (readUntil_looks _ _).exceptBind_twin fun _ => .done rfl
  cases strategy with
  | lastWorkflowTask => exact hlast runId
  | firstWorkflowTask => exact (readUntil_looks _ _).exceptBind_twin fun _ => .done rfl
  | lastContinuedAsNew =>
      apply (readUntil_looks _ _).exceptBind_twin
      intro events
      split
      · exact hlast _
      · exact .done rfl
  | badBinary checksum =>
      apply (describe_looks _).exceptBind_twin
      intro description
      split
      · exact .done rfl
      · exact .done rfl

theorem check_looks (filter : SafetyFilter) (domain : String) (target : WorkflowRef) :
    Looks (ExceptT.run (filter.check domain target)) := by
  apply (describe_looks _).exceptBind_twin
  intro description
  simp only
  split
  · exact .done rfl
  · split
    · exact .done rfl
    · split
      · apply (readUntil_looks _ _).exceptBind_twin
        intro events
        split
        · exact .done rfl
        · exact .done rfl
      · exact .done rfl

/-! ### The whole work -/

/-- Two plans differ in nothing that the work on a target depends on. -/
structure Like (plan plan' : Plan) : Prop where
  config : plan'.config = { plan.config with parallelism := plan'.config.parallelism }
  operator : plan'.operator = plan.operator
  maxAttempts : plan'.settings.retry.maxAttempts = plan.settings.retry.maxAttempts

theorem Like.refl (plan : Plan) : plan.Like plan :=
  ⟨rfl, rfl, rfl⟩

theorem Like.symm {plan plan' : Plan} (h : plan.Like plan') : plan'.Like plan := by
  refine ⟨?_, h.operator.symm, h.maxAttempts.symm⟩
  rw [h.config]

/-- Two results are resets to the same anchor. -/
def BothReset (result result' : Except ResetError OutcomeStatus) : Prop :=
  ∃ anchor newRunId newRunId', result = .ok (.reset anchor newRunId) ∧
    result' = .ok (.reset anchor newRunId')

variable {plan plan' : Plan}

/-- Plans that are alike ask for the same reset to an anchor, but for its id. -/
theorem Like.anonymous_resetRequest (hlike : plan.Like plan')
    (workflowId requestId requestId' : String) (anchor : ResetAnchor) :
    (plan.resetRequest workflowId requestId anchor).anonymous =
      (plan'.resetRequest workflowId requestId' anchor).anonymous := by
  simp only [resetRequest, reason, ResetRequest.anonymous, hlike.operator]
  rw [hlike.config]

theorem submit_twin (hlike : plan.Like plan') (workflowId requestId requestId' : String)
    (anchor : ResetAnchor) :
    Twin Eq BothReset (ExceptT.run (plan.submit workflowId requestId anchor))
      (ExceptT.run (plan'.submit workflowId requestId' anchor)) := by
  have hsame := hlike.anonymous_resetRequest workflowId requestId requestId' anchor
  have hdryRun : plan'.config.dryRun = plan.config.dryRun := by rw [hlike.config]
  simp only [submit, hdryRun]
  split
  · exact .done rfl
  · refine .reset hsame (fun error => .done rfl) ?_
    intro response response'
    exact ⟨_, _, rfl, rfl, anchor, _, _, rfl, rfl⟩

theorem attempt_twin (hlike : plan.Like plan') (target : WorkflowRef)
    (requestId requestId' : String) :
    Twin Eq BothReset (ExceptT.run (plan.attempt .checked target requestId))
      (ExceptT.run (plan'.attempt .checked target requestId')) := by
  have hfilter : plan'.config.safetyFilter = plan.config.safetyFilter := by
    simp only [BatchConfig.safetyFilter]
    rw [hlike.config]
  have hdomain : plan'.config.domain = plan.config.domain := by rw [hlike.config]
  have hstrategy : plan'.config.strategy = plan.config.strategy := by rw [hlike.config]
  simp only [attempt, attemptChecked, hfilter, hdomain, hstrategy]
  apply (check_looks _ _ _).exceptBind_twin
  intro verdict
  cases verdict with
  | skip reason => exact .done rfl
  | proceed runId =>
      apply (resolve_looks _ _ _ _).exceptBind_twin
      intro anchor
      exact submit_twin hlike _ _ _ anchor

/-- Two ends of the work are resets to the same anchor, at the same attempt. -/
def BothAttempted (attempted attempted' : Attempted ResetError OutcomeStatus) : Prop :=
  attempted.attempts = attempted'.attempts ∧ BothReset attempted.result attempted'.result

theorem attemptFrom_twin (hlike : plan.Like plan') (target : WorkflowRef)
    (requestId requestId' : String) (attempt spare : Nat) :
    Twin Eq BothAttempted
      (attemptFrom Program.rest ResetError.isRetryable
        (fun _ => ExceptT.run (plan.attempt .checked target requestId)) attempt spare)
      (attemptFrom Program.rest ResetError.isRetryable
        (fun _ => ExceptT.run (plan'.attempt .checked target requestId')) attempt spare) := by
  induction spare generalizing attempt with
  | zero =>
      apply (attempt_twin hlike target requestId requestId').bind
      · rintro result _ rfl
        exact .done rfl
      · intro result result' hreset
        exact ⟨_, _, rfl, rfl, rfl, hreset⟩
  | succ spare ih =>
      apply (attempt_twin hlike target requestId requestId').bind
      · rintro result _ rfl
        cases result with
        | ok status => exact .done rfl
        | error error =>
            by_cases hretry : error.isRetryable
            · simp only [hretry, if_true]
              exact .pause (ih (attempt + 1))
            · simp only [hretry, Bool.false_eq_true, if_false]
              exact .done rfl
      · rintro _ _ ⟨anchor, newRunId, newRunId', rfl, rfl⟩
        exact ⟨_, _, rfl, rfl, rfl, anchor, newRunId, newRunId', rfl, rfl⟩

/-- The work on a target goes on alike under all request ids. -/
theorem process_twin (hlike : plan.Like plan') (target : WorkflowRef)
    (requestId requestId' : String) :
    Twin Eq BothAttempted (plan.process .checked target requestId)
      (plan'.process .checked target requestId') := by
  have hspare : plan'.settings.retry.spare = plan.settings.retry.spare := by
    rw [RetryPolicy.spare, RetryPolicy.spare, hlike.maxAttempts]
  simp only [process, retrying, hspare]
  exact attemptFrom_twin hlike target requestId requestId' 1 _

end Plan

end Rewind
