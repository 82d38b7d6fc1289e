import Rewind.Proofs.Part
import Rewind.Proofs.Process

/-!
Targets whose run id is empty.

A service takes an empty run id for the current run. The work on a target does not fill such an id
in: it goes on with the empty id where the work on the same target without a run id goes on with the
current one. The two make the same calls but for that id, are answered alike, and so come to the same
end but for it.

Main statements: `Beside.call_describe`, `Beside.call_history` and `Beside.call_reset` for calls with
the one id and the other, `Unfilled.next`, and `Plan.process_unfilled`.
-/

namespace Rewind

/-- An empty run id, beside the current one that it stands for. The id of a run elsewhere stands for
itself. -/
inductive StandsFor (current : String) (elsewhere : Prop) : String → String → Prop
  | current : StandsFor current elsewhere "" current
  | elsewhere {runId : String} :
      elsewhere → runId ≠ "" → StandsFor current elsewhere runId runId

/-- How the service refuses a reset to an event that is not there. -/
def Store.noEvent (workflowId runId : String) (eventId : Int) : ServiceError :=
  ⟨.invalidArgument, s!"event {Decimal.signedText eventId} does not exist in {workflowId}/{runId}"⟩

section

variable (workflowId current : String) (elsewhere : Prop)

/-- Anchors at one event, the first of them with the empty id. -/
structure ResetAnchor.Unfilled (anchor anchor' : ResetAnchor) : Prop where
  runId : StandsFor current elsewhere anchor.runId anchor'.runId
  eventId : anchor.eventId = anchor'.eventId

/-- The same error, but for the id of the run that it names. -/
inductive ResetError.Unfilled : ResetError → ResetError → Prop
  | service (cause : ServiceError) : Unfilled (.service cause) (.service cause)
  | invalidAnchor (eventId : Int) : Unfilled (.invalidAnchor eventId) (.invalidAnchor eventId)
  | noTaskFound {runId runId' : String} : StandsFor current elsewhere runId runId' →
      Unfilled (.noTaskFound workflowId runId) (.noTaskFound workflowId runId')
  | notContinued {runId runId' : String} : StandsFor current elsewhere runId runId' →
      Unfilled (.notContinued workflowId runId) (.notContinued workflowId runId')
  | noResetPoint {runId runId' : String} : StandsFor current elsewhere runId runId' →
      Unfilled (.noResetPoint workflowId runId) (.noResetPoint workflowId runId')
  | historyFetch {runId runId' : String} (cause : ServiceError) :
      StandsFor current elsewhere runId runId' →
      Unfilled (.historyFetch workflowId runId cause) (.historyFetch workflowId runId' cause)
  | noEvent {runId runId' : String} (eventId : Int) : StandsFor current elsewhere runId runId' →
      Unfilled (.service (Store.noEvent workflowId runId eventId))
        (.service (Store.noEvent workflowId runId' eventId))

/-- The same status, but for the id of the run that it names, and for the id of a new run. -/
inductive OutcomeStatus.Unfilled : OutcomeStatus → OutcomeStatus → Prop
  | reset {anchor anchor' : ResetAnchor} (newRunId newRunId' : String) :
      anchor.Unfilled current elsewhere anchor' →
      Unfilled (.reset anchor newRunId) (.reset anchor' newRunId')
  | dryRun {anchor anchor' : ResetAnchor} :
      anchor.Unfilled current elsewhere anchor' → Unfilled (.dryRun anchor) (.dryRun anchor')
  | skipped (reason : SkipReason) : Unfilled (.skipped reason) (.skipped reason)
  | failed {error error' : ResetError} : error.Unfilled workflowId current elsewhere error' →
      Unfilled (.failed error.text) (.failed error'.text)

/-- Results that are both values of a relation, or both errors that differ in a run id only. -/
inductive EndsUnfilled {α β : Type} (values : α → β → Prop) :
    Except ResetError α → Except ResetError β → Prop
  | ok {value : α} {value' : β} : values value value' → EndsUnfilled values (.ok value) (.ok value')
  | error {error error' : ResetError} : error.Unfilled workflowId current elsewhere error' →
      EndsUnfilled values (.error error) (.error error')

end

variable {workflowId current : String} {elsewhere : Prop}

theorem ResetError.Unfilled.isRetryable_eq {error error' : ResetError}
    (h : error.Unfilled workflowId current elsewhere error') :
    error.isRetryable = error'.isRetryable := by
  cases h <;> rfl

/-- Verdicts on a target with the empty id and on one without an id. -/
inductive Verdict.Unfilled (current : String) : Verdict → Verdict → Prop
  | proceed : Unfilled current (.proceed "") (.proceed current)
  | skip (reason : SkipReason) : Unfilled current (.skip reason) (.skip reason)

/-! ### Calls -/

namespace Store

variable {s : Store} {runId runId' : String}

/-- The store looks up the same run. -/
theorem resolve_standsFor (hcurrent : s.current workflowId = some current)
    (h : StandsFor current elsewhere runId runId') :
    s.resolve workflowId (some runId) = s.resolve workflowId (some runId') := by
  cases h with
  | elsewhere _ _ => rfl
  | current =>
      by_cases hempty : current = ""
      · rw [hempty]
      · simp [resolve, Option.filter, hempty, currentRun?, hcurrent, Except.bind]

/-- A reset keeps the same events, or is refused with the same words but for the run id. -/
theorem keptEvents_standsFor {request : ResetRequest}
    (hcurrent : s.current request.workflowId = some current)
    (h : StandsFor current elsewhere request.runId runId') :
    (∃ error error', s.keptEvents request = .error error ∧
      s.keptEvents { request with runId := runId' } = .error error' ∧
      ResetError.Unfilled request.workflowId current elsewhere (.service error) (.service error')) ∨
    ∃ kept, s.keptEvents request = .ok kept ∧
      s.keptEvents { request with runId := runId' } = .ok kept := by
  simp only [keptEvents, ← resolve_standsFor hcurrent h]
  cases s.resolve request.workflowId (some request.runId) with
  | error error => exact .inl ⟨error, error, rfl, rfl, .service _⟩
  | ok run =>
      simp only [Except.bind]
      cases historyThrough? request.eventId run.history with
      | none => exact .inl ⟨_, _, rfl, rfl, .noEvent request.eventId h⟩
      | some kept => exact .inr ⟨kept, rfl, rfl⟩

/-- A reset fails with the same words but for the run id, and then leaves the store alike, or is
accepted. -/
theorem call_reset_standsFor {request : ResetRequest}
    (hcurrent : s.current request.workflowId = some current)
    (h : StandsFor current elsewhere request.runId runId') :
    (∃ error error', (s.call (.reset request)).1 = .error error ∧
      (s.call (.reset { request with runId := runId' })).1 = .error error' ∧
      ResetError.Unfilled request.workflowId current elsewhere (.service error) (.service error') ∧
      (s.call (.reset request)).2 = (s.call (.reset { request with runId := runId' })).2) ∨
    ∃ response response', (s.call (.reset request)).1 = .ok response ∧
      (s.call (.reset { request with runId := runId' })).1 = .ok response' := by
  simp only [call, Request.method, Request.subject]
  cases s.failures .reset request.workflowId with
  | cons error later => exact .inl ⟨error, error, rfl, rfl, .service _, rfl⟩
  | nil =>
      have hcount : (s.count .reset).current request.workflowId = some current := hcurrent
      simp only [serve, reset_eq]
      rcases keptEvents_standsFor hcount h with ⟨error, error', hkept, hkept', herror⟩ |
        ⟨kept, hkept, hkept'⟩
      · rw [hkept, hkept']
        exact .inl ⟨error, error', rfl, rfl, herror, rfl⟩
      · rw [hkept, hkept']
        exact .inr ⟨_, _, rfl, rfl⟩

end Store

namespace Service

variable {s t : Service} {runId runId' : String}

/-- Two services before one store, in which this is the current run of the workflow. -/
structure Beside (workflowId current : String) (s t : Service) : Prop where
  missed : s.missed? = t.missed?
  store : s.store = t.store
  current : s.store.current workflowId = some current

namespace Beside

/-- Calls that reach the store alike leave it alike, and the current run stays if no reset is
accepted. -/
theorem after (h : s.Beside workflowId current t) {request request' : Request}
    (hmethod : request.method = request'.method)
    (hstore : (s.store.call request).2 = (s.store.call request').2)
    (hnone : request.accepted? (s.call request).1 = none) :
    (s.call request).2.Beside workflowId current (t.call request').2 := by
  refine ⟨h.missed, ?_, ?_⟩
  · rcases call_both h.missed hmethod with ⟨⟨-, hs⟩, -, ht⟩ | ⟨error, ⟨-, hs⟩, -, ht⟩
    · rw [hs, ht, ← h.store, hstore]
    · rw [hs, ht, h.store]
  · have hstep := s.call_step request
    rw [hnone] at hstep
    rw [(Store.Logs.start.step hstep).current_eq (by simp), h.current]

/-- Any look is answered alike. -/
theorem call_look (h : s.Beside workflowId current t) {request : Request}
    (hreset : request.method ≠ .reset) :
    (s.call request).1 = (t.call request).1 ∧
      (s.call request).2.Beside workflowId current (t.call request).2 := by
  refine ⟨?_, h.after rfl rfl (Request.accepted?_look hreset _)⟩
  rcases call_both h.missed (rfl : request.method = request.method) with
    ⟨⟨hs, -⟩, ht, -⟩ | ⟨error, ⟨hs, -⟩, ht, -⟩
  · rw [hs, ht, h.store]
  · rw [hs, ht]

/-- A look that names no run tells the current one. -/
theorem call_lookup (h : s.Beside workflowId current t) (domain : String) :
    ∃ answer : Except ServiceError Description,
      (s.call (.describe ⟨domain, workflowId, none⟩)).1 = answer ∧
      (t.call (.describe ⟨domain, workflowId, none⟩)).1 = answer ∧
      (∀ description, answer = .ok description → description.currentRunId = current) ∧
      (s.call (.describe ⟨domain, workflowId, none⟩)).2.Beside workflowId current
        (t.call (.describe ⟨domain, workflowId, none⟩)).2 := by
  have hlook : (Request.describe ⟨domain, workflowId, none⟩).method ≠ .reset := by
    simp [Request.method]
  obtain ⟨hanswer, hafter⟩ := h.call_look hlook
  refine ⟨_, rfl, hanswer.symm, ?_, hafter⟩
  intro description hok
  have hserved : (s.store.count .describe).describe ⟨domain, workflowId, none⟩ = .ok description :=
    served_of_ok hok
  have hcurrent : (s.store.count .describe).currentRun? workflowId = .ok current := by
    have hstore : (s.store.count .describe).current workflowId = some current := h.current
    rw [Store.currentRun?, hstore]
  simp only [Store.describe, hcurrent, Except.bind] at hserved
  cases hrun : (s.store.count .describe).resolve workflowId none with
  | error error =>
      rw [hrun] at hserved
      exact absurd hserved (by simp [Except.map])
  | ok run =>
      rw [hrun] at hserved
      obtain rfl := Except.ok.inj hserved
      rfl

/-- A look at the run of the empty id is answered like the one at the current run. -/
theorem call_describe (h : s.Beside workflowId current t)
    (hid : StandsFor current elsewhere runId runId') (domain : String) :
    ∃ answer : Except ServiceError Description,
      (s.call (.describe ⟨domain, workflowId, some runId⟩)).1 = answer ∧
      (t.call (.describe ⟨domain, workflowId, some runId'⟩)).1 = answer ∧
      (s.call (.describe ⟨domain, workflowId, some runId⟩)).2.Beside workflowId current
        (t.call (.describe ⟨domain, workflowId, some runId'⟩)).2 := by
  have hmethod : (Request.describe ⟨domain, workflowId, some runId⟩).method =
      (Request.describe ⟨domain, workflowId, some runId'⟩).method := rfl
  have hcall : s.store.call (.describe ⟨domain, workflowId, some runId⟩) =
      s.store.call (.describe ⟨domain, workflowId, some runId'⟩) := by
    have hresolve : (s.store.count .describe).resolve workflowId (some runId) =
        (s.store.count .describe).resolve workflowId (some runId') :=
      Store.resolve_standsFor h.current hid
    simp only [Store.call, Request.method, Request.subject, Store.serve, Store.describe, hresolve]
    rfl
  have hafter := h.after hmethod (congrArg Prod.snd hcall)
    (Request.accepted?_look (by simp [Request.method]) _)
  rcases call_both h.missed hmethod with ⟨⟨hs, -⟩, ht, -⟩ | ⟨error, ⟨hs, -⟩, ht, -⟩
  · rw [← h.store] at ht
    exact ⟨_, hs.trans (congrArg Prod.fst hcall), ht, hafter⟩
  · exact ⟨.error error, hs, ht, hafter⟩

/-- A page of the run of the empty id is the one of the current run. -/
theorem call_history (h : s.Beside workflowId current t) {request : HistoryRequest}
    (hworkflow : request.workflowId = workflowId)
    (hid : StandsFor current elsewhere request.runId runId') :
    ∃ answer : Except ServiceError (Page Event), (s.call (.history request)).1 = answer ∧
      (t.call (.history { request with runId := runId' })).1 = answer ∧
      (s.call (.history request)).2.Beside workflowId current
        (t.call (.history { request with runId := runId' })).2 := by
  subst hworkflow
  have hmethod : (Request.history request).method =
      (Request.history { request with runId := runId' }).method := rfl
  have hcall : s.store.call (.history request) =
      s.store.call (.history { request with runId := runId' }) := by
    have hresolve : (s.store.count .getHistory).resolve request.workflowId (some request.runId) =
        (s.store.count .getHistory).resolve request.workflowId (some runId') :=
      Store.resolve_standsFor h.current hid
    simp only [Store.call, Request.method, Request.subject, Store.serve, Store.historyPage, hresolve]
    rfl
  have hafter := h.after hmethod (congrArg Prod.snd hcall)
    (Request.accepted?_look (by simp [Request.method]) _)
  rcases call_both h.missed hmethod with ⟨⟨hs, -⟩, ht, -⟩ | ⟨error, ⟨hs, -⟩, ht, -⟩
  · rw [← h.store] at ht
    exact ⟨_, hs.trans (congrArg Prod.fst hcall), ht, hafter⟩
  · exact ⟨.error error, hs, ht, hafter⟩

/-- A reset to the run of the empty id is accepted or refused like the one to the current run. -/
theorem call_reset (h : s.Beside workflowId current t) (plan : Plan) (requestId : String)
    {anchor anchor' : ResetAnchor} (hanchor : anchor.Unfilled current elsewhere anchor') :
    (∃ error error',
      (s.call (.reset (plan.resetRequest workflowId requestId anchor))).1 = .error error ∧
      (t.call (.reset (plan.resetRequest workflowId requestId anchor'))).1 = .error error' ∧
      ResetError.Unfilled workflowId current elsewhere (.service error) (.service error') ∧
      (s.call (.reset (plan.resetRequest workflowId requestId anchor))).2.Beside workflowId current
        (t.call (.reset (plan.resetRequest workflowId requestId anchor'))).2) ∨
    ∃ response response',
      (s.call (.reset (plan.resetRequest workflowId requestId anchor))).1 = .ok response ∧
      (t.call (.reset (plan.resetRequest workflowId requestId anchor'))).1 = .ok response' := by
  obtain ⟨runId, eventId⟩ := anchor
  obtain ⟨runId', eventId'⟩ := anchor'
  obtain ⟨hid, rfl⟩ : StandsFor current elsewhere runId runId' ∧ eventId = eventId' :=
    ⟨hanchor.runId, hanchor.eventId⟩
  have hmethod : (Request.reset (plan.resetRequest workflowId requestId ⟨runId, eventId⟩)).method =
      (Request.reset (plan.resetRequest workflowId requestId ⟨runId', eventId⟩)).method := rfl
  have hcurrent : s.store.current
      (plan.resetRequest workflowId requestId ⟨runId, eventId⟩).workflowId = some current := h.current
  rcases call_both h.missed hmethod with ⟨⟨hs, hs'⟩, ht, ht'⟩ | ⟨error, ⟨hs, hs'⟩, ht, ht'⟩
  · rw [← h.store] at ht
    rcases Store.call_reset_standsFor hcurrent hid with
      ⟨error, error', hfailed, hfailed', herror, hstore⟩ | ⟨response, response', hok, hok'⟩
    · refine .inl ⟨error, error', hs.trans hfailed, ht.trans hfailed', herror,
        h.after hmethod hstore ?_⟩
      rw [hs.trans hfailed]
      rfl
    · exact .inr ⟨response, response', hs.trans hok, ht.trans hok'⟩
  · refine .inl ⟨error, error, hs, ht, .service _, h.missed, ?_, ?_⟩
    · rw [hs', ht', h.store]
    · rw [hs', h.current]

end Beside

end Service

/-! ### Programs -/

namespace Program

variable {α β : Type}

section

variable (plan : Plan) (workflowId requestId current : String) (elsewhere : Prop)
  (ends accepted : α → α → Prop)

/-- Two programs make the same calls about a workflow, the first of them with the empty run id for the
current one. They end with values of one relation, and behind accepted resets with values of another
one. -/
inductive Unfilled : Program α → Program α → Prop
  | done {value value' : α} : ends value value' → Unfilled (.done value) (.done value')
  | lookup {domain : String} {resume resume' : Except ServiceError Description → Program α} :
      (∀ error, Unfilled (resume (.error error)) (resume' (.error error))) →
      (∀ description, description.currentRunId = current →
        Unfilled (resume (.ok description)) (resume' (.ok description))) →
      Unfilled (.call (.describe ⟨domain, workflowId, none⟩) resume)
        (.call (.describe ⟨domain, workflowId, none⟩) resume')
  | describe {domain runId runId' : String}
      {resume resume' : Except ServiceError Description → Program α} :
      StandsFor current elsewhere runId runId' →
      (∀ answer, Unfilled (resume answer) (resume' answer)) →
      Unfilled (.call (.describe ⟨domain, workflowId, some runId⟩) resume)
        (.call (.describe ⟨domain, workflowId, some runId'⟩) resume')
  | reset {anchor anchor' : ResetAnchor}
      {resume resume' : Except ServiceError ResetResponse → Program α} :
      anchor.Unfilled current elsewhere anchor' →
      (∀ error error', ResetError.Unfilled workflowId current elsewhere (.service error)
        (.service error') → Unfilled (resume (.error error)) (resume' (.error error'))) →
      (∀ response response', ∃ value value', resume (.ok response) = .done value ∧
        resume' (.ok response') = .done value' ∧ accepted value value') →
      Unfilled (.call (.reset (plan.resetRequest workflowId requestId anchor)) resume)
        (.call (.reset (plan.resetRequest workflowId requestId anchor')) resume')
  | pause {resume resume' : Unit → Program α} :
      Unfilled (resume ()) (resume' ()) → Unfilled (.pause resume) (.pause resume')
  | read {cursor : HistoryCursor} {runId' : String} {enough : List Event → Bool}
      {resume resume' : Option ServiceError → HistoryCursor → Program α} :
      cursor.workflowId = workflowId → StandsFor current elsewhere cursor.runId runId' →
      (∀ failure pages, Unfilled (resume failure { cursor with pages })
        (resume' failure { cursor with runId := runId', pages })) →
      Unfilled (.read cursor enough resume) (.read { cursor with runId := runId' } enough resume')

/-- What two programs do next that go on with programs of a relation. -/
inductive NextUnfilled (goes : Program α → Program α → Prop) : Next α → Next α → Prop
  | done {value value' : α} : ends value value' → NextUnfilled goes (.done value) (.done value')
  | lookup {domain : String} {resume resume' : Except ServiceError Description → Program α} :
      (∀ error, goes (resume (.error error)) (resume' (.error error))) →
      (∀ description, description.currentRunId = current →
        goes (resume (.ok description)) (resume' (.ok description))) →
      NextUnfilled goes (.ask (.describe ⟨domain, workflowId, none⟩) resume)
        (.ask (.describe ⟨domain, workflowId, none⟩) resume')
  | describe {domain runId runId' : String}
      {resume resume' : Except ServiceError Description → Program α} :
      StandsFor current elsewhere runId runId' → (∀ answer, goes (resume answer) (resume' answer)) →
      NextUnfilled goes (.ask (.describe ⟨domain, workflowId, some runId⟩) resume)
        (.ask (.describe ⟨domain, workflowId, some runId'⟩) resume')
  | page {request : HistoryRequest} {runId' : String}
      {resume resume' : Except ServiceError (Page Event) → Program α} :
      request.workflowId = workflowId → StandsFor current elsewhere request.runId runId' →
      (∀ answer, goes (resume answer) (resume' answer)) →
      NextUnfilled goes (.ask (.history request) resume)
        (.ask (.history { request with runId := runId' }) resume')
  | reset {anchor anchor' : ResetAnchor}
      {resume resume' : Except ServiceError ResetResponse → Program α} :
      anchor.Unfilled current elsewhere anchor' →
      (∀ error error', ResetError.Unfilled workflowId current elsewhere (.service error)
        (.service error') → goes (resume (.error error)) (resume' (.error error'))) →
      (∀ response response', ∃ value value', resume (.ok response) = .done value ∧
        resume' (.ok response') = .done value' ∧ accepted value value') →
      NextUnfilled goes (.ask (.reset (plan.resetRequest workflowId requestId anchor)) resume)
        (.ask (.reset (plan.resetRequest workflowId requestId anchor')) resume')
  | pause {resume resume' : Program α} :
      goes resume resume' → NextUnfilled goes (.pause resume) (.pause resume')

end

namespace Unfilled

variable {plan : Plan} {requestId : String} {ends accepted : α → α → Prop}
  {program program' : Program α}

theorem next (h : Unfilled plan workflowId requestId current elsewhere ends accepted program program') :
    NextUnfilled plan workflowId requestId current elsewhere ends accepted
      (Unfilled plan workflowId requestId current elsewhere ends accepted) program.next
      program'.next := by
  induction h with
  | done hvalue => exact .done hvalue
  | lookup herror hok => exact .lookup herror hok
  | describe hid hresume => exact .describe hid hresume
  | reset hanchor herror hok => exact .reset hanchor herror hok
  | pause hresume => exact .pause hresume
  | @read cursor runId' enough resume resume' hworkflow hid hresume ih =>
      have hsame : isSatisfied { cursor with runId := runId' } enough = isSatisfied cursor enough := rfl
      simp only [Program.next, hsame]
      by_cases hsatisfied : isSatisfied cursor enough
      · simpa only [hsatisfied, if_true] using ih none cursor.pages
      · simp only [hsatisfied, Bool.false_eq_true, if_false]
        refine .page hworkflow hid ?_
        intro answer
        cases answer with
        | error error => exact hresume (some error) cursor.pages
        | ok page => exact .read hworkflow hid fun failure pages => hresume failure pages

theorem bind {ends' accepted' : β → β → Prop} {f f' : α → Program β}
    (h : Unfilled plan workflowId requestId current elsewhere ends accepted program program')
    (hends : ∀ value value', ends value value' →
      Unfilled plan workflowId requestId current elsewhere ends' accepted' (f value) (f' value'))
    (haccepted : ∀ value value', accepted value value' → ∃ next next', f value = .done next ∧
      f' value' = .done next' ∧ accepted' next next') :
    Unfilled plan workflowId requestId current elsewhere ends' accepted' (program.bind f)
      (program'.bind f') := by
  induction h with
  | done hvalue => exact hends _ _ hvalue
  | lookup _ _ iherror ihok => exact .lookup iherror ihok
  | describe hid _ ih => exact .describe hid ih
  | reset hanchor _ hok ih =>
      refine .reset hanchor ih ?_
      intro response response'
      obtain ⟨value, value', hresume, hresume', hvalue⟩ := hok response response'
      obtain ⟨next, next', hnext, hnext', hboth⟩ := haccepted value value' hvalue
      refine ⟨next, next', ?_, ?_, hboth⟩
      · rw [hresume]
        exact hnext
      · rw [hresume']
        exact hnext'
  | pause _ ih => exact .pause ih
  | read hworkflow hid _ ih => exact .read hworkflow hid ih

end Unfilled

/-- Two procedures that only look, the first of them at the run of the empty id. -/
def LooksUnfilled (plan : Plan) (workflowId requestId current : String) (elsewhere : Prop)
    (values : α → α → Prop) (procedure procedure' : Procedure α) : Prop :=
  Unfilled plan workflowId requestId current elsewhere
    (EndsUnfilled workflowId current elsewhere values) (fun _ _ => False) (ExceptT.run procedure)
    (ExceptT.run procedure')

theorem LooksUnfilled.bind {plan : Plan} {requestId : String} {values : α → α → Prop}
    {values' : β → β → Prop} {accepted : Except ResetError β → Except ResetError β → Prop}
    {procedure procedure' : Procedure α} {f f' : α → Procedure β}
    (h : LooksUnfilled plan workflowId requestId current elsewhere values procedure procedure')
    (hf : ∀ value value', values value value' →
      Unfilled plan workflowId requestId current elsewhere
        (EndsUnfilled workflowId current elsewhere values') accepted (ExceptT.run (f value))
        (ExceptT.run (f' value'))) :
    Unfilled plan workflowId requestId current elsewhere
      (EndsUnfilled workflowId current elsewhere values') accepted (ExceptT.run (procedure >>= f))
      (ExceptT.run (procedure' >>= f')) := by
  refine Unfilled.bind h ?_ fun _ _ => False.elim
  intro result result' hresult
  cases hresult with
  | ok hvalue => exact hf _ _ hvalue
  | error herror => exact .done (.error herror)

end Program

open Program

namespace Plan

variable {plan : Plan} {requestId runId runId' : String}

/-! ### Looks -/

theorem lookup_unfilled (domain : String) :
    LooksUnfilled plan workflowId requestId current elsewhere
      (fun description description' =>
        description = description' ∧ description.currentRunId = current)
      (Procedure.describe ⟨domain, workflowId, none⟩)
      (Procedure.describe ⟨domain, workflowId, none⟩) :=
  .lookup (fun _ => .done (.error (.service _))) fun _ hcurrent => .done (.ok ⟨rfl, hcurrent⟩)

theorem describe_unfilled (domain : String) (hid : StandsFor current elsewhere runId runId') :
    LooksUnfilled plan workflowId requestId current elsewhere Eq
      (Procedure.describe ⟨domain, workflowId, some runId⟩)
      (Procedure.describe ⟨domain, workflowId, some runId'⟩) := by
  refine .describe hid fun answer => .done ?_
  cases answer with
  | error error => exact .error (.service _)
  | ok description => exact .ok rfl

theorem readUntil_unfilled (enough : List Event → Bool) (cursor : HistoryCursor)
    (hworkflow : cursor.workflowId = workflowId)
    (hid : StandsFor current elsewhere cursor.runId runId') :
    LooksUnfilled plan workflowId requestId current elsewhere Eq
      (Procedure.readUntil enough cursor)
      (Procedure.readUntil enough { cursor with runId := runId' }) := by
  refine .read hworkflow hid fun failure pages => .done ?_
  subst hworkflow
  cases failure with
  | none => exact .ok rfl
  | some error => exact .error (.historyFetch error hid)

theorem anchorAt_unfilled (hid : StandsFor current elsewhere runId runId') (eventId? : Option Int) :
    EndsUnfilled workflowId current elsewhere (ResetAnchor.Unfilled current elsewhere)
      (Strategy.anchorAt workflowId runId eventId?) (Strategy.anchorAt workflowId runId' eventId?) := by
  cases eventId? with
  | none => exact .error (.noTaskFound hid)
  | some eventId =>
      simp only [Strategy.anchorAt, ResetAnchor.of]
      split
      · exact .error (.invalidAnchor _)
      · exact .ok ⟨hid, rfl⟩

theorem lastTask_unfilled (hid : StandsFor current elsewhere runId runId') (domain : String) :
    LooksUnfilled plan workflowId requestId current elsewhere (ResetAnchor.Unfilled current elsewhere)
      (Strategy.lastTask domain workflowId runId) (Strategy.lastTask domain workflowId runId') := by
  apply (readUntil_unfilled _ (.start domain workflowId runId) rfl hid).bind
  rintro events _ rfl
  exact .done (anchorAt_unfilled hid _)

theorem continuedRun?_ne_empty {events : List Event} {continued : String}
    (h : Strategy.continuedRun? events = some continued) : continued ≠ "" := by
  unfold Strategy.continuedRun? at h
  simpa using (Option.filter_eq_some_iff.mp h).2

/-- The anchor in the run of the empty id is the one in the current run, and bears the empty id. Only the
strategy that goes back to the run before names that run. -/
theorem resolve_unfilled {strategy : Strategy} (helsewhere : strategy = .lastContinuedAsNew → elsewhere)
    (domain : String) :
    LooksUnfilled plan workflowId requestId current elsewhere (ResetAnchor.Unfilled current elsewhere)
      (strategy.resolve domain workflowId "") (strategy.resolve domain workflowId current) := by
  have hid : StandsFor current elsewhere "" current := .current
  cases strategy with
  | lastWorkflowTask => exact lastTask_unfilled hid domain
  | firstWorkflowTask =>
      apply (readUntil_unfilled _ (.start domain workflowId "") rfl hid).bind
      rintro events _ rfl
      exact .done (anchorAt_unfilled hid _)
  | lastContinuedAsNew =>
      apply (readUntil_unfilled _ ((HistoryCursor.start domain workflowId "").withPageSize 1) rfl
        hid).bind
      rintro events _ rfl
      cases hcontinued : Strategy.continuedRun? events with
      | none => exact .done (.error (.notContinued hid))
      | some continued =>
          have hsame : StandsFor current elsewhere continued continued :=
            .elsewhere (helsewhere rfl) (continuedRun?_ne_empty hcontinued)
          exact lastTask_unfilled hsame domain
  | badBinary checksum =>
      apply (describe_unfilled domain hid).bind
      rintro description _ rfl
      cases ResetPoint.select? description.points checksum with
      | none => exact .done (.error (.noResetPoint hid))
      | some point =>
          simp only [ResetAnchor.of]
          split
          · exact .done (.error (.invalidAnchor _))
          · exact .done (.ok ⟨hid, rfl⟩)

/-- The safety checks come to the same verdict, but leave the empty id as it is. -/
theorem check_unfilled (filter : SafetyFilter) (domain : String) :
    LooksUnfilled plan workflowId requestId current elsewhere (Verdict.Unfilled current)
      (filter.check domain ⟨workflowId, some ""⟩) (filter.check domain ⟨workflowId, none⟩) := by
  apply (lookup_unfilled domain).bind
  rintro description _ ⟨rfl, rfl⟩
  have hid : StandsFor description.currentRunId elsewhere "" description.currentRunId := .current
  -- Both ids are compared as empty ones.
  change Unfilled plan workflowId requestId description.currentRunId elsewhere _ _
    (ExceptT.run (if filter.skipIfBaseNotCurrent && "" ≠ description.currentRunId then _ else _))
    (ExceptT.run (if filter.skipIfBaseNotCurrent && "" ≠ description.currentRunId then _ else _))
  by_cases hbase : (filter.skipIfBaseNotCurrent && "" ≠ description.currentRunId) = true
  · simp only [hbase, if_true]
    exact .done (.ok (.skip _))
  by_cases hopen : (filter.skipIfOpen && description.isOpen) = true
  · simp only [hbase, hopen, if_true, Bool.false_eq_true, if_false]
    exact .done (.ok (.skip _))
  simp only [hbase, hopen, Bool.false_eq_true, if_false]
  cases filter.nonDeterministicOnly with
  | false => exact .done (.ok .proceed)
  | true =>
      apply (readUntil_unfilled _ (.start domain workflowId "") rfl hid).bind
      rintro events _ rfl
      by_cases hscan : (NonDeterminismScan.ofEvents events).isNonDeterministic = true
      · simp only [hscan, if_true]
        exact .done (.ok .proceed)
      · simp only [hscan, Bool.false_eq_true, if_false]
        exact .done (.ok (.skip _))

/-! ### The whole work -/

/-- Whether anchors may be in another run than the one that was named. -/
def GoesBack (plan : Plan) : Prop :=
  plan.config.strategy = .lastContinuedAsNew

/-- Two resets that were accepted, to anchors of which the first one bears the empty id. -/
def BothResetUnfilled (current : String) (elsewhere : Prop)
    (result result' : Except ResetError OutcomeStatus) : Prop :=
  ∃ anchor anchor' newRunId newRunId', result = .ok (.reset anchor newRunId) ∧
    result' = .ok (.reset anchor' newRunId') ∧ anchor.Unfilled current elsewhere anchor'

theorem submit_unfilled {anchor anchor' : ResetAnchor}
    (hanchor : anchor.Unfilled current elsewhere anchor') :
    Unfilled plan workflowId requestId current elsewhere
      (EndsUnfilled workflowId current elsewhere (OutcomeStatus.Unfilled workflowId current elsewhere))
      (BothResetUnfilled current elsewhere)
      (ExceptT.run (plan.submit workflowId requestId anchor))
      (ExceptT.run (plan.submit workflowId requestId anchor')) := by
  unfold submit
  split
  · exact .done (.ok (.dryRun hanchor))
  · refine .reset hanchor (fun error error' herror => .done (.error herror)) ?_
    intro response response'
    exact ⟨_, _, rfl, rfl, anchor, anchor', _, _, rfl, rfl, hanchor⟩

theorem attempt_unfilled :
    Unfilled plan workflowId requestId current plan.GoesBack
      (EndsUnfilled workflowId current plan.GoesBack
        (OutcomeStatus.Unfilled workflowId current plan.GoesBack))
      (BothResetUnfilled current plan.GoesBack)
      (ExceptT.run (plan.attempt .checked ⟨workflowId, some ""⟩ requestId))
      (ExceptT.run (plan.attempt .checked ⟨workflowId, none⟩ requestId)) := by
  apply (check_unfilled plan.config.safetyFilter plan.config.domain).bind
  rintro verdict verdict' hverdict
  cases hverdict with
  | skip reason => exact .done (.ok (.skipped reason))
  | proceed =>
      apply (resolve_unfilled id plan.config.domain).bind
      intro anchor anchor' hanchor
      exact submit_unfilled hanchor

/-- Two ends of the work, at the same attempt. -/
structure AttemptedUnfilled (workflowId current : String) (elsewhere : Prop)
    (attempted attempted' : Attempted ResetError OutcomeStatus) : Prop where
  attempts : attempted.attempts = attempted'.attempts
  result : EndsUnfilled workflowId current elsewhere
    (OutcomeStatus.Unfilled workflowId current elsewhere) attempted.result attempted'.result

theorem AttemptedUnfilled.status {attempted attempted' : Attempted ResetError OutcomeStatus}
    {plan' : Plan} {target target' : WorkflowRef}
    (h : AttemptedUnfilled workflowId current elsewhere attempted attempted') :
    OutcomeStatus.Unfilled workflowId current elsewhere (plan.outcome target attempted).status
      (plan'.outcome target' attempted').status := by
  obtain ⟨result, attempts⟩ := attempted
  obtain ⟨result', attempts'⟩ := attempted'
  have hresult : EndsUnfilled workflowId current elsewhere
      (OutcomeStatus.Unfilled workflowId current elsewhere) result result' := h.result
  cases hresult with
  | ok hstatus => exact hstatus
  | error herror => exact .failed herror

theorem attemptFrom_unfilled {operation operation' : Program (Except ResetError OutcomeStatus)}
    (h : Unfilled plan workflowId requestId current elsewhere
      (EndsUnfilled workflowId current elsewhere (OutcomeStatus.Unfilled workflowId current elsewhere))
      (BothResetUnfilled current elsewhere) operation operation')
    (attempt spare : Nat) :
    Unfilled plan workflowId requestId current elsewhere
      (AttemptedUnfilled workflowId current elsewhere)
      (AttemptedUnfilled workflowId current elsewhere)
      (attemptFrom Program.rest ResetError.isRetryable (fun _ => operation) attempt spare)
      (attemptFrom Program.rest ResetError.isRetryable (fun _ => operation') attempt spare) := by
  induction spare generalizing attempt with
  | zero =>
      apply h.bind
      · intro result result' hresult
        exact .done ⟨rfl, hresult⟩
      · rintro _ _ ⟨anchor, anchor', newRunId, newRunId', rfl, rfl, hanchor⟩
        exact ⟨_, _, rfl, rfl, rfl, .ok (.reset newRunId newRunId' hanchor)⟩
  | succ spare ih =>
      apply h.bind
      · intro result result' hresult
        cases hresult with
        | ok hstatus => exact .done ⟨rfl, .ok hstatus⟩
        | @error error error' herror =>
            by_cases hretry : error.isRetryable
            · simp only [← herror.isRetryable_eq, hretry, if_true]
              exact .pause (ih (attempt + 1))
            · simp only [← herror.isRetryable_eq, hretry, Bool.false_eq_true, if_false]
              exact .done ⟨rfl, .error herror⟩
      · rintro _ _ ⟨anchor, anchor', newRunId, newRunId', rfl, rfl, hanchor⟩
        exact ⟨_, _, rfl, rfl, rfl, .ok (.reset newRunId newRunId' hanchor)⟩

/-- The work on a target with the empty id goes like the work on the target without an id, but leaves
the id empty. -/
theorem process_unfilled (plan : Plan) (workflowId requestId current : String) :
    Unfilled plan workflowId requestId current plan.GoesBack
      (AttemptedUnfilled workflowId current plan.GoesBack)
      (AttemptedUnfilled workflowId current plan.GoesBack)
      (plan.process .checked ⟨workflowId, some ""⟩ requestId)
      (plan.process .checked ⟨workflowId, none⟩ requestId) :=
  attemptFrom_unfilled attempt_unfilled 1 plan.settings.retry.spare

end Plan

end Rewind
