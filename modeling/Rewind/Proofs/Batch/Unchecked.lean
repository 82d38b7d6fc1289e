import Rewind.Proofs.Batch.Journal
import Rewind.Proofs.Batch.Settled
import Rewind.Proofs.ResetOne
import Rewind.Proofs.Run

/-!
The work on a target with safety checks that are all switched off, and without safety checks.

With checks, the service is asked to describe the current run even if all checks are switched off.
Without them it is asked only if the target has no run id. A service that knows the current run and
has no failures scripted for such calls answers them all, and nothing else comes of it. So the same
work is done in both ways, but for these calls.

Main statements: `process_meets`, and `processDirect_obeys` for the calls made without checks.
-/

namespace Rewind

/-- Exchanges without descriptions of runs and without request ids. -/
def undescribed (exchanges : List Exchange) : List Exchange :=
  (exchanges.filter fun exchange => exchange.request.method ≠ .describe).map Exchange.outline

@[simp] theorem undescribed_append (first second : List Exchange) :
    undescribed (first ++ second) = undescribed first ++ undescribed second := by
  rw [undescribed, List.filter_append, List.map_append]
  rfl

@[simp] theorem undescribed_describe (request : DescribeRequest) (failure : Option ServiceError) :
    undescribed [⟨.describe request, failure⟩] = [] := rfl

theorem undescribed_of_anonymous {request request' : Request} {failure : Option ServiceError}
    (hsame : request.anonymous = request'.anonymous) :
    undescribed [⟨request, failure⟩] = undescribed [⟨request', failure⟩] := by
  have hmethod : request.method = request'.method := by
    rw [← request.method_anonymous, hsame, request'.method_anonymous]
  have houtline :
      (⟨request, failure⟩ : Exchange).outline = (⟨request', failure⟩ : Exchange).outline := by
    simp only [Exchange.outline, hsame]
  by_cases hdescribe : request'.method = .describe
  · simp [undescribed, hmethod, hdescribe]
  · simp [undescribed, hmethod, hdescribe, houtline]

namespace Store

variable {s t : Store}

/-- Two stores differ in nothing but the calls that they have counted and the run ids that they give
out. -/
def Level (s t : Store) : Prop :=
  ∃ calls naming, t = { s with calls, naming }

/-- A call that only looks is answered alike. -/
theorem Level.call_look (h : s.Level t) {request : Request} (hreset : request.method ≠ .reset) :
    (s.call request).1 = (t.call request).1 ∧ (s.call request).2.Level (t.call request).2 := by
  obtain ⟨calls, naming, rfl⟩ := h
  simp only [Store.call]
  cases s.failures request.method request.subject with
  | cons error later => exact ⟨rfl, _, _, rfl⟩
  | nil =>
      cases request with
      | describe request | history request | scan request => exact ⟨rfl, _, _, rfl⟩
      | reset request => exact absurd rfl hreset

/-- A reset fails alike, or is accepted by both. -/
theorem Level.call_reset (h : s.Level t) {request request' : ResetRequest}
    (hsame : request.anonymous = request'.anonymous) :
    (∃ error, (s.call (.reset request)).1 = .error error ∧
      (t.call (.reset request')).1 = .error error ∧
      (s.call (.reset request)).2.Level (t.call (.reset request')).2) ∨
    ∃ response response', (s.call (.reset request)).1 = .ok response ∧
      (t.call (.reset request')).1 = .ok response' ∧
      (t.call (.reset request')).2.failures = (s.call (.reset request)).2.failures := by
  obtain ⟨calls, naming, rfl⟩ := h
  have hworkflow : request'.workflowId = request.workflowId :=
    (congrArg ResetRequest.workflowId hsame).symm
  simp only [Store.call, Request.method, Request.subject, hworkflow]
  cases s.failures .reset request.workflowId with
  | cons error later => exact .inl ⟨error, rfl, rfl, _, _, rfl⟩
  | nil =>
      have hkept : (Store.count { s with calls, naming } .reset).keptEvents request' =
          (s.count .reset).keptEvents request :=
        (keptEvents_congr (fun _ => rfl) rfl hsame).symm
      simp only [serve, reset_eq, hkept]
      cases (s.count .reset).keptEvents request with
      | error error => exact .inl ⟨error, rfl, rfl, _, _, rfl⟩
      | ok kept => exact .inr ⟨_, _, rfl, rfl, rfl⟩

end Store

namespace Service

variable {workflowId : String} {earlier : List Exchange} {s t : Service}

/-- Two services differ in nothing that calls can find out, but for new run ids. Descriptions and
request ids aside, the second one has written down the same as the first behind earlier exchanges. -/
structure Level (earlier : List Exchange) (s t : Service) : Prop where
  missed : s.missed? = t.missed?
  store : s.store.Level t.store
  journal : undescribed t.journal = earlier ++ undescribed s.journal

/-- The current run of a workflow can be described. -/
structure Describes (workflowId : String) (s : Service) : Prop where
  missed : s.missed? = none
  current : ∃ runId run, s.store.current workflowId = some runId ∧
    s.store.runs workflowId runId = some run
  failures : s.store.failures .describe workflowId = []

namespace Describes

/-- It can be described as long as no reset is accepted. -/
theorem call (h : s.Describes workflowId) (request : Request)
    (hnone : request.accepted? (s.call request).1 = none) :
    (s.call request).2.Describes workflowId := by
  have hlater : s.Later (s.call request).2 := .call s request
  have hstep := s.call_step request
  rw [hnone] at hstep
  refine ⟨hlater.missed?_eq.trans h.missed, ?_, hlater.failures_nil h.failures⟩
  generalize (s.call request).2.store = store at hstep
  cases hstep with
  | kept failures calls => exact h.current

theorem exists_description (h : s.Describes workflowId) (domain : String) :
    ∃ description, s.call (.describe ⟨domain, workflowId, none⟩) =
      (.ok description,
        { s with
          store := s.store.count .describe
          journal := s.journal ++ [⟨.describe ⟨domain, workflowId, none⟩, none⟩] }) := by
  obtain ⟨runId, run, hcurrent, hrun⟩ := h.current
  refine ⟨⟨runId, run.isOpen, run.points⟩, ?_⟩
  have hdescribed : (s.store.count .describe).describe ⟨domain, workflowId, none⟩ =
      .ok ⟨runId, run.isOpen, run.points⟩ := by
    simp [Store.describe, Store.resolve, Store.currentRun?, Store.run?, Store.count, hcurrent, hrun,
      Except.bind, Except.map]
  have hfailures : s.store.failures .describe workflowId = [] := h.failures
  simp only [Service.call, answer, h.missed, Store.call, Request.method, Request.subject, hfailures,
    Store.serve, hdescribed, failure?]
  rfl

end Describes

namespace Level

theorem journal_call (h : s.Level earlier t) {request request' : Request}
    (hsame : request.anonymous = request'.anonymous)
    (hfate : failure? (s.call request).1 = failure? (t.call request').1) :
    undescribed (t.call request').2.journal = earlier ++ undescribed (s.call request).2.journal := by
  rw [Batch.Chronicle.journal_call, Batch.Chronicle.journal_call, undescribed_append,
    undescribed_append, h.journal, hfate, undescribed_of_anonymous hsame, List.append_assoc]

/-- A call that only looks is answered alike. -/
theorem call_look (h : s.Level earlier t) {request : Request} (hreset : request.method ≠ .reset) :
    (s.call request).1 = (t.call request).1 ∧
      (s.call request).2.Level earlier (t.call request).2 := by
  have hboth : (s.call request).1 = (t.call request).1 ∧
      (s.call request).2.store.Level (t.call request).2.store := by
    rcases call_both h.missed (rfl : request.method = request.method) with
      ⟨⟨hs, hs'⟩, ht, ht'⟩ | ⟨error, ⟨hs, hs'⟩, ht, ht'⟩
    · rw [hs, hs', ht, ht']
      exact h.store.call_look hreset
    · rw [hs, hs', ht, ht']
      exact ⟨rfl, h.store⟩
  exact ⟨hboth.1, h.missed, hboth.2, h.journal_call rfl (by rw [hboth.1])⟩

/-- A reset fails alike, or is accepted by both. -/
theorem call_reset (h : s.Level earlier t) {request request' : ResetRequest}
    (hsame : request.anonymous = request'.anonymous) :
    (∃ error, (s.call (.reset request)).1 = .error error ∧
      (t.call (.reset request')).1 = .error error ∧
      (s.call (.reset request)).2.Level earlier (t.call (.reset request')).2) ∨
    ∃ response response', (s.call (.reset request)).1 = .ok response ∧
      (t.call (.reset request')).1 = .ok response' ∧
      (t.call (.reset request')).2.store.failures = (s.call (.reset request)).2.store.failures ∧
      undescribed (t.call (.reset request')).2.journal =
        earlier ++ undescribed (s.call (.reset request)).2.journal := by
  have hrequest : (Request.reset request).anonymous = (Request.reset request').anonymous := by
    simp only [Request.anonymous, hsame]
  have hmethod : (Request.reset request).method = (Request.reset request').method := rfl
  have hfailed {error : ServiceError} (hs : (s.call (.reset request)).1 = .error error)
      (ht : (t.call (.reset request')).1 = .error error)
      (hstore : (s.call (.reset request)).2.store.Level (t.call (.reset request')).2.store) :
      (s.call (.reset request)).2.Level earlier (t.call (.reset request')).2 :=
    ⟨h.missed, hstore, h.journal_call hrequest (by rw [hs, ht]; rfl)⟩
  rcases call_both h.missed hmethod with ⟨⟨hs, hs'⟩, ht, ht'⟩ | ⟨error, ⟨hs, hs'⟩, ht, ht'⟩
  · rcases h.store.call_reset hsame with ⟨error, hfail, hfail', hafter⟩ |
      ⟨response, response', hok, hok', hfailures⟩
    · left
      refine ⟨error, hs.trans hfail, ht.trans hfail', hfailed (hs.trans hfail) (ht.trans hfail') ?_⟩
      rw [hs', ht']
      exact hafter
    · right
      refine ⟨response, response', hs.trans hok, ht.trans hok', ?_, ?_⟩
      · rw [hs', ht', hfailures]
      · exact h.journal_call hrequest (by rw [hs, hok, ht, hok']; rfl)
  · exact .inl ⟨error, hs, ht, hfailed hs ht (by rw [hs', ht']; exact h.store)⟩

/-- Describing the current run leaves the first service level with the second one. -/
theorem described (h : s.Level earlier t) (request : DescribeRequest) :
    Level earlier { s with
        store := s.store.count .describe
        journal := s.journal ++ [⟨.describe request, none⟩] } t := by
  obtain ⟨calls, naming, hstore⟩ := h.store
  refine ⟨h.missed, ⟨calls, naming, hstore⟩, ?_⟩
  rw [undescribed_append, undescribed_describe, List.append_nil]
  exact h.journal

end Level

end Service

open Program

variable {α β : Type} {workflowId : String} {earlier : List Exchange}

/-- Two runs have come to ends that belong together. Either the services are still level, or both have
accepted a reset. -/
inductive Met (workflowId : String) (earlier : List Exchange) (ends accepted : α → α → Prop) :
    α × Service → α × Service → Prop
  | level {value value' : α} {s t : Service} :
      ends value value' → s.Level earlier t → s.Describes workflowId →
      Met workflowId earlier ends accepted (value, s) (value', t)
  | reset {value value' : α} {s t : Service} :
      accepted value value' → t.store.failures = s.store.failures →
      undescribed t.journal = earlier ++ undescribed s.journal →
      Met workflowId earlier ends accepted (value, s) (value', t)

/-- What is known in either case. -/
theorem Met.behind {accepted : α → α → Prop} {value value' : α} {s t : Service}
    (h : Met workflowId earlier Eq accepted (value, s) (value', t)) :
    (value = value' ∨ accepted value value') ∧ t.store.failures = s.store.failures ∧
      undescribed t.journal = earlier ++ undescribed s.journal := by
  cases h with
  | level hvalue hlevel _ =>
      obtain ⟨calls, naming, hstore⟩ := hlevel.store
      exact ⟨.inl hvalue, by rw [hstore], hlevel.journal⟩
  | reset hvalue hfailures hjournal => exact ⟨.inr hvalue, hfailures, hjournal⟩

/-- With level services that can describe the workflow, two programs come to ends that belong
together. -/
def Meets (workflowId : String) (ends accepted : α → α → Prop) (program program' : Program α) :
    Prop :=
  ∀ earlier s t, s.Level earlier t → s.Describes workflowId →
    Met workflowId earlier ends accepted (program.run s) (program'.run t)

namespace Meets

/-- The pages of a history are answered alike. -/
theorem fetch_level (enough : List Event → Bool) (budget : Nat) (cursor : HistoryCursor)
    {s t : Service} (h : s.Level earlier t) (hdescribes : s.Describes workflowId) :
    ∃ failure cursor' s' t', fetch enough budget cursor s = (failure, cursor', s') ∧
      fetch enough budget cursor t = (failure, cursor', t') ∧
      s'.Level earlier t' ∧ s'.Describes workflowId := by
  induction budget generalizing cursor s t with
  | zero => exact ⟨none, cursor, s, t, rfl, rfl, h, hdescribes⟩
  | succ budget ih =>
      simp only [fetch]
      split
      · exact ⟨none, cursor, s, t, rfl, rfl, h, hdescribes⟩
      · obtain ⟨hanswer, hafter⟩ := h.call_look
          (show (Request.history cursor.request).method ≠ .reset by simp [Request.method])
        have hdescribes' := hdescribes.call (.history cursor.request)
          (Request.accepted?_look (by simp [Request.method]) _)
        generalize s.call (.history cursor.request) = called at hanswer hafter hdescribes'
        generalize t.call (.history cursor.request) = called' at hanswer hafter
        obtain ⟨answer, s'⟩ := called
        obtain ⟨answer', t'⟩ := called'
        obtain rfl : answer = answer' := hanswer
        cases answer with
        | error error => exact ⟨some error, cursor, s', t', rfl, rfl, hafter, hdescribes'⟩
        | ok page => exact ih _ hafter hdescribes'

theorem of_twin {ends accepted : α → α → Prop} {program program' : Program α}
    (h : Twin ends accepted program program') : Meets workflowId ends accepted program program' := by
  induction h with
  | done hends => exact fun earlier s t hlevel hdescribes => .level hends hlevel hdescribes
  | @look request resume resume' hreset _ ih =>
      intro earlier s t hlevel hdescribes
      obtain ⟨hanswer, hafter⟩ := hlevel.call_look hreset
      have hdescribes' := hdescribes.call request (Request.accepted?_look hreset _)
      simp only [run, ← hanswer]
      exact ih _ earlier _ _ hafter hdescribes'
  | @reset request request' resume resume' hsame _ hok ih =>
      intro earlier s t hlevel hdescribes
      simp only [run]
      rcases hlevel.call_reset hsame with ⟨error, hfailed, hfailed', hafter⟩ |
        ⟨response, response', haccepted, haccepted', hfailures, hjournal⟩
      · have hdescribes' := hdescribes.call (.reset request) (by rw [hfailed]; rfl)
        rw [hfailed, hfailed']
        exact ih error earlier _ _ hafter hdescribes'
      · obtain ⟨value, value', hdone, hdone', hboth⟩ := hok response response'
        rw [(congrArg resume haccepted).trans hdone, (congrArg resume' haccepted').trans hdone']
        exact .reset hboth hfailures hjournal
  | pause _ ih => exact fun earlier s t hlevel hdescribes => ih earlier s t hlevel hdescribes
  | @read cursor enough resume resume' _ ih =>
      intro earlier s t hlevel hdescribes
      have hbudget : pageBudget t = pageBudget s := by
        obtain ⟨calls, naming, hstore⟩ := hlevel.store
        rw [pageBudget, pageBudget, hstore]
      obtain ⟨failure, cursor', s', t', hs, ht, hafter, hdescribes'⟩ :=
        fetch_level enough (pageBudget s) cursor hlevel hdescribes
      simp only [run, hbudget, hs, ht]
      exact ih failure cursor' earlier s' t' hafter hdescribes'

/-- What follows two programs that meet. Behind an accepted reset nothing follows but the end. -/
theorem bind {ends accepted : α → α → Prop} {ends' accepted' : β → β → Prop}
    {program program' : Program α} {f f' : α → Program β}
    (h : Meets workflowId ends accepted program program')
    (hends : ∀ value value', ends value value' →
      Meets workflowId ends' accepted' (f value) (f' value'))
    (haccepted : ∀ value value', accepted value value' → ∃ next next', f value = .done next ∧
      f' value' = .done next' ∧ accepted' next next') :
    Meets workflowId ends' accepted' (program.bind f) (program'.bind f') := by
  intro earlier s t hlevel hdescribes
  rw [run_bind, run_bind]
  have hmet := h earlier s t hlevel hdescribes
  generalize program.run s = ended at hmet
  generalize program'.run t = ended' at hmet
  cases hmet with
  | level hvalue hafter hdescribes' => exact hends _ _ hvalue earlier _ _ hafter hdescribes'
  | reset hvalue hfailures hjournal =>
      obtain ⟨next, next', hnext, hnext', hboth⟩ := haccepted _ _ hvalue
      simp only [hnext, hnext', run]
      exact .reset hboth hfailures hjournal

/-- A description that is asked for first comes to nothing. -/
theorem describe_first {accepted : Except ResetError α → Except ResetError α → Prop} (domain : String)
    {f : Description → Procedure α} {program' : Program (Except ResetError α)}
    (h : ∀ description, Meets workflowId Eq accepted (ExceptT.run (f description)) program') :
    Meets workflowId Eq accepted
      (ExceptT.run (Procedure.describe ⟨domain, workflowId, none⟩ >>= f)) program' := by
  intro earlier s t hlevel hdescribes
  obtain ⟨description, hcall⟩ := hdescribes.exists_description domain
  have hafter := hlevel.described ⟨domain, workflowId, none⟩
  have hdescribes' := hdescribes.call (.describe ⟨domain, workflowId, none⟩)
    (Request.accepted?_look (by simp [Request.method]) _)
  rw [hcall] at hdescribes'
  have hrun : (ExceptT.run (Procedure.describe ⟨domain, workflowId, none⟩ >>= f)).run s =
      (ExceptT.run (f description)).run (s.call (.describe ⟨domain, workflowId, none⟩)).2 := by
    change Program.run (.call (.describe ⟨domain, workflowId, none⟩) _) s = _
    simp only [run]
    rw [hcall]
    rfl
  rw [hrun, hcall]
  exact h description earlier _ t hafter hdescribes'

end Meets

namespace Plan

variable {plan : Plan}

/-- An attempt at a run that is known. -/
def attemptIn (plan : Plan) (workflowId runId requestId : String) : Procedure OutcomeStatus := do
  let anchor ← plan.config.strategy.resolve plan.config.domain workflowId runId
  plan.submit workflowId requestId anchor

theorem attemptIn_twin (workflowId runId requestId requestId' : String) :
    Twin Eq BothReset (ExceptT.run (plan.attemptIn workflowId runId requestId))
      (ExceptT.run (plan.attemptIn workflowId runId requestId')) :=
  (resolve_looks _ _ _ _).exceptBind_twin fun anchor => submit_twin (.refl plan) _ _ _ anchor

/-- An attempt at a run that is known keeps to the rules, if open runs need not be skipped. -/
theorem attemptIn_obeys {workflowId requestId : String} {standing : Standing}
    (hskip : plan.config.skipIfOpen = false) (hopen : standing.accepted = none) (runId : String) :
    Obeys (plan.rules workflowId requestId) (plan.Ends workflowId requestId) standing
      (ExceptT.run (plan.attemptIn workflowId runId requestId)) := by
  refine (resolve_obeys hopen plan.config.strategy plan.config.domain runId).exceptBind ?_ ?_
  · intro last anchor hlast
    exact submit_obeys hlast.1 (by simp [hskip]) anchor
  · intro last error hlast
    simp [Ends, hlast.1]

/-- Without a check that is switched on, an attempt looks up the current run, and goes on in the run
that is named, or else in the current one. -/
theorem attemptChecked_eq (hflags : plan.config.safetyFilter = ⟨false, false, false⟩)
    (target : WorkflowRef) (requestId : String) :
    plan.attempt .checked target requestId =
      Procedure.describe ⟨plan.config.domain, target.workflowId, none⟩ >>= fun description =>
        plan.attemptIn target.workflowId (target.runId.getD description.currentRunId) requestId := by
  simp only [attempt, attemptChecked, hflags]
  refine congrArg (Program.call _) ?_
  funext answer
  cases answer <;> rfl

/-- One attempt with checks that are all switched off, and one without checks. -/
theorem attempt_meets (hflags : plan.config.safetyFilter = ⟨false, false, false⟩)
    (target : WorkflowRef) (requestId requestId' : String) :
    Meets target.workflowId Eq BothReset (ExceptT.run (plan.attempt .checked target requestId))
      (ExceptT.run (plan.attempt (.direct none) target requestId')) := by
  rw [attemptChecked_eq hflags]
  obtain ⟨workflowId, runId?⟩ := target
  cases runId? with
  | none =>
      rw [attemptDirect_none]
      apply Meets.of_twin
      apply (describe_looks _).exceptBind_twin
      intro description
      exact attemptIn_twin workflowId description.currentRunId requestId requestId'
  | some runId =>
      apply Meets.describe_first
      intro description
      exact .of_twin (attemptIn_twin workflowId runId requestId requestId')

theorem attemptFrom_meets (hflags : plan.config.safetyFilter = ⟨false, false, false⟩)
    (target : WorkflowRef) (requestId requestId' : String) (attempt spare : Nat) :
    Meets target.workflowId Eq BothAttempted
      (attemptFrom Program.rest ResetError.isRetryable
        (fun _ => ExceptT.run (plan.attempt .checked target requestId)) attempt spare)
      (attemptFrom Program.rest ResetError.isRetryable
        (fun _ => ExceptT.run (plan.attempt (.direct none) target requestId')) attempt spare) := by
  induction spare generalizing attempt with
  | zero =>
      apply (attempt_meets hflags target requestId requestId').bind
      · rintro result _ rfl
        exact .of_twin (.done rfl)
      · intro result result' hreset
        exact ⟨_, _, rfl, rfl, rfl, hreset⟩
  | succ spare ih =>
      apply (attempt_meets hflags target requestId requestId').bind
      · rintro result _ rfl
        cases result with
        | ok status => exact .of_twin (.done rfl)
        | error error =>
            by_cases hretry : error.isRetryable
            · simp only [hretry, if_true]
              exact ih (attempt + 1)
            · simp only [hretry, Bool.false_eq_true, if_false]
              exact .of_twin (.done rfl)
      · rintro _ _ ⟨anchor, newRunId, newRunId', rfl, rfl⟩
        exact ⟨_, _, rfl, rfl, rfl, anchor, newRunId, newRunId', rfl, rfl⟩

/-- The work on a target with checks that are all switched off, and without checks. -/
theorem process_meets (hflags : plan.config.safetyFilter = ⟨false, false, false⟩)
    (target : WorkflowRef) (requestId requestId' : String) :
    Meets target.workflowId Eq BothAttempted (plan.process .checked target requestId)
      (plan.process (.direct none) target requestId') :=
  attemptFrom_meets hflags target requestId requestId' 1 plan.settings.retry.spare

/-- The work without checks keeps to the rules, if open runs need not be skipped. -/
theorem processDirect_obeys (hskip : plan.config.skipIfOpen = false) (target : WorkflowRef)
    (requestId : String) :
    Obeys (plan.rules target.workflowId requestId)
      (fun after attempted => plan.Ends target.workflowId requestId after attempted.result) .initial
      (plan.process (.direct none) target requestId) := by
  refine attemptFrom_obeys (fun standing hopen => ?_) rfl 1 plan.settings.retry.spare
  obtain ⟨workflowId, runId?⟩ := target
  cases runId? with
  | some runId => exact attemptIn_obeys hskip hopen runId
  | none =>
      rw [attemptDirect_none]
      refine (describe_obeys hopen plan.config.domain none).exceptBind ?_ ?_
      · intro last description hlast
        exact attemptIn_obeys hskip hlast.1.1 description.currentRunId
      · intro last error hlast
        simp [Ends, hlast.1.1]

end Plan

end Rewind
