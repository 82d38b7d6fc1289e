import Rewind.Proofs.Service

/-!
The part of a service that calls about one workflow can see.

A call about a workflow reads and writes the runs of that workflow, its current run and the failures
scripted for it; a scan reads what queries find and the failures scripted for scans. So such a call is
answered alike by services that agree on that part, and leaves them in agreement, while any other call
leaves the part as it is.

Main statements: `SamePart.call_look`, `SamePart.call_reset` and `samePart_call`, and for scans
`SameScans.call_scan` and `sameScans_call`.
-/

namespace Rewind

/-- A request without the id by which the service would tell a repeated one. -/
def ResetRequest.anonymous (request : ResetRequest) : ResetRequest :=
  { request with requestId := "" }

def Request.anonymous : Request → Request
  | .reset request => .reset request.anonymous
  | request => request

@[simp] theorem Request.method_anonymous (request : Request) :
    request.anonymous.method = request.method := by
  cases request <;> rfl

@[simp] theorem Request.subject_anonymous (request : Request) :
    request.anonymous.subject = request.subject := by
  cases request <;> rfl

namespace Store

/-- Two stores agree on all that calls about a workflow can see. -/
structure SamePart (workflowId : String) (s t : Store) : Prop where
  pageCap : s.pageCap = t.pageCap
  runs : ∀ runId, s.runs workflowId runId = t.runs workflowId runId
  current : s.current workflowId = t.current workflowId
  failures : ∀ method, method ≠ .scan →
    s.failures method workflowId = t.failures method workflowId

/-- Two stores agree on all that scans can see. -/
structure SameScans (s t : Store) : Prop where
  pageCap : s.pageCap = t.pageCap
  visibility : s.visibility = t.visibility
  failures : s.failures .scan = t.failures .scan

variable {workflowId : String} {s t u : Store}

theorem keptEvents_congr {request request' : ResetRequest}
    (hruns : ∀ runId, s.runs request.workflowId runId = t.runs request.workflowId runId)
    (hcurrent : s.current request.workflowId = t.current request.workflowId)
    (hsame : request.anonymous = request'.anonymous) :
    s.keptEvents request = t.keptEvents request' := by
  obtain ⟨-, hworkflow, hrun, hevent, -, -, -⟩ := ResetRequest.mk.inj hsame
  rw [keptEvents, keptEvents, ← hworkflow, ← hrun, ← hevent, resolve_congr hruns hcurrent]

namespace SamePart

theorem refl (workflowId : String) (s : Store) : SamePart workflowId s s :=
  ⟨rfl, fun _ => rfl, rfl, fun _ _ => rfl⟩

theorem trans (h : SamePart workflowId s t) (h' : SamePart workflowId t u) :
    SamePart workflowId s u :=
  ⟨h.pageCap.trans h'.pageCap, fun runId => (h.runs runId).trans (h'.runs runId),
    h.current.trans h'.current,
    fun method hmethod => (h.failures method hmethod).trans (h'.failures method hmethod)⟩

theorem count (h : SamePart workflowId s t) (method : Method) :
    SamePart workflowId (s.count method) (t.count method) :=
  ⟨h.pageCap, h.runs, h.current, h.failures⟩

theorem setFailures (h : SamePart workflowId s t) (method : Method) (subject : String)
    (queue : List ServiceError) :
    SamePart workflowId (s.setFailures method subject queue)
      (t.setFailures method subject queue) := by
  refine ⟨h.pageCap, h.runs, h.current, ?_⟩
  intro method' hmethod'
  simp only [Store.setFailures, h.failures method' hmethod']

theorem currentRun?_eq (h : SamePart workflowId s t) :
    s.currentRun? workflowId = t.currentRun? workflowId := by
  rw [currentRun?, currentRun?, h.current]

theorem resolve_eq (h : SamePart workflowId s t) (runId : Option String) :
    s.resolve workflowId runId = t.resolve workflowId runId :=
  resolve_congr h.runs h.current runId

theorem serve_look (h : SamePart workflowId s t) {request : Request}
    (hsubject : request.subject = workflowId) (hscan : request.method ≠ .scan)
    (hreset : request.method ≠ .reset) :
    (s.serve request).1 = (t.serve request).1 ∧ (s.serve request).2 = s ∧
      (t.serve request).2 = t := by
  cases request with
  | scan request => exact absurd rfl hscan
  | reset request => exact absurd rfl hreset
  | describe request =>
      obtain rfl : request.workflowId = workflowId := hsubject
      refine ⟨?_, rfl, rfl⟩
      simp only [serve, describe, h.currentRun?_eq, h.resolve_eq]
      rfl
  | history request =>
      obtain rfl : request.workflowId = workflowId := hsubject
      refine ⟨?_, rfl, rfl⟩
      simp only [serve, historyPage, h.pageCap, h.resolve_eq]
      rfl

/-- A call that only looks is answered alike, and leaves the stores in agreement. -/
theorem call_look (h : SamePart workflowId s t) {request : Request}
    (hsubject : request.subject = workflowId) (hscan : request.method ≠ .scan)
    (hreset : request.method ≠ .reset) :
    (s.call request).1 = (t.call request).1 ∧
      SamePart workflowId (s.call request).2 (t.call request).2 := by
  have hfailures : s.failures request.method request.subject =
      t.failures request.method request.subject := by
    rw [hsubject, h.failures _ hscan]
  rw [Store.call, Store.call, hfailures]
  cases t.failures request.method request.subject with
  | cons error later => exact ⟨rfl, (h.count _).setFailures _ _ _⟩
  | nil =>
      obtain ⟨hanswer, hs, ht⟩ := (h.count request.method).serve_look hsubject hscan hreset
      refine ⟨hanswer, ?_⟩
      simp only [hs, ht]
      exact h.count _

theorem keptEvents_eq (h : SamePart workflowId s t) {request request' : ResetRequest}
    (hsubject : request.workflowId = workflowId)
    (hsame : request.anonymous = request'.anonymous) :
    s.keptEvents request = t.keptEvents request' := by
  subst hsubject
  exact keptEvents_congr h.runs h.current hsame

/-- A reset fails alike, and then leaves the stores in agreement, or is accepted by both. -/
theorem call_reset (h : SamePart workflowId s t) {request request' : ResetRequest}
    (hsubject : request.workflowId = workflowId)
    (hsame : request.anonymous = request'.anonymous) :
    (∃ error, (s.call (.reset request)).1 = .error error ∧
      (t.call (.reset request')).1 = .error error ∧
      SamePart workflowId (s.call (.reset request)).2 (t.call (.reset request')).2) ∨
    ((s.call (.reset request)).1 = .ok ⟨s.nextRunId workflowId⟩ ∧
      (t.call (.reset request')).1 = .ok ⟨t.nextRunId workflowId⟩) := by
  have hsubject' : request'.workflowId = workflowId := by
    rw [← hsubject]
    exact (congrArg ResetRequest.workflowId hsame).symm
  have hfailures : s.failures .reset workflowId = t.failures .reset workflowId :=
    h.failures _ (by simp)
  simp only [Store.call, Request.method, Request.subject, hsubject, hsubject', hfailures]
  cases t.failures .reset workflowId with
  | cons error later => exact .inl ⟨error, rfl, rfl, (h.count _).setFailures _ _ _⟩
  | nil =>
      have hkept := (h.count .reset).keptEvents_eq hsubject hsame
      simp only [serve, reset_eq, hkept]
      cases (t.count .reset).keptEvents request' with
      | error error => exact .inl ⟨error, rfl, rfl, h.count _⟩
      | ok kept =>
          refine .inr ⟨?_, ?_⟩
          · simp only [hsubject]
            rfl
          · simp only [hsubject']
            rfl

end SamePart

/-- A scan, or a call about another workflow, leaves the part of a workflow as it is. -/
theorem samePart_call (s : Store) {request : Request}
    (hother : request.method = .scan ∨ request.subject ≠ workflowId) :
    SamePart workflowId (s.call request).2 s := by
  have hqueue (method : Method) (hmethod : method ≠ .scan) :
      ¬(method = request.method ∧ workflowId = request.subject) := by
    rintro ⟨rfl, rfl⟩
    rcases hother with hscan | hsubject
    · exact hmethod hscan
    · exact hsubject rfl
  rw [Store.call]
  cases s.failures request.method request.subject with
  | cons error later =>
      refine ⟨rfl, fun _ => rfl, rfl, ?_⟩
      intro method hmethod
      simp only [setFailures]
      rw [if_neg (hqueue method hmethod)]
      rfl
  | nil =>
      cases request with
      | describe request | history request | scan request =>
          exact (SamePart.refl workflowId s).count _ |>.trans ⟨rfl, fun _ => rfl, rfl, fun _ _ => rfl⟩
      | reset request =>
          have hne : workflowId ≠ request.workflowId := by
            rcases hother with hscan | hsubject
            · exact absurd hscan (by simp [Request.method])
            · exact hsubject.symm
          simp only [serve, reset_eq]
          cases (s.count (Request.reset request).method).keptEvents request with
          | error error => exact ⟨rfl, fun _ => rfl, rfl, fun _ _ => rfl⟩
          | ok kept =>
              refine ⟨rfl, ?_, ?_, fun _ _ => rfl⟩
              · intro runId
                rw [accept_runs, if_neg (fun heq => hne heq.1)]
                rfl
              · rw [accept_current, if_neg hne]
                rfl

/-! ### Scans -/

namespace SameScans

theorem refl (s : Store) : SameScans s s :=
  ⟨rfl, rfl, rfl⟩

theorem symm (h : SameScans s t) : SameScans t s :=
  ⟨h.pageCap.symm, h.visibility.symm, h.failures.symm⟩

theorem trans (h : SameScans s t) (h' : SameScans t u) : SameScans s u :=
  ⟨h.pageCap.trans h'.pageCap, h.visibility.trans h'.visibility, h.failures.trans h'.failures⟩

/-- A scan is answered alike, and leaves the stores in agreement. -/
theorem call_scan (h : SameScans s t) (request : ScanRequest) :
    (s.call (.scan request)).1 = (t.call (.scan request)).1 ∧
      SameScans (s.call (.scan request)).2 (t.call (.scan request)).2 := by
  simp only [Store.call, Request.method, Request.subject, h.failures]
  cases t.failures .scan request.query with
  | cons error later =>
      refine ⟨rfl, h.pageCap, h.visibility, ?_⟩
      funext subject
      simp only [setFailures, h.failures, Store.count]
  | nil =>
      refine ⟨?_, h.pageCap, h.visibility, h.failures⟩
      simp only [serve, scanPage, Store.count, h.pageCap, h.visibility]
      rfl

end SameScans

/-- Any other call leaves what scans see as it is. -/
theorem sameScans_call (s : Store) {request : Request} (hother : request.method ≠ .scan) :
    SameScans (s.call request).2 s := by
  rw [Store.call]
  cases s.failures request.method request.subject with
  | cons error later =>
      refine ⟨rfl, rfl, ?_⟩
      funext subject
      simp only [setFailures]
      rw [if_neg (fun heq => hother heq.1.symm)]
      rfl
  | nil =>
      cases request with
      | describe request | history request | scan request => exact ⟨rfl, rfl, rfl⟩
      | reset request =>
          simp only [serve, reset_eq]
          cases (s.count (Request.reset request).method).keptEvents request <;>
            exact ⟨rfl, rfl, rfl⟩

end Store

namespace Service

variable {workflowId : String} {s t : Service}

/-- A call reaches the store or misses its deadline. -/
theorem call_eq (s : Service) (request : Request) :
    (s.missed? = none ∧ (s.call request).1 = (s.store.call request).1 ∧
      (s.call request).2.store = (s.store.call request).2) ∨
    ∃ deadline, s.missed? = some deadline ∧
      (s.call request).1 = .error (timeout request.method deadline) ∧
      (s.call request).2.store = s.store := by
  simp only [call, answer]
  cases hmissed : s.missed? with
  | none => exact .inl ⟨rfl, rfl, rfl⟩
  | some deadline => exact .inr ⟨deadline, rfl, rfl, rfl⟩

/-- Where no failure is scripted, a reset has the answer that the store decides on. -/
theorem call_reset_eq {s : Service} {request : ResetRequest} (hmissed : s.missed? = none)
    (hfailures : s.store.failures .reset request.workflowId = []) :
    (s.call (.reset request)).1 =
      (s.store.keptEvents request).map fun _ => ⟨s.store.nextRunId request.workflowId⟩ := by
  rcases s.call_eq (.reset request) with ⟨-, hanswer, -⟩ | ⟨deadline, hsome, -⟩
  · rw [hanswer, Store.call]
    simp only [Request.method, Request.subject, hfailures, Store.serve, Store.reset_eq]
    have hkept : (s.store.count .reset).keptEvents request = s.store.keptEvents request := rfl
    rw [hkept]
    cases s.store.keptEvents request <;> rfl
  · rw [hmissed] at hsome
    exact absurd hsome (by simp)

/-- An answer that is no failure is the one that the store gives. -/
theorem served_of_ok {s : Service} {request : Request} {response : request.Response}
    (hanswer : (s.call request).1 = .ok response) :
    ((s.store.count request.method).serve request).1 = .ok response := by
  have hcall : (s.call request).1 = (s.answer request).1 := rfl
  rw [hcall, Service.answer] at hanswer
  split at hanswer
  · exact absurd hanswer (by simp)
  · rw [Store.call] at hanswer
    split at hanswer
    · exact absurd hanswer (by simp)
    · exact hanswer

/-- Where deadlines are missed alike, two calls of one method both reach their stores, or both fail
with the same error. -/
theorem call_both (hmissed : s.missed? = t.missed?) {request request' : Request}
    (hmethod : request.method = request'.method) :
    (((s.call request).1 = (s.store.call request).1 ∧
        (s.call request).2.store = (s.store.call request).2) ∧
      (t.call request').1 = (t.store.call request').1 ∧
        (t.call request').2.store = (t.store.call request').2) ∨
    ∃ error, ((s.call request).1 = .error error ∧ (s.call request).2.store = s.store) ∧
      (t.call request').1 = .error error ∧ (t.call request').2.store = t.store := by
  rcases s.call_eq request with ⟨hs, hcall⟩ | ⟨deadline, hs, hcall⟩
  · rcases t.call_eq request' with ⟨-, hcall'⟩ | ⟨deadline, ht, -⟩
    · exact .inl ⟨hcall, hcall'⟩
    · simp [hmissed, ht] at hs
  · rcases t.call_eq request' with ⟨ht, -⟩ | ⟨deadline', ht, hcall'⟩
    · simp [hmissed, ht] at hs
    · obtain rfl : deadline = deadline' := by simpa [hmissed, ht] using hs.symm
      exact .inr ⟨timeout request.method deadline, hcall, hmethod ▸ hcall'⟩

theorem call_look (hmissed : s.missed? = t.missed?) (h : s.store.SamePart workflowId t.store)
    {request : Request} (hsubject : request.subject = workflowId) (hscan : request.method ≠ .scan)
    (hreset : request.method ≠ .reset) :
    (s.call request).1 = (t.call request).1 ∧
      (s.call request).2.store.SamePart workflowId (t.call request).2.store := by
  rcases call_both hmissed (rfl : request.method = request.method) with
    ⟨⟨hs, hs'⟩, ht, ht'⟩ | ⟨error, ⟨hs, hs'⟩, ht, ht'⟩
  · rw [hs, hs', ht, ht']
    exact h.call_look hsubject hscan hreset
  · rw [hs, hs', ht, ht']
    exact ⟨rfl, h⟩

theorem call_reset (hmissed : s.missed? = t.missed?) (h : s.store.SamePart workflowId t.store)
    {request request' : ResetRequest} (hsubject : request.workflowId = workflowId)
    (hsame : request.anonymous = request'.anonymous) :
    (∃ error, (s.call (.reset request)).1 = .error error ∧
      (t.call (.reset request')).1 = .error error ∧
      (s.call (.reset request)).2.store.SamePart workflowId
        (t.call (.reset request')).2.store) ∨
    ∃ response response', (s.call (.reset request)).1 = .ok response ∧
      (t.call (.reset request')).1 = .ok response' := by
  have hmethod : (Request.reset request).method = (Request.reset request').method := rfl
  rcases call_both hmissed hmethod with ⟨⟨hs, hs'⟩, ht, ht'⟩ | ⟨error, ⟨hs, hs'⟩, ht, ht'⟩
  · rw [hs, hs', ht, ht']
    rcases h.call_reset hsubject hsame with hfailed | ⟨hok, hok'⟩
    · exact .inl hfailed
    · exact .inr ⟨_, _, hok, hok'⟩
  · rw [hs, hs', ht, ht']
    exact .inl ⟨error, rfl, rfl, h⟩

theorem samePart_call (s : Service) {request : Request}
    (hother : request.method = .scan ∨ request.subject ≠ workflowId) :
    (s.call request).2.store.SamePart workflowId s.store := by
  rcases s.call_eq request with ⟨-, -, hstore⟩ | ⟨deadline, -, -, hstore⟩
  · rw [hstore]
    exact s.store.samePart_call hother
  · rw [hstore]
    exact .refl workflowId s.store

theorem call_scan (hmissed : s.missed? = t.missed?) (h : s.store.SameScans t.store)
    (request : ScanRequest) :
    (s.call (.scan request)).1 = (t.call (.scan request)).1 ∧
      (s.call (.scan request)).2.store.SameScans (t.call (.scan request)).2.store := by
  have hmethod : (Request.scan request).method = (Request.scan request).method := rfl
  rcases call_both hmissed hmethod with ⟨⟨hs, hs'⟩, ht, ht'⟩ | ⟨error, ⟨hs, hs'⟩, ht, ht'⟩
  · rw [hs, hs', ht, ht']
    exact h.call_scan request
  · rw [hs, hs', ht, ht']
    exact ⟨rfl, h⟩

theorem sameScans_call (s : Service) {request : Request} (hother : request.method ≠ .scan) :
    (s.call request).2.store.SameScans s.store := by
  rcases s.call_eq request with ⟨-, -, hstore⟩ | ⟨deadline, -, -, hstore⟩
  · rw [hstore]
    exact s.store.sameScans_call hother
  · rw [hstore]
    exact .refl s.store

end Service

end Rewind
