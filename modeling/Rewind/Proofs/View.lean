import Rewind.Proofs.Twin

/-!
Programs that look at a service which does not change.

Calls may fail at any time, so a program can come to many ends. But what it sees when they do not fail
is the same every time, and a look that fails ends an attempt. So all attempts at a target that come as
far as to ask for a reset ask for the same one.

Main statements: `Views.next` and `Views.bind`, `Settles.bind`, and `Plan.process_views`.
-/

namespace Rewind

/-- The store without scripted failures. -/
def Store.calm (s : Store) : Store :=
  { s with failures := fun _ _ => [] }

/-- What a look shows does not depend on scripted failures. -/
theorem Store.serve_calm (s : Store) {request : Request} (hreset : request.method ≠ .reset) :
    (s.calm.serve request).1 = (s.serve request).1 := by
  cases request with
  | describe request | history request | scan request => rfl
  | reset request => exact absurd rfl hreset

/-- Calls that have no reset accepted only count and use up failures. -/
theorem Store.Step.calm {s s' : Store} (h : Store.Step s s' none) (workflowId : String) :
    s'.calm.SamePart workflowId s.calm := by
  cases h with
  | kept failures calls => exact ⟨rfl, fun _ => rfl, rfl, fun _ _ => rfl⟩

namespace Service

/-- What a look shows, if it does not fail. -/
def Shows (home : Service) (request : Request) (response : request.Response) : Prop :=
  home.missed? = none ∧ (home.store.serve request).1 = .ok response

/-- The service has this run, or the current one for an empty id, and calls reach it. -/
def Holds (home : Service) (workflowId runId : String) : Prop :=
  home.missed? = none ∧ ∃ run, home.store.resolve workflowId (some runId) = .ok run

theorem Shows.unique {home : Service} {request : Request} {response response' : request.Response}
    (h : home.Shows request response) (h' : home.Shows request response') :
    response = response' :=
  Except.ok.inj (h.2.symm.trans h'.2)

theorem holds_of_describe {home : Service} {domain workflowId runId : String}
    {description : Description}
    (h : home.Shows (.describe ⟨domain, workflowId, some runId⟩) description) :
    home.Holds workflowId runId := by
  refine ⟨h.1, ?_⟩
  have hanswer : home.store.describe ⟨domain, workflowId, some runId⟩ = .ok description := h.2
  unfold Store.describe at hanswer
  cases hrun : home.store.resolve workflowId (some runId) with
  | ok run => exact ⟨run, rfl⟩
  | error error =>
      cases hcurrent : home.store.currentRun? workflowId <;>
        simp [hcurrent, hrun, Except.bind, Except.map] at hanswer

theorem holds_of_history {home : Service} {request : HistoryRequest} {page : Page Event}
    (h : home.Shows (.history request) page) : home.Holds request.workflowId request.runId := by
  refine ⟨h.1, ?_⟩
  have hanswer : home.store.historyPage request = .ok page := h.2
  unfold Store.historyPage at hanswer
  cases hrun : home.store.resolve request.workflowId (some request.runId) with
  | ok run => exact ⟨run, rfl⟩
  | error error =>
      cases hoffset : Paging.offsetOf? request.token <;>
        simp [hoffset, hrun, Except.bind, Except.map] at hanswer

/-- While the part of a workflow is as it was, looks at it show the same. -/
theorem shows_of_call {home s : Service} {workflowId : String} {request : Request}
    {response : request.Response} (hmissed : s.missed? = home.missed?)
    (hpart : s.store.calm.SamePart workflowId home.store.calm)
    (hsubject : request.subject = workflowId) (hscan : request.method ≠ .scan)
    (hreset : request.method ≠ .reset) (hanswer : (s.call request).1 = .ok response) :
    home.Shows request response := by
  rcases s.call_eq request with ⟨hnone, -, -⟩ | ⟨deadline, -, herror, -⟩
  · refine ⟨hmissed ▸ hnone, ?_⟩
    have hcount : (s.store.count request.method).calm.SamePart workflowId home.store.calm :=
      ⟨hpart.pageCap, hpart.runs, hpart.current, hpart.failures⟩
    rw [← Store.serve_calm _ hreset, ← (hcount.serve_look hsubject hscan hreset).1,
      Store.serve_calm _ hreset]
    exact s.served_of_ok hanswer
  · rw [herror] at hanswer
    exact absurd hanswer (by simp)

end Service

/-! ### Reading -/

/-- How reading a history may end: with enough, or with a failure. The pages are those that the service
shows. -/
inductive Reads (home : Service) (enough : List Event → Bool) :
    HistoryCursor → Option ServiceError → HistoryCursor → Prop
  | satisfied {cursor : HistoryCursor} :
      Program.isSatisfied cursor enough → Reads home enough cursor none cursor
  | failed {cursor : HistoryCursor} (error : ServiceError) :
      Reads home enough cursor (some error) cursor
  | paged {cursor last : HistoryCursor} {page : Page Event} {failure : Option ServiceError} :
      Program.isSatisfied cursor enough = false → home.Shows (.history cursor.request) page →
      Reads home enough (cursor.receive page) failure last →
      Reads home enough cursor failure last

namespace Reads

variable {home : Service} {enough : List Event → Bool} {cursor last last' : HistoryCursor}

/-- Reading that does not fail ends at one place. -/
theorem unique (h : Reads home enough cursor none last) (h' : Reads home enough cursor none last') :
    last = last' := by
  generalize hfailure : (none : Option ServiceError) = failure at h
  induction h with
  | satisfied hsatisfied =>
      cases h' with
      | satisfied _ => rfl
      | paged hopen _ _ => simp [hopen] at hsatisfied
  | failed error => exact absurd hfailure (by simp)
  | paged hopen hpage _ ih =>
      cases h' with
      | satisfied hsatisfied => simp [hopen] at hsatisfied
      | paged _ hpage' hrest =>
          obtain rfl := hpage.unique hpage'
          exact ih hrest hfailure

/-- Reading that has begun and does not fail has seen a page of the run. -/
theorem holds (h : Reads home enough cursor none last)
    (hopen : Program.isSatisfied cursor enough = false) :
    home.Holds cursor.workflowId cursor.runId := by
  cases h with
  | satisfied hsatisfied => simp [hopen] at hsatisfied
  | paged _ hpage _ => exact Service.holds_of_history hpage

end Reads

namespace Program

variable {α β : Type} {home : Service} {asks : ResetRequest → Prop}

/-- A program that looks at this service, with calls that may fail at any time. It asks for resets of
one kind only, and an accepted one ends it. -/
inductive Views (home : Service) (asks : ResetRequest → Prop) (ends accepted : α → Prop) :
    Program α → Prop
  | done {value : α} : ends value → Views home asks ends accepted (.done value)
  | look {request : Request} {resume : Except ServiceError request.Response → Program α} :
      request.method ≠ .reset →
      (∀ error, Views home asks ends accepted (resume (.error error))) →
      (∀ response, home.Shows request response →
        Views home asks ends accepted (resume (.ok response))) →
      Views home asks ends accepted (.call request resume)
  | reset {request : ResetRequest}
      {resume : Except ServiceError (Request.reset request).Response → Program α} :
      asks request → (∀ error, Views home asks ends accepted (resume (.error error))) →
      (∀ response, ∃ value, resume (.ok response) = .done value ∧ accepted value) →
      Views home asks ends accepted (.call (.reset request) resume)
  | pause {resume : Unit → Program α} :
      Views home asks ends accepted (resume ()) → Views home asks ends accepted (.pause resume)
  | read {cursor : HistoryCursor} {enough : List Event → Bool}
      {resume : Option ServiceError → HistoryCursor → Program α} :
      (∀ failure last, Reads home enough cursor failure last →
        Views home asks ends accepted (resume failure last)) →
      Views home asks ends accepted (.read cursor enough resume)

/-- What such a program does next. -/
inductive NextViews (home : Service) (asks : ResetRequest → Prop) (ends accepted : α → Prop) :
    Next α → Prop
  | done {value : α} : ends value → NextViews home asks ends accepted (.done value)
  | look {request : Request} {resume : Except ServiceError request.Response → Program α} :
      request.method ≠ .reset →
      (∀ error, Views home asks ends accepted (resume (.error error))) →
      (∀ response, home.Shows request response →
        Views home asks ends accepted (resume (.ok response))) →
      NextViews home asks ends accepted (.ask request resume)
  | reset {request : ResetRequest}
      {resume : Except ServiceError (Request.reset request).Response → Program α} :
      asks request → (∀ error, Views home asks ends accepted (resume (.error error))) →
      (∀ response, ∃ value, resume (.ok response) = .done value ∧ accepted value) →
      NextViews home asks ends accepted (.ask (.reset request) resume)
  | pause {resume : Program α} :
      Views home asks ends accepted resume → NextViews home asks ends accepted (.pause resume)

namespace Views

variable {ends accepted : α → Prop}

theorem next {program : Program α} (h : Views home asks ends accepted program) :
    NextViews home asks ends accepted program.next := by
  induction h with
  | done hvalue => exact .done hvalue
  | look hmethod herror hshown => exact .look hmethod herror hshown
  | reset hasks herror hok => exact .reset hasks herror hok
  | pause hresume => exact .pause hresume
  | @read cursor enough resume hresume ih =>
      simp only [Program.next]
      cases hsatisfied : isSatisfied cursor enough with
      | true => simpa only [if_true] using ih none cursor (.satisfied hsatisfied)
      | false =>
          refine .look (by simp [Request.method]) ?_ ?_
          · intro error
            exact hresume _ _ (.failed error)
          · intro page hpage
            exact .read fun failure last hrest => hresume _ _ (.paged hsatisfied hpage hrest)

theorem bind {ends' accepted' : β → Prop} {program : Program α} {f : α → Program β}
    (h : Views home asks ends accepted program)
    (hends : ∀ value, ends value → Views home asks ends' accepted' (f value))
    (haccepted : ∀ value, accepted value → ∃ next, f value = .done next ∧ accepted' next) :
    Views home asks ends' accepted' (program.bind f) := by
  induction h with
  | done hvalue => exact hends _ hvalue
  | look hmethod _ _ iherror ihshown => exact .look hmethod iherror ihshown
  | reset hasks _ hok iherror =>
      refine .reset hasks iherror ?_
      intro response
      obtain ⟨value, hresume, hvalue⟩ := hok response
      obtain ⟨next, hnext, hboth⟩ := haccepted value hvalue
      refine ⟨next, ?_, hboth⟩
      rw [hresume]
      exact hnext
  | pause _ ih => exact .pause ih
  | read _ ih => exact .read ih

end Views

/-- A procedure that only looks at this service. It may fail, but can bring only one value, which is
good. -/
def Settles (home : Service) (good : α → Prop) (procedure : Procedure α) : Prop :=
  ∃ value? : Option α, ∀ (asks : ResetRequest → Prop),
    Views home asks (fun result => ∀ value, result = .ok value → value? = some value ∧ good value)
      (fun _ => False) (ExceptT.run procedure)

namespace Settles

variable {good : α → Prop} {good' : β → Prop}

/-- Ending without a call. -/
theorem ofResult {result : Except ResetError α} (hgood : ∀ value, result = .ok value → good value) :
    Settles home good (.mk (pure result)) := by
  cases result with
  | error error => exact ⟨none, fun _ => .done (by simp)⟩
  | ok value =>
      refine ⟨some value, fun _ => .done ?_⟩
      intro value' heq
      obtain rfl := Except.ok.inj heq
      exact ⟨rfl, hgood value rfl⟩

theorem pure {value : α} (hgood : good value) :
    Settles home good (Pure.pure value : Procedure α) := by
  have hresult : Settles home good (.mk (Pure.pure (.ok value)) : Procedure α) :=
    ofResult fun _ heq => Except.ok.inj heq ▸ hgood
  exact hresult

theorem throw (error : ResetError) :
    Settles home good (MonadExcept.throw error : Procedure α) := by
  have hresult : Settles home good (.mk (Pure.pure (.error error)) : Procedure α) :=
    ofResult (by simp)
  exact hresult

theorem describe (request : DescribeRequest) :
    Settles home (fun description => home.Shows (.describe request) description)
      (Procedure.describe request) := by
  by_cases hshown : ∃ description, home.Shows (.describe request) description
  · obtain ⟨description, hdescription⟩ := hshown
    refine ⟨some description, fun asks => .look (by simp [Request.method]) ?_ ?_⟩
    · intro error
      exact .done fun description hfailed => absurd hfailed (mapError_ne_ok error description)
    · intro response hresponse
      refine .done ?_
      intro value heq
      obtain rfl : response = value := Except.ok.inj heq
      exact ⟨congrArg some (hdescription.unique hresponse), hresponse⟩
  · refine ⟨none, fun asks => .look (by simp [Request.method]) ?_ ?_⟩
    · intro error
      exact .done fun description hfailed => absurd hfailed (mapError_ne_ok error description)
    · intro response hresponse
      exact absurd ⟨response, hresponse⟩ hshown

theorem readUntil {enough : List Event → Bool} {cursor : HistoryCursor}
    (hopen : isSatisfied cursor enough = false) :
    Settles home (fun _ => home.Holds cursor.workflowId cursor.runId)
      (Procedure.readUntil enough cursor) := by
  by_cases hread : ∃ last, Reads home enough cursor none last
  · obtain ⟨last, hlast⟩ := hread
    refine ⟨some last.pages.buffered, fun asks => .read fun failure last' hlast' => .done ?_⟩
    intro events heq
    cases failure with
    | some error => exact absurd heq (by simp)
    | none =>
        obtain rfl := hlast.unique hlast'
        obtain rfl := Except.ok.inj heq
        exact ⟨rfl, hlast.holds hopen⟩
  · refine ⟨none, fun asks => .read fun failure last' hlast' => .done ?_⟩
    intro events heq
    cases failure with
    | some error => exact absurd heq (by simp)
    | none => exact absurd ⟨last', hlast'⟩ hread

/-- The value that a procedure may bring decides what those behind it may bring. -/
theorem bind {procedure : Procedure α} {f : α → Procedure β} (h : Settles home good procedure)
    (hf : ∀ value, good value → Settles home good' (f value)) :
    Settles home good' (procedure >>= f) := by
  obtain ⟨value?, hviews⟩ := h
  have hnext : ∃ next? : Option β, ∀ value, value? = some value → good value → ∀ asks,
      Views home asks (fun result => ∀ next, result = .ok next → next? = some next ∧ good' next)
        (fun _ => False) (ExceptT.run (f value)) := by
    by_cases hvalue : ∃ value, value? = some value ∧ good value
    · obtain ⟨value, rfl, hgood⟩ := hvalue
      obtain ⟨next?, hnext⟩ := hf value hgood
      refine ⟨next?, ?_⟩
      rintro _ heq -
      obtain rfl := Option.some.inj heq
      exact hnext
    · exact ⟨none, fun value heq hgood => absurd ⟨value, heq, hgood⟩ hvalue⟩
  obtain ⟨next?, hnext⟩ := hnext
  refine ⟨next?, fun asks => (hviews asks).bind ?_ fun _ => False.elim⟩
  intro result hresult
  cases result with
  | error error => exact .done (by simp)
  | ok value =>
      obtain ⟨heq, hgood⟩ := hresult value rfl
      exact hnext value heq hgood asks

end Settles

/-- All resets that a program asks for while it looks at this service are at one anchor. -/
def Aims (home : Service) (asks : ResetAnchor → ResetRequest → Prop) (accepted : α → Prop)
    (program : Program α) : Prop :=
  ∃ anchor : ResetAnchor, 1 ≤ anchor.eventId ∧
    Views home (asks anchor) (fun _ => True) accepted program

/-- What follows looks that can bring only one value aims where it aims behind that value. -/
theorem Settles.aims {good : α → Prop} {procedure : Procedure α} {f : α → Procedure β}
    {asks : ResetAnchor → ResetRequest → Prop} {accepted : Except ResetError β → Prop}
    (h : Settles home good procedure)
    (hf : ∀ value, good value → Aims home asks accepted (ExceptT.run (f value))) :
    Aims home asks accepted (ExceptT.run (procedure >>= f)) := by
  obtain ⟨value?, hviews⟩ := h
  have hbind {anchor : ResetAnchor} (hnext : ∀ value, value? = some value → good value →
      Views home (asks anchor) (fun _ => True) accepted (ExceptT.run (f value))) :
      Views home (asks anchor) (fun _ => True) accepted (ExceptT.run (procedure >>= f)) := by
    refine (hviews (asks anchor)).bind ?_ fun _ => False.elim
    intro result hresult
    cases result with
    | error error => exact .done trivial
    | ok value =>
        obtain ⟨heq, hgood⟩ := hresult value rfl
        exact hnext value heq hgood
  by_cases hvalue : ∃ value, value? = some value ∧ good value
  · obtain ⟨value, rfl, hgood⟩ := hvalue
    obtain ⟨anchor, hevent, hnext⟩ := hf value hgood
    refine ⟨anchor, hevent, hbind ?_⟩
    rintro _ heq -
    obtain rfl := Option.some.inj heq
    exact hnext
  · -- Nothing good is ever seen, so no reset is asked for.
    exact ⟨⟨"", 1⟩, by simp, hbind fun value heq hgood => absurd ⟨value, heq, hgood⟩ hvalue⟩

end Program

open Program

namespace Plan

variable {home : Service} {plan : Plan} {workflowId requestId : String}

/-- An anchor in a run that the service has. -/
def IsHeld (home : Service) (workflowId : String) (anchor : ResetAnchor) : Prop :=
  1 ≤ anchor.eventId ∧ home.Holds workflowId anchor.runId

theorem isHeld_of {runId : String} {eventId : Int} {anchor : ResetAnchor}
    (hrun : home.Holds workflowId runId) (hof : ResetAnchor.of runId eventId = .ok anchor) :
    IsHeld home workflowId anchor := by
  unfold ResetAnchor.of at hof
  split at hof
  · exact absurd hof (by simp)
  · obtain rfl := Except.ok.inj hof
    exact ⟨by simp only; omega, hrun⟩

theorem anchorAt_settles {runId : String} (hrun : home.Holds workflowId runId)
    (eventId? : Option Int) :
    Settles home (IsHeld home workflowId)
      (.mk (pure (Strategy.anchorAt workflowId runId eventId?))) := by
  apply Settles.ofResult
  intro anchor hanchor
  cases eventId? with
  | none => exact absurd hanchor (by simp [Strategy.anchorAt])
  | some eventId => exact isHeld_of hrun hanchor

theorem lastTask_settles (domain runId : String) :
    Settles home (IsHeld home workflowId) (Strategy.lastTask domain workflowId runId) :=
  (Settles.readUntil rfl).bind fun _ hrun => anchorAt_settles hrun _

theorem resolve_settles (strategy : Strategy) (domain runId : String) :
    Settles home (IsHeld home workflowId) (strategy.resolve domain workflowId runId) := by
  cases strategy with
  | lastWorkflowTask => exact lastTask_settles domain runId
  | firstWorkflowTask => exact (Settles.readUntil rfl).bind fun _ hrun => anchorAt_settles hrun _
  | lastContinuedAsNew =>
      apply (Settles.readUntil rfl).bind
      intro events _
      split
      · exact lastTask_settles domain _
      · exact .throw _
  | badBinary checksum =>
      apply (Settles.describe _).bind
      intro description hshown
      split
      · exact .ofResult fun anchor => isHeld_of (Service.holds_of_describe hshown)
      · exact .throw _

theorem check_settles (filter : SafetyFilter) (domain : String) (target : WorkflowRef) :
    Settles home (fun _ => True) (filter.check domain target) := by
  apply (Settles.describe _).bind
  intro description _
  simp only
  split
  · exact .pure trivial
  · split
    · exact .pure trivial
    · split
      · apply (Settles.readUntil rfl).bind
        intro events _
        split
        · exact .pure trivial
        · exact .pure trivial
      · exact .pure trivial

/-- The reset of a workflow to an anchor in a run that the service has. -/
def AsksAt (home : Service) (plan : Plan) (workflowId requestId : String) (anchor : ResetAnchor)
    (request : ResetRequest) : Prop :=
  request = plan.resetRequest workflowId requestId anchor ∧ home.Holds workflowId anchor.runId

/-- A result that is no failure. -/
def IsDone (result : Except ResetError OutcomeStatus) : Prop :=
  ∃ status, result = .ok status

theorem submit_aims {anchor : ResetAnchor} (hheld : IsHeld home workflowId anchor) :
    Aims home (AsksAt home plan workflowId requestId) IsDone
      (ExceptT.run (plan.submit workflowId requestId anchor)) := by
  refine ⟨anchor, hheld.1, ?_⟩
  unfold submit
  split
  · exact .done trivial
  · exact .reset ⟨rfl, hheld.2⟩ (fun error => .done trivial) fun response => ⟨_, rfl, _, rfl⟩

/-- An attempt at a target aims where it aims behind its anchor. -/
theorem attempt_aims {asks : ResetAnchor → ResetRequest → Prop} {target : WorkflowRef}
    (hsubmit : ∀ anchor, IsHeld home target.workflowId anchor →
      Aims home asks IsDone (ExceptT.run (plan.submit target.workflowId requestId anchor))) :
    Aims home asks IsDone (ExceptT.run (plan.attempt .checked target requestId)) := by
  apply (check_settles plan.config.safetyFilter plan.config.domain target).aims
  intro verdict _
  cases verdict with
  | skip reason => exact ⟨⟨"", 1⟩, by simp, .done trivial⟩
  | proceed runId => exact (resolve_settles plan.config.strategy plan.config.domain runId).aims hsubmit

theorem attemptFrom_views {asks : ResetRequest → Prop}
    {operation : Program (Except ResetError OutcomeStatus)}
    (h : Views home asks (fun _ => True) IsDone operation) (attempt spare : Nat) :
    Views home asks (fun _ => True) (fun _ => True)
      (attemptFrom Program.rest ResetError.isRetryable (fun _ => operation) attempt spare) := by
  induction spare generalizing attempt with
  | zero => exact h.bind (fun _ _ => .done trivial) fun _ _ => ⟨_, rfl, trivial⟩
  | succ spare ih =>
      apply h.bind
      · intro result _
        cases result with
        | ok status => exact .done trivial
        | error error =>
            by_cases hretry : error.isRetryable
            · simp only [hretry, if_true]
              exact .pause (ih (attempt + 1))
            · simp only [hretry, Bool.false_eq_true, if_false]
              exact .done trivial
      · rintro _ ⟨status, rfl⟩
        exact ⟨_, rfl, trivial⟩

theorem process_aims_of {asks : ResetAnchor → ResetRequest → Prop} {target : WorkflowRef}
    (hsubmit : ∀ anchor, IsHeld home target.workflowId anchor →
      Aims home asks IsDone (ExceptT.run (plan.submit target.workflowId requestId anchor))) :
    Aims home asks (fun _ => True) (plan.process .checked target requestId) := by
  obtain ⟨anchor, hevent, hviews⟩ := attempt_aims hsubmit
  exact ⟨anchor, hevent, attemptFrom_views hviews 1 plan.settings.retry.spare⟩

/-- All resets that the work on a target asks for are at one anchor. -/
theorem process_aims (target : WorkflowRef) :
    Aims home (AsksAt home plan target.workflowId requestId) (fun _ => True)
      (plan.process .checked target requestId) :=
  process_aims_of fun _ => submit_aims

/-- A dry run asks for no reset. -/
theorem process_dry (hdry : plan.config.dryRun = true) (target : WorkflowRef) :
    Views home (fun _ => False) (fun _ => True) (fun _ => True)
      (plan.process .checked target requestId) := by
  have haims : Aims home (fun _ _ => False) (fun _ => True)
      (plan.process .checked target requestId) := by
    apply process_aims_of
    intro anchor hheld
    refine ⟨anchor, hheld.1, ?_⟩
    rw [submit, if_pos hdry]
    exact .done trivial
  obtain ⟨anchor, -, hviews⟩ := haims
  exact hviews

end Plan

end Rewind
