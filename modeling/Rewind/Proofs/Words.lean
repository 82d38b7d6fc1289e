import Rewind.Proofs.Batch.Amid
import Rewind.Proofs.Forms
import Rewind.Proofs.Report
import Rewind.Proofs.Run
import Rewind.Proofs.Scan

/-!
Ids stay words.

A fixture holds words of 64 bits, and so does a store that was made of one: whatever it is called for,
the ids that a reset counts on with are words again. A program that gets nothing but words in answers
ends with words, too, so the event of every anchor that is found is one.

Main statements: `Service.Later.proper` for stores, `Plan.process_ensures` for the work on a target, and
`Batch.Chronicle.isProper_status` for the outcomes of batches.
-/

namespace Rewind

open Json (IsInt64)

/-! ### Stores -/

theorem Event.isInt64_idAfter {eventId : Int} (h : IsInt64 eventId) : IsInt64 (idAfter eventId) := by
  obtain ⟨hlow, hhigh⟩ := h
  have hleast : Int64.minValue.toInt = -lastId - 1 := by decide
  have hmost : Int64.maxValue.toInt = lastId := by decide
  rw [idAfter]
  split
  · constructor <;> omega
  · constructor <;> omega

namespace Store

/-- The points and events of all runs hold words. -/
def Proper (s : Store) : Prop :=
  ∀ workflowId runId run, s.runs workflowId runId = some run → run.IsProper

theorem proper_empty (naming : String → Nat → String) : (empty naming).Proper :=
  fun _ _ _ hnone => nomatch hnone

theorem Proper.insertRun {s : Store} (h : s.Proper) {run : Run} (hrun : run.IsProper) :
    (s.insertRun run).Proper := by
  intro workflowId runId found hfound
  simp only [Store.insertRun, setRun, setCurrent] at hfound
  split at hfound
  · obtain rfl := Option.some.inj hfound
    exact hrun
  · exact h _ _ _ hfound

/-- A reset copies events, and counts on from the last one. -/
theorem isProper_resetRun {s : Store} (h : s.Proper) {r : ResetRequest} {kept : List Event}
    (hkept : s.keptEvents r = .ok kept) : (s.resetRun r kept).IsProper := by
  obtain ⟨baseId, base, -, hbase, hthrough⟩ := keptEvents_eq_ok hkept
  obtain ⟨front, event, back, hhistory, hevent, rfl⟩ := historyThrough?_eq_some hthrough
  have hevents : ∀ event ∈ base.history, event.IsProper := (h _ _ _ hbase).history
  rw [hhistory] at hevents
  have hid : IsInt64 r.eventId := hevent ▸ (hevents event (by simp)).eventId
  have hnext := Event.isInt64_idAfter hid
  refine ⟨List.forall_mem_nil _, ?_⟩
  simp only [resetRun, resetEvents, List.mem_append, List.mem_cons, List.not_mem_nil, or_false]
  rintro event' ((hfront | rfl) | rfl | rfl)
  · exact hevents event' (List.mem_append_left _ hfront)
  · exact hevents event' (by simp)
  · exact ⟨hnext, by simp [Event.taskFailed, Event.plain], by simp [Event.taskFailed, Event.plain]⟩
  · exact ⟨Event.isInt64_idAfter hnext, by simp [Event.taskScheduled, Event.plain],
      by simp [Event.taskScheduled, Event.plain]⟩

theorem Step.proper {s s' : Store} {entry : Option (ResetRequest × String)} (h : Step s s' entry)
    (hs : s.Proper) : s'.Proper := by
  cases h with
  | kept failures calls => exact hs
  | accepted calls r kept hkept => exact hs.insertRun (isProper_resetRun hs hkept)

theorem Logs.proper {before after : Store} {log : List (ResetRequest × String)}
    (h : Logs before after log) (hs : before.Proper) : after.Proper := by
  induction h with
  | start => exact hs
  | step _ hstep ih => exact hstep.proper ih

/-- What is told of a run is its reset points. -/
theorem exists_run_of_describe (s : Store) {request : DescribeRequest} {description : Description}
    (h : s.describe request = .ok description) :
    ∃ run, s.resolve request.workflowId request.runId = .ok run ∧ description.points = run.points := by
  rw [describe] at h
  cases hcurrent : s.currentRun? request.workflowId with
  | error error =>
      rw [hcurrent] at h
      cases h
  | ok current =>
      rw [hcurrent] at h
      cases hrun : s.resolve request.workflowId request.runId with
      | error error =>
          simp only [Except.bind, hrun] at h
          cases h
      | ok run =>
          simp only [Except.bind, hrun] at h
          obtain rfl := Except.ok.inj h
          exact ⟨run, rfl, rfl⟩

end Store

/-- Calls keep words. -/
theorem Service.Later.proper {s t : Service} (h : s.Later t) (hs : s.store.Proper) :
    t.store.Proper := by
  obtain ⟨log, hlog⟩ := h.exists_logs
  exact hlog.proper hs

/-- The store of a proper fixture holds words. -/
theorem Fixture.proper_store {fixture : Fixture} (h : fixture.IsProper)
    (naming : String → Nat → String) : (fixture.store naming).Proper :=
  fixture.store_keeps naming Store.Proper (Store.proper_empty naming)
    (fun _ hs run hrun => hs.insertRun (h.runs run hrun)) (fun _ hs _ _ => hs) (fun _ hs _ _ => hs)

/-! ### Answers -/

/-- What an answer tells of a run holds words. -/
def Request.ProperAnswer : (request : Request) → Except ServiceError request.Response → Prop
  | .describe _, .ok description => Description.IsProper description
  | .history _, .ok page => ∀ event ∈ Page.items page, event.IsProper
  | _, _ => True

theorem Service.properAnswer_call {s : Service} (h : s.store.Proper) (request : Request) :
    request.ProperAnswer (s.call request).1 := by
  cases hanswer : (s.call request).1 with
  | error error => cases request <;> trivial
  | ok response =>
      have hserved := served_of_ok hanswer
      cases request with
      | scan request | reset request => trivial
      | describe request =>
          obtain ⟨run, hrun, hpoints⟩ :=
            (s.store.count .describe).exists_run_of_describe hserved
          obtain ⟨runId, hfound⟩ := Store.exists_runs_of_resolve hrun
          intro point hpoint
          exact (h _ _ _ hfound).points point (hpoints ▸ hpoint)
      | history request =>
          obtain ⟨runId, run, offset, limit, hrun, -, -, rfl⟩ :=
            (s.store.count .getHistory).exists_page hserved
          intro event hevent
          exact (h _ _ _ hrun).history event (List.mem_of_mem_drop (List.mem_of_mem_take hevent))

/-! ### Programs -/

namespace Program

variable {α β : Type} {ends : α → Prop}

/-- The events that a cursor has at hand hold words. -/
def ProperCursor (cursor : HistoryCursor) : Prop :=
  ∀ event ∈ cursor.pages.buffered, event.IsProper

/-- If all answers hold words, a program ends with values of a kind. Reading on keeps the events at hand
proper. -/
inductive Ensures (ends : α → Prop) : Program α → Prop
  | done {value : α} : ends value → Ensures ends (.done value)
  | call {request : Request} {resume : Except ServiceError request.Response → Program α} :
      (∀ answer, request.ProperAnswer answer → Ensures ends (resume answer)) →
      Ensures ends (.call request resume)
  | pause {resume : Unit → Program α} : Ensures ends (resume ()) → Ensures ends (.pause resume)
  | read {cursor : HistoryCursor} {enough : List Event → Bool}
      {resume : Option ServiceError → HistoryCursor → Program α} :
      (∀ failure cursor', (ProperCursor cursor → ProperCursor cursor') →
        Ensures ends (resume failure cursor')) →
      Ensures ends (.read cursor enough resume)

namespace Ensures

/-- What may come next: an end of the right kind, a call, or a pause. -/
theorem next {program : Program α} (h : Ensures ends program) :
    match program.next with
    | .done value => ends value
    | .ask request resume => ∀ answer, request.ProperAnswer answer → Ensures ends (resume answer)
    | .pause resume => Ensures ends resume := by
  induction h with
  | done hvalue => exact hvalue
  | call hresume => exact hresume
  | pause hresume => exact hresume
  | @read cursor enough resume hresume ih =>
      simp only [Program.next]
      by_cases hsatisfied : isSatisfied cursor enough
      · simpa [hsatisfied] using ih none cursor id
      · simp only [hsatisfied, Bool.false_eq_true, ↓reduceIte]
        intro answer hanswer
        cases answer with
        | error error => exact hresume (some error) cursor id
        | ok page =>
            refine .read fun failure cursor' hkept => hresume failure cursor' fun hcursor => ?_
            exact hkept (List.forall_mem_append.mpr ⟨hcursor, hanswer⟩)

/-- What follows a program takes up the value that it ends with. -/
theorem bind {ends' : β → Prop} {program : Program α} {f : α → Program β}
    (h : Ensures ends program) (hf : ∀ value, ends value → Ensures ends' (f value)) :
    Ensures ends' (program.bind f) := by
  induction h with
  | done hvalue => exact hf _ hvalue
  | call _ ih => exact .call ih
  | pause _ ih => exact .pause ih
  | read _ ih => exact .read ih

/-- What holds of all ends may be weakened. -/
theorem mono {ends' : α → Prop} {program : Program α} (h : Ensures ends program)
    (hends : ∀ value, ends value → ends' value) : Ensures ends' program := by
  induction h with
  | done hvalue => exact .done (hends _ hvalue)
  | call _ ih => exact .call ih
  | pause _ ih => exact .pause ih
  | read _ ih => exact .read ih

end Ensures

theorem ensures_any (program : Program α) : Ensures (fun _ => True) program := by
  induction program with
  | done value => exact .done trivial
  | call request resume ih => exact .call fun answer _ => ih answer
  | pause resume ih => exact .pause (ih ())
  | read cursor enough resume ih => exact .read fun failure cursor' _ => ih failure cursor'

end Program

open Program

namespace Procedure

variable {α β : Type} {holds : α → Prop} {procedure : Procedure α}

/-- If all answers hold words, a procedure fails or comes to a value of a kind. -/
abbrev Ensures (holds : α → Prop) (procedure : Procedure α) : Prop :=
  Program.Ensures (fun result => ∀ value, result = .ok value → holds value) (ExceptT.run procedure)

theorem Ensures.of_result {result : Except ResetError α}
    (h : ∀ value, result = .ok value → holds value) :
    Ensures holds (ExceptT.mk (pure result)) :=
  .done h

theorem Ensures.bind {holds' : β → Prop} {f : α → Procedure β} (h : Ensures holds procedure)
    (hf : ∀ value, holds value → Ensures holds' (f value)) : Ensures holds' (procedure >>= f) := by
  refine Program.Ensures.bind h fun result hresult => ?_
  cases result with
  | ok value => exact hf value (hresult value rfl)
  | error error => exact .done fun _ hvalue => nomatch hvalue

theorem ensures_any (procedure : Procedure α) : Ensures (fun _ => True) procedure :=
  (Program.ensures_any (ExceptT.run procedure)).mono fun _ _ _ _ => trivial

theorem ensures_describe (request : DescribeRequest) :
    Ensures Description.IsProper (describe request) := by
  refine .call fun answer hanswer => .done fun description hdescription => ?_
  cases answer with
  | error error => exact absurd hdescription (mapError_ne_ok error description)
  | ok found =>
      obtain rfl : found = description := Except.ok.inj hdescription
      exact hanswer

/-- The events that are read hold words. -/
theorem ensures_readUntil (enough : List Event → Bool) (domain workflowId runId : String)
    (pageSize : Nat) :
    Ensures (fun events => ∀ event ∈ events, event.IsProper)
      (readUntil enough ⟨domain, workflowId, runId, pageSize, .start⟩) := by
  have hstart : ProperCursor ⟨domain, workflowId, runId, pageSize, .start⟩ :=
    List.forall_mem_nil _
  refine .read fun failure cursor' hkept => ?_
  cases failure with
  | some error => exact .done fun _ hvalue => nomatch hvalue
  | none =>
      refine .done fun events hevents => ?_
      obtain rfl : cursor'.pages.buffered = events := Except.ok.inj hevents
      exact hkept hstart

end Procedure

open Procedure (ensures_readUntil ensures_describe)

/-! ### Anchors -/

namespace Event

variable {event : Event} (h : event.IsProper) {eventId : Int}

include h

theorem isInt64_of_completedTask? (htask : event.completedTask? = some eventId) :
    IsInt64 eventId := by
  unfold completedTask? at htask
  split at htask
  · exact Option.some.inj htask ▸ h.eventId
  · cases htask

theorem isInt64_of_scheduledTask? (htask : event.scheduledTask? = some eventId) :
    IsInt64 eventId := by
  unfold scheduledTask? at htask
  split at htask
  · exact Option.some.inj htask ▸ isInt64_idAfter h.eventId
  · cases htask

theorem isInt64_of_task? (htask : event.task? = some eventId) : IsInt64 eventId := by
  rw [task?] at htask
  cases hcompleted : event.completedTask? with
  | none => exact isInt64_of_scheduledTask? h (by simpa [hcompleted] using htask)
  | some found =>
      obtain rfl : found = eventId := by simpa [hcompleted] using htask
      exact isInt64_of_completedTask? h hcompleted

end Event

section

variable {events : List Event} (hevents : ∀ event ∈ events, event.IsProper) {eventId : Int}

include hevents

theorem LastTaskScan.isInt64_of_eventId? (hfound : (ofEvents events).eventId? = some eventId) :
    IsInt64 eventId := by
  rw [eventId?_ofEvents] at hfound
  obtain ⟨hlast, -⟩ := Option.filter_eq_some_iff.mp hfound
  obtain ⟨event, hevent, htask⟩ := List.mem_filterMap.mp (List.mem_of_getLast? hlast)
  exact Event.isInt64_of_task? (hevents event hevent) htask

theorem FirstTaskScan.isInt64_of_eventId? (hfound : (ofEvents events).eventId? = some eventId) :
    IsInt64 eventId := by
  rw [eventId?_ofEvents] at hfound
  cases hcompleted : (events.filterMap Event.completedTask?).head? with
  | some first =>
      obtain rfl : first = eventId := by simpa [hcompleted] using hfound
      obtain ⟨event, hevent, htask⟩ := List.mem_filterMap.mp (List.mem_of_head? hcompleted)
      exact Event.isInt64_of_completedTask? (hevents event hevent) htask
  | none =>
      have hscheduled : (events.filterMap Event.scheduledTask?).head? = some eventId := by
        simpa [hcompleted] using hfound
      obtain ⟨event, hevent, htask⟩ := List.mem_filterMap.mp (List.mem_of_head? hscheduled)
      exact Event.isInt64_of_scheduledTask? (hevents event hevent) htask

end

theorem ResetAnchor.eq_of_of {runId : String} {eventId : Int} {anchor : ResetAnchor}
    (h : of runId eventId = .ok anchor) : anchor = ⟨runId, eventId⟩ := by
  unfold of at h
  split at h
  · cases h
  · exact (Except.ok.inj h).symm

namespace Strategy

/-- The event of an anchor is a word. -/
abbrev Finds (procedure : Procedure ResetAnchor) : Prop :=
  Procedure.Ensures (fun anchor => IsInt64 anchor.eventId) procedure

theorem finds_of {runId : String} {eventId : Int} (h : IsInt64 eventId) :
    Finds (ExceptT.mk (pure (ResetAnchor.of runId eventId))) :=
  .of_result fun _ hanchor => ResetAnchor.eq_of_of hanchor ▸ h

theorem finds_anchorAt {workflowId runId : String} {found : Option Int}
    (h : ∀ eventId, found = some eventId → IsInt64 eventId) :
    Finds (ExceptT.mk (pure (anchorAt workflowId runId found))) := by
  cases found with
  | none => exact .of_result fun _ hanchor => nomatch hanchor
  | some eventId => exact finds_of (h eventId rfl)

theorem finds_lastTask (domain workflowId runId : String) :
    Finds (lastTask domain workflowId runId) :=
  (ensures_readUntil _ domain workflowId runId _).bind fun _ hevents =>
    finds_anchorAt fun _ => LastTaskScan.isInt64_of_eventId? hevents

theorem finds_resolve (strategy : Strategy) (domain workflowId runId : String) :
    Finds (strategy.resolve domain workflowId runId) := by
  cases strategy with
  | lastWorkflowTask => exact finds_lastTask domain workflowId runId
  | firstWorkflowTask =>
      exact (ensures_readUntil _ domain workflowId runId _).bind fun _ hevents =>
        finds_anchorAt fun _ => FirstTaskScan.isInt64_of_eventId? hevents
  | lastContinuedAsNew =>
      refine (ensures_readUntil _ domain workflowId runId _).bind fun events _ => ?_
      split
      · exact finds_lastTask domain workflowId _
      · exact .of_result fun _ hanchor => nomatch hanchor
  | badBinary checksum =>
      refine (ensures_describe _).bind fun description hdescription => ?_
      split
      · next point hpoint => exact finds_of (hdescription point (List.mem_of_find?_eq_some hpoint))
      · exact .of_result fun _ hanchor => nomatch hanchor

end Strategy

/-- If the last attempt at a target came to a status, then to one with words. -/
def Attempted.IsProper (attempted : Attempted ResetError OutcomeStatus) : Prop :=
  ∀ status, attempted.result = .ok status → status.IsProper

namespace Plan

variable (plan : Plan) (target : WorkflowRef) (requestId : String)

theorem submit_ensures {anchor : ResetAnchor} (h : IsInt64 anchor.eventId) (workflowId : String) :
    Procedure.Ensures OutcomeStatus.IsProper (plan.submit workflowId requestId anchor) := by
  unfold submit
  split
  · exact .of_result fun _ hstatus => Except.ok.inj hstatus ▸ h
  · exact (Procedure.ensures_any _).bind fun _ _ =>
      .of_result fun _ hstatus => Except.ok.inj hstatus ▸ h

theorem attemptChecked_ensures :
    Procedure.Ensures OutcomeStatus.IsProper (plan.attemptChecked target requestId) := by
  refine (Procedure.ensures_any _).bind fun verdict _ => ?_
  cases verdict with
  | skip reason => exact .of_result fun _ hstatus => Except.ok.inj hstatus ▸ trivial
  | proceed runId =>
      exact (Strategy.finds_resolve _ _ _ _).bind fun _ hanchor =>
        plan.submit_ensures requestId hanchor target.workflowId

/-- The work on a target ends with words, however often it is tried. -/
theorem process_ensures :
    Ensures Attempted.IsProper (plan.process .checked target requestId) := by
  have hattempts (attempt spare : Nat) :
      Ensures Attempted.IsProper
        (attemptFrom Program.rest ResetError.isRetryable
          (fun _ => ExceptT.run (plan.attempt .checked target requestId)) attempt spare) := by
    have hattempt := plan.attemptChecked_ensures target requestId
    induction spare generalizing attempt with
    | zero => exact Program.Ensures.bind hattempt fun _ hresult => .done hresult
    | succ spare ih =>
        refine Program.Ensures.bind hattempt fun result hresult => ?_
        cases result with
        | ok status => exact .done hresult
        | error error =>
            simp only
            split
            · exact .pause (ih _)
            · exact .done hresult
  exact hattempts 1 _

theorem isProper_outcome {attempted : Attempted ResetError OutcomeStatus}
    (h : attempted.IsProper) : (plan.outcome target attempted).status.IsProper := by
  cases hresult : attempted.result with
  | ok status => simpa [outcome, Outcome.of, hresult] using h status hresult
  | error error => simp [outcome, Outcome.of, hresult, OutcomeStatus.IsProper]

end Plan

/-! ### Batches -/

namespace Batch

/-- What a worker is at ends with words, and its outcomes hold words. -/
structure Worded (worker : Worker) (desk : Desk) : Prop where
  current : ∀ target program, worker.task = .busy target program →
    Ensures Attempted.IsProper program
  finished : ∀ entry ∈ desk.finished, entry.2.status.IsProper

namespace Chronicle

variable {plan : Plan} {c c' : Chronicle}

theorem worded_of_move {worker worker' : Worker} {f : Desk → Desk} {service : Service} {desk : Desk}
    (h : Move plan c worker worker' f service) (hproper : c.state.service.store.Proper)
    (hdesk : Worded worker desk) : Worded worker' (f desk) := by
  cases h with
  | taken target rest htask hqueue =>
      refine ⟨fun target' program hbusy => ?_, hdesk.finished⟩
      obtain ⟨rfl, rfl⟩ := Task.busy.inj hbusy
      exact plan.process_ensures target _
  | left htask hqueue => exact ⟨by simp, hdesk.finished⟩
  | finished target program attempted htask hnext =>
      refine ⟨by simp, ?_⟩
      have hends := (hdesk.current target program htask).next
      rw [hnext] at hends
      simp only [Desk.close, List.mem_append, Option.mem_toList, Option.map_eq_some_iff]
      rintro entry (hentry | ⟨visit, -, rfl⟩)
      · exact hdesk.finished entry hentry
      · exact plan.isProper_outcome target hends
  | called target program request resume htask hnext =>
      refine ⟨fun target' program' hbusy => ?_, ?_⟩
      · obtain ⟨rfl, rfl⟩ := Task.busy.inj hbusy
        have hresume := (hdesk.current target program htask).next
        rw [hnext] at hresume
        exact hresume _ (c.state.service.properAnswer_call hproper request)
      · cases hvisit : desk.current <;> simpa [Desk.note, hvisit] using hdesk.finished
  | rested target program resume htask hnext =>
      refine ⟨fun target' program' hbusy => ?_, hdesk.finished⟩
      obtain ⟨rfl, rfl⟩ := Task.busy.inj hbusy
      have hresume := (hdesk.current target program htask).next
      rw [hnext] at hresume
      exact hresume
  | readied htask => exact ⟨by simp, hdesk.finished⟩

/-- In a batch that starts with words, all workers go on to words. -/
theorem worded_of_follow? {service : Service} {metrics : Metrics} {source : Source} {started : Nat}
    {schedule : List Actor} (hproper : service.store.Proper)
    (hrun : (start plan service metrics source started).follow? plan schedule = some c) :
    List.Forall₂ Worded c.state.workers.toList c.desks := by
  have hboth : c.state.service.store.Proper ∧
      List.Forall₂ Worded c.state.workers.toList c.desks := by
    refine of_follow? (fun c => c.state.service.store.Proper ∧
      List.Forall₂ Worded c.state.workers.toList c.desks) ?_ hrun
      ⟨hproper, forall₂_start ⟨by simp, by simp [Desk.empty]⟩ plan service metrics source started⟩
    intro c c' h hc
    refine ⟨(later_of_change h).proper hc.1, ?_⟩
    exact forall₂_of_change h hc.2 fun _ _ _ _ hmove => worded_of_move hmove hc.1
  exact hboth.2

/-- The outcomes of a batch that starts with words hold words. -/
theorem isProper_status {service : Service} {metrics : Metrics} {source : Source} {started : Nat}
    {schedule : List Actor} (hproper : service.store.Proper)
    (hrun : (start plan service metrics source started).follow? plan schedule = some c)
    {outcome : Outcome} (houtcome : outcome ∈ c.state.outcomes) : outcome.status.IsProper := by
  rcases (accounted_of_follow? hrun).excluded_or_finished houtcome with ⟨target, rfl⟩ |
    ⟨desk, hdesk, entry, hentry, rfl⟩
  · trivial
  · obtain ⟨worker, -, hworded⟩ := exists_left (worded_of_follow? hproper hrun) hdesk
    exact hworded.finished entry hentry

end Chronicle

end Batch

end Rewind
