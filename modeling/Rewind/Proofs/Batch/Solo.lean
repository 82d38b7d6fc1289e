import Mathlib.Logic.Function.Iterate
import Rewind.Proofs.Batch.Visits
import Rewind.Proofs.Twin

/-!
The work on one target, alone with a service.

Alone, the work is a machine that goes on by its next call or pause and stops at its end. A visit of
a batch tracks that machine as long as nobody else touches the part of the service that belongs to its
workflow, whoever else calls the service in between. Request ids and the ids of new runs may differ.

Main statements: `Tracks.ask` and `Tracks.next_done` for the steps of a visit, and `Verdict.unique` for
its end.
-/

namespace Rewind

/-- The exchange without the request id. -/
def Exchange.outline (exchange : Exchange) : Exchange :=
  { exchange with request := exchange.request.anonymous }

namespace Batch

/-- The calls of a visit without times, answers and request ids. -/
def Visit.outline (visit : Visit) : List Exchange :=
  visit.calls.map fun call => call.exchange.outline

/-- The work on a target with a service. -/
structure Solo where
  work : Program (Attempted ResetError OutcomeStatus)
  service : Service

namespace Solo

/-- Begins with a target, with an empty journal. -/
def begin (plan : Plan) (home : Service) (target : WorkflowRef) : Solo :=
  ⟨plan.process .checked target "", { home with journal := [] }⟩

/-- Goes on to the next call or pause, and stays at the end. -/
def advance (x : Solo) : Solo :=
  match x.work.next with
  | .done _ => x
  | .ask request resume =>
      ⟨resume (x.service.call request).1, (x.service.call request).2⟩
  | .pause resume => ⟨resume, x.service⟩

def outline (x : Solo) : List Exchange :=
  x.service.journal.map Exchange.outline

theorem advance_of_done {x : Solo} {attempted : Attempted ResetError OutcomeStatus}
    (hdone : x.work.next = .done attempted) : x.advance = x := by
  rw [advance, hdone]

theorem advance_of_ask {x : Solo} {request : Request}
    {resume : Except ServiceError request.Response → Program (Attempted ResetError OutcomeStatus)}
    (hask : x.work.next = .ask request resume) :
    x.advance = ⟨resume (x.service.call request).1, (x.service.call request).2⟩ := by
  rw [advance, hask]

theorem advance_of_pause {x : Solo} {resume : Program (Attempted ResetError OutcomeStatus)}
    (hpause : x.work.next = .pause resume) : x.advance = ⟨resume, x.service⟩ := by
  rw [advance, hpause]

/-- From its end on nothing changes. -/
theorem iterate_of_done {x : Solo} {attempted : Attempted ResetError OutcomeStatus} {m n : Nat}
    (hdone : (advance^[m] x).work.next = .done attempted) (hle : m ≤ n) :
    advance^[n] x = advance^[m] x := by
  obtain ⟨k, rfl⟩ := Nat.exists_eq_add_of_le hle
  rw [Nat.add_comm, Function.iterate_add_apply]
  exact Function.iterate_fixed (advance_of_done hdone) k

end Solo

/-- How the work on a target ends alone, and the calls that it makes. -/
def Verdict (plan : Plan) (home : Service) (target : WorkflowRef)
    (attempted : Attempted ResetError OutcomeStatus) (outline : List Exchange) : Prop :=
  ∃ n, (Solo.advance^[n] (.begin plan home target)).work.next = .done attempted ∧
    (Solo.advance^[n] (.begin plan home target)).outline = outline

theorem Verdict.unique {plan : Plan} {home : Service} {target : WorkflowRef}
    {attempted attempted' : Attempted ResetError OutcomeStatus} {outline outline' : List Exchange}
    (h : Verdict plan home target attempted outline)
    (h' : Verdict plan home target attempted' outline') :
    attempted = attempted' ∧ outline = outline' := by
  obtain ⟨m, hdone, rfl⟩ := h
  obtain ⟨n, hdone', rfl⟩ := h'
  have hsame : Solo.advance^[m] (.begin plan home target) =
      Solo.advance^[n] (.begin plan home target) := by
    rcases Nat.le_total m n with hle | hle
    · exact (Solo.iterate_of_done hdone hle).symm
    · exact Solo.iterate_of_done hdone' hle
  rw [hsame, hdone'] at hdone
  exact ⟨(Program.Next.done.inj hdone).symm, by rw [hsame]⟩

/-- A visit has come as far as the machine: both go on alike, on services that agree on the
workflow, or both have ended with a reset to the same anchor. -/
structure Tracks (workflowId : String) (visit : Visit)
    (work : Program (Attempted ResetError OutcomeStatus)) (service : Service) (x : Solo) :
    Prop where
  outline : visit.outline = x.outline
  going : (Program.Twin Eq Plan.BothAttempted work x.work ∧
      service.missed? = x.service.missed? ∧
      service.store.SamePart workflowId x.service.store) ∨
    ∃ attempted attempted', work = .done attempted ∧ x.work = .done attempted' ∧
      Plan.BothAttempted attempted attempted'

namespace Tracks

variable {workflowId : String} {visit : Visit}
  {work : Program (Attempted ResetError OutcomeStatus)} {service service' : Service} {x : Solo}

/-- At the start nothing was called. -/
theorem begin {plan plan₀ : Plan} (hlike : plan.Like plan₀) {service₀ : Service} (target : WorkflowRef)
    (requestId : String) (hmissed : service.missed? = service₀.missed?)
    (hpart : service.store.SamePart target.workflowId service₀.store) :
    Tracks target.workflowId ⟨target, requestId, []⟩ (plan.process .checked target requestId)
      service (.begin plan₀ service₀ target) :=
  ⟨rfl, .inl ⟨Plan.process_twin hlike target requestId "", hmissed, hpart⟩⟩

/-- Others may call, as long as they leave the part of the workflow alone. -/
theorem frame (h : Tracks workflowId visit work service x)
    (hmissed : service'.missed? = service.missed?)
    (hpart : service'.store.SamePart workflowId service.store) :
    Tracks workflowId visit work service' x := by
  refine ⟨h.outline, ?_⟩
  rcases h.going with ⟨htwin, hx, hsame⟩ | hended
  · exact .inl ⟨htwin, hmissed.trans hx, hpart.trans hsame⟩
  · exact .inr hended

/-- A visit ends where the machine ends, and with the same result but for the id of a new run. -/
theorem next_done (h : Tracks workflowId visit work service x)
    {attempted : Attempted ResetError OutcomeStatus} (hdone : work.next = .done attempted) :
    ∃ attempted', x.work.next = .done attempted' ∧
      (attempted = attempted' ∨ Plan.BothAttempted attempted attempted') := by
  rcases h.going with ⟨htwin, -, -⟩ | ⟨value, value', rfl, hx, hboth⟩
  · have hnext := htwin.next
    rw [hdone] at hnext
    generalize hx : x.work.next = next at hnext
    cases hnext with
    | done heq => exact ⟨_, rfl, .inl heq⟩
  · obtain rfl := Program.Next.done.inj hdone
    exact ⟨value', by rw [hx]; rfl, .inr hboth⟩

theorem pause (h : Tracks workflowId visit work service x)
    {resume : Program (Attempted ResetError OutcomeStatus)} (hpause : work.next = .pause resume) :
    Tracks workflowId visit resume service x.advance := by
  rcases h.going with ⟨htwin, hmissed, hsame⟩ | ⟨value, value', rfl, -, -⟩
  · have hnext := htwin.next
    rw [hpause] at hnext
    generalize hx : x.work.next = next at hnext
    cases hnext with
    | pause hresume =>
        rw [Solo.advance_of_pause hx]
        exact ⟨h.outline, .inl ⟨hresume, hmissed, hsame⟩⟩
  · exact absurd hpause (by simp [Program.next])

/-- A call of the visit is the call of the machine, and has the same fate. -/
theorem ask (h : Tracks workflowId visit work service x) {request : Request}
    {resume : Except ServiceError request.Response → Program (Attempted ResetError OutcomeStatus)}
    (hask : work.next = .ask request resume) (hsubject : request.subject = workflowId)
    (hscan : request.method ≠ .scan) (time : Nat) :
    Tracks workflowId (visit.after ⟨time, request, (service.call request).1⟩)
      (resume (service.call request).1) (service.call request).2 x.advance := by
  -- The outlines grow by one exchange each.
  have houtline {request' : Request} (hanonymous : request.anonymous = request'.anonymous)
      (hfate : Service.failure? (service.call request).1 =
        Service.failure? (x.service.call request').1) :
      (visit.after ⟨time, request, (service.call request).1⟩).outline =
        ((x.service.call request').2.journal.map Exchange.outline) := by
    have hbefore : visit.outline = x.service.journal.map Exchange.outline := h.outline
    have hjournal : (x.service.call request').2.journal = x.service.journal ++
        [⟨request', Service.failure? (x.service.call request').1⟩] := rfl
    rw [hjournal, List.map_append, ← hbefore]
    simp [Visit.outline, Visit.after, Call.exchange, Exchange.outline, hanonymous, hfate]
  rcases h.going with ⟨htwin, hmissed, hsame⟩ | ⟨value, value', rfl, -, -⟩
  · have hnext := htwin.next
    rw [hask] at hnext
    generalize hx : x.work.next = next at hnext
    cases hnext with
    | look hmethod hresume =>
        obtain ⟨hanswer, hpart⟩ := Service.call_look hmissed hsame hsubject hscan hmethod
        rw [Solo.advance_of_ask hx]
        refine ⟨houtline rfl (by rw [hanswer]), .inl ⟨?_, hmissed, hpart⟩⟩
        rw [← hanswer]
        exact hresume _
    | @reset reset reset' _ _ hanonymous herror hok =>
        rw [Solo.advance_of_ask hx]
        have hrequest : (Request.reset reset).anonymous = (Request.reset reset').anonymous := by
          simp only [Request.anonymous, hanonymous]
        rcases Service.call_reset hmissed hsame hsubject hanonymous with
          ⟨error, hfailed, hfailed', hpart⟩ | ⟨response, response', haccepted, haccepted'⟩
        · refine ⟨houtline hrequest (by rw [hfailed, hfailed']; rfl), .inl ⟨?_, hmissed, hpart⟩⟩
          rw [hfailed, hfailed']
          exact herror error
        · refine ⟨houtline hrequest (by rw [haccepted, haccepted']; rfl), .inr ?_⟩
          rw [haccepted, haccepted']
          exact hok response response'
  · exact absurd hask (by simp [Program.next])

end Tracks

end Batch

end Rewind
