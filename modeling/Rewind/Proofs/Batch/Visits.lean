import Rewind.Proofs.Batch.Bench
import Rewind.Proofs.Process

/-!
Visits: the work on each target, with the calls that it made.

A visit that is open is at a program that keeps to the rules for its target. A visit that is closed
ended as those rules say, so its outcome tells which reset was accepted for it, if any.

Main statements: `lawful_of_change`, and for visits with their outcomes `Closed.accepted_eq`.
-/

namespace Rewind.Batch

namespace Visit

theorem accepted_after (visit : Visit) (call : Call) :
    (visit.after call).accepted = visit.accepted ++ call.accepted?.toList := by
  cases haccepted : call.accepted? <;> simp [accepted, after, haccepted]

/-- The calls of a visit kept to the rules, and have brought that standing. -/
inductive Ruled (plan : Plan) : Visit → Standing → Prop
  | begun (target : WorkflowRef) (requestId : String) :
      Ruled plan ⟨target, requestId, []⟩ .initial
  | called {visit : Visit} {standing : Standing} (call : Call) :
      Ruled plan visit standing →
      (plan.rules visit.target.workflowId visit.requestId).allows standing call.request →
      Ruled plan (visit.after call) (standing.after call.request call.answer)

namespace Ruled

variable {plan : Plan} {visit : Visit} {standing : Standing}

/-- The accepted reset of a visit is the one in its standing. -/
theorem accepted_eq (h : Ruled plan visit standing) :
    visit.accepted = standing.accepted.toList := by
  induction h with
  | begun target requestId => rfl
  | @called visit standing call h hallowed ih =>
      have hopen : standing.accepted = none := hallowed.1
      rw [accepted_after, ih, hopen]
      obtain ⟨time, request, answer⟩ := call
      cases request <;> cases answer <;>
        simp [Call.accepted?, Request.accepted?, Standing.after, hopen]

end Ruled

end Visit

/-- An outcome that the work on a target can have. -/
def Closed (plan : Plan) (visit : Visit) (outcome : Outcome) : Prop :=
  ∃ standing attempted, visit.Ruled plan standing ∧
    outcome = plan.outcome visit.target attempted ∧
      plan.Ends visit.target.workflowId visit.requestId standing attempted.result

/-- The reset that an outcome reports, if its target was visited under this request id. -/
def resetOf (plan : Plan) (requestId : String) (outcome : Outcome) :
    Option (ResetRequest × String) :=
  match outcome.status with
  | .reset anchor newRunId =>
      some (plan.resetRequest outcome.workflowId requestId anchor, newRunId)
  | _ => none

/-- A reset was accepted exactly if the outcome reports it. -/
theorem accepted_eq_resetOf {plan : Plan} {target : WorkflowRef} {requestId : String}
    {standing : Standing} {attempted : Attempted ResetError OutcomeStatus}
    (hends : plan.Ends target.workflowId requestId standing attempted.result) :
    standing.accepted = resetOf plan requestId (plan.outcome target attempted) := by
  unfold Plan.Ends at hends
  split at hends
  · rename_i hnone
    rw [hnone]
    cases hresult : attempted.result with
    | error error => simp [resetOf, Plan.outcome, Outcome.of, hresult]
    | ok status =>
        have hreset := (hends status hresult).2
        cases status <;> simp_all [resetOf, Plan.outcome, Outcome.of]
  · rename_i request newRunId hsome
    obtain ⟨anchor, rfl, hresult⟩ := hends
    simp [hsome, resetOf, Plan.outcome, Outcome.of, hresult]

namespace Closed

variable {plan : Plan} {visit : Visit} {outcome : Outcome}

theorem ref_eq (h : Closed plan visit outcome) : outcome.ref = visit.target := by
  obtain ⟨standing, attempted, -, rfl, -⟩ := h
  rfl

theorem status_ne_excluded (h : Closed plan visit outcome) : outcome.status ≠ .excluded := by
  obtain ⟨standing, attempted, -, rfl, hends⟩ := h
  unfold Plan.Ends at hends
  cases hresult : attempted.result with
  | error error => simp [Plan.outcome, Outcome.of, hresult]
  | ok status =>
      simp only [Plan.outcome, Outcome.of, hresult]
      split at hends
      · exact (hends status hresult).1
      · obtain ⟨anchor, -, hstatus⟩ := hends
        rw [hresult] at hstatus
        obtain rfl := Except.ok.inj hstatus
        simp

/-- A reset was accepted for a target exactly if its outcome says so. -/
theorem accepted_eq (h : Closed plan visit outcome) :
    visit.accepted = (resetOf plan visit.requestId outcome).toList := by
  obtain ⟨standing, attempted, hruled, rfl, hends⟩ := h
  rw [hruled.accepted_eq, accepted_eq_resetOf hends]

end Closed

/-- What holds of the visits of a worker. -/
structure Working (plan : Plan) (worker : Worker) (desk : Desk) : Prop where
  current : ∀ target program visit, worker.task = .busy target program →
    desk.current = some visit → ∃ standing, visit.Ruled plan standing ∧
      Program.Obeys (plan.rules target.workflowId visit.requestId)
        (fun after attempted => plan.Ends target.workflowId visit.requestId after attempted.result)
        standing program
  finished : ∀ entry ∈ desk.finished, Closed plan entry.1 entry.2

/-- A call of a worker is about the workflow of its target. -/
theorem Working.exists_visit {plan : Plan} {worker : Worker} {desk : Desk}
    (hworking : Working plan worker desk) (hseat : Seated worker desk) {target : WorkflowRef}
    {program : Program (Attempted ResetError OutcomeStatus)} {request : Request}
    {resume : Except ServiceError request.Response → Program (Attempted ResetError OutcomeStatus)}
    (htask : worker.task = .busy target program) (hnext : program.next = .ask request resume) :
    ∃ visit, desk.current = some visit ∧ visit.target = target ∧
      request.subject = target.workflowId ∧ request.method ≠ .scan := by
  obtain ⟨visit, hvisit, htarget⟩ := hseat.busy target program htask
  obtain ⟨standing, -, hobeys⟩ := hworking.current target program visit htask hvisit
  have hallowed := hobeys.next
  rw [hnext] at hallowed
  obtain ⟨-, hsubject, hscan, -⟩ := hallowed.1
  exact ⟨visit, hvisit, htarget, hsubject, hscan⟩

namespace Chronicle

variable {plan : Plan} {c c' : Chronicle}

/-- All visits keep to the rules. -/
def Lawful (plan : Plan) (c : Chronicle) : Prop :=
  List.Forall₂ (Working plan) c.state.workers.toList c.desks

theorem working_of_move {worker worker' : Worker} {f : Desk → Desk} {service : Service}
    {desk : Desk} (h : Move plan c worker worker' f service) (hseat : Seated worker desk)
    (hdesk : Working plan worker desk) : Working plan worker' (f desk) := by
  cases h with
  | taken target rest htask hqueue =>
      refine ⟨?_, hdesk.finished⟩
      intro target' program visit hbusy hvisit
      obtain ⟨rfl, rfl⟩ := Task.busy.inj hbusy
      obtain rfl := Option.some.inj hvisit
      exact ⟨.initial, .begun target _, plan.process_obeys target _⟩
  | left htask hqueue => exact ⟨by simp, hdesk.finished⟩
  | finished target program attempted htask hnext =>
      refine ⟨by simp, ?_⟩
      obtain ⟨visit, hvisit, rfl⟩ := hseat.busy target program htask
      obtain ⟨standing, hruled, hobeys⟩ := hdesk.current _ program visit htask hvisit
      have hends := hobeys.next
      rw [hnext] at hends
      simp only [Desk.close, hvisit, Option.map_some, Option.toList_some, List.mem_append,
        List.mem_singleton]
      rintro entry (hentry | rfl)
      · exact hdesk.finished entry hentry
      · exact ⟨standing, attempted, hruled, rfl, hends⟩
  | called target program request resume htask hnext =>
      refine ⟨?_, hdesk.finished⟩
      intro target' program' visit' hbusy hvisit'
      obtain ⟨rfl, rfl⟩ := Task.busy.inj hbusy
      obtain ⟨visit, hvisit, rfl⟩ := hseat.busy target program htask
      obtain rfl : visit.after (c.ask request) = visit' := by
        simpa [Desk.note, hvisit] using hvisit'
      obtain ⟨standing, hruled, hobeys⟩ := hdesk.current _ program visit htask hvisit
      have hask := hobeys.next
      rw [hnext] at hask
      exact ⟨_, .called (c.ask request) hruled hask.1, hask.2 _⟩
  | rested target program resume htask hnext =>
      refine ⟨?_, hdesk.finished⟩
      intro target' program' visit hbusy hvisit
      obtain ⟨rfl, rfl⟩ := Task.busy.inj hbusy
      obtain ⟨standing, hruled, hobeys⟩ := hdesk.current _ program visit htask hvisit
      have hrest := hobeys.next
      rw [hnext] at hrest
      exact ⟨standing, hruled, hrest⟩
  | readied htask => exact ⟨by simp, hdesk.finished⟩

theorem lawful_of_change (h : Change plan c c') (hseats : c.Seats) (hc : c.Lawful plan) :
    c'.Lawful plan := by
  have hboth := forall₂_of_change h (forall₂_and hseats hc) fun _ _ _ _ hmove hdesk =>
    ⟨seated_of_move hmove hdesk.1, working_of_move hmove hdesk.1 hdesk.2⟩
  exact hboth.imp fun _ _ => And.right

theorem lawful_start (plan : Plan) (service : Service) (metrics : Metrics) (source : Source)
    (started : Nat) : (start plan service metrics source started).Lawful plan :=
  forall₂_start ⟨by simp, by simp [Desk.empty]⟩ plan service metrics source started

/-- The closed visits of a lawful record. -/
theorem Lawful.closed (hc : c.Lawful plan) {desk : Desk} (hdesk : desk ∈ c.desks)
    {entry : Visit × Outcome} (hentry : entry ∈ desk.finished) : Closed plan entry.1 entry.2 := by
  obtain ⟨worker, -, hworking⟩ := exists_left hc hdesk
  exact hworking.finished entry hentry

/-- All visits of a lawful record have kept to the rules. -/
theorem Lawful.ruled (hc : c.Lawful plan) (hseats : c.Seats) {desk : Desk} (hdesk : desk ∈ c.desks)
    {visit : Visit} (hvisit : visit ∈ desk.visits) : ∃ standing, visit.Ruled plan standing := by
  obtain ⟨worker, -, hseat, hworking⟩ := exists_left (forall₂_and hseats hc) hdesk
  simp only [Desk.visits, List.mem_append, List.mem_map, Option.mem_toList] at hvisit
  rcases hvisit with ⟨entry, hentry, rfl⟩ | hcurrent
  · obtain ⟨standing, attempted, hruled, -⟩ := hworking.finished entry hentry
    exact ⟨standing, hruled⟩
  · cases htask : worker.task with
    | busy target program =>
        obtain ⟨standing, hruled, -⟩ := hworking.current target program visit htask hcurrent
        exact ⟨standing, hruled⟩
    | idle | pausing | ended =>
        rw [hseat.free (by simp [htask])] at hcurrent
        simp at hcurrent

end Chronicle

end Rewind.Batch
