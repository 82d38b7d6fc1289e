import Rewind.Proofs.Amid
import Rewind.Proofs.Batch.Accounting

/-!
The work on a target amid the calls of a batch.

The producer and the other workers call the service between any two calls for a target. So what the
work on a target comes to amid the calls of others, it comes to in a batch.

Main statement: `ends_of_follow?`.
-/

namespace Rewind.Batch.Chronicle

variable {plan : Plan} {final home : Service} {target : WorkflowRef}
  {ends : Attempted ResetError OutcomeStatus → Prop} {c c' : Chronicle}

theorem later_of_move {worker worker' : Worker} {f : Desk → Desk} {service : Service}
    (h : Move plan c worker worker' f service) : c.state.service.Later service := by
  cases h with
  | called target program request resume htask hnext => exact .call c.state.service request
  | taken | left | finished | rested | readied => exact .same

theorem later_of_change (h : Change plan c c') : c.state.service.Later c'.state.service := by
  rcases bench_of_change h with ⟨-, -, ⟨hservice, -⟩ | ⟨request, hservice, -⟩⟩ | ⟨index, worker,
    worker', f, -, hmoved, -⟩
  · rw [hservice]
    exact .same
  · rw [hservice]
    exact .call c.state.service (.scan request)
  · exact later_of_move hmoved

theorem later_of_follow? {metrics : Metrics} {source : Source} {started : Nat}
    {schedule : List Actor}
    (hrun : (start plan home metrics source started).follow? plan schedule = some c) :
    home.Later c.state.service :=
  of_follow? (fun c => home.Later c.state.service) (fun _ _ h hc => hc.trans (later_of_change h))
    hrun .same

/-- What a worker does for a target comes to the right end, up to some last moment. -/
structure Attended (plan : Plan) (final : Service) (target : WorkflowRef)
    (ends : Attempted ResetError OutcomeStatus → Prop) (service : Service) (worker : Worker)
    (desk : Desk) : Prop where
  current : ∀ program, worker.task = .busy target program →
    Program.Amid final ends service program
  finished : ∀ entry ∈ desk.finished, entry.1.target = target →
    ∃ attempted, entry.2 = plan.outcome target attempted ∧ ends attempted

theorem Attended.later {service service' : Service} {worker : Worker} {desk : Desk}
    (h : Attended plan final target ends service worker desk) (hlater : service.Later service') :
    Attended plan final target ends service' worker desk :=
  ⟨fun program htask => (h.current program htask).later hlater, h.finished⟩

theorem attended_of_move {worker worker' : Worker} {f : Desk → Desk} {service : Service}
    {desk : Desk} (h : Move plan c worker worker' f service) (hseat : Seated worker desk)
    (hfinal : service.Later final)
    (hwork : ∀ requestId, Program.Amid final ends c.state.service
      (plan.process .checked target requestId))
    (hdesk : Attended plan final target ends c.state.service worker desk) :
    Attended plan final target ends service worker' (f desk) := by
  cases h with
  | taken target' rest htask hqueue =>
      refine ⟨?_, hdesk.finished⟩
      intro program hbusy
      obtain ⟨rfl, rfl⟩ := Task.busy.inj hbusy
      exact hwork _
  | left htask hqueue => exact ⟨by simp, hdesk.finished⟩
  | finished target' program attempted htask hnext =>
      refine ⟨by simp, ?_⟩
      obtain ⟨visit, hvisit, rfl⟩ := hseat.busy target' program htask
      simp only [Desk.close, hvisit, Option.map_some, Option.toList_some, List.mem_append,
        List.mem_singleton]
      rintro entry (hentry | rfl) htarget
      · exact hdesk.finished entry hentry htarget
      · obtain rfl : visit.target = target := htarget
        have hends := (hdesk.current program htask).next
        rw [hnext] at hends
        exact ⟨attempted, rfl, hends hfinal⟩
  | called target' program request resume htask hnext =>
      refine ⟨?_, ?_⟩
      · intro program' hbusy
        obtain ⟨rfl, rfl⟩ := Task.busy.inj hbusy
        have hanswered := (hdesk.current program htask).next
        rw [hnext] at hanswered
        exact hanswered hfinal
      · exact hdesk.finished
  | rested target' program resume htask hnext =>
      refine ⟨?_, hdesk.finished⟩
      intro program' hbusy
      obtain ⟨rfl, rfl⟩ := Task.busy.inj hbusy
      have hrested := (hdesk.current program htask).next
      rw [hnext] at hrested
      exact hrested
  | readied htask => exact ⟨by simp, hdesk.finished⟩

theorem attended_of_change (h : Change plan c c') (hc : c.Accounted plan)
    (hfinal : c'.state.service.Later final)
    (hwork : ∀ requestId, Program.Amid final ends c.state.service
      (plan.process .checked target requestId))
    (hattended : List.Forall₂ (Attended plan final target ends c.state.service)
      c.state.workers.toList c.desks) :
    List.Forall₂ (Attended plan final target ends c'.state.service)
      c'.state.workers.toList c'.desks := by
  rcases bench_of_change h with ⟨hworkers, hdesks, -⟩ | ⟨index, worker, worker', f, hworker, hmoved,
    hworkers, hdesks, -⟩
  · rw [hworkers, hdesks]
    exact hattended.imp fun _ _ hdesk => hdesk.later (later_of_change h)
  · rw [hworkers, hdesks]
    refine forall₂_modify (forall₂_and hc.seats hattended) hworker ?_ ?_
    · intro desk _ hdesk
      exact attended_of_move hmoved hdesk.1 hfinal hwork hdesk.2
    · intro _ _ _ _ _ hdesk
      exact hdesk.2.later (later_of_change h)

/-- If the work on a target comes to ends of a kind whenever it begins, then so does every visit of the
target that has ended. -/
theorem ends_of_follow? {metrics : Metrics} {source : Source} {started : Nat}
    {schedule : List Actor}
    (hrun : (start plan home metrics source started).follow? plan schedule = some c)
    (hwork : ∀ (s : Service) requestId, home.Later s → s.Later c.state.service →
      Program.Amid c.state.service ends s (plan.process .checked target requestId))
    {entry : Visit × Outcome} (hentry : entry ∈ c.finished) (htarget : entry.1.target = target) :
    ∃ attempted, entry.2 = plan.outcome target attempted ∧ ends attempted := by
  -- Going forward, it is not yet known that a moment comes before the last one.
  obtain ⟨-, hattended⟩ := of_schedule (c := c) (fun now => home.Later now.state.service ∧
      (now.state.service.Later c.state.service →
        List.Forall₂ (Attended plan c.state.service target ends now.state.service)
          now.state.workers.toList now.desks))
    (fun now next h haccounted hnow => by
      have hlater := later_of_change h
      refine ⟨hnow.1.trans hlater, fun hfinal => ?_⟩
      exact attended_of_change h haccounted hfinal
        (fun requestId => hwork _ requestId hnow.1 (hlater.trans hfinal))
        (hnow.2 (hlater.trans hfinal)))
    ⟨.same, fun _ => forall₂_start ⟨by simp, by simp [Desk.empty]⟩ plan home metrics source started⟩
    hrun
  obtain ⟨desk, hdesk, hmem⟩ := List.mem_flatMap.mp hentry
  obtain ⟨worker, -, hfinished⟩ := exists_left (hattended .same) hdesk
  exact hfinished.finished entry hmem htarget

end Rewind.Batch.Chronicle
