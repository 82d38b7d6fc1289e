import Rewind.Proofs.Batch.Isolation
import Rewind.Proofs.Batch.Journal
import Rewind.Proofs.View

/-!
What the work on one target sees of the service.

As long as no reset was accepted for a target, the work on it sees the service as it was before the
batch: its own calls count and use up scripted failures, and whatever others do is about other
workflows. So all its attempts see the same, and ask for the same reset.

Main statements: `Solo.steady_iterate` for the work alone, and `Isolated.exists_anchor` for the visits of
a batch.
-/

namespace Rewind

open Program

/-- A call that has no reset accepted leaves the part of a workflow as it is, failures aside. -/
theorem Service.calm_call {s : Service} {request : Request}
    (hnone : request.accepted? (s.call request).1 = none) (workflowId : String) :
    (s.call request).2.store.calm.SamePart workflowId s.store.calm := by
  have hstep := s.call_step request
  rw [hnone] at hstep
  exact hstep.calm workflowId

namespace Batch

namespace Solo

variable {plan : Plan} {home : Service} {workflowId requestId : String}
  {asks : ResetRequest → Prop} {x : Solo}

/-- The work is under way and sees the service as it was, failures aside. -/
structure Going (plan : Plan) (home : Service) (workflowId requestId : String)
    (asks : ResetRequest → Prop) (x : Solo) : Prop where
  missed : x.service.missed? = home.missed?
  part : x.service.store.calm.SamePart workflowId home.store.calm
  views : Views home asks (fun _ => True) (fun _ => True) x.work
  obeys : ∃ standing, Obeys (plan.rules workflowId requestId) (fun _ _ => True) standing x.work

/-- The work is under way or has ended, and has asked only for resets of a kind. -/
structure Steady (plan : Plan) (home : Service) (workflowId requestId : String)
    (asks : ResetRequest → Prop) (x : Solo) : Prop where
  asked : ∀ exchange ∈ x.service.journal, ∀ request, exchange.request = .reset request →
    asks request
  going : x.Going plan home workflowId requestId asks ∨ ∃ attempted, x.work = .done attempted

theorem Going.after {request : Request}
    {resume : Except ServiceError request.Response → Program (Attempted ResetError OutcomeStatus)}
    (h : x.Going plan home workflowId requestId asks) (hask : x.work.next = .ask request resume)
    (hnone : request.accepted? (x.service.call request).1 = none)
    (hviews : Views home asks (fun _ => True) (fun _ => True) (resume (x.service.call request).1)) :
    Going plan home workflowId requestId asks
      ⟨resume (x.service.call request).1, (x.service.call request).2⟩ := by
  obtain ⟨standing, hobeys⟩ := h.obeys
  have hnext := hobeys.next
  rw [hask] at hnext
  exact ⟨h.missed, (Service.calm_call hnone workflowId).trans h.part, hviews, _, hnext.2 _⟩

theorem Steady.advance (h : x.Steady plan home workflowId requestId asks) :
    x.advance.Steady plan home workflowId requestId asks := by
  rcases h.going with hgoing | ⟨attempted, hdone⟩
  · -- One more call was made, and it was a look or a reset of the kind.
    have hasked {request : Request} (hreset : ∀ reset, request = .reset reset → asks reset) :
        ∀ exchange ∈ (x.service.call request).2.journal, ∀ reset,
          exchange.request = .reset reset → asks reset := by
      intro exchange hexchange reset hrequest
      rw [Chronicle.journal_call, List.mem_append, List.mem_singleton] at hexchange
      rcases hexchange with hold | rfl
      · exact h.asked exchange hold reset hrequest
      · exact hreset reset hrequest
    have hnext := hgoing.views.next
    generalize hwork : x.work.next = next at hnext
    cases hnext with
    | done _ =>
        rw [advance_of_done hwork]
        exact h
    | pause hresume =>
        rw [advance_of_pause hwork]
        obtain ⟨standing, hobeys⟩ := hgoing.obeys
        have hrest := hobeys.next
        rw [hwork] at hrest
        exact ⟨h.asked, .inl ⟨hgoing.missed, hgoing.part, hresume, standing, hrest⟩⟩
    | @look request resume hmethod herror hshown =>
        rw [advance_of_ask hwork]
        have hviews : Views home asks (fun _ => True) (fun _ => True)
            (resume (x.service.call request).1) := by
          obtain ⟨standing, hobeys⟩ := hgoing.obeys
          have hallowed := hobeys.next
          rw [hwork] at hallowed
          obtain ⟨-, hsubject, hscan, -⟩ := hallowed.1
          cases hanswer : (x.service.call request).1 with
          | error error => exact herror error
          | ok response =>
              exact hshown response (Service.shows_of_call hgoing.missed hgoing.part hsubject hscan
                hmethod hanswer)
        refine ⟨hasked ?_, .inl (hgoing.after hwork (Request.accepted?_look hmethod _) hviews)⟩
        rintro reset rfl
        exact absurd rfl hmethod
    | @reset request resume hkind herror hok =>
        rw [advance_of_ask hwork]
        have hall := hasked fun reset hreset => Request.reset.inj hreset ▸ hkind
        cases hanswer : (x.service.call (.reset request)).1 with
        | error error =>
            have hafter := hgoing.after hwork (by rw [hanswer]; rfl)
              (by rw [hanswer]; exact herror error)
            rw [hanswer] at hafter
            exact ⟨hall, .inl hafter⟩
        | ok response =>
            obtain ⟨attempted, hdone, -⟩ := hok response
            exact ⟨hall, .inr ⟨attempted, hdone⟩⟩
  · have hnext : x.work.next = .done attempted := by
      rw [hdone]
      rfl
    rw [advance_of_done hnext]
    exact h

/-- Work that begins in view of its service stays steady. -/
theorem steady_iterate {target : WorkflowRef}
    (hviews : Views home asks (fun _ => True) (fun _ => True)
      (plan.process .checked target "")) (n : Nat) :
    (advance^[n] (.begin plan home target)).Steady plan home target.workflowId "" asks := by
  induction n with
  | zero =>
      refine ⟨by simp [begin], .inl ⟨rfl, .refl _ _, hviews, .initial, ?_⟩⟩
      exact (plan.process_obeys target "").mono fun _ _ _ => trivial
  | succ n ih =>
      rw [Function.iterate_succ_apply']
      exact ih.advance

end Solo

namespace Visit.Ruled

variable {plan : Plan} {visit : Visit} {standing : Standing}

/-- All resets that are asked for during a visit are those of the plan, under the id of the visit. -/
theorem reset_eq (h : Ruled plan visit standing) {call : Call} (hcall : call ∈ visit.calls)
    {request : ResetRequest} (hrequest : call.request = .reset request) :
    ∃ anchor, request = plan.resetRequest visit.target.workflowId visit.requestId anchor := by
  induction h with
  | begun target requestId => simp at hcall
  | called new h hallowed ih =>
      simp only [after, List.mem_append, List.mem_singleton] at hcall ⊢
      rcases hcall with hold | rfl
      · exact ih hold
      · exact (hallowed.2.2.2 request hrequest).1

/-- No call follows an accepted reset. -/
theorem accepted_last (h : Ruled plan visit standing) :
    ∀ call ∈ visit.calls.dropLast, call.accepted? = none := by
  cases h with
  | begun target requestId => simp
  | @called visit standing new h hallowed =>
      have hnone : visit.accepted = [] := by
        rw [h.accepted_eq, hallowed.1]
        rfl
      intro call hcall
      simp only [after, List.dropLast_concat] at hcall
      exact List.filterMap_eq_nil_iff.mp hnone call hcall

end Visit.Ruled

namespace Chronicle

variable {plan plan₀ : Plan} {service₀ : Service} {c : Chronicle}

/-- Every visit has come as far as the work alone, in some number of steps. -/
theorem Isolated.exists_outline (h : c.Isolated plan plan₀ service₀) (hseats : c.Seats)
    {visit : Visit} (hvisit : visit ∈ c.visits) :
    ∃ n, visit.outline = (Solo.advance^[n] (.begin plan₀ service₀ visit.target)).outline := by
  obtain ⟨desk, hdesk, hmem⟩ := List.mem_flatMap.mp hvisit
  obtain ⟨worker, -, hseat, halone⟩ := exists_left (forall₂_and hseats h.alone) hdesk
  rcases List.mem_append.mp hmem with hclosed | hcurrent
  · obtain ⟨entry, hentry, rfl⟩ := List.mem_map.mp hclosed
    obtain ⟨-, -, -, ⟨n, -, houtline⟩, -⟩ := halone.finished entry hentry
    exact ⟨n, houtline.symm⟩
  · rw [Option.mem_toList] at hcurrent
    obtain ⟨program, htask⟩ := hseat.exists_busy hcurrent
    obtain ⟨n, htracks⟩ := halone.current visit.target program visit htask hcurrent
    exact ⟨n, htracks.outline⟩

/-- All resets that are asked for during a visit are at one anchor. -/
theorem Isolated.exists_anchor (h : c.Isolated plan plan service₀) (hc : c.Accounted plan)
    {visit : Visit} (hvisit : visit ∈ c.visits) :
    ∃ anchor : ResetAnchor, 1 ≤ anchor.eventId ∧
      ∀ call ∈ visit.calls, ∀ request, call.request = .reset request →
        request = plan.resetRequest visit.target.workflowId visit.requestId anchor := by
  obtain ⟨anchor, hevent, hviews⟩ : Aims service₀ (Plan.AsksAt service₀ plan visit.target.workflowId "")
      (fun _ => True) (plan.process .checked visit.target "") := Plan.process_aims visit.target
  refine ⟨anchor, hevent, ?_⟩
  intro call hcall request hrequest
  obtain ⟨n, houtline⟩ := h.exists_outline hc.seats hvisit
  -- The work alone has asked for the same reset, but for its id.
  have hmem : call.exchange.outline ∈ visit.outline := List.mem_map_of_mem hcall
  rw [houtline] at hmem
  obtain ⟨exchange, hexchange, hsame⟩ := List.mem_map.mp hmem
  have hanonymous : exchange.request.anonymous = .reset request.anonymous := by
    have hrequests := congrArg Exchange.request hsame
    simpa [Exchange.outline, Call.exchange, hrequest, Request.anonymous] using hrequests
  obtain ⟨alone, halone, hid⟩ : ∃ alone, exchange.request = .reset alone ∧
      alone.anonymous = request.anonymous := by
    cases hrequest' : exchange.request with
    | describe | history | scan => simp [hrequest', Request.anonymous] at hanonymous
    | reset alone =>
        rw [hrequest'] at hanonymous
        exact ⟨alone, rfl, Request.reset.inj hanonymous⟩
  obtain ⟨rfl, -⟩ := (Solo.steady_iterate hviews n).asked exchange hexchange alone halone
  obtain ⟨desk, hdesk, hseated⟩ := List.mem_flatMap.mp hvisit
  obtain ⟨standing, hruled⟩ := hc.lawful.ruled hc.seats hdesk hseated
  obtain ⟨anchor', rfl⟩ := hruled.reset_eq hcall hrequest
  obtain ⟨-, -, hrun, hevent', -⟩ := ResetRequest.mk.inj hid
  have hanchor : anchor = anchor' := by
    obtain ⟨runId, eventId⟩ := anchor
    obtain ⟨runId', eventId'⟩ := anchor'
    obtain rfl : runId = runId' := hrun
    obtain rfl : eventId = eventId' := hevent'
    rfl
  rw [hanchor]

end Chronicle

end Batch

end Rewind
