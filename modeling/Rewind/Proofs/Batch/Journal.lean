import Rewind.Proofs.Batch.OpenRuns

/-!
What the journal of the service says about a batch.

The service writes down every call. What it has written since the start of a batch are the scans of the
producer and the calls of the visits.

Main statements: `recorded_of_follow?`, and for calls about workflows `Recorded.exists_visit`.
-/

namespace Rewind.Batch.Chronicle

variable {plan : Plan} {service : Service} {c c' : Chronicle}

/-- The visits of all workers. -/
def visits (c : Chronicle) : List Visit :=
  c.desks.flatMap Desk.visits

theorem calls_eq_visits (c : Chronicle) : c.calls = c.visits.flatMap Visit.calls := by
  rw [visits, List.flatMap_assoc]
  rfl

/-- Since the service was as before, its journal has grown by the calls of the batch. -/
structure Recorded (service : Service) (c : Chronicle) (made : List Exchange) : Prop where
  journal : c.state.service.journal = service.journal ++ made
  perm : made.Perm ((c.scans ++ c.visits.flatMap Visit.calls).map Call.exchange)
  scans : ∀ call ∈ c.scans, call.request.method = .scan

theorem journal_call (s : Service) (request : Request) :
    (s.call request).2.journal =
      s.journal ++ [⟨request, Service.failure? (s.call request).1⟩] := rfl

theorem recorded_of_change (h : Change plan c c') (hseats : c.Seats)
    (hc : ∃ made, c.Recorded service made) : ∃ made, c'.Recorded service made := by
  obtain ⟨made, hjournal, hperm, hscan⟩ := hc
  rw [← calls_eq_visits] at hperm
  rcases calling_of_change h hseats with ⟨hservice, hscans, hdesks⟩ |
    ⟨request, hservice, hscans, hdesks⟩ | ⟨index, calls, request, hservice, hscans, hcalls, hdesks⟩
  · exact ⟨made, by rw [hservice, hjournal],
      by rw [← calls_eq_visits, hscans, Chronicle.calls_eq hdesks]; exact hperm,
      by rw [hscans]; exact hscan⟩
  · refine ⟨made ++ [(c.ask (.scan request)).exchange], ?_, ?_, ?_⟩
    · rw [hservice, journal_call, hjournal, List.append_assoc]
      rfl
    · rw [← calls_eq_visits, hscans, Chronicle.calls_eq hdesks, List.append_assoc,
        List.singleton_append, List.map_append, List.map_cons]
      rw [List.map_append] at hperm
      exact (hperm.append_right _).trans
        ((List.perm_append_singleton _ _).trans List.perm_middle.symm)
    · simp only [hscans, List.mem_append, List.mem_singleton]
      rintro call (hold | rfl)
      · exact hscan call hold
      · rfl
  · refine ⟨made ++ [(c.ask request).exchange], ?_, ?_, by rw [hscans]; exact hscan⟩
    · rw [hservice, journal_call, hjournal, List.append_assoc]
      rfl
    · have hmore := ((perm_calls hcalls hdesks).append_left c.scans).map Call.exchange
      have hsplit : (c.scans ++ (c.calls ++ [c.ask request])).map Call.exchange =
          (c.scans ++ c.calls).map Call.exchange ++ [(c.ask request).exchange] := by
        simp
      rw [← calls_eq_visits, hscans]
      exact (hperm.append_right _).trans (hsplit ▸ hmore.symm)

theorem recorded_of_follow? {metrics : Metrics} {source : Source} {started : Nat}
    {schedule : List Actor}
    (hrun : (start plan service metrics source started).follow? plan schedule = some c) :
    ∃ made, c.Recorded service made := by
  refine of_schedule _ (fun _ _ h haccounted hc => recorded_of_change h haccounted.seats hc) ?_ hrun
  refine ⟨[], (List.append_nil _).symm, ?_, by simp [start]⟩
  rw [← calls_eq_visits, calls_start]
  exact .refl _

/-- A call about a workflow was made for a target of that workflow. -/
theorem Recorded.exists_visit {made : List Exchange} (h : c.Recorded service made)
    (hc : c.Accounted plan) {exchange : Exchange} (hmade : exchange ∈ made)
    (hscan : exchange.request.method ≠ .scan) :
    ∃ visit ∈ c.visits, visit.target.workflowId = exchange.request.subject := by
  obtain ⟨call, hcall, rfl⟩ := List.mem_map.mp (h.perm.mem_iff.mp hmade)
  rcases List.mem_append.mp hcall with hscanned | hcalled
  · exact absurd (h.scans call hscanned) hscan
  · obtain ⟨visit, hvisit, hmem⟩ := List.mem_flatMap.mp hcalled
    obtain ⟨desk, hdesk, hseated⟩ := List.mem_flatMap.mp hvisit
    obtain ⟨standing, hruled⟩ := hc.lawful.ruled hc.seats hdesk hseated
    obtain ⟨hsubject, -⟩ := hruled.subject_eq hmem
    exact ⟨visit, hvisit, hsubject.symm⟩

end Rewind.Batch.Chronicle
