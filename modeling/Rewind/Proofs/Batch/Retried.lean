import Rewind.Proofs.Batch.Settled
import Rewind.Proofs.Batch.Steady
import Rewind.Proofs.Batch.Trace

/-!
Resets that are asked for again.

An attempt that fails is made again from the start: the target is checked and its anchor is found once
more. Still all resets that are asked for a target are one and the same request, so the service can
tell a repeated one by its request id.

Main statement: `retried_resets_same`.
-/

namespace Rewind.Batch

/-- Whether a call asks for a reset. -/
def Call.isReset (call : Call) : Bool :=
  call.request.method = .reset

/-- There are no more resets than attempts. -/
theorem Visit.Attempts.countP_le {plan : Plan} {visit : Visit} {parts : List (List Call)}
    (h : visit.Attempts plan parts) : visit.calls.countP Call.isReset ≤ parts.length := by
  have hcalls : visit.calls = parts.flatMap id := by rw [h.calls, List.flatMap_id]
  rw [hcalls]
  apply Chronicle.countP_flatMap_le
  intro part hpart
  obtain ⟨now, hleads⟩ := h.each part hpart
  have hlast : part.dropLast.countP Call.isReset = 0 := by
    rw [List.countP_eq_zero]
    intro call hcall
    simpa [Call.isReset] using reset_last hleads call hcall
  rcases List.eq_nil_or_concat part with rfl | ⟨calls, call, rfl⟩
  · simp
  · rw [List.concat_eq_append, List.dropLast_concat] at hlast
    rw [id, List.concat_eq_append, List.countP_append, hlast, List.countP_singleton]
    split <;> omega

namespace Chronicle

theorem map_workflowId_visits (c : Chronicle) :
    (c.visits.map fun visit => visit.target.workflowId) = c.visited := by
  rw [visited, visits, List.map_flatMap, List.map_flatMap]
  apply List.flatMap_congr
  intro desk _
  rw [Desk.targets, List.map_map]
  rfl

/-- However the actors take turns and whatever calls fail, all resets that are asked for one target are
the same request, and those for different targets bear different ids. There is at most one for each
attempt, as its last call, and no call for the target follows one that was accepted. -/
theorem retried_resets_same {plan : Plan} {service : Service} {metrics : Metrics} {source : Source}
    {started : Nat} {schedule : List Actor} {c : Chronicle}
    (hids : Function.Injective plan.requestIds)
    (hrun : (start plan service metrics source started).follow? plan schedule = some c)
    (hdistinct : c.workflows.Nodup) :
    (∃ made, c.Recorded service made) ∧
    (c.visits.map fun visit => visit.target.workflowId).Nodup ∧
    (c.visits.map Visit.requestId).Nodup ∧
    (∀ visit ∈ c.visits,
      (∃ anchor : ResetAnchor, 1 ≤ anchor.eventId ∧
        ∀ call ∈ visit.calls, ∀ request, call.request = .reset request →
          request =
            { domain := plan.config.domain
              workflowId := visit.target.workflowId
              runId := anchor.runId
              eventId := anchor.eventId
              reason := plan.operator ++ ":" ++ plan.config.reason
              requestId := visit.requestId
              reapply := plan.config.reapply }) ∧
      (∃ parts, visit.Attempts plan parts ∧
        ∀ part ∈ parts, ∀ call ∈ part.dropLast, call.request.method ≠ .reset) ∧
      visit.calls.countP Call.isReset ≤ max 1 plan.settings.retry.maxAttempts ∧
      ∀ call ∈ visit.calls.dropLast, call.accepted? = none) ∧
    ∀ entry ∈ c.finished, ∃ parts, entry.1.Attempts plan parts ∧
      entry.2.attempts = parts.length := by
  have hc := accounted_of_follow? hrun
  have hisolated : c.Isolated plan plan service :=
    isolated_of_start (.refl plan) hrun hdistinct
  obtain ⟨hattempts, hfinished⟩ := exists_attempts hc (traced_of_follow? hrun)
  refine ⟨recorded_of_follow? hrun, ?_, ?_, ?_, hfinished⟩
  · rw [map_workflowId_visits]
    exact visited_nodup hc.targets hdistinct
  · have hnodup := requestIds_nodup hids hrun
    rw [visits, List.map_flatMap]
    exact hnodup
  · intro visit hvisit
    obtain ⟨anchor, hevent, hresets⟩ := hisolated.exists_anchor hc hvisit
    obtain ⟨parts, hparts⟩ := hattempts visit hvisit
    obtain ⟨desk, hdesk, hmem⟩ := List.mem_flatMap.mp hvisit
    obtain ⟨standing, hruled⟩ := hc.lawful.ruled hc.seats hdesk hmem
    refine ⟨⟨anchor, hevent, ?_⟩, ⟨parts, hparts, ?_⟩, Nat.le_trans hparts.countP_le hparts.length,
      hruled.accepted_last⟩
    · intro call hcall request hrequest
      exact hresets call hcall request hrequest
    · intro part hpart
      obtain ⟨now, hleads⟩ := hparts.each part hpart
      exact reset_last hleads

/-- The sample service, in which the first reset of one workflow fails in passing. -/
def flakyService : Service :=
  .ofStore (sampleService.store.failNext .reset "pay" ⟨.unavailable, "busy"⟩)

theorem retried_resets_same_flaky :
    ∃ c visit, (start samplePlan flakyService .zero (sampleSource ["pay"]) 0).follow? samplePlan
        (List.replicate 3 .producer ++ List.replicate 10 (.worker 1)) = some c ∧
      c.visits = [visit] ∧ visit.calls.countP Call.isReset = 2 ∧
      ∃ anchor : ResetAnchor, ∀ call ∈ visit.calls, ∀ request, call.request = .reset request →
        request = ⟨"default", "pay", anchor.runId, anchor.eventId, "ops:rollback",
          visit.requestId, .all⟩ := by
  have hends : ((start samplePlan flakyService .zero (sampleSource ["pay"]) 0).follow? samplePlan
      (List.replicate 3 .producer ++ List.replicate 10 (.worker 1))).map
      (fun c => (c.workflows, c.visits.map fun visit =>
        (visit.target, visit.calls.countP Call.isReset))) =
      some (["pay"], [(⟨"pay", none⟩, 2)]) := by
    decide +kernel
  obtain ⟨c, hrun, hends⟩ := Option.map_eq_some_iff.mp hends
  obtain ⟨hworkflows, hvisits⟩ := Prod.mk.inj hends
  obtain ⟨visit, hvisit, htwo⟩ := List.map_eq_singleton_iff.mp hvisits
  obtain ⟨htarget, hcount⟩ := Prod.mk.inj htwo
  obtain ⟨-, -, -, hall, -⟩ := retried_resets_same (fun _ _ => sampleId_injective) hrun
    (by rw [hworkflows]; decide)
  obtain ⟨⟨anchor, -, hresets⟩, -⟩ := hall visit (by rw [hvisit]; exact List.mem_singleton_self _)
  refine ⟨c, visit, hrun, hvisit, hcount, anchor, ?_⟩
  intro call hcall request hrequest
  rw [hresets call hcall request hrequest, htarget]
  rfl

end Chronicle

end Rewind.Batch
