import Rewind.Proofs.Batch.Isolation
import Rewind.Proofs.Batch.Resets
import Rewind.Proofs.Charges

/-!
Batches that have ended, entry by entry.

When a batch has ended, every target has an entry at some desk: its visit and its outcome. Outcomes,
calls and accepted resets are those of the entries. If the targets are of distinct workflows, each
workflow has at most one accepted reset, and it made the first run id that was still to be given out.

Main statements: `settled_of_follow?`, `Settled.exists_log` and `Settled.newRunId_eq`.
-/

namespace Rewind

/-- The request of a reset that was accepted. -/
def Exchange.accepted? (exchange : Exchange) : Option ResetRequest :=
  match exchange.request, exchange.failure with
  | .reset request, none => some request
  | _, _ => none

namespace Batch

theorem Call.accepted?_outline (call : Call) :
    call.exchange.outline.accepted? = call.accepted?.map fun entry => entry.1.anonymous := by
  obtain ⟨time, request, answer⟩ := call
  cases request <;> cases answer <;> rfl

theorem Visit.accepted_outline (visit : Visit) :
    visit.outline.filterMap Exchange.accepted? =
      visit.accepted.map fun entry => entry.1.anonymous := by
  rw [outline, accepted, List.filterMap_map, List.map_filterMap]
  apply List.filterMap_congr
  intro call _
  exact call.accepted?_outline

theorem Visit.charges_outline (visit : Visit) :
    visit.outline.map (fun exchange => exchange.request.charge) =
      visit.calls.map fun call => call.request.charge := by
  rw [outline, List.map_map]
  apply List.map_congr_left
  intro call _
  simp [Exchange.outline, Call.exchange, Request.charge]

/-- A visit had no reset accepted, or the one that its outcome reports. -/
theorem Closed.accepted_cases {plan : Plan} {visit : Visit} {outcome : Outcome}
    (h : Closed plan visit outcome) :
    (visit.accepted = [] ∧ ∀ anchor newRunId, outcome.status ≠ .reset anchor newRunId) ∨
    ∃ anchor newRunId, outcome.status = .reset anchor newRunId ∧
      visit.accepted =
        [(plan.resetRequest visit.target.workflowId visit.requestId anchor, newRunId)] := by
  have hworkflow : outcome.workflowId = visit.target.workflowId :=
    congrArg WorkflowRef.workflowId h.ref_eq
  rw [h.accepted_eq, resetOf, hworkflow]
  cases outcome.status with
  | reset anchor newRunId => exact .inr ⟨anchor, newRunId, rfl, rfl⟩
  | dryRun anchor | skipped reason | excluded | failed error => exact .inl ⟨rfl, by simp⟩

theorem sublist_of_flatMap {α β : Type} {as : List α} {f : α → List β} {g : α → β}
    (h : ∀ a ∈ as, (f a).Sublist [g a]) : (as.flatMap f).Sublist (as.map g) := by
  induction as with
  | nil => exact .refl _
  | cons a as ih =>
      rw [List.flatMap_cons, List.map_cons]
      apply (h a List.mem_cons_self).append
      apply ih
      intro b hb
      exact h b (List.mem_cons_of_mem a hb)

namespace Desk

/-- The request ids of all visits at a desk. -/
def requestIds (desk : Desk) : List String :=
  desk.visits.map Visit.requestId

@[simp] theorem requestIds_note {desk : Desk} {call : Call} :
    (desk.note call).requestIds = desk.requestIds := by
  cases hvisit : desk.current <;> simp [note, requestIds, visits, hvisit, Visit.after]

end Desk

namespace Chronicle

variable {plan : Plan} {service : Service} {c c' : Chronicle}

/-- What the calls of a batch are counted as. -/
def charges (c : Chronicle) : List (Method × String) :=
  (c.scans ++ c.calls).map fun call => call.request.charge

theorem charged_of_change (h : Change plan c c') (hseats : c.Seats)
    (hc : service.Charged c.charges c.state.service) :
    service.Charged c'.charges c'.state.service := by
  rcases calling_of_change h hseats with ⟨hservice, hscans, hdesks⟩ |
    ⟨request, hservice, hscans, hdesks⟩ | ⟨index, calls, request, hservice, hscans, hcalls, hdesks⟩
  · rw [charges, hservice, hscans, calls_eq hdesks]
    exact hc
  · rw [hservice]
    apply (hc.call (.scan request)).perm
    rw [charges, charges, hscans, calls_eq hdesks, List.append_assoc, List.map_append,
      List.map_append, List.map_append, List.append_assoc]
    exact List.perm_append_comm.append_left _
  · rw [hservice]
    apply (hc.call request).perm
    have hmore := (perm_calls hcalls hdesks).append_left c.scans
    rw [charges, charges, hscans]
    rw [← List.append_assoc] at hmore
    simpa [ask] using (hmore.map fun call => call.request.charge).symm

theorem charged_of_follow? {metrics : Metrics} {source : Source} {started : Nat}
    {schedule : List Actor}
    (hrun : (start plan service metrics source started).follow? plan schedule = some c) :
    service.Charged c.charges c.state.service := by
  refine of_schedule _ (fun _ _ h haccounted hc => charged_of_change h haccounted.seats hc) ?_ hrun
  rw [charges, calls_start]
  exact .refl service

/-- Every visit has a request id of its own number. -/
def Numbered (plan : Plan) (c : Chronicle) : Prop :=
  ∃ numbers : List Nat, numbers.Nodup ∧ (∀ n ∈ numbers, n < c.state.started) ∧
    (c.desks.flatMap Desk.requestIds).Perm (numbers.map plan.requestIds)

/-- A step that takes up no target gives out no request id. -/
theorem Numbered.kept (hc : c.Numbered plan) (hstarted : c'.state.started = c.state.started)
    (hids : c'.desks.flatMap Desk.requestIds = c.desks.flatMap Desk.requestIds) :
    c'.Numbered plan := by
  rw [Numbered, hstarted, hids]
  exact hc

theorem numbered_of_change (h : Change plan c c') (hseats : c.Seats) (hc : c.Numbered plan) :
    c'.Numbered plan := by
  cases h with
  | closed | excluded | offered | paged | resumed | queued => exact hc.kept rfl rfl
  | failed | pageFailed => exact hc.kept (by simp) rfl
  | left | rested | readied => exact hc.kept rfl rfl
  | finished index worker target program attempted hworker htask hnext =>
      exact hc.kept rfl (flatMap_modify fun desk => by simp [Desk.requestIds])
  | called index worker target program request resume hworker htask hnext =>
      exact hc.kept rfl (flatMap_modify fun desk => by simp)
  | taken index worker target rest hworker htask hqueue =>
      obtain ⟨numbers, hnodup, hbound, hperm⟩ := hc
      obtain ⟨desk, hdesk, hseat⟩ := hseats.exists_desk hworker
      have hadded : ((desk.take target (plan.requestIds c.state.started)).requestIds ++ []).Perm
          (desk.requestIds ++ [plan.requestIds c.state.started]) := by
        simp [Desk.requestIds, Desk.visits_take (hseat.free (by simp [htask]))]
      have hmore := perm_flatMap_modify (g := Desk.requestIds) hdesk [] _ hadded
      refine ⟨numbers ++ [c.state.started], ?_, ?_, ?_⟩
      · rw [List.nodup_append]
        refine ⟨hnodup, by simp, ?_⟩
        rintro n hn _ hstarted rfl
        rw [List.mem_singleton] at hstarted
        exact absurd (hbound n hn) (by omega)
      · intro n hn
        simp only [State.take]
        rcases List.mem_append.mp hn with hold | hnew
        · exact Nat.lt_succ_of_lt (hbound n hold)
        · rw [List.mem_singleton] at hnew
          omega
      · rw [List.map_append]
        rw [List.append_nil] at hmore
        exact hmore.trans (hperm.append_right _)

/-- Visits have distinct request ids, if these are distinct. -/
theorem requestIds_nodup {metrics : Metrics} {source : Source} {started : Nat}
    {schedule : List Actor} (hdistinct : Function.Injective plan.requestIds)
    (hrun : (start plan service metrics source started).follow? plan schedule = some c) :
    (c.desks.flatMap Desk.requestIds).Nodup := by
  have hnumbered : c.Numbered plan := by
    refine of_schedule _ (fun _ _ h haccounted => numbered_of_change h haccounted.seats) ?_ hrun
    refine ⟨[], List.nodup_nil, by simp, ?_⟩
    simp +contextual [start, List.flatMap_eq_nil_iff, List.mem_replicate, Desk.requestIds,
      Desk.visits, Desk.empty]
  obtain ⟨numbers, hnodup, -, hperm⟩ := hnumbered
  rw [hperm.nodup_iff]
  exact List.Pairwise.map plan.requestIds (fun _ _ hne heq => hne (hdistinct heq)) hnodup

/-! ### Ended batches -/

/-- A batch of distinct workflows that has ended, and what it has done to a service. -/
structure Settled (plan : Plan) (service : Service) (c : Chronicle) : Prop where
  accounted : c.Accounted plan
  final : c.state.isFinal
  cleared : c.Cleared
  distinct : c.workflows.Nodup
  charged : service.Charged c.charges c.state.service
  logged : c.Logged service.store

theorem settled_of_follow? {metrics : Metrics} {source : Source} {started : Nat}
    {schedule : List Actor} (hparallelism : 1 ≤ plan.config.parallelism)
    (hrun : (start plan service metrics source started).follow? plan schedule = some c)
    (hfinal : c.state.isFinal) (hdistinct : c.workflows.Nodup) : c.Settled plan service where
  accounted := accounted_of_follow? hrun
  final := hfinal
  cleared := (accounted_of_follow? hrun).cleared (by rw [size_workers hrun]; exact hparallelism) hfinal
  distinct := hdistinct
  charged := charged_of_follow? hrun
  logged := logged_of_follow? hrun

namespace Settled

theorem visits_eq (h : c.Settled plan service) :
    c.desks.flatMap Desk.visits = c.finished.map Prod.fst :=
  visits_eq_finished h.cleared.retired.2

theorem closed (h : c.Settled plan service) {entry : Visit × Outcome} (hentry : entry ∈ c.finished) :
    Closed plan entry.1 entry.2 := by
  obtain ⟨desk, hdesk, hmem⟩ := List.mem_flatMap.mp hentry
  exact h.accounted.lawful.closed hdesk hmem

theorem perm_targets (h : c.Settled plan service) :
    (c.finished.map fun entry => entry.1.target).Perm c.targets :=
  h.accounted.perm_finished h.cleared

theorem perm_processed (h : c.Settled plan service) :
    c.state.processed.Perm (c.finished.map Prod.snd) := by
  rw [finished, List.map_flatMap]
  exact h.accounted.perm_outcomes h.final

theorem calls_eq (h : c.Settled plan service) :
    c.calls = c.finished.flatMap fun entry => entry.1.calls := by
  have hcalls : c.calls = (c.desks.flatMap Desk.visits).flatMap Visit.calls := by
    rw [List.flatMap_assoc]
    rfl
  rw [hcalls, h.visits_eq, List.flatMap_map]

theorem requestIds_eq (h : c.Settled plan service) :
    c.desks.flatMap Desk.requestIds = c.finished.map fun entry => entry.1.requestId := by
  have hids : c.desks.flatMap Desk.requestIds =
      (c.desks.flatMap Desk.visits).map Visit.requestId := by
    rw [List.map_flatMap]
    rfl
  rw [hids, h.visits_eq, List.map_map]
  rfl

/-- What was accepted since the start of the batch was accepted for its entries, and for each workflow
only once. -/
theorem exists_log (h : c.Settled plan service) :
    ∃ log, Store.Logs service.store c.state.service.store log ∧
      log.Perm (c.finished.flatMap fun entry => entry.1.accepted) ∧
      (log.map (·.1.workflowId)).Nodup := by
  obtain ⟨log, hlog, hperm⟩ := h.logged
  have haccepted : log.Perm (c.finished.flatMap fun entry => entry.1.accepted) := by
    rw [accepted_eq_finished h.cleared.retired.2] at hperm
    exact hperm
  refine ⟨log, hlog, haccepted, ?_⟩
  have hworkflows : ((c.finished.flatMap fun entry => entry.1.accepted).map
      (·.1.workflowId)).Sublist (c.finished.map fun entry => entry.1.target.workflowId) := by
    rw [List.map_flatMap]
    apply sublist_of_flatMap
    intro entry hentry
    rcases (h.closed hentry).accepted_cases with ⟨hnone, -⟩ | ⟨anchor, newRunId, -, hone⟩
    · simp [hnone]
    · rw [hone]
      exact .refl _
  have hnodup : (c.finished.map fun entry => entry.1.target.workflowId).Nodup := by
    have htargets := h.perm_targets.map WorkflowRef.workflowId
    rw [List.map_map] at htargets
    exact htargets.nodup_iff.mpr h.distinct
  exact (haccepted.map _).nodup_iff.mpr (hworkflows.nodup hnodup)

/-- An outcome that reports a reset reports the first run id that was to be given out. -/
theorem newRunId_eq (h : c.Settled plan service) {entry : Visit × Outcome}
    (hentry : entry ∈ c.finished) {anchor : ResetAnchor} {newRunId : String}
    (hstatus : entry.2.status = .reset anchor newRunId) :
    newRunId = service.store.nextRunId entry.2.workflowId := by
  have hclosed := h.closed hentry
  obtain ⟨log, hlog, hperm, hnodup⟩ := h.exists_log
  rcases hclosed.accepted_cases with ⟨-, hnone⟩ | ⟨anchor', newRunId', hstatus', hone⟩
  · exact absurd hstatus (hnone anchor newRunId)
  · obtain ⟨rfl, rfl⟩ := OutcomeStatus.reset.inj (hstatus.symm.trans hstatus')
    have hmem : (plan.resetRequest entry.1.target.workflowId entry.1.requestId anchor, newRunId) ∈
        log := by
      rw [hperm.mem_iff, List.mem_flatMap]
      exact ⟨entry, hentry, by rw [hone]; exact List.mem_cons_self⟩
    obtain ⟨kept, -, hname, -⟩ := hlog.once hnodup hmem
    have hworkflow : entry.2.workflowId = entry.1.target.workflowId :=
      congrArg WorkflowRef.workflowId hclosed.ref_eq
    rw [hworkflow]
    exact hname

/-- Resets were accepted under distinct request ids, if the ids of visits are distinct. -/
theorem accepted_requestIds_nodup (h : c.Settled plan service)
    (hids : (c.desks.flatMap Desk.requestIds).Nodup) {log : List (ResetRequest × String)}
    (hperm : log.Perm (c.finished.flatMap fun entry => entry.1.accepted)) :
    (log.map (·.1.requestId)).Nodup := by
  have hsublist : ((c.finished.flatMap fun entry => entry.1.accepted).map
      (·.1.requestId)).Sublist (c.finished.map fun entry => entry.1.requestId) := by
    rw [List.map_flatMap]
    apply sublist_of_flatMap
    intro entry hentry
    rcases (h.closed hentry).accepted_cases with ⟨hnone, -⟩ | ⟨anchor, newRunId, -, hone⟩
    · simp [hnone]
    · rw [hone]
      exact .refl _
  exact (hperm.map _).nodup_iff.mpr (hsublist.nodup (h.requestIds_eq ▸ hids))

end Settled

end Chronicle

end Batch

end Rewind
