import Rewind.Proofs.Batch.Accounting

/-!
Resets that a service accepted, and outcomes that report one.

The log of the service's store since the start of a batch holds what was accepted for the visits of
the workers, and nothing else. Behind the end of the batch each visit has an outcome, which tells what
was accepted for it.

Main statement: `resets_match_outcomes`.
-/

namespace Rewind.Batch

/-- What an accepted reset and its outcome agree on. -/
structure ResetKey where
  workflowId : String
  runId : String
  eventId : Int
  newRunId : String
deriving DecidableEq, Repr

namespace ResetKey

def ofEntry (entry : ResetRequest × String) : ResetKey :=
  ⟨entry.1.workflowId, entry.1.runId, entry.1.eventId, entry.2⟩

/-- What an outcome says about its reset, if it is one. -/
def ofOutcome? (outcome : Outcome) : Option ResetKey :=
  match outcome.status with
  | .reset anchor newRunId => some ⟨outcome.workflowId, anchor.runId, anchor.eventId, newRunId⟩
  | _ => none

theorem ofEntry_resetOf (plan : Plan) (requestId : String) (outcome : Outcome) :
    (resetOf plan requestId outcome).map ofEntry = ofOutcome? outcome := by
  unfold resetOf ofOutcome?
  cases outcome.status <;> rfl

end ResetKey

theorem Closed.keys_eq {plan : Plan} {visit : Visit} {outcome : Outcome}
    (h : Closed plan visit outcome) :
    visit.accepted.map ResetKey.ofEntry = (ResetKey.ofOutcome? outcome).toList := by
  rw [h.accepted_eq, ← ResetKey.ofEntry_resetOf plan visit.requestId]
  cases resetOf plan visit.requestId outcome <;> rfl

theorem Desk.accepted_eq (desk : Desk) : desk.accepted = desk.calls.filterMap Call.accepted? := by
  rw [Desk.accepted, Desk.calls, List.filterMap_flatMap]
  rfl

namespace Chronicle

variable {plan : Plan} {before : Store} {c c' : Chronicle}

theorem accepted_eq (c : Chronicle) :
    c.desks.flatMap Desk.accepted = c.calls.filterMap Call.accepted? := by
  rw [calls, List.filterMap_flatMap]
  exact List.flatMap_congr fun desk _ => desk.accepted_eq

/-- Where no visit is open, what was accepted was accepted for visits that have ended. -/
theorem accepted_eq_finished (hfree : ∀ desk ∈ c.desks, desk.current = none) :
    c.calls.filterMap Call.accepted? = c.finished.flatMap fun entry => entry.1.accepted := by
  have hvisits : c.desks.flatMap Desk.accepted =
      (c.desks.flatMap Desk.visits).flatMap Visit.accepted := by
    rw [List.flatMap_assoc]
    rfl
  rw [← c.accepted_eq, hvisits, visits_eq_finished hfree, List.flatMap_map]

/-- A scan accepts no reset. -/
theorem accepted?_scan (request : ScanRequest)
    (answer : Except ServiceError (Request.scan request).Response) :
    (Request.scan request).accepted? answer = none := by
  cases answer <;> rfl

/-- Since the store was as before, nothing was accepted but by the calls of workers. -/
def Logged (before : Store) (c : Chronicle) : Prop :=
  ∃ log, Store.Logs before c.state.service.store log ∧
    log.Perm (c.calls.filterMap Call.accepted?)

theorem logged_of_change (h : Change plan c c') (hseats : c.Seats) (hc : c.Logged before) :
    c'.Logged before := by
  obtain ⟨log, hlog, hperm⟩ := hc
  rcases calling_of_change h hseats with ⟨hservice, hscans, hdesks⟩ |
    ⟨request, hservice, hscans, hdesks⟩ | ⟨index, calls, request, hservice, hscans, hcalls, hdesks⟩
  · exact ⟨log, hservice ▸ hlog, calls_eq hdesks ▸ hperm⟩
  · refine ⟨log, ?_, calls_eq hdesks ▸ hperm⟩
    have hstep := c.state.service.call_step (.scan request)
    rw [accepted?_scan, ← hservice] at hstep
    simpa using hlog.step hstep
  · have hstep := c.state.service.call_step request
    rw [← hservice] at hstep
    refine ⟨_, hlog.step hstep, ?_⟩
    have hmore := (perm_calls hcalls hdesks).filterMap Call.accepted?
    have hlast : [c.ask request].filterMap Call.accepted? =
        (request.accepted? (c.state.service.call request).1).toList := by
      rw [List.filterMap_eq_flatMap_toList, List.flatMap_singleton]
      rfl
    rw [List.filterMap_append, hlast] at hmore
    exact (hperm.append_right _).trans hmore.symm

theorem logged_start (plan : Plan) (service : Service) (metrics : Metrics) (source : Source)
    (started : Nat) : (start plan service metrics source started).Logged service.store :=
  ⟨[], .start, by rw [calls_start]; rfl⟩

theorem logged_of_follow? {service : Service} {metrics : Metrics} {source : Source}
    {started : Nat} {schedule : List Actor}
    (hrun : (start plan service metrics source started).follow? plan schedule = some c) :
    c.Logged service.store :=
  of_schedule _ (fun _ _ h haccounted hc => logged_of_change h haccounted.seats hc)
    (logged_start plan service metrics source started) hrun

/-- The outcomes of a desk without a visit at hand tell what was accepted there. -/
theorem Lawful.keys_eq (hc : c.Lawful plan) {desk : Desk} (hdesk : desk ∈ c.desks)
    (hfree : desk.current = none) :
    desk.accepted.map ResetKey.ofEntry = desk.outcomes.filterMap ResetKey.ofOutcome? := by
  have hvisits : desk.visits = desk.finished.map Prod.fst := by simp [Desk.visits, hfree]
  simp only [Desk.accepted, Desk.outcomes, hvisits, List.flatMap_map, List.map_flatMap,
    List.filterMap_eq_flatMap_toList]
  apply List.flatMap_congr
  intro entry hentry
  exact (hc.closed hdesk hentry).keys_eq

/-- However the actors take turns, the resets accepted during a batch are those that its outcomes
report. Each has made a run of its own, and nothing else was done to the runs. A visit had the reset
accepted that its outcome reports, and none if its outcome reports none. -/
theorem resets_match_outcomes {plan : Plan} {service : Service} {metrics : Metrics}
    {source : Source} {started : Nat} {schedule : List Actor} {c : Chronicle}
    (hfresh : service.store.Fresh)
    (hrun : (start plan service metrics source started).follow? plan schedule = some c)
    (hfinal : c.state.isFinal) :
    ∃ log : List (ResetRequest × String),
      c.state.service.store.resets = service.store.resets ++ log.map Prod.fst ∧
      (log.map ResetKey.ofEntry).Perm (c.state.outcomes.filterMap ResetKey.ofOutcome?) ∧
      (log.map Store.runKey).Nodup ∧
      (∀ entry ∈ log, service.store.runs entry.1.workflowId entry.2 = none ∧
        ∃ kept, c.state.service.store.runs entry.1.workflowId entry.2 =
          some ⟨entry.1.workflowId, entry.2, true, [], kept ++ Store.resetEvents entry.1⟩) ∧
      (∀ workflowId runId, (workflowId, runId) ∉ log.map Store.runKey →
        c.state.service.store.runs workflowId runId = service.store.runs workflowId runId) ∧
      log.Perm ((c.desks.flatMap Desk.finished).flatMap fun entry => entry.1.accepted) ∧
      c.state.processed.Perm ((c.desks.flatMap Desk.finished).map Prod.snd) ∧
      ∀ desk ∈ c.desks, desk.current = none ∧ ∀ entry ∈ desk.finished,
        entry.1.accepted.map ResetKey.ofEntry = (ResetKey.ofOutcome? entry.2).toList := by
  have hc := accounted_of_follow? hrun
  have hfree := (hc.retired hfinal).2
  obtain ⟨log, hlog, hperm⟩ := logged_of_follow? hrun
  refine ⟨log, hlog.resets_eq, ?_, hlog.keys_nodup hfresh, fun entry => hlog.made hfresh,
    fun workflowId runId => hlog.runs_eq, ?_, ?_, ?_⟩
  · have hexcluded : c.state.excluded.filterMap ResetKey.ofOutcome? = [] := by
      rw [hc.exclusions, List.filterMap_map, List.filterMap_eq_nil_iff]
      exact fun _ _ => rfl
    have hdesks : (c.desks.flatMap Desk.accepted).map ResetKey.ofEntry =
        (c.desks.flatMap Desk.outcomes).filterMap ResetKey.ofOutcome? := by
      rw [List.map_flatMap, List.filterMap_flatMap]
      apply List.flatMap_congr
      intro desk hdesk
      exact hc.lawful.keys_eq hdesk (hfree desk hdesk)
    rw [State.outcomes, List.filterMap_append, hexcluded, List.nil_append]
    calc log.map ResetKey.ofEntry
        _ |>.Perm ((c.desks.flatMap Desk.accepted).map ResetKey.ofEntry) :=
            (c.accepted_eq ▸ hperm).map _
        _ |>.Perm (c.state.processed.filterMap ResetKey.ofOutcome?) :=
            hdesks ▸ (hc.perm_outcomes hfinal).symm.filterMap _
  · rw [accepted_eq_finished hfree] at hperm
    exact hperm
  · rw [List.map_flatMap]
    exact hc.perm_outcomes hfinal
  · intro desk hdesk
    exact ⟨hfree desk hdesk, fun entry hentry => (hc.lawful.closed hdesk hentry).keys_eq⟩

theorem sampleId_injective {m n : Nat} (hid : sampleId m = sampleId n) : m = n := by
  simpa using congrArg List.length (String.ofList_injective hid)

theorem sampleId_ne_base (n : Nat) : sampleId n ≠ "base" := by
  intro hid
  have hlists : '#' :: List.replicate n 'i' = "base".toList := by
    rw [← hid, sampleId, String.toList_ofList]
  exact absurd (List.cons.inj hlists).1 (by decide)

theorem sampleService_fresh : sampleService.store.Fresh := by
  constructor
  · intro workflowId m n hname
    exact sampleId_injective hname
  · intro workflowId n _
    simp [sampleService, Service.ofStore, Store.insertRun, Store.setRun, Store.setCurrent,
      Store.empty, sampleRun, sampleId_ne_base]

theorem resets_match_outcomes_sample :
    ∃ (c : Chronicle) (log : List (ResetRequest × String)),
      (sampleStart ["pay", "audit"]).follow? samplePlan sampleSchedule = some c ∧
      c.state.isFinal ∧ c.state.service.store.resets = [] ++ log.map Prod.fst ∧
      (log.map ResetKey.ofEntry).Perm [⟨"pay", "base", 3, "#i"⟩] := by
  have hsome : ((sampleStart ["pay", "audit"]).follow? samplePlan sampleSchedule).isSome := by
    decide +kernel
  obtain ⟨c, hrun⟩ := Option.isSome_iff_exists.mp hsome
  have hends : ((sampleStart ["pay", "audit"]).follow? samplePlan sampleSchedule).map
      (fun c => (c.state.isFinal, c.state.outcomes.filterMap ResetKey.ofOutcome?)) =
      some (true, [⟨"pay", "base", 3, "#i"⟩]) := by
    decide +kernel
  rw [hrun, Option.map_some, Option.some.injEq, Prod.mk.injEq] at hends
  obtain ⟨hfinal, hkeys⟩ := hends
  obtain ⟨log, hlog, hperm, -⟩ := resets_match_outcomes sampleService_fresh hrun hfinal
  exact ⟨c, log, hrun, hfinal, hlog, hkeys ▸ hperm⟩

end Chronicle

end Rewind.Batch
