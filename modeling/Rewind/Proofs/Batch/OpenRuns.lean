import Rewind.Proofs.Batch.Resets
import Rewind.Proofs.Part

/-!
Batches that skip open runs.

Each worker sees the current run of a workflow closed before it has a reset of that workflow
accepted, and behind an accepted reset nobody sees that run closed any more. So no worker resets a
workflow twice. Nothing is held between the look and the reset, though: two workers that have both
looked can both have their resets accepted.

Main statements: `one_reset_per_worker`, and the race `two_resets_of_one_workflow`.
-/

namespace Rewind

/-- Whether a call has shown the current run of its workflow closed. -/
def Request.SeesClosed : (request : Request) → Except ServiceError request.Response → Prop
  | .describe request, .ok description =>
      request.runId = none ∧ Description.isOpen description = false
  | _, _ => False

theorem Store.closed_of_describe {s : Store} {request : DescribeRequest}
    {description : Description} (hcurrent : request.runId = none)
    (hanswer : s.describe request = .ok description) (hclosed : description.isOpen = false) :
    ∃ runId run, s.current request.workflowId = some runId ∧
      s.runs request.workflowId runId = some run ∧ run.isOpen = false := by
  unfold describe resolve currentRun? at hanswer
  rw [hcurrent] at hanswer
  cases hrunId : s.current request.workflowId with
  | none => simp [hrunId, Except.bind] at hanswer
  | some runId =>
      cases hrun : s.runs request.workflowId runId with
      | none => simp [hrunId, Except.bind, run?, hrun, Except.map] at hanswer
      | some run =>
          have hdescription : (⟨runId, run.isOpen, run.points⟩ : Description) = description := by
            simpa [hrunId, Except.bind, run?, hrun, Except.map] using hanswer
          exact ⟨runId, run, rfl, hrun, by rw [← hclosed, ← hdescription]⟩

theorem Service.closed_of_seesClosed {s : Service} {request : Request}
    (hsees : request.SeesClosed (s.call request).1) :
    ∃ runId run, s.store.current request.subject = some runId ∧
      s.store.runs request.subject runId = some run ∧ run.isOpen = false := by
  cases request with
  | history request | scan request | reset request => exact hsees.elim
  | describe request =>
      cases hanswer : (s.call (.describe request)).1 with
      | error error =>
          rw [hanswer] at hsees
          exact hsees.elim
      | ok description =>
          rw [hanswer] at hsees
          exact Store.closed_of_describe hsees.1 (s.served_of_ok hanswer) hsees.2

namespace Batch

/-- Whether a call has shown the current run of its workflow closed. -/
def Call.SeesClosed (call : Call) : Prop :=
  call.request.SeesClosed call.answer

/-- An accepted reset is about the workflow of its call, and has shown nothing closed. -/
theorem Call.of_accepted? {call : Call} {entry : ResetRequest × String}
    (haccepted : call.accepted? = some entry) :
    call.request = .reset entry.1 ∧ ¬ call.SeesClosed := by
  obtain ⟨time, request, answer⟩ := call
  cases request with
  | describe request | history request | scan request =>
      cases answer <;> simp [accepted?, Request.accepted?] at haccepted
  | reset request =>
      cases answer with
      | error error => simp [accepted?] at haccepted
      | ok response =>
          obtain rfl := Option.some.inj haccepted
          exact ⟨rfl, id⟩

namespace Visit.Ruled

variable {plan : Plan} {visit : Visit} {standing : Standing}

/-- All calls for a target are about its workflow. -/
theorem subject_eq (h : Ruled plan visit standing) {call : Call} (hcall : call ∈ visit.calls) :
    call.request.subject = visit.target.workflowId ∧ call.request.method ≠ .scan := by
  induction h with
  | begun target requestId => simp at hcall
  | called new h hallowed ih =>
      simp only [after, List.mem_append, List.mem_singleton] at hcall ⊢
      rcases hcall with hold | rfl
      · exact ih hold
      · exact ⟨hallowed.2.1, hallowed.2.2.1⟩

/-- What was seen, a call has shown. -/
theorem exists_seesClosed (h : Ruled plan visit standing) (hsaw : standing.sawClosed) :
    ∃ check ∈ visit.calls, check.SeesClosed := by
  induction h with
  | begun target requestId => simp [Standing.initial] at hsaw
  | @called visit standing call h hallowed ih =>
      have hlater (hold : standing.sawClosed) : ∃ check ∈ (visit.after call).calls,
          check.SeesClosed := by
        obtain ⟨check, hcheck, hsees⟩ := ih hold
        exact ⟨check, List.mem_append_left _ hcheck, hsees⟩
      by_cases hnew : call.SeesClosed
      · exact ⟨call, by simp [after], hnew⟩
      · apply hlater
        obtain ⟨time, request, answer⟩ := call
        cases request with
        | describe request =>
            cases answer with
            | error error => exact hsaw
            | ok description =>
                by_contra hunseen
                have hclosed : request.runId = none ∧ Description.isOpen description = false := by
                  simpa [Standing.after, hunseen] using hsaw
                exact hnew hclosed
        | history request | scan request | reset request => cases answer <;> exact hsaw

/-- If open runs are skipped, the current run was seen closed before a reset was accepted. -/
theorem exists_check (h : Ruled plan visit standing) (hskip : plan.config.skipIfOpen)
    (haccepted : visit.accepted ≠ []) : ∃ check ∈ visit.calls, check.SeesClosed := by
  induction h with
  | begun target requestId => exact absurd rfl haccepted
  | @called visit standing call h hallowed ih =>
      have hearlier : ∃ check ∈ visit.calls, check.SeesClosed := by
        by_cases hbefore : visit.accepted = []
        · cases hentry : call.accepted? with
          | none =>
              rw [accepted_after, hbefore, hentry] at haccepted
              exact absurd rfl haccepted
          | some entry =>
              have hreset := (Call.of_accepted? hentry).1
              exact h.exists_seesClosed ((hallowed.2.2.2 entry.1 hreset).2 hskip)
        · exact ih hbefore
      obtain ⟨check, hcheck, hsees⟩ := hearlier
      exact ⟨check, List.mem_append_left _ hcheck, hsees⟩

end Visit.Ruled

namespace Chronicle

variable {plan : Plan} {before : Store} {c c' : Chronicle}

/-! ### The times of calls -/

/-- The calls of each worker follow each other, and none is later than now. -/
def Timed (c : Chronicle) : Prop :=
  ∀ calls ∈ c.desks.map Desk.calls,
    calls.Pairwise (fun first second => first.time < second.time) ∧
      ∀ call ∈ calls, call.time < c.state.service.journal.length

theorem timed_of_change (h : Change plan c c') (hseats : c.Seats) (hc : c.Timed) : c'.Timed := by
  -- Where calls are as before, only the present has moved on.
  have hsame (hdesks : c'.desks.map Desk.calls = c.desks.map Desk.calls)
      (hlater : c.state.service.journal.length ≤ c'.state.service.journal.length) : c'.Timed := by
    intro calls hcalls
    obtain ⟨hordered, hpast⟩ := hc calls (hdesks ▸ hcalls)
    exact ⟨hordered, fun call hcall => Nat.lt_of_lt_of_le (hpast call hcall) hlater⟩
  rcases calling_of_change h hseats with ⟨hservice, hscans, hdesks⟩ |
    ⟨request, hservice, hscans, hdesks⟩ | ⟨index, calls, request, hservice, hscans, hcalls, hdesks⟩
  · exact hsame hdesks (Nat.le_of_eq (by rw [hservice]))
  · exact hsame hdesks (by rw [hservice, Service.length_journal_call]; omega)
  · intro calls' hcalls'
    rw [hservice, Service.length_journal_call]
    rw [hdesks] at hcalls'
    rcases List.mem_or_eq_of_mem_set hcalls' with hold | rfl
    · obtain ⟨hordered, hpast⟩ := hc calls' hold
      exact ⟨hordered, fun call hcall => Nat.lt_succ_of_lt (hpast call hcall)⟩
    · obtain ⟨hordered, hpast⟩ := hc calls (List.mem_of_getElem? hcalls)
      constructor
      · rw [List.pairwise_append]
        refine ⟨hordered, List.pairwise_singleton _ _, ?_⟩
        intro call hcall new hnew
        rw [List.mem_singleton.mp hnew]
        exact hpast call hcall
      · intro call hcall
        rcases List.mem_append.mp hcall with hold | hnew
        · exact Nat.lt_succ_of_lt (hpast call hold)
        · rw [List.mem_singleton.mp hnew]
          exact Nat.lt_succ_self _

/-- A workflow is seen closed only before the first reset of it that the batch has accepted. -/
def LooksFirst (c : Chronicle) : Prop :=
  ∀ check ∈ c.calls, check.SeesClosed → ∀ reset ∈ c.calls, ∀ entry, reset.accepted? = some entry →
    entry.1.workflowId = check.request.subject → check.time < reset.time

theorem looksFirst_of_change (h : Change plan c c') (hseats : c.Seats) (htimed : c.Timed)
    (hlogged : c.Logged before) (hc : c.LooksFirst) : c'.LooksFirst := by
  rcases calling_of_change h hseats with ⟨hservice, hscans, hdesks⟩ |
    ⟨request, hservice, hscans, hdesks⟩ | ⟨index, calls, request, hservice, hscans, hcalls, hdesks⟩
  · rw [LooksFirst, calls_eq hdesks]
    exact hc
  · rw [LooksFirst, calls_eq hdesks]
    exact hc
  · have hmem {call : Call} (hcall : call ∈ c'.calls) : call ∈ c.calls ∨ call = c.ask request := by
      have hnew := (perm_calls hcalls hdesks).mem_iff.mp hcall
      rwa [List.mem_append, List.mem_singleton] at hnew
    intro check hcheck hsees reset hreset entry hentry hsubject
    rcases hmem hcheck with hcheck | rfl
    · rcases hmem hreset with hreset | rfl
      · exact hc check hcheck hsees reset hreset entry hentry hsubject
      · obtain ⟨desk, hdesk, hcall⟩ := List.mem_flatMap.mp hcheck
        exact (htimed desk.calls (List.mem_map_of_mem hdesk)).2 check hcall
    · rcases hmem hreset with hreset | rfl
      · -- A reset was accepted before, so the current run was open when it was looked at.
        obtain ⟨log, hlog, hperm⟩ := hlogged
        have hin : entry ∈ log := hperm.mem_iff.mpr (List.mem_filterMap.mpr ⟨reset, hreset, hentry⟩)
        obtain ⟨runId, run, hcurrent, hrun, hopen⟩ := hlog.current_isOpen hin
        obtain ⟨runId', run', hcurrent', hrun', hclosed⟩ := Service.closed_of_seesClosed hsees
        rw [hsubject] at hcurrent hrun
        obtain rfl := Option.some.inj (hcurrent.symm.trans hcurrent')
        obtain rfl := Option.some.inj (hrun.symm.trans hrun')
        rw [hopen] at hclosed
        exact absurd hclosed (by simp)
      · exact absurd hsees (Call.of_accepted? hentry).2

/-- The check of a visit that had a reset accepted. -/
theorem exists_first_look (hc : c.Accounted plan) (hfirst : c.LooksFirst)
    (hskip : plan.config.skipIfOpen) {desk : Desk} (hdesk : desk ∈ c.desks) {visit : Visit}
    (hvisit : visit ∈ desk.visits) {entry : ResetRequest × String}
    (hentry : entry ∈ visit.accepted) :
    ∃ check ∈ visit.calls, check.SeesClosed ∧ check.request.subject = entry.1.workflowId ∧
      ∀ reset ∈ c.calls, ∀ entry', reset.accepted? = some entry' →
        entry'.1.workflowId = entry.1.workflowId → check.time < reset.time := by
  obtain ⟨standing, hruled⟩ := hc.lawful.ruled hc.seats hdesk hvisit
  obtain ⟨check, hcheck, hsees⟩ := hruled.exists_check hskip (List.ne_nil_of_mem hentry)
  obtain ⟨reset, hreset, haccepted⟩ := List.mem_filterMap.mp hentry
  have hworkflow : entry.1.workflowId = visit.target.workflowId := by
    have hsubject := (hruled.subject_eq hreset).1
    rwa [(Call.of_accepted? haccepted).1] at hsubject
  have hsubject : check.request.subject = entry.1.workflowId :=
    (hruled.subject_eq hcheck).1.trans hworkflow.symm
  have hcalls : check ∈ c.calls :=
    List.mem_flatMap.mpr ⟨desk, hdesk, List.mem_flatMap.mpr ⟨visit, hvisit, hcheck⟩⟩
  refine ⟨check, hcheck, hsees, hsubject, ?_⟩
  intro reset' hreset' entry' hentry' hsame
  exact hfirst check hcalls hsees reset' hreset' entry' hentry' (hsame.trans hsubject.symm)

theorem workflows_nodup (hc : c.Accounted plan) (htimed : c.Timed) (hfirst : c.LooksFirst)
    (hskip : plan.config.skipIfOpen) {desk : Desk} (hdesk : desk ∈ c.desks) :
    (desk.accepted.map fun entry => entry.1.workflowId).Nodup := by
  have hordered := (htimed desk.calls (List.mem_map_of_mem hdesk)).1
  rw [Desk.calls, List.pairwise_flatMap] at hordered
  rw [Desk.accepted, List.map_flatMap, List.Nodup, List.pairwise_flatMap]
  constructor
  · intro visit hvisit
    obtain ⟨standing, hruled⟩ := hc.lawful.ruled hc.seats hdesk hvisit
    rw [hruled.accepted_eq]
    cases standing.accepted <;> simp
  · apply hordered.2.imp_of_mem
    rintro first second hfirstVisit hsecondVisit hbefore workflowId hworkflow _ hworkflow' rfl
    obtain ⟨entry, hentry, rfl⟩ := List.mem_map.mp hworkflow
    obtain ⟨entry', hentry', hsame⟩ := List.mem_map.mp hworkflow'
    -- The second visit looked before the reset of the first one, and yet came later.
    obtain ⟨check, hcheck, -, -, hlooked⟩ := exists_first_look hc hfirst hskip hdesk hsecondVisit hentry'
    obtain ⟨reset, hreset, haccepted⟩ := List.mem_filterMap.mp hentry
    have hcalls : reset ∈ c.calls :=
      List.mem_flatMap.mpr ⟨desk, hdesk, List.mem_flatMap.mpr ⟨first, hfirstVisit, hreset⟩⟩
    have hlate := hlooked reset hcalls entry haccepted hsame.symm
    have hearly := hbefore reset hreset check hcheck
    omega

theorem countP_flatMap_le {α β : Type} {p : β → Bool} {as : List α} {f : α → List β}
    (hone : ∀ a ∈ as, (f a).countP p ≤ 1) : (as.flatMap f).countP p ≤ as.length := by
  induction as with
  | nil => simp
  | cons a as ih =>
      have hhead := hone a List.mem_cons_self
      have htail := ih fun a ha => hone a (List.mem_cons_of_mem _ ha)
      rw [List.flatMap_cons, List.countP_append, List.length_cons]
      omega

theorem length_desks (hc : c.Seats) : c.desks.length = c.state.workers.size := by
  rw [← hc.length_eq, Array.length_toList]

/-- If open runs are skipped, no worker has two resets of one workflow accepted, so there are no more
resets of a workflow than workers. Each was preceded by a look that showed the workflow's current run
closed, before the batch had any reset of that workflow accepted. -/
theorem one_reset_per_worker {plan : Plan} {service : Service} {metrics : Metrics}
    {source : Source} {started : Nat} {schedule : List Actor} {c : Chronicle}
    (hskip : plan.config.skipIfOpen)
    (hrun : (start plan service metrics source started).follow? plan schedule = some c) :
    (∀ desk ∈ c.desks, (desk.accepted.map fun entry => entry.1.workflowId).Nodup) ∧
    (∀ workflowId, c.state.service.store.resetCount workflowId ≤
      service.store.resetCount workflowId + plan.config.parallelism) ∧
    ∀ desk ∈ c.desks, ∀ visit ∈ desk.visits, ∀ entry ∈ visit.accepted,
      ∃ check ∈ visit.calls, check.SeesClosed ∧ check.request.subject = entry.1.workflowId ∧
        ∀ reset ∈ c.calls, ∀ entry', reset.accepted? = some entry' →
          entry'.1.workflowId = entry.1.workflowId → check.time < reset.time := by
  have hc := accounted_of_follow? hrun
  have hkept : c.Logged service.store ∧ c.Timed ∧ c.LooksFirst := by
    refine of_schedule (fun c => c.Logged service.store ∧ c.Timed ∧ c.LooksFirst) ?_ ?_ hrun
    · rintro c c' h haccounted ⟨hlogged, htimed, hfirst⟩
      exact ⟨logged_of_change h haccounted.seats hlogged, timed_of_change h haccounted.seats htimed,
        looksFirst_of_change h haccounted.seats htimed hlogged hfirst⟩
    · refine ⟨logged_start plan service metrics source started, ?_, ?_⟩
      · simp [Timed, start, Desk.calls, Desk.visits, Desk.empty]
      · simp [LooksFirst, calls_start]
  obtain ⟨⟨log, hlog, hperm⟩, htimed, hfirst⟩ := hkept
  have hnodup (desk : Desk) (hdesk : desk ∈ c.desks) :=
    workflows_nodup hc htimed hfirst hskip hdesk
  refine ⟨hnodup, ?_, ?_⟩
  · intro workflowId
    have hworkers : c.desks.length = plan.config.parallelism :=
      (length_desks hc.seats).trans (size_workers hrun)
    rw [hlog.resetCount_eq, hperm.countP_eq, ← c.accepted_eq, ← hworkers]
    refine Nat.add_le_add_left (countP_flatMap_le ?_) _
    intro desk hdesk
    have hcount := List.nodup_iff_count.mp (hnodup desk hdesk) workflowId
    rw [List.count, List.countP_map] at hcount
    exact hcount
  · intro desk hdesk visit hvisit entry hentry
    exact exists_first_look hc hfirst hskip hdesk hvisit hentry

/-- Both workers look at the workflow before either of them resets it. -/
theorem one_reset_per_worker_race :
    ∃ c, (sampleStart ["pay", "pay"]).follow? samplePlan crossedSchedule = some c ∧
      (∀ desk ∈ c.desks, (desk.accepted.map fun entry => entry.1.workflowId).Nodup) ∧
      c.state.service.store.resetCount "pay" ≤ 0 + 2 := by
  have hsome : ((sampleStart ["pay", "pay"]).follow? samplePlan crossedSchedule).isSome := by
    decide +kernel
  obtain ⟨c, hrun⟩ := Option.isSome_iff_exists.mp hsome
  obtain ⟨hnodup, hcount, -⟩ := one_reset_per_worker (by decide) hrun
  exact ⟨c, hrun, hnodup, hcount "pay"⟩

/-- The bound is reached: one batch that skips open runs resets one workflow twice. -/
theorem two_resets_of_one_workflow :
    samplePlan.config.skipIfOpen = true ∧ samplePlan.config.dryRun = false ∧
      ((sampleStart ["pay", "pay"]).follow? samplePlan crossedSchedule).map (fun c =>
        (c.state.isFinal, c.state.service.store.resetCount "pay",
          sampleService.store.resetCount "pay")) = some (true, 2, 0) := by
  refine ⟨rfl, rfl, ?_⟩
  decide +kernel

end Chronicle

end Batch

end Rewind
