import Rewind.Proofs.Batch.Isolation
import Rewind.Proofs.Batch.Journal
import Rewind.Proofs.EmptyRun

/-!
Targets of a batch whose run id is empty.

Visibility answers may name a target with an empty run id. A batch works on such a target as it does on
one without a run id, with the same verdict of the safety checks, at the same event and with the same
end. But it does not fill the id in: where the one names the current run, in the anchor that it reports
and in the resets that it asks for, the other one names the run of the empty id.

Main statements: `Verdict.unfilled` for the work alone, and `empty_runId_kept` for two batches.
-/

namespace Rewind

open Program

/-- The anchor that a reset is asked for at. -/
def Request.anchor? : Request → Option ResetAnchor
  | .reset request => some ⟨request.runId, request.eventId⟩
  | _ => none

@[simp] theorem Request.anchor?_anonymous (request : Request) :
    request.anonymous.anchor? = request.anchor? := by
  cases request <;> rfl

/-- The anchors of the resets among some calls, in order. -/
def anchorsOf (exchanges : List Exchange) : List ResetAnchor :=
  exchanges.filterMap fun exchange => exchange.request.anchor?

theorem anchorsOf_call (service : Service) (request : Request) :
    anchorsOf (service.call request).2.journal =
      anchorsOf service.journal ++ request.anchor?.toList := by
  simp only [anchorsOf, Batch.Chronicle.journal_call, List.filterMap_append]
  cases hanchor : request.anchor? <;> simp [hanchor]

theorem anchorsOf_outline (exchanges : List Exchange) :
    anchorsOf (exchanges.map Exchange.outline) = anchorsOf exchanges := by
  simp only [anchorsOf, List.filterMap_map]
  apply List.filterMap_congr
  intro exchange _
  simp [Exchange.outline]

namespace Plan.AttemptedUnfilled

variable {workflowId current : String} {elsewhere : Prop}
  {attempted attempted' alone : Attempted ResetError OutcomeStatus}

/-- The id of the new run does not matter. -/
theorem of_left (h : AttemptedUnfilled workflowId current elsewhere alone attempted')
    (hsame : attempted = alone ∨ BothAttempted attempted alone) :
    AttemptedUnfilled workflowId current elsewhere attempted attempted' := by
  rcases hsame with rfl | ⟨hattempts, anchor, newRunId, newRunId', hreset, halone⟩
  · exact h
  · refine ⟨hattempts.trans h.attempts, ?_⟩
    have hresult := h.result
    rw [halone] at hresult
    generalize hother : attempted'.result = result at hresult
    rw [hreset]
    cases hresult with
    | ok hstatus =>
        cases hstatus with
        | reset _ newRunId'' hanchor => exact .ok (.reset newRunId newRunId'' hanchor)

theorem of_right (h : AttemptedUnfilled workflowId current elsewhere attempted alone)
    (hsame : attempted' = alone ∨ BothAttempted attempted' alone) :
    AttemptedUnfilled workflowId current elsewhere attempted attempted' := by
  rcases hsame with rfl | ⟨hattempts, anchor, newRunId, newRunId', hreset, halone⟩
  · exact h
  · refine ⟨h.attempts.trans hattempts.symm, ?_⟩
    have hresult := h.result
    rw [halone] at hresult
    generalize hother : attempted.result = result at hresult
    rw [hreset]
    cases hresult with
    | ok hstatus =>
        cases hstatus with
        | reset newRunId'' _ hanchor => exact .ok (.reset newRunId'' newRunId hanchor)

end Plan.AttemptedUnfilled

namespace Batch

/-- The anchors of the resets that were asked for during a visit, in order. -/
def Visit.anchors (visit : Visit) : List ResetAnchor :=
  anchorsOf (visit.calls.map Call.exchange)

theorem Visit.anchorsOf_outline (visit : Visit) : anchorsOf visit.outline = visit.anchors := by
  have houtline : visit.outline = (visit.calls.map Call.exchange).map Exchange.outline := by
    rw [List.map_map]
    rfl
  rw [houtline, Rewind.anchorsOf_outline, anchors]

namespace Solo

variable {plan : Plan} {workflowId current : String} {x y : Solo}

/-- The work on a target with the empty id, and on the target without an id, each alone: under way, or
at their ends. -/
structure Level (plan : Plan) (workflowId current : String) (x y : Solo) : Prop where
  anchors : List.Forall₂ (ResetAnchor.Unfilled current plan.GoesBack)
    (anchorsOf x.service.journal) (anchorsOf y.service.journal)
  going : (x.service.Beside workflowId current y.service ∧
      Program.Unfilled plan workflowId "" current plan.GoesBack
        (Plan.AttemptedUnfilled workflowId current plan.GoesBack)
        (Plan.AttemptedUnfilled workflowId current plan.GoesBack) x.work y.work) ∨
    ∃ attempted attempted', x.work = .done attempted ∧ y.work = .done attempted' ∧
      Plan.AttemptedUnfilled workflowId current plan.GoesBack attempted attempted'

theorem Level.advance (h : x.Level plan workflowId current y) :
    x.advance.Level plan workflowId current y.advance := by
  rcases h.going with ⟨hbeside, hunfilled⟩ | ⟨attempted, attempted', hx, hy, -⟩
  · have hnext := hunfilled.next
    -- A look leaves the anchors as they are.
    have hlook {request request' : Request} (hnone : request.anchor? = none)
        (hnone' : request'.anchor? = none) :
        List.Forall₂ (ResetAnchor.Unfilled current plan.GoesBack)
          (anchorsOf (x.service.call request).2.journal)
          (anchorsOf (y.service.call request').2.journal) := by
      rw [anchorsOf_call, anchorsOf_call, hnone, hnone']
      simpa using h.anchors
    generalize hx : x.work.next = nextx at hnext
    generalize hy : y.work.next = nexty at hnext
    cases hnext with
    | done hvalue =>
        rw [advance_of_done hx, advance_of_done hy]
        exact h
    | pause hresume =>
        rw [advance_of_pause hx, advance_of_pause hy]
        exact ⟨h.anchors, .inl ⟨hbeside, hresume⟩⟩
    | lookup herror hok =>
        rw [advance_of_ask hx, advance_of_ask hy]
        obtain ⟨answer, hanswer, hanswer', hcurrent, hafter⟩ := hbeside.call_lookup _
        refine ⟨hlook rfl rfl, .inl ⟨hafter, ?_⟩⟩
        rw [hanswer, hanswer']
        cases answer with
        | error error => exact herror error
        | ok description => exact hok description (hcurrent description rfl)
    | describe hid hresume =>
        rw [advance_of_ask hx, advance_of_ask hy]
        obtain ⟨answer, hanswer, hanswer', hafter⟩ := hbeside.call_describe hid _
        refine ⟨hlook rfl rfl, .inl ⟨hafter, ?_⟩⟩
        rw [hanswer, hanswer']
        exact hresume answer
    | page hworkflow hid hresume =>
        rw [advance_of_ask hx, advance_of_ask hy]
        obtain ⟨answer, hanswer, hanswer', hafter⟩ := hbeside.call_history hworkflow hid
        refine ⟨hlook rfl rfl, .inl ⟨hafter, ?_⟩⟩
        rw [hanswer, hanswer']
        exact hresume answer
    | @reset anchor anchor' resume resume' hanchor herror hok =>
        rw [advance_of_ask hx, advance_of_ask hy]
        refine ⟨?_, ?_⟩
        · rw [anchorsOf_call, anchorsOf_call]
          exact List.rel_append h.anchors (.cons hanchor .nil)
        · rcases hbeside.call_reset plan "" hanchor with
            ⟨error, error', hfailed, hfailed', hsame, hafter⟩ |
            ⟨response, response', haccepted, haccepted'⟩
          · rw [hfailed, hfailed']
            exact .inl ⟨hafter, herror error error' hsame⟩
          · rw [haccepted, haccepted']
            exact .inr (hok response response')
  · have hx' : x.work.next = .done attempted := by
      rw [hx]
      rfl
    have hy' : y.work.next = .done attempted' := by
      rw [hy]
      rfl
    rw [advance_of_done hx', advance_of_done hy']
    exact h

theorem level_iterate (plan : Plan) {home : Service}
    (hcurrent : home.store.current workflowId = some current) (n : Nat) :
    Level plan workflowId current (Solo.advance^[n] (.begin plan home ⟨workflowId, some ""⟩))
      (Solo.advance^[n] (.begin plan home ⟨workflowId, none⟩)) := by
  induction n with
  | zero => exact ⟨.nil, .inl ⟨⟨rfl, rfl, hcurrent⟩, plan.process_unfilled workflowId "" current⟩⟩
  | succ n ih =>
      rw [Function.iterate_succ_apply', Function.iterate_succ_apply']
      exact ih.advance

end Solo

/-- The work on a target with the empty id comes to the end of the work on the target without an id, but
for the id. -/
theorem Verdict.unfilled {plan : Plan} {home : Service} {workflowId current : String}
    {attempted attempted' : Attempted ResetError OutcomeStatus} {outline outline' : List Exchange}
    (hcurrent : home.store.current workflowId = some current)
    (h : Verdict plan home ⟨workflowId, some ""⟩ attempted outline)
    (h' : Verdict plan home ⟨workflowId, none⟩ attempted' outline') :
    Plan.AttemptedUnfilled workflowId current plan.GoesBack attempted attempted' ∧
      List.Forall₂ (ResetAnchor.Unfilled current plan.GoesBack) (anchorsOf outline)
        (anchorsOf outline') := by
  obtain ⟨m, hm, rfl⟩ := h
  obtain ⟨n, hn, rfl⟩ := h'
  -- Both have ended when the slower one has.
  have hx := Solo.iterate_of_done hm (Nat.le_max_left m n)
  have hy := Solo.iterate_of_done hn (Nat.le_max_right m n)
  have hlevel := Solo.level_iterate plan hcurrent (max m n)
  rw [hx, hy] at hlevel
  rw [Solo.outline, Solo.outline, anchorsOf_outline, anchorsOf_outline]
  refine ⟨?_, hlevel.anchors⟩
  rcases hlevel.going with ⟨-, hunfilled⟩ | ⟨value, value', hdone, hdone', hended⟩
  · have hnext := hunfilled.next
    rw [hm, hn] at hnext
    cases hnext with
    | done hended => exact hended
  · rw [hdone] at hm
    rw [hdone'] at hn
    obtain rfl := Next.done.inj hm
    obtain rfl := Next.done.inj hn
    exact hended

namespace Chronicle

/-- Whatever the other workers do in between, a batch works on a target with the empty run id as another
one does on the target without a run id, but the id stays empty: in the anchor of the outcome and in all
resets that are asked for. -/
theorem empty_runId_kept {plan plan' : Plan} {service : Service} {metrics metrics' : Metrics}
    {source source' : Source} {started started' : Nat} {schedule schedule' : List Actor}
    {c c' : Chronicle} {workflowId current : String} (hlike : plan.Like plan')
    (hrun : (start plan service metrics source started).follow? plan schedule = some c)
    (hrun' : (start plan' service metrics' source' started').follow? plan' schedule' = some c')
    (hdistinct : c.workflows.Nodup) (hdistinct' : c'.workflows.Nodup)
    (hcurrent : service.store.current workflowId = some current) {entry entry' : Visit × Outcome}
    (hentry : entry ∈ c.finished) (hentry' : entry' ∈ c'.finished)
    (htarget : entry.1.target = ⟨workflowId, some ""⟩)
    (htarget' : entry'.1.target = ⟨workflowId, none⟩) :
    entry.2.attempts = entry'.2.attempts ∧
    OutcomeStatus.Unfilled workflowId current plan.GoesBack entry.2.status entry'.2.status ∧
    List.Forall₂ (ResetAnchor.Unfilled current plan.GoesBack) entry.1.anchors entry'.1.anchors := by
  have hisolated : c.Isolated plan plan service :=
    isolated_of_start (.refl plan) hrun hdistinct
  have hisolated' : c'.Isolated plan' plan service :=
    isolated_of_start hlike.symm hrun' hdistinct'
  obtain ⟨attempted, alone, houtcome, hverdict, hsame⟩ := hisolated.finished hentry
  obtain ⟨attempted', alone', houtcome', hverdict', hsame'⟩ := hisolated'.finished hentry'
  rw [htarget] at hverdict
  rw [htarget'] at hverdict'
  obtain ⟨hended, hanchors⟩ := hverdict.unfilled hcurrent hverdict'
  rw [Visit.anchorsOf_outline, Visit.anchorsOf_outline] at hanchors
  have hboth := (hended.of_left hsame).of_right hsame'
  refine ⟨?_, ?_, hanchors⟩
  · rw [houtcome, houtcome']
    exact hboth.attempts
  · rw [houtcome, houtcome']
    exact hboth.status

/-- A query that has found a target with the empty run id. -/
def emptyRunSource : Source where
  feed := .query ⟨"default", "all", ⟨[⟨"pay", some ""⟩], none, true⟩⟩
  exclusions := .ofList []

theorem empty_runId_kept_sample :
    ∃ c c' entry entry',
      (start samplePlan sampleService .zero emptyRunSource 0).follow? samplePlan
        (List.replicate 3 .producer ++ List.replicate 6 (.worker 1)) = some c ∧
      (sampleStart ["pay"]).follow? samplePlan
        (List.replicate 3 .producer ++ List.replicate 6 (.worker 1)) = some c' ∧
      c.finished = [entry] ∧ c'.finished = [entry'] ∧
      entry.2.status = .reset ⟨"", 3⟩ "#i" ∧ entry'.2.status = .reset ⟨"base", 3⟩ "#i" ∧
      entry.2.attempts = entry'.2.attempts ∧
      List.Forall₂ (ResetAnchor.Unfilled "base" samplePlan.GoesBack) entry.1.anchors
        entry'.1.anchors := by
  have hends : ((start samplePlan sampleService .zero emptyRunSource 0).follow? samplePlan
      (List.replicate 3 .producer ++ List.replicate 6 (.worker 1))).map
      (fun c => (c.workflows, c.finished.map fun entry => (entry.1.target, entry.2.status))) =
      some (["pay"], [(⟨"pay", some ""⟩, .reset ⟨"", 3⟩ "#i")]) := by
    decide +kernel
  have hends' : ((sampleStart ["pay"]).follow? samplePlan
      (List.replicate 3 .producer ++ List.replicate 6 (.worker 1))).map
      (fun c => (c.workflows, c.finished.map fun entry => (entry.1.target, entry.2.status))) =
      some (["pay"], [(⟨"pay", none⟩, .reset ⟨"base", 3⟩ "#i")]) := by
    decide +kernel
  obtain ⟨c, hrun, hends⟩ := Option.map_eq_some_iff.mp hends
  obtain ⟨c', hrun', hends'⟩ := Option.map_eq_some_iff.mp hends'
  obtain ⟨hworkflows, hfinished⟩ := Prod.mk.inj hends
  obtain ⟨hworkflows', hfinished'⟩ := Prod.mk.inj hends'
  obtain ⟨entry, hentry, hone⟩ := List.map_eq_singleton_iff.mp hfinished
  obtain ⟨entry', hentry', hone'⟩ := List.map_eq_singleton_iff.mp hfinished'
  obtain ⟨htarget, hstatus⟩ := Prod.mk.inj hone
  obtain ⟨htarget', hstatus'⟩ := Prod.mk.inj hone'
  obtain ⟨hattempts, -, hanchors⟩ := empty_runId_kept (.refl samplePlan) hrun hrun'
    (by rw [hworkflows]; decide) (by rw [hworkflows']; decide)
    (by decide +kernel : sampleService.store.current "pay" = some "base")
    (by rw [hentry]; exact List.mem_singleton_self _)
    (by rw [hentry']; exact List.mem_singleton_self _) htarget htarget'
  exact ⟨c, c', entry, entry', hrun, hrun', hentry, hentry', hstatus, hstatus', hattempts, hanchors⟩

end Chronicle

end Batch

end Rewind
