import Rewind.Proofs.Batch.Confluence
import Rewind.Proofs.Batch.Steady
import Rewind.Proofs.Lineage
import Rewind.Proofs.Rehearsal

/-!
Dry runs of batches.

A dry run asks for no reset and changes no run. Beside it, the batch that it rehearses comes to the same
end for every target but those for which the dry run has reported an anchor; for these it asks for the
reset to that anchor, which is accepted if the event is there.

Main statement: `dry_run_faithful`.
-/

namespace Rewind

open Program

/-- What comes of the reset to an anchor in this store: it is accepted if the run has the event, and
refused otherwise. -/
def CarriedOut (store : Store) (workflowId : String) (anchor : ResetAnchor)
    (result : Except ResetError OutcomeStatus) : Prop :=
  ∃ run, store.resolve workflowId (some anchor.runId) = .ok run ∧
    ((∃ event ∈ run.history, event.eventId = anchor.eventId) →
      ∃ newRunId, result = .ok (.reset anchor newRunId)) ∧
    ((∀ event ∈ run.history, event.eventId ≠ anchor.eventId) →
      ∃ error, error.kind = .invalidArgument ∧ result = .error (.service error))

/-- The id of the new run does not matter. -/
theorem CarriedOut.of_both {store : Store} {workflowId : String} {anchor : ResetAnchor}
    {result result' : Except ResetError OutcomeStatus}
    (h : CarriedOut store workflowId anchor result) (hboth : Plan.BothReset result' result) :
    CarriedOut store workflowId anchor result' := by
  obtain ⟨run, hrun, haccepted, hrefused⟩ := h
  obtain ⟨anchor', newRunId', newRunId, hresult', hresult⟩ := hboth
  refine ⟨run, hrun, fun hevent => ?_, fun hnone => ?_⟩
  · obtain ⟨_, hsame⟩ := haccepted hevent
    obtain ⟨rfl, -⟩ := OutcomeStatus.reset.inj (Except.ok.inj (hresult.symm.trans hsame))
    exact ⟨newRunId', hresult'⟩
  · obtain ⟨error, -, hfailed⟩ := hrefused hnone
    rw [hresult] at hfailed
    exact absurd hfailed (by simp)

namespace Service

/-- A call scripts no failure. -/
theorem failures_call_nil {s : Service} {method : Method} {subject : String}
    (hnil : s.store.failures method subject = []) (request : Request) :
    (s.call request).2.store.failures method subject = [] := by
  rcases s.call_eq request with ⟨-, -, hstore⟩ | ⟨deadline, -, -, hstore⟩
  · rw [hstore, Store.failures_call, hnil]
    split <;> rfl
  · rw [hstore]
    exact hnil

end Service

namespace Batch

/-! ### Side by side -/

namespace Solo

variable {plan plan' : Plan} {home : Service} {workflowId : String} {asks : ResetRequest → Prop}
  {x y : Solo}

theorem Going.kind {request : ResetRequest}
    {resume : Except ServiceError (Request.reset request).Response →
      Program (Attempted ResetError OutcomeStatus)}
    (h : x.Going plan home workflowId "" asks) (hask : x.work.next = .ask (.reset request) resume) :
    asks request := by
  have hnext := h.views.next
  rw [hask] at hnext
  cases hnext with
  | look hmethod _ _ => exact absurd rfl hmethod
  | reset hasks _ _ => exact hasks

/-- How far a dry run and the run that it rehearses have come, each alone: equally far with the same
service, or to their ends. -/
inductive Staged (plan' : Plan) (home : Service) (workflowId : String) (x y : Solo) : Prop
  | together :
      x.service = y.service → y.service.store.failures .reset workflowId = [] →
      Program.Rehearses (fun attempted => Plan.IsPlain attempted.result)
        (plan'.Plays workflowId "") x.work y.work →
      Staged plan' home workflowId x y
  | apart (anchor : ResetAnchor) (attempts : Nat) (result : Except ResetError OutcomeStatus)
      (failure : Option ServiceError) :
      x.work.next = .done ⟨.ok (.dryRun anchor), attempts⟩ →
      y.work.next = .done ⟨result, attempts⟩ →
      y.service.journal = x.service.journal ++
        [⟨.reset (plan'.resetRequest workflowId "" anchor), failure⟩] →
      CarriedOut home.store workflowId anchor result →
      Staged plan' home workflowId x y

/-- The run asks for the reset that was announced, and has ended. -/
theorem staged_of_plays {anchor' : ResetAnchor}
    {attempted : Attempted ResetError OutcomeStatus}
    {program : Program (Attempted ResetError OutcomeStatus)}
    (hplays : plan'.Plays workflowId "" attempted program) (hservice : x.service = y.service)
    (hfailures : y.service.store.failures .reset workflowId = [])
    (hgoing : y.Going plan' home workflowId "" (Plan.AsksAt home plan' workflowId "" anchor'))
    (hx : x.work.next = .done attempted) (hy : y.work.next = program.next) :
    Staged plan' home workflowId x y.advance := by
  obtain ⟨anchor, resume, hresult, rfl, hok, herror⟩ := hplays
  obtain ⟨result, attempts⟩ := attempted
  obtain rfl : result = .ok (.dryRun anchor) := hresult
  have hask : y.work.next = .ask (.reset (plan'.resetRequest workflowId "" anchor)) resume := hy
  -- Something was seen of the run, so calls reach the service, and it has the run.
  obtain ⟨hrequest, hmissed, run, hrun⟩ := hgoing.kind hask
  obtain ⟨-, -, hrunId, -⟩ := ResetRequest.mk.inj hrequest
  rw [← hrunId] at hrun
  have hkept : y.service.store.keptEvents (plan'.resetRequest workflowId "" anchor) =
      home.store.keptEvents (plan'.resetRequest workflowId "" anchor) :=
    Store.keptEvents_congr hgoing.part.runs hgoing.part.current rfl
  have hqueue : y.service.store.failures .reset
      (plan'.resetRequest workflowId "" anchor).workflowId = [] := hfailures
  have hanswer := y.service.call_reset_eq (hgoing.missed.trans hmissed) hqueue
  have hjournal : (y.service.call (.reset (plan'.resetRequest workflowId "" anchor))).2.journal =
      x.service.journal ++ [⟨.reset (plan'.resetRequest workflowId "" anchor),
        Service.failure? (y.service.call (.reset (plan'.resetRequest workflowId "" anchor))).1⟩] := by
    rw [Chronicle.journal_call, hservice]
  rw [advance_of_ask hask]
  have hresolve : home.store.resolve (plan'.resetRequest workflowId "" anchor).workflowId
      (some (plan'.resetRequest workflowId "" anchor).runId) = .ok run := hrun
  rcases Store.keptEvents_cases hresolve with ⟨kept, hstore, hevent⟩ | ⟨error, hstore, hkind, hnone⟩
  · rw [hkept, hstore] at hanswer
    have hended : (resume (y.service.call _).1).next =
        .done ⟨.ok (.reset anchor (y.service.store.nextRunId workflowId)), attempts⟩ := by
      rw [hanswer]
      exact congrArg Program.next (hok _)
    refine .apart anchor attempts _ _ hx hended hjournal
      ⟨run, hrun, fun _ => ⟨_, rfl⟩, fun hnone => ?_⟩
    obtain ⟨event, hmem, heq⟩ := hevent
    exact absurd heq (hnone event hmem)
  · rw [hkept, hstore] at hanswer
    have hended : (resume (y.service.call _).1).next =
        .done ⟨.error (.service error), attempts⟩ := by
      rw [hanswer]
      exact congrArg Program.next (herror error (by simp [ServiceError.isRetryable, hkind]))
    refine .apart anchor attempts _ _ hx hended hjournal
      ⟨run, hrun, ?_, fun _ => ⟨error, hkind, rfl⟩⟩
    rintro ⟨event, hmem, heq⟩
    exact absurd heq (hnone event hmem)

theorem Staged.advance {anchor : ResetAnchor} (h : Staged plan' home workflowId x y)
    (hsteady : y.Steady plan' home workflowId "" (Plan.AsksAt home plan' workflowId "" anchor)) :
    Staged plan' home workflowId x.advance y.advance := by
  cases h with
  | apart anchor attempts result failure hx hy hjournal hcarried =>
      rw [advance_of_done hx, advance_of_done hy]
      exact .apart anchor attempts result failure hx hy hjournal hcarried
  | together hservice hfailures hrehearses =>
      have hnext := hrehearses.next
      generalize hx : x.work.next = nextx at hnext
      generalize hy : y.work.next = nexty at hnext
      cases hnext with
      | done hplain =>
          rw [advance_of_done hx, advance_of_done hy]
          exact .together hservice hfailures hrehearses
      | @played attempted program hplays =>
          rw [advance_of_done hx]
          rcases hsteady.going with hgoing | ⟨value, hdone⟩
          · exact staged_of_plays hplays hservice hfailures hgoing hx hy
          · obtain ⟨_, _, _, rfl, _, _⟩ := hplays
            rw [hdone] at hy
            exact absurd hy (by simp [Program.next])
      | @look request resume resume' hmethod hresume =>
          rw [advance_of_ask hx, advance_of_ask hy, hservice]
          exact .together rfl (Service.failures_call_nil hfailures request) (hresume _)
      | pause hresume =>
          rw [advance_of_pause hx, advance_of_pause hy]
          exact .together hservice hfailures hresume

theorem staged_iterate (hplans : plan.Rehearses plan') (target : WorkflowRef)
    (hfailures : home.store.failures .reset target.workflowId = []) (n : Nat) :
    Staged plan' home target.workflowId (Solo.advance^[n] (.begin plan home target))
      (Solo.advance^[n] (.begin plan' home target)) := by
  obtain ⟨anchor, -, hviews⟩ : Aims home (Plan.AsksAt home plan' target.workflowId "")
      (fun _ => True) (plan'.process .checked target "") := Plan.process_aims target
  induction n with
  | zero => exact .together rfl hfailures (Plan.process_rehearses hplans target "")
  | succ n ih =>
      rw [Function.iterate_succ_apply', Function.iterate_succ_apply']
      exact ih.advance (steady_iterate hviews n)

end Solo

/-- The work on a target in a dry run, and the work that it rehearses, each alone. -/
theorem Verdict.rehearsed {plan plan' : Plan} {home : Service} {target : WorkflowRef}
    {attempted attempted' : Attempted ResetError OutcomeStatus} {outline outline' : List Exchange}
    (hplans : plan.Rehearses plan') (hfailures : home.store.failures .reset target.workflowId = [])
    (h : Verdict plan home target attempted outline)
    (h' : Verdict plan' home target attempted' outline') :
    (attempted' = attempted ∧ outline' = outline ∧ Plan.IsPlain attempted.result) ∨
    ∃ anchor failure, attempted.result = .ok (.dryRun anchor) ∧
      attempted'.attempts = attempted.attempts ∧
      CarriedOut home.store target.workflowId anchor attempted'.result ∧
      outline' = outline ++ [⟨.reset (plan'.resetRequest target.workflowId "" anchor), failure⟩] := by
  obtain ⟨m, hm, rfl⟩ := h
  obtain ⟨n, hn, rfl⟩ := h'
  -- Both have ended when the slower one has.
  have hx := Solo.iterate_of_done hm (Nat.le_max_left m n)
  have hy := Solo.iterate_of_done hn (Nat.le_max_right m n)
  have hstaged := Solo.staged_iterate hplans target hfailures (max m n)
  rw [hx, hy] at hstaged
  cases hstaged with
  | together hservice _ hrehearses =>
      have hnext := hrehearses.next
      rw [hm, hn] at hnext
      generalize hdone : (Next.done attempted' : Next (Attempted ResetError OutcomeStatus)) = next
        at hnext
      cases hnext with
      | done hplain =>
          obtain rfl := Next.done.inj hdone
          exact .inl ⟨rfl, by rw [Solo.outline, Solo.outline, hservice], hplain⟩
      | played hplays =>
          obtain ⟨_, _, _, rfl, _, _⟩ := hplays
          exact absurd hdone (by simp [Program.next])
  | apart anchor attempts result failure hx hy hjournal hcarried =>
      obtain rfl := Next.done.inj (hm.symm.trans hx)
      obtain rfl := Next.done.inj (hn.symm.trans hy)
      refine .inr ⟨anchor, failure, rfl, rfl, hcarried, ?_⟩
      rw [Solo.outline, Solo.outline, hjournal, List.map_append]
      rfl

/-- Alone, a dry run asks for no reset. -/
theorem Solo.not_reset {plan : Plan} {home : Service} {target : WorkflowRef}
    (hdry : plan.config.dryRun = true) {n : Nat} {exchange : Exchange}
    (hexchange : exchange ∈ (Solo.advance^[n] (.begin plan home target)).outline) :
    exchange.request.method ≠ .reset := by
  obtain ⟨made, hmade, rfl⟩ := List.mem_map.mp hexchange
  have hasked := (Solo.steady_iterate (Plan.process_dry hdry target) n).asked made hmade
  rw [Exchange.outline, Request.method_anonymous]
  intro hmethod
  cases hrequest : made.request with
  | describe | history | scan =>
      rw [hrequest] at hmethod
      exact absurd hmethod (by simp [Request.method])
  | reset request => exact hasked request hrequest

/-! ### Batches side by side -/

/-- What a dry run says of a target, beside what the batch that it rehearses does for it. -/
structure Rehearsed (before : Store) (outcome : Outcome) (visit' : Visit) (outcome' : Outcome) :
    Prop where
  attempts : outcome'.attempts = outcome.attempts
  /-- An anchor is reported exactly if a reset to it is asked for. -/
  announced : ∀ anchor, outcome.status = .dryRun anchor ↔
    ∃ call ∈ visit'.calls, ∃ request, call.request = .reset request ∧
      request.runId = anchor.runId ∧ request.eventId = anchor.eventId
  /-- The reset is accepted if the run has the event, and refused otherwise. -/
  carriedOut : ∀ anchor, outcome.status = .dryRun anchor →
    ∃ run, before.resolve outcome.workflowId (some anchor.runId) = .ok run ∧
      ((∃ event ∈ run.history, event.eventId = anchor.eventId) →
        ∃ newRunId, outcome'.status = .reset anchor newRunId) ∧
      ((∀ event ∈ run.history, event.eventId ≠ anchor.eventId) →
        ∃ error, error.kind = .invalidArgument ∧
          outcome'.status = .failed (ResetError.service error).text)
  otherwise : (∀ anchor, outcome.status ≠ .dryRun anchor) → outcome'.status = outcome.status

/-- A call of a visit stands in its outline, and the other way round. -/
theorem Visit.exists_reset_iff (visit : Visit) {P : ResetRequest → Prop}
    (hanonymous : ∀ request, P request.anonymous ↔ P request) :
    (∃ call ∈ visit.calls, ∃ request, call.request = .reset request ∧ P request) ↔
      ∃ exchange ∈ visit.outline, ∃ request, exchange.request = .reset request ∧ P request := by
  constructor
  · rintro ⟨call, hcall, request, hrequest, hP⟩
    refine ⟨_, List.mem_map_of_mem hcall, request.anonymous, ?_, (hanonymous request).mpr hP⟩
    simp [Exchange.outline, Call.exchange, hrequest, Request.anonymous]
  · rintro ⟨exchange, hexchange, request, hrequest, hP⟩
    obtain ⟨call, hcall, rfl⟩ := List.mem_map.mp hexchange
    refine ⟨call, hcall, ?_⟩
    simp only [Exchange.outline, Call.exchange] at hrequest
    cases hmade : call.request with
    | describe | history | scan => simp [hmade, Request.anonymous] at hrequest
    | reset made =>
        rw [hmade] at hrequest
        obtain rfl := Request.reset.inj hrequest
        exact ⟨made, rfl, (hanonymous made).mp hP⟩

/-- A dry run is reported only for one. -/
theorem status_eq_dryRun_iff {plan : Plan} {target : WorkflowRef}
    {attempted : Attempted ResetError OutcomeStatus} {anchor : ResetAnchor} :
    (plan.outcome target attempted).status = .dryRun anchor ↔
      attempted.result = .ok (.dryRun anchor) := by
  cases hresult : attempted.result <;> simp [Plan.outcome, Outcome.of, hresult]

namespace Rehearsed

variable {plan plan' : Plan} {before : Store} {visit' : Visit} {outline : List Exchange}
  {attempted attempted' : Attempted ResetError OutcomeStatus}

/-- Without an anchor to report, both come to the same end, and no reset is asked for. -/
theorem of_plain (target : WorkflowRef)
    (hsilent : ∀ exchange ∈ visit'.outline, exchange.request.method ≠ .reset)
    (hplain : Plan.IsPlain attempted.result) :
    Rehearsed before (plan.outcome target attempted) visit' (plan'.outcome target attempted) := by
  have hnone (anchor : ResetAnchor) : (plan.outcome target attempted).status ≠ .dryRun anchor :=
    fun hstatus => (hplain anchor).1 (status_eq_dryRun_iff.mp hstatus)
  refine ⟨rfl, ?_, fun anchor hstatus => absurd hstatus (hnone anchor), fun _ => rfl⟩
  intro anchor
  rw [visit'.exists_reset_iff fun _ => Iff.rfl]
  refine ⟨fun hstatus => absurd hstatus (hnone anchor), ?_⟩
  rintro ⟨exchange, hexchange, request, hrequest, -⟩
  exact absurd (by rw [hrequest]; rfl) (hsilent exchange hexchange)

/-- The reset to the anchor that is reported is asked for last. -/
theorem of_carriedOut {target : WorkflowRef} {anchor : ResetAnchor} {failure : Option ServiceError}
    (hdry : attempted.result = .ok (.dryRun anchor))
    (hattempts : attempted'.attempts = attempted.attempts)
    (hcarried : CarriedOut before target.workflowId anchor attempted'.result)
    (hsilent : ∀ exchange ∈ outline, exchange.request.method ≠ .reset)
    (houtline : visit'.outline =
      outline ++ [⟨.reset (plan'.resetRequest target.workflowId "" anchor), failure⟩]) :
    Rehearsed before (plan.outcome target attempted) visit' (plan'.outcome target attempted') := by
  have hstatus : (plan.outcome target attempted).status = .dryRun anchor :=
    status_eq_dryRun_iff.mpr hdry
  refine ⟨hattempts, ?_, ?_, fun hnone => absurd hstatus (hnone anchor)⟩
  · intro anchor'
    rw [visit'.exists_reset_iff fun _ => Iff.rfl, houtline, hstatus]
    constructor
    · rintro heq
      obtain rfl := OutcomeStatus.dryRun.inj heq
      exact ⟨_, List.mem_append_right _ (List.mem_singleton_self _), _, rfl, rfl, rfl⟩
    · rintro ⟨exchange, hexchange, request, hrequest, hrun, hevent⟩
      rcases List.mem_append.mp hexchange with hold | hnew
      · exact absurd (by rw [hrequest]; rfl) (hsilent exchange hold)
      · rw [List.mem_singleton.mp hnew] at hrequest
        obtain rfl := Request.reset.inj hrequest
        obtain ⟨runId, eventId⟩ := anchor
        obtain ⟨runId', eventId'⟩ := anchor'
        obtain rfl : runId = runId' := hrun
        obtain rfl : eventId = eventId' := hevent
        rfl
  · intro anchor' hstatus'
    obtain rfl := OutcomeStatus.dryRun.inj (hstatus.symm.trans hstatus')
    obtain ⟨run, hrun, haccepted, hrefused⟩ := hcarried
    refine ⟨run, hrun, fun hevent => ?_, fun hnone => ?_⟩
    · obtain ⟨newRunId, hresult⟩ := haccepted hevent
      exact ⟨newRunId, by simp [Plan.outcome, Outcome.of, hresult]⟩
    · obtain ⟨error, hkind, hresult⟩ := hrefused hnone
      exact ⟨error, hkind, by simp [Plan.outcome, Outcome.of, hresult]⟩

end Rehearsed

namespace Chronicle

variable {plan plan' : Plan} {service : Service} {c c' : Chronicle}

/-- What a visit came to alone is what its outcome says, but for the id of a new run. -/
theorem status_of_plain {attempted alone : Attempted ResetError OutcomeStatus}
    (hplain : ∀ anchor newRunId, alone.result ≠ .ok (.reset anchor newRunId))
    (hsame : attempted = alone ∨ Plan.BothAttempted attempted alone) : attempted = alone := by
  rcases hsame with rfl | ⟨-, anchor, _, newRunId, -, hreset⟩
  · rfl
  · exact absurd hreset (hplain anchor newRunId)

/-- Two entries for one target, of a dry run and of the batch that it rehearses. -/
theorem Isolated.rehearsed (hplans : plan.Rehearses plan')
    (hfailures : ∀ workflowId, service.store.failures .reset workflowId = [])
    (h : c.Isolated plan plan service) (h' : c'.Isolated plan' plan' service)
    {entry entry' : Visit × Outcome} (hentry : entry ∈ c.finished) (hentry' : entry' ∈ c'.finished)
    (htarget : entry.1.target = entry'.1.target) :
    Rehearsed service.store entry.2 entry'.1 entry'.2 := by
  obtain ⟨attempted, alone, houtcome, hverdict, hsame⟩ := h.finished hentry
  obtain ⟨attempted', alone', houtcome', hverdict', hsame'⟩ := h'.finished hentry'
  rw [htarget] at houtcome hverdict
  rw [houtcome, houtcome']
  have hsilent : ∀ exchange ∈ entry.1.outline, exchange.request.method ≠ .reset := by
    obtain ⟨n, -, houtline⟩ := hverdict
    intro exchange hexchange
    rw [← houtline] at hexchange
    exact Solo.not_reset hplans.dry hexchange
  rcases hverdict.rehearsed hplans (hfailures _) hverdict' with ⟨rfl, houtline, hplain⟩ |
    ⟨anchor, failure, hdry, hattempts, hcarried, houtline⟩
  · obtain rfl := status_of_plain (fun anchor => (hplain anchor).2) hsame
    obtain rfl := status_of_plain (fun anchor => (hplain anchor).2) hsame'
    exact .of_plain _ (houtline ▸ hsilent) hplain
  · obtain rfl := status_of_plain (fun anchor newRunId => by rw [hdry]; simp) hsame
    have hcarried' : CarriedOut service.store entry'.1.target.workflowId anchor attempted'.result ∧
        attempted'.attempts = alone'.attempts := by
      rcases hsame' with rfl | ⟨hsame, hboth⟩
      · exact ⟨hcarried, rfl⟩
      · exact ⟨hcarried.of_both hboth, hsame⟩
    exact .of_carriedOut hdry (hcarried'.2.trans hattempts) hcarried'.1 hsilent houtline

/-- A dry run has no reset accepted, so runs, queries and resets stay as they are. -/
theorem Isolated.silent (hdry : plan.config.dryRun = true) (h : c.Isolated plan plan service)
    (hc : c.Accounted plan) (hlogged : c.Logged service.store) :
    (∀ visit ∈ c.visits, ∀ call ∈ visit.calls, call.request.method ≠ .reset) ∧
      Store.Logs service.store c.state.service.store [] := by
  have hcalls : ∀ visit ∈ c.visits, ∀ call ∈ visit.calls, call.request.method ≠ .reset := by
    intro visit hvisit call hcall
    obtain ⟨n, houtline⟩ := h.exists_outline hc.seats hvisit
    have hmem : call.exchange.outline ∈ visit.outline := List.mem_map_of_mem hcall
    rw [houtline] at hmem
    simpa [Exchange.outline, Call.exchange] using Solo.not_reset hdry hmem
  refine ⟨hcalls, ?_⟩
  obtain ⟨log, hlog, hperm⟩ := hlogged
  have hnone : c.calls.filterMap Call.accepted? = [] := by
    rw [List.filterMap_eq_nil_iff, calls_eq_visits]
    intro call hcall
    obtain ⟨visit, hvisit, hmem⟩ := List.mem_flatMap.mp hcall
    exact Request.accepted?_look (hcalls visit hvisit call hmem) call.answer
  rw [hnone, List.perm_nil] at hperm
  exact hperm ▸ hlog

/-- However the actors take turns in each of them, a dry run is silent and says what the batch that it
rehearses will do: it reports an anchor exactly where a reset to it will be asked for, and what becomes
of the other targets. -/
theorem dry_run_faithful {plan plan' : Plan} {service : Service} {metrics metrics' : Metrics}
    {source : Source} {started started' : Nat} {schedule schedule' : List Actor}
    {c c' : Chronicle} (hplans : plan.Rehearses plan')
    (hparallelism : 1 ≤ plan.config.parallelism) (hparallelism' : 1 ≤ plan'.config.parallelism)
    (hfailures : ∀ workflowId, service.store.failures .reset workflowId = [])
    (hrun : (start plan service metrics source started).follow? plan schedule = some c)
    (hrun' : (start plan' service metrics' source started').follow? plan' schedule' = some c')
    (hfinal : c.state.isFinal) (hfinal' : c'.state.isFinal) (hdistinct : c.workflows.Nodup) :
    (∃ made, c.Recorded service made ∧ ∀ exchange ∈ made, exchange.request.method ≠ .reset) ∧
    (c.state.service.store.runs = service.store.runs ∧
      c.state.service.store.current = service.store.current ∧
      c.state.service.store.visibility = service.store.visibility ∧
      c.state.service.store.resets = service.store.resets) ∧
    ((c.state.result = .ok c.state.outcomes ∧ c'.state.result = .ok c'.state.outcomes) ∨
      ∃ error, c.state.result = .error error ∧ c'.state.result = .error error) ∧
    c.state.excluded.map Outcome.untimed = c'.state.excluded.map Outcome.untimed ∧
    c.state.processed.Perm (c.finished.map Prod.snd) ∧
    c'.state.processed.Perm (c'.finished.map Prod.snd) ∧
    (c.finished.map fun entry => entry.1.target).Perm
      (c'.finished.map fun entry => entry.1.target) ∧
    ∀ entry ∈ c.finished, ∀ entry' ∈ c'.finished, entry.1.target = entry'.1.target →
      entry.2.ref = entry.1.target ∧ entry'.2.ref = entry'.1.target ∧
        Rehearsed service.store entry.2 entry'.1 entry'.2 := by
  have hstart : SameFeed (start plan service metrics source started)
      (start plan' service metrics' source started') :=
    ⟨rfl, rfl, rfl, rfl, rfl, .refl _⟩
  have hfeed : SameFeed c c' :=
    SameFeed.of_ended hstart hplans.maxAttempts.symm (sameFeed_of_follow? hrun)
      (sameFeed_of_follow? hrun') (ended_of_isFinal hfinal).1 (ended_of_isFinal hfinal').1
  have hdistinct' : c'.workflows.Nodup := by
    rw [workflows, ← hfeed.targets_eq]
    exact hdistinct
  have hsettled := settled_of_follow? hparallelism hrun hfinal hdistinct
  have hsettled' := settled_of_follow? hparallelism' hrun' hfinal' hdistinct'
  have hisolated : c.Isolated plan plan service :=
    isolated_of_start (.refl plan) hrun hdistinct
  have hisolated' : c'.Isolated plan' plan' service :=
    isolated_of_start (.refl plan') hrun' hdistinct'
  obtain ⟨hsilent, hlog⟩ := hisolated.silent hplans.dry hsettled.accounted hsettled.logged
  obtain ⟨hruns, hcurrent, hresets⟩ := hlog.unchanged
  obtain ⟨made, hrecorded⟩ := recorded_of_follow? hrun
  refine ⟨⟨made, hrecorded, ?_⟩, ⟨hruns, hcurrent, hlog.visibility_eq, hresets⟩, hfeed.result, ?_,
    hsettled.perm_processed, hsettled'.perm_processed, ?_, ?_⟩
  · intro exchange hexchange
    obtain ⟨call, hcall, rfl⟩ := List.mem_map.mp (hrecorded.perm.mem_iff.mp hexchange)
    rcases List.mem_append.mp hcall with hscan | hcalled
    · simp [Call.exchange, hrecorded.scans call hscan]
    · obtain ⟨visit, hvisit, hmem⟩ := List.mem_flatMap.mp hcalled
      exact hsilent visit hvisit call hmem
  · rw [hsettled.accounted.exclusions, hsettled'.accounted.exclusions, hfeed.exclusions_eq,
      List.map_map, List.map_map]
    rfl
  · have hperm := hsettled.perm_targets
    rw [hfeed.targets_eq] at hperm
    exact hperm.trans hsettled'.perm_targets.symm
  · intro entry hentry entry' hentry' htarget
    exact ⟨(hsettled.closed hentry).ref_eq, (hsettled'.closed hentry').ref_eq,
      hisolated.rehearsed hplans hfailures hisolated' hentry hentry' htarget⟩

/-- The sample plan for a dry run. -/
def dryPlan : Plan :=
  { samplePlan with config := { samplePlan.config with dryRun := true } }

theorem dry_run_faithful_sample :
    ∃ c c', (start dryPlan sampleService .zero (sampleSource ["pay", "ship"]) 0).follow? dryPlan
        (List.replicate 5 .producer ++ List.replicate 11 (.worker 0) ++ [.worker 1]) = some c ∧
      (sampleStart ["pay", "ship"]).follow? samplePlan crossedSchedule = some c' ∧
      c.state.service.store.resets = [] ∧
      c.state.outcomes.map Outcome.status = [.dryRun ⟨"base", 3⟩, .dryRun ⟨"base", 3⟩] ∧
      ∀ entry ∈ c.finished, ∀ entry' ∈ c'.finished, entry.1.target = entry'.1.target →
        Rehearsed sampleService.store entry.2 entry'.1 entry'.2 := by
  have hends : ((start dryPlan sampleService .zero (sampleSource ["pay", "ship"]) 0).follow? dryPlan
      (List.replicate 5 .producer ++ List.replicate 11 (.worker 0) ++ [.worker 1])).map
      (fun c => (c.state.isFinal, c.workflows, c.state.outcomes.map Outcome.status)) =
      some (true, ["pay", "ship"], [.dryRun ⟨"base", 3⟩, .dryRun ⟨"base", 3⟩]) := by
    decide +kernel
  have hends' : ((sampleStart ["pay", "ship"]).follow? samplePlan crossedSchedule).map
      (fun c => c.state.isFinal) = some true := by
    decide +kernel
  obtain ⟨c, hrun, hends⟩ := Option.map_eq_some_iff.mp hends
  obtain ⟨c', hrun', hfinal'⟩ := Option.map_eq_some_iff.mp hends'
  obtain ⟨hfinal, hends⟩ := Prod.mk.inj hends
  obtain ⟨hworkflows, hstatuses⟩ := Prod.mk.inj hends
  have hplans : dryPlan.Rehearses samplePlan := ⟨rfl, rfl, rfl, rfl⟩
  obtain ⟨-, ⟨-, -, -, hresets⟩, -, -, -, -, -, hrehearsed⟩ :=
    dry_run_faithful hplans (by decide) (by decide) (fun _ => rfl) hrun hrun' hfinal hfinal'
      (by rw [hworkflows]; decide)
  exact ⟨c, c', hrun, hrun', hresets, hstatuses, fun entry hentry entry' hentry' htarget =>
    (hrehearsed entry hentry entry' hentry' htarget).2.2⟩

end Chronicle

end Batch

end Rewind
