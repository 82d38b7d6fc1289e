import Rewind.Proofs.Batch.Accounting
import Rewind.Proofs.Batch.Behaviour
import Rewind.Proofs.Batch.Settle
import Rewind.Proofs.Metrics
import Rewind.Proofs.Process

/-!
The counters of an orchestrator over all of its calls.

An orchestrator runs batches and resets single targets, one after the other, and all of its calls
count on the same counters. The service may answer every call as it likes: a step of a batch is
considered under any behaviour of the service, which need not be that of one store.

Main statement: after each call the counters tell the outcomes of all calls so far, and a report tells
its own outcomes on top of what was counted before (`metrics_match_outcomes`).
-/

namespace Rewind

open Program

/-! ### What a program can end with -/

namespace Program

variable {α β : Type} {ends : α → Prop} {program : Program α} {value : α}

/-- Rules that allow every call. -/
def freeRules : Rules Unit where
  allows _ _ := True
  next _ _ _ := ()

/-- Whatever is answered, a program ends with values of a kind. -/
abbrev EndsIn (ends : α → Prop) (program : Program α) : Prop :=
  Obeys freeRules (fun _ value => ends value) () program

/-- A program can end with a value. What it reads of a history, and how that ends, is left open. -/
inductive Yields : Program α → α → Prop
  | done {value : α} : Yields (.done value) value
  | call {request : Request} {resume : Except ServiceError request.Response → Program α} {value : α}
      (answer : Except ServiceError request.Response) :
      Yields (resume answer) value → Yields (.call request resume) value
  | pause {resume : Unit → Program α} {value : α} :
      Yields (resume ()) value → Yields (.pause resume) value
  | read {cursor : HistoryCursor} {enough : List Event → Bool}
      {resume : Option ServiceError → HistoryCursor → Program α} {value : α}
      (failure : Option ServiceError) (cursor' : HistoryCursor) :
      Yields (resume failure cursor') value → Yields (.read cursor enough resume) value

/-- A program can end as it does against a service. -/
theorem yields_run (program : Program α) (service : Service) :
    program.Yields (program.run service).1 := by
  induction program generalizing service with
  | done value => exact .done
  | call request resume ih => exact .call _ (ih _ _)
  | pause resume ih => exact .pause (ih () service)
  | read cursor enough resume ih => exact .read _ _ (ih _ _ _)

theorem endsIn_any (program : Program α) : EndsIn (fun _ => True) program := by
  induction program with
  | done value => exact .done trivial
  | call request resume ih => exact .call trivial ih
  | pause resume ih => exact .pause (ih ())
  | read cursor enough resume ih =>
      exact .read (fun _ => trivial) (fun _ _ => rfl) (ih none) fun _ error cursor' =>
        ih (some error) cursor'

theorem Yields.of_endsIn (hvalue : program.Yields value) (h : EndsIn ends program) : ends value := by
  induction hvalue with
  | done =>
      cases h with
      | done hends => exact hends
  | call answer _ ih =>
      cases h with
      | call _ hresume => exact ih (hresume answer)
  | pause _ ih =>
      cases h with
      | pause hresume => exact ih hresume
  | read failure cursor' _ ih =>
      cases h with
      | read _ _ hnone hsome =>
          cases failure with
          | none => exact ih (hnone cursor')
          | some error => exact ih (hsome none error cursor')

end Program

namespace Plan

variable (plan : Plan) (target : WorkflowRef) (requestId : String)

/-- Only what the source marks is excluded. -/
theorem submit_endsIn (anchor : ResetAnchor) :
    EndsIn (· ≠ .ok .excluded) (ExceptT.run (plan.submit target.workflowId requestId anchor)) := by
  unfold submit
  split
  · exact .done fun hstatus => nomatch hstatus
  · refine .call trivial fun answer => ?_
    cases answer with
    | error error => exact .done fun hstatus => nomatch hstatus
    | ok response => exact .done fun hstatus => nomatch hstatus

/-- Looking first, and then asking for the reset. -/
theorem bind_endsIn {α : Type} {procedure : Procedure α} {f : α → Procedure OutcomeStatus}
    (hf : ∀ value, EndsIn (· ≠ .ok .excluded) (ExceptT.run (f value))) :
    EndsIn (· ≠ .ok .excluded) (ExceptT.run (procedure >>= f)) :=
  (endsIn_any (ExceptT.run procedure)).exceptBind (fun _ value _ => hf value)
    fun _ _ _ hstatus => nomatch hstatus

theorem attempt_endsIn (approach : Approach) :
    EndsIn (· ≠ .ok .excluded) (ExceptT.run (plan.attempt approach target requestId)) := by
  have hsubmit := plan.submit_endsIn target requestId
  cases approach with
  | checked =>
      refine bind_endsIn fun verdict => ?_
      cases verdict with
      | skip reason => exact .done fun hstatus => nomatch hstatus
      | proceed runId => exact bind_endsIn hsubmit
  | direct eventId =>
      cases eventId with
      | none => exact bind_endsIn hsubmit
      | some eventId => exact bind_endsIn fun runId => bind_endsIn hsubmit

/-- However often a target is tried, whatever the service answers, it does not end as excluded. -/
theorem process_endsIn (approach : Approach) :
    EndsIn (fun attempted => attempted.result ≠ .ok .excluded)
      (plan.process approach target requestId) := by
  have hattempts (attempt spare : Nat) :
      EndsIn (fun attempted => attempted.result ≠ .ok .excluded)
        (attemptFrom Program.rest ResetError.isRetryable
          (fun _ => ExceptT.run (plan.attempt approach target requestId)) attempt spare) := by
    have hattempt := plan.attempt_endsIn target requestId approach
    induction spare generalizing attempt with
    | zero => exact hattempt.bind fun _ _ hresult => .done hresult
    | succ spare ih =>
        apply hattempt.bind
        intro standing result hresult
        cases result with
        | ok status => exact .done hresult
        | error error =>
            by_cases hretry : error.isRetryable
            · simp only [hretry, ↓reduceIte]
              exact .pause (ih (attempt + 1))
            · simp only [hretry, Bool.false_eq_true, ↓reduceIte]
              exact .done hresult
  exact hattempts 1 plan.settings.retry.spare

theorem status_outcome_ne_excluded {attempted : Attempted ResetError OutcomeStatus}
    (h : attempted.result ≠ .ok .excluded) : (plan.outcome target attempted).status ≠ .excluded := by
  cases hresult : attempted.result with
  | error error => simp [outcome, Outcome.of, hresult]
  | ok status =>
      rw [hresult] at h
      simpa [outcome, Outcome.of, hresult] using h

end Plan

namespace Batch

/-! ### The outcomes of a batch -/

namespace State

/-- The outcomes that there are, handed over or not. -/
def made (s : State) : List Outcome :=
  s.excluded ++ s.processed ++ s.workers.toList.flatMap Worker.outcomes

/-- How many failures of the source a step of the producer answers by another try. -/
def retriedBy (s s' : State) : Nat :=
  match s.producer, s'.producer with
  | .pulling _, .pausing _ => 1
  | _, _ => 0

end State

/-- A worker has handed over its outcomes when it ends, and its target does not end as excluded. -/
structure Worker.Fit (worker : Worker) : Prop where
  ended : worker.task = .ended → worker.outcomes = []
  busy : ∀ target program, worker.task = .busy target program →
    EndsIn (fun attempted => attempted.result ≠ .ok .excluded) program

namespace Worker

theorem fit_busy {program : Program (Attempted ResetError OutcomeStatus)}
    (h : EndsIn (fun attempted => attempted.result ≠ .ok .excluded) program) (target : WorkflowRef)
    (outcomes : List Outcome) : (⟨.busy target program, outcomes⟩ : Worker).Fit := by
  refine ⟨nofun, fun target' program' heq => ?_⟩
  obtain ⟨rfl, rfl⟩ := Task.busy.inj heq
  exact h

theorem fit_idle (outcomes : List Outcome) : (⟨.idle, outcomes⟩ : Worker).Fit :=
  ⟨nofun, nofun⟩

end Worker

namespace State

/-- The outcomes that there are were reported, and the counters are in step with these reports and the
outcomes of earlier calls. -/
structure Counted (earlier : List Outcome) (retried : Nat) (s : State) : Prop where
  fit : ∀ worker ∈ s.workers.toList, worker.Fit
  reported : s.reported.Perm s.made
  counts : s.metrics.Counts (earlier ++ s.reported) retried

variable {plan : Plan} {s s' : State} {earlier : List Outcome} {retried index : Nat}
  {worker : Worker}

theorem fit_setIfInBounds {worker' : Worker} (h : ∀ worker ∈ s.workers.toList, worker.Fit)
    (hfit : worker'.Fit) :
    ∀ worker ∈ (s.workers.setIfInBounds index worker').toList, worker.Fit := by
  intro worker hworker
  rw [Array.toList_setIfInBounds] at hworker
  rcases List.mem_or_eq_of_mem_set hworker with hold | rfl
  · exact h worker hold
  · exact hfit

/-- What a worker adds to its outcomes is added to those of all. -/
theorem perm_setIfInBounds (worker' : Worker) (hworker : s.workers[index]? = some worker)
    (less more : List Outcome)
    (houtcomes : (worker'.outcomes ++ less).Perm (worker.outcomes ++ more)) :
    ((s.workers.setIfInBounds index worker').toList.flatMap Worker.outcomes ++ less).Perm
      (s.workers.toList.flatMap Worker.outcomes ++ more) := by
  rw [Chronicle.set_eq_modify]
  exact perm_flatMap_modify (Chronicle.getElem?_toList hworker) less more houtcomes

namespace Counted

theorem fit_of_getElem? (h : s.Counted earlier retried) (hworker : s.workers[index]? = some worker) :
    worker.Fit :=
  h.fit worker (List.mem_of_getElem? (Chronicle.getElem?_toList hworker))

/-- Counters and outcomes are not about what stands beside them. -/
theorem moved (h : s.Counted earlier retried) (service : Service) (source : Source)
    (producer : Producer) (queue : List WorkflowRef) (started : Nat) :
    Counted earlier retried { s with service, source, producer, queue, started } :=
  ⟨h.fit, h.reported, h.counts⟩

/-- A worker goes on with the outcomes that it has. -/
theorem going (h : s.Counted earlier retried) {task : Task}
    (hworker : s.workers[index]? = some worker) (hfit : (⟨task, worker.outcomes⟩ : Worker).Fit)
    (service : Service) (queue : List WorkflowRef) (started : Nat) :
    Counted earlier retried { s with
      service, queue, started
      workers := s.workers.setIfInBounds index ⟨task, worker.outcomes⟩ } := by
  refine ⟨fit_setIfInBounds h.fit hfit, h.reported.trans ?_, h.counts⟩
  have hperm := perm_setIfInBounds ⟨task, worker.outcomes⟩ hworker [] [] (.refl _)
  simp only [List.append_nil] at hperm
  exact hperm.symm.append_left _

/-- A worker gets an answer, whatever it is. -/
theorem answered (h : s.Counted earlier retried) {target : WorkflowRef}
    {program : Program (Attempted ResetError OutcomeStatus)} {request : Request}
    {resume : Except ServiceError request.Response → Program (Attempted ResetError OutcomeStatus)}
    (hworker : s.workers[index]? = some worker) (htask : worker.task = .busy target program)
    (hnext : program.next = .ask request resume) (service : Service)
    (answer : Except ServiceError request.Response) :
    (s.resumed service index worker.outcomes target (resume answer)).Counted earlier retried := by
  have hobeys := ((h.fit_of_getElem? hworker).busy target program htask).next
  rw [hnext] at hobeys
  exact h.going hworker (Worker.fit_busy (hobeys.2 answer) _ _) _ _ _

theorem sourceFailed (h : s.Counted earlier retried) {before : State} {attempt : Nat}
    (hpulling : before.producer = .pulling attempt) (error : ResetError) :
    (s.sourceFailed plan attempt error).Counted earlier
      (retried + before.retriedBy (s.sourceFailed plan attempt error)) := by
  unfold State.sourceFailed
  split
  · have hone : retried + before.retriedBy { s with
        metrics := s.metrics.record .retry, producer := .pausing (attempt + 1) } = retried + 1 := by
      simp [retriedBy, hpulling]
    rw [hone]
    exact ⟨h.fit, h.reported, h.counts.recordRetry⟩
  · have hnone : retried + before.retriedBy { s with producer := .ended (some error) } = retried := by
      simp [retriedBy, hpulling]
    rw [hnone]
    exact h.moved _ _ _ _ _

theorem exclude (h : s.Counted earlier retried) (target : WorkflowRef) :
    (s.exclude plan target).Counted earlier retried := by
  refine ⟨h.fit, (h.reported.append_right _).trans ?_, ?_⟩
  · simp only [made, State.exclude, List.append_assoc]
    refine List.Perm.append_left _ ?_
    rw [← List.append_assoc]
    exact List.perm_append_comm
  · have hcounts := h.counts.recordExcluded target plan.stamp
    rwa [List.append_assoc] at hcounts

theorem finish (h : s.Counted earlier retried) {target : WorkflowRef}
    {program : Program (Attempted ResetError OutcomeStatus)}
    {attempted : Attempted ResetError OutcomeStatus} (hworker : s.workers[index]? = some worker)
    (htask : worker.task = .busy target program) (hnext : program.next = .done attempted) :
    (s.finish plan index worker target attempted).Counted earlier retried := by
  have hends := ((h.fit_of_getElem? hworker).busy target program htask).next
  rw [hnext] at hends
  refine ⟨fit_setIfInBounds h.fit ⟨nofun, nofun⟩, (h.reported.append_right _).trans ?_, ?_⟩
  · have hperm := perm_setIfInBounds
      ⟨.pausing, worker.outcomes ++ [plan.outcome target attempted]⟩ hworker []
      [plan.outcome target attempted] (by simp)
    rw [List.append_nil] at hperm
    simp only [made, State.finish, plan.conclude_fst, List.append_assoc]
    exact (hperm.symm.append_left _).append_left _
  · have hcounts := h.counts.recordOutcome (plan.status_outcome_ne_excluded target hends)
    rwa [List.append_assoc] at hcounts

theorem handOver (h : s.Counted earlier retried) (hworker : s.workers[index]? = some worker) :
    (s.handOver index worker).Counted earlier retried := by
  refine ⟨fit_setIfInBounds h.fit ⟨fun _ => rfl, nofun⟩, h.reported.trans ?_, h.counts⟩
  have hperm := perm_setIfInBounds ⟨.ended, []⟩ hworker worker.outcomes [] (by simp)
  rw [List.append_nil] at hperm
  simp only [made, State.handOver, List.append_assoc]
  refine (List.Perm.append_left _ ?_).append_left _
  exact hperm.symm.trans List.perm_append_comm

end Counted

theorem retriedBy_of_producer_eq (h : s'.producer = s.producer) : s.retriedBy s' = 0 := by
  rw [retriedBy, h]
  cases s.producer <;> rfl

/-- The producer gets an answer, whatever it is. -/
theorem Counted.scanned (h : s.Counted earlier retried) {attempt : Nat}
    (hpulling : s.producer = .pulling attempt) (source : Source)
    (answer : Except ServiceError (Page WorkflowRef) × Service) :
    (s.scanned plan attempt source answer).Counted earlier
      (retried + s.retriedBy (s.scanned plan attempt source answer)) := by
  rcases answer with ⟨error | page, service⟩
  · exact Counted.sourceFailed (h.moved service source _ _ _) hpulling _
  · have hquiet : s.retriedBy (s.scanned plan attempt source (.ok page, service)) = 0 :=
      retriedBy_of_producer_eq rfl
    rw [hquiet]
    exact h.moved _ _ _ _ _

/-- The counters stay in step, whatever an actor does and the service answers. -/
theorem counted_of_effect {behaviour : Behaviour} {actor : Actor}
    (h : Effect plan behaviour s actor s') (hs : s.Counted earlier retried) :
    s'.Counted earlier (retried + s.retriedBy s') := by
  -- Only a failure of the source is met by another try of the producer.
  have hquiet {s' : State} (hnone : s.retriedBy s' = 0) (hafter : s'.Counted earlier retried) :
      s'.Counted earlier (retried + s.retriedBy s') := by
    rwa [hnone]
  cases h with
  | failed hproducer hpoll =>
      exact Counted.sourceFailed (hs.moved _ _ _ _ _) hproducer _
  | scanned hproducer hpoll => exact hs.scanned hproducer _ _
  | @excluded attempt source target hproducer hpoll =>
      exact hquiet (by simp [retriedBy, hproducer, State.exclude])
        (Counted.exclude (hs.moved _ source _ _ _) target)
  | closed hproducer | offered hproducer | rested hproducer | queued hproducer =>
      exact hquiet (by simp [retriedBy, hproducer]) (hs.moved _ _ _ _ _)
  | taken hworker htask hqueue =>
      exact hquiet (retriedBy_of_producer_eq rfl)
        (hs.going hworker (Worker.fit_busy (plan.process_endsIn _ _ _) _ _) _ _ _)
  | left hworker htask hqueue hclosed =>
      exact hquiet (retriedBy_of_producer_eq rfl) (hs.handOver hworker)
  | finished hworker htask hnext =>
      exact hquiet (retriedBy_of_producer_eq rfl) (hs.finish hworker htask hnext)
  | answered hworker htask hnext =>
      exact hquiet (retriedBy_of_producer_eq rfl) (hs.answered hworker htask hnext _ _)
  | paused hworker htask hnext =>
      have hobeys := ((hs.fit_of_getElem? hworker).busy _ _ htask).next
      rw [hnext] at hobeys
      exact hquiet (retriedBy_of_producer_eq rfl)
        (hs.going hworker (Worker.fit_busy hobeys _ _) _ _ _)
  | readied hworker htask =>
      exact hquiet (retriedBy_of_producer_eq rfl) (hs.going hworker (Worker.fit_idle _) _ _ _)

end State

/-! ### Batches under any behaviour of the service -/

/-- A batch, and how many failures of its source were met by another try. -/
structure Attended where
  state : State
  retried : Nat

namespace Attended

/-- The start of a batch. -/
def start (plan : Plan) (service : Service) (metrics : Metrics) (source : Source) (started : Nat) :
    Attended :=
  ⟨.initial plan service metrics source started, 0⟩

/-- One step of an actor while the service behaves so, and none if the actor has to wait or has
ended. -/
def step? (plan : Plan) (a : Attended) (move : Actor × Behaviour) : Option Attended :=
  if a.state.canStep plan move.1 then
    let s := a.state.stepUnder plan move.2 move.1
    some ⟨s, a.retried + a.state.retriedBy s⟩
  else none

/-- Several steps, one after the other. -/
def follow? (plan : Plan) (a : Attended) (moves : List (Actor × Behaviour)) : Option Attended :=
  moves.foldlM (step? plan) a

variable {plan : Plan} {a final : Attended} {moves : List (Actor × Behaviour)}
  {earlier : List Outcome} {retried : Nat}

theorem counted_of_follow? (hrun : a.follow? plan moves = some final)
    (h : a.state.Counted earlier (retried + a.retried)) :
    final.state.Counted earlier (retried + final.retried) := by
  induction moves generalizing a with
  | nil =>
      obtain rfl : a = final := by simpa [follow?] using hrun
      exact h
  | cons move moves ih =>
      simp only [follow?, List.foldlM_cons, Option.bind_eq_bind, Option.bind_eq_some_iff] at hrun
      obtain ⟨next, hstep, hrun⟩ := hrun
      refine ih hrun ?_
      rw [step?] at hstep
      split at hstep
      · next hcan =>
          obtain rfl := Option.some.inj hstep
          rw [← Nat.add_assoc]
          exact State.counted_of_effect (State.effect_of_canStep move.2 hcan) h
      · exact absurd hstep (by simp)

/-- A schedule of a batch can be followed with the service behaving as it does. -/
theorem exists_follow {c c' : Chronicle} {schedule : List Actor}
    (hrun : c.follow? plan schedule = some c') (retried : Nat) :
    ∃ moves more, follow? plan ⟨c.state, retried⟩ moves = some ⟨c'.state, more⟩ := by
  induction schedule generalizing c retried with
  | nil =>
      obtain rfl : c = c' := by simpa [Chronicle.follow?] using hrun
      exact ⟨[], retried, rfl⟩
  | cons actor schedule ih =>
      simp only [Chronicle.follow?, List.foldlM_cons, Option.bind_eq_bind,
        Option.bind_eq_some_iff] at hrun
      obtain ⟨next, hstep, hrun⟩ := hrun
      obtain ⟨state, hstate, rfl⟩ := Option.map_eq_some_iff.mp hstep
      rw [State.step?] at hstate
      split at hstate
      · next hcan =>
          obtain rfl := Option.some.inj hstate
          obtain ⟨moves, more, hmoves⟩ :=
            ih hrun (retried + c.state.retriedBy (c.state.step plan actor))
          refine ⟨(actor, c.state.service.call) :: moves, more, ?_⟩
          have hfirst : step? plan ⟨c.state, retried⟩ (actor, c.state.service.call) =
              some ⟨c.state.step plan actor,
                retried + c.state.retriedBy (c.state.step plan actor)⟩ := by
            simp only [step?, hcan, if_true, ← State.step_eq_stepUnder]
          simp only [follow?, List.foldlM_cons, hfirst]
          exact hmoves
      · exact absurd hstate (by simp)

end Attended

/-! ### The calls of an orchestrator -/

/-- The calls of an orchestrator so far, one after the other: what its counters are, what the outcomes
of all calls were, and how many failures of sources were met by another try. -/
inductive Session (plan : Plan) : Metrics → List Outcome → Nat → Prop
  | start : Session plan .zero [] 0
  /-- A batch that has ended, with its outcomes or with the failure of its source. -/
  | batch {metrics : Metrics} {outcomes : List Outcome} {retried : Nat} {service : Service}
      {source : Source} {started : Nat} {moves : List (Actor × Behaviour)} {final : Attended} :
      Session plan metrics outcomes retried →
      (Attended.start plan service metrics source started).follow? plan moves = some final →
      final.state.isFinal →
      Session plan final.state.metrics (outcomes ++ final.state.outcomes) (retried + final.retried)
  /-- A single target. -/
  | single {metrics : Metrics} {outcomes : List Outcome} {retried : Nat} (service : Service)
      (target : WorkflowRef) (eventId : Option Int) (started : Nat) :
      Session plan metrics outcomes retried →
      Session plan (plan.resetOne service metrics target eventId started).2.2
        (outcomes ++ [(plan.resetOne service metrics target eventId started).1]) retried
  /-- A single target, while the service answers as it likes. -/
  | answered {metrics : Metrics} {outcomes : List Outcome} {retried : Nat} {target : WorkflowRef}
      {eventId : Option Int} {requestId : String} {attempted : Attempted ResetError OutcomeStatus} :
      Session plan metrics outcomes retried →
      (plan.process (.direct eventId) target requestId).Yields attempted →
      Session plan (plan.conclude metrics target attempted).2
        (outcomes ++ [(plan.conclude metrics target attempted).1]) retried

variable {plan : Plan} {metrics : Metrics} {outcomes : List Outcome} {retried : Nat}

/-- A batch that has ended has all outcomes in hand that were reported. -/
theorem State.Counted.perm_outcomes {s : State} (h : s.Counted outcomes retried)
    (hfinal : s.isFinal) : s.reported.Perm s.outcomes := by
  have hworkers : s.workers.toList.flatMap Worker.outcomes = [] := by
    rw [List.flatMap_eq_nil_iff]
    intro worker hworker
    exact (h.fit worker hworker).ended ((Chronicle.ended_of_isFinal hfinal).2 worker hworker)
  have hmade : s.made = s.outcomes := by
    rw [State.made, hworkers, List.append_nil, State.outcomes]
  exact hmade ▸ h.reported

theorem State.counted_initial (h : metrics.Counts outcomes retried) (service : Service)
    (source : Source) (started : Nat) :
    (State.initial plan service metrics source started).Counted outcomes retried := by
  constructor
  · intro worker hworker
    rw [State.initial, Array.toList_replicate, List.mem_replicate] at hworker
    rw [hworker.2]
    exact Worker.fit_idle []
  · have hmade : (State.initial plan service metrics source started).made = [] := by
      simp +contextual [State.made, State.initial, List.flatMap_eq_nil_iff, List.mem_replicate]
    rw [hmade]
    exact .nil
  · rw [State.initial, List.append_nil]
    exact h

/-- A batch that has ended in the order of a schedule has reported its outcomes. -/
theorem Chronicle.perm_reported (h : metrics.Counts outcomes retried) {service : Service}
    {source : Source} {started : Nat} {schedule : List Actor} {c : Chronicle}
    (hrun : (start plan service metrics source started).follow? plan schedule = some c)
    (hfinal : c.state.isFinal) : c.state.reported.Perm c.state.outcomes := by
  obtain ⟨moves, more, hmoves⟩ := Attended.exists_follow hrun 0
  have hcounted :=
    Attended.counted_of_follow? hmoves (State.counted_initial h service source started)
  exact hcounted.perm_outcomes hfinal

/-- A batch counts its outcomes on top of what was counted before. -/
theorem counts_batch (h : metrics.Counts outcomes retried) {service : Service} {source : Source}
    {started : Nat} {moves : List (Actor × Behaviour)} {final : Attended}
    (hrun : (Attended.start plan service metrics source started).follow? plan moves = some final)
    (hfinal : final.state.isFinal) :
    final.state.metrics.Counts (outcomes ++ final.state.outcomes) (retried + final.retried) := by
  have hcounted := Attended.counted_of_follow? hrun (State.counted_initial h service source started)
  exact hcounted.counts.perm ((hcounted.perm_outcomes hfinal).append_left _)

namespace Session

/-- A single target counts its outcome on top of what was counted before. -/
theorem counts_conclude (h : metrics.Counts outcomes retried) {target : WorkflowRef}
    {eventId : Option Int} {requestId : String} {attempted : Attempted ResetError OutcomeStatus}
    (hyields : (plan.process (.direct eventId) target requestId).Yields attempted) :
    (plan.conclude metrics target attempted).2.Counts
      (outcomes ++ [(plan.conclude metrics target attempted).1]) retried :=
  h.recordOutcome (plan.status_outcome_ne_excluded target
    (hyields.of_endsIn (plan.process_endsIn _ _ _)))

theorem counts (h : Session plan metrics outcomes retried) : metrics.Counts outcomes retried := by
  induction h with
  | start => exact .zero
  | batch _ hrun hfinal ih => exact counts_batch ih hrun hfinal
  | single service target eventId started _ ih => exact counts_conclude ih (yields_run _ service)
  | answered _ hyields ih => exact counts_conclude ih hyields

/-- The batches of a schedule are calls of an orchestrator. -/
theorem of_schedule (h : Session plan metrics outcomes retried) {service : Service}
    {source : Source} {started : Nat} {schedule : List Actor} {c : Chronicle}
    (hrun : (Chronicle.start plan service metrics source started).follow? plan schedule = some c)
    (hfinal : c.state.isFinal) :
    ∃ more, Session plan c.state.metrics (outcomes ++ c.state.outcomes) (retried + more) := by
  obtain ⟨moves, more, hmoves⟩ := Attended.exists_follow hrun 0
  exact ⟨more, h.batch hmoves hfinal⟩

/-- So is a batch that is run to its end. -/
theorem of_run (h : Session plan metrics outcomes retried) (hparallel : 1 ≤ plan.config.parallelism)
    {service : Service} (hbounded : service.store.Bounded) (source : Source) (started : Nat) :
    ∃ more, Session plan (plan.run service metrics source started).metrics
      (outcomes ++ (plan.run service metrics source started).outcomes) (retried + more) := by
  obtain ⟨schedule, c, hrun, hstate⟩ :=
    Chronicle.exists_schedule plan hbounded metrics source started
  have hfinal := State.isFinal_run hparallel hbounded metrics source started
  rw [← hstate] at hfinal ⊢
  exact h.of_schedule hrun hfinal

/-- Whatever services answer and in whatever order the workers go on: after each call of an
orchestrator, its counters tell the outcomes of all calls so far, those of batches with a failed source
included, and how often a target or a page of a source was tried again. What the report of a next batch
says is this on top of its own outcomes. -/
theorem metrics_match_outcomes (h : Session plan metrics outcomes retried) :
    metrics.Tells outcomes retried ∧
    ∀ service source started moves final own batchId startedAt finishedAt,
      (Attended.start plan service metrics source started).follow? plan moves = some final →
      final.state.isFinal → final.state.result = .ok own →
      (plan.report batchId startedAt finishedAt final.state.metrics own).summary.AddsTo metrics own
        final.retried := by
  refine ⟨h.counts.tells, ?_⟩
  intro service source started moves final own batchId startedAt finishedAt hrun hfinal hresult
  have hown : own = final.state.outcomes := by
    rw [State.result] at hresult
    split at hresult
    · exact absurd hresult (by simp)
    · exact (Except.ok.inj hresult).symm
  rw [hown]
  exact h.counts.addsTo (counts_batch h.counts hrun hfinal)

/-- The first scan fails, and so does the first reset of a workflow. -/
def sampleService : Service :=
  .ofStore (((Chronicle.sampleService.store.setVisibility "all"
    [⟨"pay", none⟩, ⟨"audit", none⟩]).failNext .scan "all" ⟨.unavailable, "busy"⟩).failNext .reset
      "pay" ⟨.unavailable, "busy"⟩)

/-- A query that finds a target and a workflow that is excluded. -/
def sampleSource : Source where
  feed := .query ⟨"default", "all", .start⟩
  exclusions := .ofList ["audit"]

/-- A batch on two workflows, the second of which is excluded, and then a single target. -/
theorem metrics_match_outcomes_sample :
    ∃ metrics outcomes retried, Session Chronicle.samplePlan metrics outcomes retried ∧
      metrics.Tells outcomes retried ∧ outcomes.length = 3 ∧ metrics.processed.toNat = 3 ∧
      metrics.retries = 2 := by
  have hends : ((Chronicle.start Chronicle.samplePlan sampleService .zero sampleSource 0).follow?
      Chronicle.samplePlan (List.replicate 7 .producer ++ List.replicate 11 (.worker 1) ++
        [.worker 0])).map (fun c => (c.state.isFinal, c.state.metrics, c.state.outcomes.length)) =
      some (true, ⟨1, 0, 0, 1, 0, 2, 0⟩, 2) := by
    decide +kernel
  obtain ⟨c, hrun, hends⟩ := Option.map_eq_some_iff.mp hends
  obtain ⟨hfinal, hends⟩ := Prod.mk.inj hends
  obtain ⟨hmetrics, hlength⟩ := Prod.mk.inj hends
  obtain ⟨more, hbatch⟩ := Session.start.of_schedule hrun hfinal
  rw [hmetrics] at hbatch
  have hsession := hbatch.single Chronicle.sampleService ⟨"ship", none⟩ none 1
  obtain ⟨htells, -⟩ := metrics_match_outcomes hsession
  have hthree : ([] ++ c.state.outcomes ++ [(Chronicle.samplePlan.resetOne Chronicle.sampleService
      ⟨1, 0, 0, 1, 0, 2, 0⟩ ⟨"ship", none⟩ none 1).1]).length = 3 := by
    simp [hlength]
  refine ⟨_, _, _, hsession, htells, hthree, ?_, by decide +kernel⟩
  rw [htells.processed (by rw [hthree]; decide), hthree]

end Session

end Batch

end Rewind
