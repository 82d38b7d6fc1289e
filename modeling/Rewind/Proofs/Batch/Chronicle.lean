import Rewind.Batch.Run
import Rewind.Proofs.Service

/-!
A batch that keeps a record of what its actors did.

The record is written beside the state and never read by it: a chronicle makes a step exactly when
its state does, and then has the state behind that step. It keeps what the source answered, what
calls the producer made, and for each worker the targets that it dealt with, the calls that it made
for each of them, and their outcomes.

Main statements: what one step can change (`change_of_step?`), and what every step keeps, every
schedule keeps (`of_follow?`).
-/

namespace Rewind.Batch

/-! ### What a failure of the source leaves alone -/

namespace State

variable (plan : Plan) (s : State) (attempt : Nat) (error : ResetError)

@[simp] theorem sourceFailed_service : (s.sourceFailed plan attempt error).service = s.service := by
  unfold sourceFailed; split <;> rfl

@[simp] theorem sourceFailed_source : (s.sourceFailed plan attempt error).source = s.source := by
  unfold sourceFailed; split <;> rfl

@[simp] theorem sourceFailed_queue : (s.sourceFailed plan attempt error).queue = s.queue := by
  unfold sourceFailed; split <;> rfl

@[simp] theorem sourceFailed_workers : (s.sourceFailed plan attempt error).workers = s.workers := by
  unfold sourceFailed; split <;> rfl

@[simp] theorem sourceFailed_excluded :
    (s.sourceFailed plan attempt error).excluded = s.excluded := by
  unfold sourceFailed; split <;> rfl

@[simp] theorem sourceFailed_processed :
    (s.sourceFailed plan attempt error).processed = s.processed := by
  unfold sourceFailed; split <;> rfl

@[simp] theorem sourceFailed_started : (s.sourceFailed plan attempt error).started = s.started := by
  unfold sourceFailed; split <;> rfl

/-- Behind a failure the producer tries again, if that may help, or has ended. -/
theorem sourceFailed_producer :
    (error.isRetryable ∧ (s.sourceFailed plan attempt error).producer = .pausing (attempt + 1)) ∨
      (s.sourceFailed plan attempt error).producer = .ended (some error) := by
  unfold sourceFailed
  split
  · rename_i hretry
    exact .inl ⟨by simp_all, rfl⟩
  · exact .inr rfl

end State

/-! ### The record -/

/-- A call with its answer. -/
structure Call where
  /-- How many calls the service had answered before. -/
  time : Nat
  request : Request
  answer : Except ServiceError request.Response

namespace Call

/-- What the journal of the service says about a call. -/
def exchange (call : Call) : Exchange :=
  ⟨call.request, Service.failure? call.answer⟩

/-- The reset that was accepted by a call, with the id of the run that it made. -/
def accepted? (call : Call) : Option (ResetRequest × String) :=
  call.request.accepted? call.answer

end Call

/-- What is done for one target. -/
structure Visit where
  target : WorkflowRef
  requestId : String
  calls : List Call

namespace Visit

/-- The resets that were accepted for a target. -/
def accepted (visit : Visit) : List (ResetRequest × String) :=
  visit.calls.filterMap Call.accepted?

/-- The visit after one more call. -/
def after (visit : Visit) (call : Call) : Visit :=
  { visit with calls := visit.calls ++ [call] }

end Visit

/-- What one worker has done. -/
structure Desk where
  /-- The targets that it has dealt with, and what became of them. -/
  finished : List (Visit × Outcome)
  /-- The target that it is at. -/
  current : Option Visit

namespace Desk

def empty : Desk :=
  ⟨[], none⟩

def visits (desk : Desk) : List Visit :=
  desk.finished.map Prod.fst ++ desk.current.toList

def outcomes (desk : Desk) : List Outcome :=
  desk.finished.map Prod.snd

def targets (desk : Desk) : List WorkflowRef :=
  desk.visits.map Visit.target

def calls (desk : Desk) : List Call :=
  desk.visits.flatMap Visit.calls

def accepted (desk : Desk) : List (ResetRequest × String) :=
  desk.visits.flatMap Visit.accepted

/-- Begins with a target. -/
def take (target : WorkflowRef) (requestId : String) (desk : Desk) : Desk :=
  { desk with current := some ⟨target, requestId, []⟩ }

/-- Makes a call for the target at hand. -/
def note (call : Call) (desk : Desk) : Desk :=
  { desk with current := desk.current.map fun visit => visit.after call }

/-- Is done with the target at hand. -/
def close (outcome : Outcome) (desk : Desk) : Desk :=
  ⟨desk.finished ++ (desk.current.map fun visit => (visit, outcome)).toList, none⟩

end Desk

namespace Desk

variable {desk : Desk} {target : WorkflowRef} {requestId : String} {call : Call}
  {outcome : Outcome}

@[simp] theorem outcomes_take : (desk.take target requestId).outcomes = desk.outcomes := rfl

@[simp] theorem outcomes_note : (desk.note call).outcomes = desk.outcomes := rfl

theorem outcomes_close {visit : Visit} (hvisit : desk.current = some visit) :
    (desk.close outcome).outcomes = desk.outcomes ++ [outcome] := by
  simp [close, outcomes, hvisit]

theorem visits_take (hfree : desk.current = none) :
    (desk.take target requestId).visits = desk.visits ++ [⟨target, requestId, []⟩] := by
  simp [take, visits, hfree]

@[simp] theorem visits_close : (desk.close outcome).visits = desk.visits := by
  cases hvisit : desk.current <;> simp [close, visits, hvisit]

theorem calls_take (hfree : desk.current = none) :
    (desk.take target requestId).calls = desk.calls := by
  simp [calls, visits_take hfree]

theorem calls_note {visit : Visit} (hvisit : desk.current = some visit) :
    (desk.note call).calls = desk.calls ++ [call] := by
  simp [calls, visits, note, hvisit, Visit.after]

@[simp] theorem calls_close : (desk.close outcome).calls = desk.calls := by
  simp [calls]

@[simp] theorem targets_note : (desk.note call).targets = desk.targets := by
  cases hvisit : desk.current <;> simp [note, targets, visits, hvisit, Visit.after]

end Desk

/-- A batch, and what its actors did so far. -/
structure Chronicle where
  state : State
  /-- What the source answered when it was asked for an item. -/
  answers : List (Except ResetError (Option SourceItem))
  /-- The calls of the producer. -/
  scans : List Call
  /-- What the workers did, each in its place. -/
  desks : List Desk

namespace Chronicle

/-- The start of a batch. -/
def start (plan : Plan) (service : Service) (metrics : Metrics) (source : Source)
    (started : Nat) : Chronicle where
  state := .initial plan service metrics source started
  answers := []
  scans := []
  desks := List.replicate plan.config.parallelism .empty

/-- A call of the service as it is now. -/
def ask (c : Chronicle) (request : Request) : Call :=
  ⟨c.state.service.journal.length, request, (c.state.service.call request).1⟩

/-- What the source answers if a page can not be fetched. -/
def pageFailure {α : Type} : Except ServiceError α → List (Except ResetError (Option SourceItem))
  | .ok _ => []
  | .error error => [.error (.service error)]

/-- Writes down what the producer does next. -/
def recordProducer (c : Chronicle) : Chronicle :=
  match c.state.producer with
  | .pulling _ =>
      match c.state.source.poll with
      | (.answer result, _) => { c with answers := c.answers ++ [result] }
      | (.ask request, _) =>
          { c with
            answers := c.answers ++ pageFailure (c.state.service.call (.scan request)).1
            scans := c.scans ++ [c.ask (.scan request)] }
  | _ => c

/-- What the desk of a worker at this task looks like after the worker's next step. -/
def deskAfter (plan : Plan) (c : Chronicle) (task : Task) : Desk → Desk :=
  match task with
  | .idle =>
      match c.state.queue with
      | target :: _ => Desk.take target (plan.requestIds c.state.started)
      | [] => id
  | .busy target program =>
      match program.next with
      | .done attempted => Desk.close (plan.outcome target attempted)
      | .ask request _ => Desk.note (c.ask request)
      | .pause _ => id
  | .pausing | .ended => id

/-- Writes down what a worker does next. -/
def recordWorker (plan : Plan) (c : Chronicle) (index : Nat) : Chronicle :=
  match c.state.workers[index]? with
  | some worker => { c with desks := c.desks.modify index (c.deskAfter plan worker.task) }
  | none => c

/-- Writes down what an actor does next. -/
def record (plan : Plan) (c : Chronicle) : Actor → Chronicle
  | .producer => c.recordProducer
  | .worker index => c.recordWorker plan index

/-- One step of an actor, and none if it has to wait or has ended. -/
def step? (plan : Plan) (c : Chronicle) (actor : Actor) : Option Chronicle :=
  (c.state.step? plan actor).map fun state => { c.record plan actor with state }

/-- The steps of a schedule, one after the other. -/
def follow? (plan : Plan) (c : Chronicle) (schedule : List Actor) : Option Chronicle :=
  schedule.foldlM (step? plan) c

/-! ### What a step changes -/

/-- The steps of a batch with all that they change. -/
inductive Change (plan : Plan) (c : Chronicle) : Chronicle → Prop
  /-- The source has no further item. -/
  | closed (attempt : Nat) (source : Source) :
      c.state.producer = .pulling attempt →
      c.state.source.poll = (.answer (.ok none), source) →
      Change plan c { c with
        state := { c.state with source, producer := .ended none }
        answers := c.answers ++ [.ok none] }
  /-- The source gives out an excluded item. -/
  | excluded (attempt : Nat) (source : Source) (target : WorkflowRef) :
      c.state.producer = .pulling attempt →
      c.state.source.poll = (.answer (.ok (some (.excluded target))), source) →
      Change plan c { c with
        state := { c.state with source }.exclude plan target
        answers := c.answers ++ [.ok (some (.excluded target))] }
  /-- The source gives out a target. -/
  | offered (attempt : Nat) (source : Source) (target : WorkflowRef) :
      c.state.producer = .pulling attempt →
      c.state.source.poll = (.answer (.ok (some (.target target))), source) →
      Change plan c { c with
        state := { c.state with source, producer := .holding target }
        answers := c.answers ++ [.ok (some (.target target))] }
  /-- The source fails by itself. -/
  | failed (attempt : Nat) (source : Source) (error : ResetError) :
      c.state.producer = .pulling attempt →
      c.state.source.poll = (.answer (.error error), source) →
      Change plan c { c with
        state := { c.state with source }.sourceFailed plan attempt error
        answers := c.answers ++ [.error error] }
  /-- A page of the source arrives. -/
  | paged (attempt : Nat) (source : Source) (request : ScanRequest) (page : Page WorkflowRef) :
      c.state.producer = .pulling attempt →
      c.state.source.poll = (.ask request, source) →
      (c.state.service.call (.scan request)).1 = .ok page →
      Change plan c { c with
        state := { c.state with
          service := (c.state.service.call (.scan request)).2
          source := source.receive page }
        scans := c.scans ++ [c.ask (.scan request)] }
  /-- A page of the source can not be fetched. -/
  | pageFailed (attempt : Nat) (source : Source) (request : ScanRequest) (error : ServiceError) :
      c.state.producer = .pulling attempt →
      c.state.source.poll = (.ask request, source) →
      (c.state.service.call (.scan request)).1 = .error error →
      Change plan c { c with
        state := { c.state with
          service := (c.state.service.call (.scan request)).2
          source }.sourceFailed plan attempt (.service error)
        answers := c.answers ++ [.error (.service error)]
        scans := c.scans ++ [c.ask (.scan request)] }
  /-- The producer has rested before another try. -/
  | resumed (attempt : Nat) :
      c.state.producer = .pausing attempt →
      Change plan c { c with state := { c.state with producer := .pulling attempt } }
  /-- A target is put into the queue. -/
  | queued (target : WorkflowRef) :
      c.state.producer = .holding target → c.state.queue.length < plan.capacity →
      Change plan c { c with
        state := { c.state with queue := c.state.queue ++ [target], producer := .pulling 1 } }
  /-- A worker takes a target. -/
  | taken (index : Nat) (worker : Worker) (target : WorkflowRef) (rest : List WorkflowRef) :
      c.state.workers[index]? = some worker → worker.task = .idle →
      c.state.queue = target :: rest →
      Change plan c { c with
        state := c.state.take plan index worker target rest
        desks := c.desks.modify index (Desk.take target (plan.requestIds c.state.started)) }
  /-- A worker ends. -/
  | left (index : Nat) (worker : Worker) :
      c.state.workers[index]? = some worker → worker.task = .idle →
      c.state.queue = [] → c.state.isSourceClosed →
      Change plan c { c with state := c.state.handOver index worker }
  /-- A worker is done with its target. -/
  | finished (index : Nat) (worker : Worker) (target : WorkflowRef)
      (program : Program (Attempted ResetError OutcomeStatus))
      (attempted : Attempted ResetError OutcomeStatus) :
      c.state.workers[index]? = some worker → worker.task = .busy target program →
      program.next = .done attempted →
      Change plan c { c with
        state := c.state.finish plan index worker target attempted
        desks := c.desks.modify index (Desk.close (plan.outcome target attempted)) }
  /-- A worker makes a call for its target. -/
  | called (index : Nat) (worker : Worker) (target : WorkflowRef)
      (program : Program (Attempted ResetError OutcomeStatus)) (request : Request)
      (resume : Except ServiceError request.Response →
        Program (Attempted ResetError OutcomeStatus)) :
      c.state.workers[index]? = some worker → worker.task = .busy target program →
      program.next = .ask request resume →
      Change plan c { c with
        state := { c.state with
          service := (c.state.service.call request).2
          workers := c.state.workers.setIfInBounds index
            { worker with task := .busy target (resume (c.state.service.call request).1) } }
        desks := c.desks.modify index (Desk.note (c.ask request)) }
  /-- A worker has rested between two attempts. -/
  | rested (index : Nat) (worker : Worker) (target : WorkflowRef)
      (program resume : Program (Attempted ResetError OutcomeStatus)) :
      c.state.workers[index]? = some worker → worker.task = .busy target program →
      program.next = .pause resume →
      Change plan c { c with
        state := { c.state with
          workers := c.state.workers.setIfInBounds index
            { worker with task := .busy target resume } } }
  /-- A worker has rested behind a target. -/
  | readied (index : Nat) (worker : Worker) :
      c.state.workers[index]? = some worker → worker.task = .pausing →
      Change plan c { c with
        state := { c.state with
          workers := c.state.workers.setIfInBounds index { worker with task := .idle } } }

theorem change_of_producer {plan : Plan} {c : Chronicle}
    (hcan : c.state.canStep plan .producer) :
    Change plan c { c.recordProducer with state := c.state.stepProducer plan } := by
  cases hproducer : c.state.producer with
  | pulling attempt =>
      simp only [recordProducer, State.stepProducer, State.pull, hproducer]
      rcases hpoll : c.state.source.poll with ⟨answer | request, source⟩
      · rcases answer with error | _ | item
        · exact .failed attempt source error hproducer hpoll
        · exact .closed attempt source hproducer hpoll
        · cases item with
          | target target => exact .offered attempt source target hproducer hpoll
          | excluded target => exact .excluded attempt source target hproducer hpoll
      · rcases hcall : c.state.service.call (.scan request) with ⟨error | page, service⟩
        · have hchange : Change plan c _ :=
            .pageFailed attempt source request error hproducer hpoll (by rw [hcall])
          simpa [pageFailure, hcall, hproducer] using hchange
        · have hchange : Change plan c _ :=
            .paged attempt source request page hproducer hpoll (by rw [hcall])
          simpa [pageFailure, hcall, hproducer] using hchange
  | pausing attempt =>
      have hchange : Change plan c _ := .resumed attempt hproducer
      simpa [recordProducer, State.stepProducer, hproducer] using hchange
  | holding target =>
      have hroom : c.state.queue.length < plan.capacity := by
        simpa [State.canStep, State.need, State.producerNeed, hproducer, State.hasRoom] using hcan
      have hchange : Change plan c _ := .queued target hproducer hroom
      simpa [recordProducer, State.stepProducer, hproducer] using hchange
  | ended failure =>
      simp [State.canStep, State.need, State.producerNeed, hproducer] at hcan

theorem change_of_worker {plan : Plan} {c : Chronicle} {index : Nat}
    (hcan : c.state.canStep plan (.worker index)) :
    Change plan c { c.recordWorker plan index with state := c.state.stepWorker plan index } := by
  cases hworker : c.state.workers[index]? with
  | none => simp [State.canStep, State.need, hworker] at hcan
  | some worker =>
      simp only [recordWorker, State.stepWorker, deskAfter, hworker]
      cases htask : worker.task with
      | idle =>
          cases hqueue : c.state.queue with
          | nil =>
              have hclosed : c.state.isSourceClosed := by
                simpa [State.canStep, State.need, State.Task.need, hworker, htask,
                  State.isServing, hqueue] using hcan
              have hchange : Change plan c _ := .left index worker hworker htask hqueue hclosed
              simpa [hqueue] using hchange
          | cons target rest =>
              have hchange : Change plan c _ :=
                .taken index worker target rest hworker htask hqueue
              simpa [hqueue] using hchange
      | busy target program =>
          cases hnext : program.next with
          | done attempted =>
              have hchange : Change plan c _ :=
                .finished index worker target program attempted hworker htask hnext
              simpa [hnext] using hchange
          | ask request resume =>
              have hchange : Change plan c _ :=
                .called index worker target program request resume hworker htask hnext
              simpa [hnext] using hchange
          | pause resume =>
              have hchange : Change plan c _ :=
                .rested index worker target program resume hworker htask hnext
              simpa [hnext] using hchange
      | pausing =>
          have hchange : Change plan c _ := .readied index worker hworker htask
          simpa using hchange
      | ended => simp [State.canStep, State.need, State.Task.need, hworker, htask] at hcan

/-- Every step makes one of the changes. -/
theorem change_of_step? {plan : Plan} {c c' : Chronicle} {actor : Actor}
    (hstep : c.step? plan actor = some c') : Change plan c c' := by
  simp only [step?, State.step?, Option.map_if] at hstep
  split at hstep
  · rename_i hcan
    obtain rfl := Option.some.inj hstep
    cases actor with
    | producer => exact change_of_producer hcan
    | worker index => exact change_of_worker hcan
  · exact absurd hstep (by simp)

/-! ### Schedules -/

/-- What every step keeps, every schedule keeps. -/
theorem of_follow? {plan : Plan} (Holds : Chronicle → Prop)
    (hkeep : ∀ c c', Change plan c c' → Holds c → Holds c') {schedule : List Actor}
    {c c' : Chronicle} (hrun : c.follow? plan schedule = some c') (hc : Holds c) : Holds c' := by
  induction schedule generalizing c with
  | nil =>
      obtain rfl : c = c' := by simpa [follow?] using hrun
      exact hc
  | cons actor schedule ih =>
      simp only [follow?, List.foldlM_cons, Option.bind_eq_bind,
        Option.bind_eq_some_iff] at hrun
      obtain ⟨next, hstep, hrun⟩ := hrun
      exact ih hrun (hkeep c next (change_of_step? hstep) hc)

/-- A schedule can be followed in two parts. -/
theorem follow?_append {plan : Plan} {first second : List Actor} {c c' c'' : Chronicle}
    (hfirst : c.follow? plan first = some c') (hsecond : c'.follow? plan second = some c'') :
    c.follow? plan (first ++ second) = some c'' := by
  simp only [follow?, List.foldlM_append] at *
  rw [hfirst]
  exact hsecond

end Chronicle

end Rewind.Batch
