import Rewind.Batch.State

/-!
Batches whose service behaves in any way.

A step that makes a call is considered under any answer to it, which need not be the answer of the
store that the batch holds. All other steps are those of the batch itself.

Main statements: under the behaviour of its own service a batch makes its own steps
(`step_eq_stepUnder`), and what a step can be (`effect_of_canStep`).
-/

namespace Rewind.Batch

/-- What a service answers to a call, and what it is then. -/
abbrev Behaviour := (request : Request) → Except ServiceError request.Response × Service

namespace State

/-- The producer gets the answer to a scan. -/
def scanned (plan : Plan) (s : State) (attempt : Nat) (source : Source) :
    Except ServiceError (Page WorkflowRef) × Service → State
  | (.ok page, service) => { s with service, source := source.receive page }
  | (.error error, service) => { s with service, source }.sourceFailed plan attempt (.service error)

/-- A worker goes on with its target. -/
def resumed (s : State) (service : Service) (index : Nat) (outcomes : List Outcome)
    (target : WorkflowRef) (program : Program (Attempted ResetError OutcomeStatus)) : State :=
  { s with service, workers := s.workers.setIfInBounds index ⟨.busy target program, outcomes⟩ }

/-- A step of an actor that makes its call, if it makes one, to a service that behaves so. -/
def stepUnder (plan : Plan) (behaviour : Behaviour) (s : State) (actor : Actor) : State :=
  match actor with
  | .producer =>
      match s.producer, s.source.poll with
      | .pulling attempt, (.ask request, source) =>
          s.scanned plan attempt source (behaviour (.scan request))
      | _, _ => s.step plan actor
  | .worker index =>
      match s.workers[index]? with
      | some ⟨.busy target program, outcomes⟩ =>
          match program.next with
          | .ask request resume =>
              s.resumed (behaviour request).2 index outcomes target (resume (behaviour request).1)
          | _ => s.step plan actor
      | _ => s.step plan actor

/-- A batch makes its steps against its own service. -/
theorem step_eq_stepUnder (plan : Plan) (s : State) (actor : Actor) :
    s.step plan actor = s.stepUnder plan s.service.call actor := by
  cases actor with
  | producer =>
      simp only [stepUnder]
      split
      · next attempt request source hproducer hpoll =>
          have hpull : s.step plan .producer = s.pull plan attempt := by
            simp only [step, stepProducer, hproducer]
          rw [hpull, pull, hpoll]
          rcases hcall : s.service.call (.scan request) with ⟨_ | _, service⟩ <;>
            simp only [hcall] <;> rfl
      · rfl
  | worker index =>
      simp only [stepUnder]
      split
      · next target program outcomes hworker =>
          split
          · next request resume hnext => simp only [step, stepWorker, hworker, hnext, resumed]
          · rfl
      · rfl

/-- What a step of an actor does while the service behaves so. -/
inductive Effect (plan : Plan) (behaviour : Behaviour) (s : State) : Actor → State → Prop
  /-- The source has no further item. -/
  | closed {attempt : Nat} {source : Source} :
      s.producer = .pulling attempt → s.source.poll = (.answer (.ok none), source) →
      Effect plan behaviour s .producer { s with source, producer := .ended none }
  /-- The source gives out an excluded item. -/
  | excluded {attempt : Nat} {source : Source} {target : WorkflowRef} :
      s.producer = .pulling attempt →
      s.source.poll = (.answer (.ok (some (.excluded target))), source) →
      Effect plan behaviour s .producer ({ s with source }.exclude plan target)
  /-- The source gives out a target. -/
  | offered {attempt : Nat} {source : Source} {target : WorkflowRef} :
      s.producer = .pulling attempt →
      s.source.poll = (.answer (.ok (some (.target target))), source) →
      Effect plan behaviour s .producer { s with source, producer := .holding target }
  /-- The source fails by itself. -/
  | failed {attempt : Nat} {source : Source} {error : ResetError} :
      s.producer = .pulling attempt → s.source.poll = (.answer (.error error), source) →
      Effect plan behaviour s .producer ({ s with source }.sourceFailed plan attempt error)
  /-- A scan is answered. -/
  | scanned {attempt : Nat} {source : Source} {request : ScanRequest} :
      s.producer = .pulling attempt → s.source.poll = (.ask request, source) →
      Effect plan behaviour s .producer
        (s.scanned plan attempt source (behaviour (.scan request)))
  /-- The producer has rested before another try. -/
  | rested {attempt : Nat} :
      s.producer = .pausing attempt →
      Effect plan behaviour s .producer { s with producer := .pulling attempt }
  /-- A target is put into the queue. -/
  | queued {target : WorkflowRef} :
      s.producer = .holding target → s.queue.length < plan.capacity →
      Effect plan behaviour s .producer
        { s with queue := s.queue ++ [target], producer := .pulling 1 }
  /-- A worker takes a target. -/
  | taken {index : Nat} {worker : Worker} {target : WorkflowRef} {rest : List WorkflowRef} :
      s.workers[index]? = some worker → worker.task = .idle → s.queue = target :: rest →
      Effect plan behaviour s (.worker index) (s.take plan index worker target rest)
  /-- A worker ends. -/
  | left {index : Nat} {worker : Worker} :
      s.workers[index]? = some worker → worker.task = .idle → s.queue = [] → s.isSourceClosed →
      Effect plan behaviour s (.worker index) (s.handOver index worker)
  /-- A worker is done with its target. -/
  | finished {index : Nat} {worker : Worker} {target : WorkflowRef}
      {program : Program (Attempted ResetError OutcomeStatus)}
      {attempted : Attempted ResetError OutcomeStatus} :
      s.workers[index]? = some worker → worker.task = .busy target program →
      program.next = .done attempted →
      Effect plan behaviour s (.worker index) (s.finish plan index worker target attempted)
  /-- A worker gets the answer to a call for its target. -/
  | answered {index : Nat} {worker : Worker} {target : WorkflowRef}
      {program : Program (Attempted ResetError OutcomeStatus)} {request : Request}
      {resume : Except ServiceError request.Response →
        Program (Attempted ResetError OutcomeStatus)} :
      s.workers[index]? = some worker → worker.task = .busy target program →
      program.next = .ask request resume →
      Effect plan behaviour s (.worker index)
        (s.resumed (behaviour request).2 index worker.outcomes target (resume (behaviour request).1))
  /-- A worker has rested between two attempts. -/
  | paused {index : Nat} {worker : Worker} {target : WorkflowRef}
      {program resume : Program (Attempted ResetError OutcomeStatus)} :
      s.workers[index]? = some worker → worker.task = .busy target program →
      program.next = .pause resume →
      Effect plan behaviour s (.worker index)
        (s.resumed s.service index worker.outcomes target resume)
  /-- A worker has rested behind a target. -/
  | readied {index : Nat} {worker : Worker} :
      s.workers[index]? = some worker → worker.task = .pausing →
      Effect plan behaviour s (.worker index)
        { s with workers := s.workers.setIfInBounds index ⟨.idle, worker.outcomes⟩ }

variable {plan : Plan} {s : State}

theorem effect_of_producer (behaviour : Behaviour) (hcan : s.canStep plan .producer) :
    Effect plan behaviour s .producer (s.stepUnder plan behaviour .producer) := by
  cases hproducer : s.producer with
  | pulling attempt =>
      rcases hpoll : s.source.poll with ⟨answer | request, source⟩
      · have hstep : s.stepUnder plan behaviour .producer =
            { s with source }.sourceAnswered plan attempt answer := by
          simp only [stepUnder, hproducer, hpoll, step, stepProducer, pull]
        rw [hstep]
        rcases answer with error | _ | item
        · exact .failed hproducer hpoll
        · exact .closed hproducer hpoll
        · cases item with
          | target target => exact .offered hproducer hpoll
          | excluded target => exact .excluded hproducer hpoll
      · have hstep : s.stepUnder plan behaviour .producer =
            s.scanned plan attempt source (behaviour (.scan request)) := by
          simp only [stepUnder, hproducer, hpoll]
        rw [hstep]
        exact .scanned hproducer hpoll
  | pausing attempt =>
      have hstep : s.stepUnder plan behaviour .producer = { s with producer := .pulling attempt } := by
        simp only [stepUnder, hproducer, step, stepProducer]
      rw [hstep]
      exact .rested hproducer
  | holding target =>
      have hroom : s.queue.length < plan.capacity := by
        simpa [canStep, need, producerNeed, hproducer, hasRoom] using hcan
      have hstep : s.stepUnder plan behaviour .producer =
          { s with queue := s.queue ++ [target], producer := .pulling 1 } := by
        simp only [stepUnder, hproducer, step, stepProducer]
      rw [hstep]
      exact .queued hproducer hroom
  | ended failure => simp [canStep, need, producerNeed, hproducer] at hcan

theorem effect_of_worker (behaviour : Behaviour) {index : Nat}
    (hcan : s.canStep plan (.worker index)) :
    Effect plan behaviour s (.worker index) (s.stepUnder plan behaviour (.worker index)) := by
  cases hworker : s.workers[index]? with
  | none => simp [canStep, need, hworker] at hcan
  | some worker =>
      obtain ⟨task, outcomes⟩ := worker
      cases task with
      | idle =>
          cases hqueue : s.queue with
          | nil =>
              have hclosed : s.isSourceClosed := by
                simpa [canStep, need, Task.need, hworker, isServing, hqueue] using hcan
              have hstep : s.stepUnder plan behaviour (.worker index) =
                  s.handOver index ⟨.idle, outcomes⟩ := by
                simp only [stepUnder, hworker, step, stepWorker, hqueue]
              rw [hstep]
              exact .left hworker rfl hqueue hclosed
          | cons target rest =>
              have hstep : s.stepUnder plan behaviour (.worker index) =
                  s.take plan index ⟨.idle, outcomes⟩ target rest := by
                simp only [stepUnder, hworker, step, stepWorker, hqueue]
              rw [hstep]
              exact .taken hworker rfl hqueue
      | busy target program =>
          cases hnext : program.next with
          | done attempted =>
              have hstep : s.stepUnder plan behaviour (.worker index) =
                  s.finish plan index ⟨.busy target program, outcomes⟩ target attempted := by
                simp only [stepUnder, hworker, hnext, step, stepWorker]
              rw [hstep]
              exact .finished hworker rfl hnext
          | ask request resume =>
              have hstep : s.stepUnder plan behaviour (.worker index) = s.resumed
                  (behaviour request).2 index outcomes target (resume (behaviour request).1) := by
                simp only [stepUnder, hworker, hnext]
              rw [hstep]
              exact .answered hworker rfl hnext
          | pause resume =>
              have hstep : s.stepUnder plan behaviour (.worker index) =
                  s.resumed s.service index outcomes target resume := by
                simp only [stepUnder, hworker, hnext, step, stepWorker, resumed]
              rw [hstep]
              exact .paused hworker rfl hnext
      | pausing =>
          have hstep : s.stepUnder plan behaviour (.worker index) =
              { s with workers := s.workers.setIfInBounds index ⟨.idle, outcomes⟩ } := by
            simp only [stepUnder, hworker, step, stepWorker]
          rw [hstep]
          exact .readied hworker rfl
      | ended => simp [canStep, need, Task.need, hworker] at hcan

/-- Every step has one of the effects. -/
theorem effect_of_canStep (behaviour : Behaviour) {actor : Actor} (hcan : s.canStep plan actor) :
    Effect plan behaviour s actor (s.stepUnder plan behaviour actor) := by
  cases actor with
  | producer => exact effect_of_producer behaviour hcan
  | worker index => exact effect_of_worker behaviour hcan

end State

end Rewind.Batch
