import Rewind.Batch.Plan
import Rewind.Target.Source

/-!
A batch as a machine with several actors.

The producer takes items from the source. It reports excluded ones itself and puts the others into a
queue of limited length. Workers take targets out of the queue and process them, one each at a time.
A worker ends when the queue is empty and the producer has ended, and then hands over its outcomes.

`State.step?` is one step of one actor, and none if that actor has to wait or has ended. Every
service call is a step of its own, so the calls of different workers may follow each other in any
order; so is every pause, which changes nothing else.
-/

namespace Rewind.Batch

/-- What the producer is at. -/
inductive Producer where
  /-- Asks the source for an item, for the given time. -/
  | pulling (attempt : Nat)
  /-- Pauses before it asks for the given time. -/
  | pausing (attempt : Nat)
  /-- Waits for room in the queue. -/
  | holding (target : WorkflowRef)
  /-- Has ended, with the error of the source if it failed. -/
  | ended (failure : Option ResetError)

/-- What a worker is at. -/
inductive Task where
  | idle
  | busy (target : WorkflowRef) (program : Program (Attempted ResetError OutcomeStatus))
  /-- Pauses behind a target. -/
  | pausing
  | ended

structure Worker where
  task : Task
  /-- The outcomes of its targets, until it hands them over. -/
  outcomes : List Outcome

/-- The actors of a batch. -/
inductive Actor where
  | producer
  | worker (index : Nat)
deriving DecidableEq, Repr

structure State where
  service : Service
  metrics : Metrics
  source : Source
  producer : Producer
  /-- The targets that wait for a worker, the one that waits longest first. -/
  queue : List WorkflowRef
  workers : Array Worker
  /-- The outcomes of excluded items in the order of the source. -/
  excluded : List Outcome
  /-- The outcomes of processed targets that workers have handed over. -/
  processed : List Outcome
  /-- All outcomes that were reported, in the order in which they came about. -/
  reported : List Outcome
  /-- How many targets were taken up, and request ids given out, so far. -/
  started : Nat

namespace State

/-- The start of a batch. -/
def initial (plan : Plan) (service : Service) (metrics : Metrics) (source : Source)
    (started : Nat) : State where
  service := service
  metrics := metrics
  source := source
  producer := .pulling 1
  queue := []
  workers := Array.replicate plan.config.parallelism ⟨.idle, []⟩
  excluded := []
  processed := []
  reported := []
  started := started

/-! ### Steps of the producer -/

/-- Goes on behind a failure of the source: another try if it may help, or the end. -/
def sourceFailed (plan : Plan) (s : State) (attempt : Nat) (error : ResetError) : State :=
  if error.isRetryable && attempt < max 1 plan.settings.retry.maxAttempts then
    { s with metrics := s.metrics.record .retry, producer := .pausing (attempt + 1) }
  else { s with producer := .ended (some error) }

/-- Reports an excluded item. -/
def exclude (plan : Plan) (s : State) (target : WorkflowRef) : State :=
  let outcome := Outcome.excluded target plan.stamp
  { s with
    metrics := s.metrics.record .excluded
    excluded := s.excluded ++ [outcome]
    reported := s.reported ++ [outcome]
    producer := .pulling 1 }

/-- Deals with what the source answered. -/
def sourceAnswered (plan : Plan) (s : State) (attempt : Nat) :
    Except ResetError (Option SourceItem) → State
  | .ok none => { s with producer := .ended none }
  | .ok (some (.excluded target)) => s.exclude plan target
  | .ok (some (.target target)) => { s with producer := .holding target }
  | .error error => s.sourceFailed plan attempt error

/-- Asks the source for an item, and the service for a page if the source needs one. -/
def pull (plan : Plan) (s : State) (attempt : Nat) : State :=
  match s.source.poll with
  | (.answer result, source) => { s with source }.sourceAnswered plan attempt result
  | (.ask request, source) =>
      match s.service.call (.scan request) with
      | (.ok page, service) => { s with service, source := source.receive page }
      | (.error error, service) =>
          { s with service, source }.sourceFailed plan attempt (.service error)

/-- The step of the producer, if it can make one. -/
def stepProducer (plan : Plan) (s : State) : State :=
  match s.producer with
  | .pulling attempt => s.pull plan attempt
  | .pausing attempt => { s with producer := .pulling attempt }
  | .holding target => { s with queue := s.queue ++ [target], producer := .pulling 1 }
  | .ended _ => s

/-! ### Steps of a worker -/

/-- Takes up the target that waits longest. -/
def take (plan : Plan) (s : State) (index : Nat) (worker : Worker) (target : WorkflowRef)
    (rest : List WorkflowRef) : State :=
  let program := plan.process .checked target (plan.requestIds s.started)
  { s with
    queue := rest
    workers := s.workers.setIfInBounds index { worker with task := .busy target program }
    started := s.started + 1 }

/-- Reports a processed target. -/
def finish (plan : Plan) (s : State) (index : Nat) (worker : Worker) (target : WorkflowRef)
    (attempted : Attempted ResetError OutcomeStatus) : State :=
  let concluded := plan.conclude s.metrics target attempted
  { s with
    metrics := concluded.2
    workers := s.workers.setIfInBounds index ⟨.pausing, worker.outcomes ++ [concluded.1]⟩
    reported := s.reported ++ [concluded.1] }

/-- Ends a worker. -/
def handOver (s : State) (index : Nat) (worker : Worker) : State :=
  { s with
    processed := s.processed ++ worker.outcomes
    workers := s.workers.setIfInBounds index ⟨.ended, []⟩ }

/-- The step of a worker, if it can make one. -/
def stepWorker (plan : Plan) (s : State) (index : Nat) : State :=
  match s.workers[index]? with
  | none => s
  | some worker =>
      match worker.task with
      | .idle =>
          match s.queue with
          | target :: rest => s.take plan index worker target rest
          | [] => s.handOver index worker
      | .busy target program =>
          match program.next with
          | .done attempted => s.finish plan index worker target attempted
          | .ask request resume =>
              let (answer, service) := s.service.call request
              let worker := { worker with task := .busy target (resume answer) }
              { s with service, workers := s.workers.setIfInBounds index worker }
          | .pause resume =>
              let worker := { worker with task := .busy target resume }
              { s with workers := s.workers.setIfInBounds index worker }
      | .pausing => { s with workers := s.workers.setIfInBounds index { worker with task := .idle } }
      | .ended => s

/-! ### What steps need -/

/-- What an actor needs for its next step. -/
inductive Need where
  | nothing
  /-- The answer to a call. -/
  | answer
  /-- The end of a pause between two attempts. -/
  | retryPause
  /-- The end of a pause between two targets. -/
  | pacingPause
  /-- A target in the queue, or the end of all targets. -/
  | target
  /-- Room in the queue. -/
  | room
  /-- There is no next step. -/
  | impossible
deriving DecidableEq, Repr

/-- What the producer needs. -/
def producerNeed (s : State) : Need :=
  match s.producer with
  | .pulling _ => if s.source.needsPage then .answer else .nothing
  | .pausing _ => .retryPause
  | .holding _ => .room
  | .ended _ => .impossible

/-- What a worker needs that is at this task. -/
def Task.need : Task → Need
  | .idle => .target
  | .busy _ program =>
      match program.next with
      | .done _ => .nothing
      | .ask _ _ => .answer
      | .pause _ => .retryPause
  | .pausing => .pacingPause
  | .ended => .impossible

def need (s : State) : Actor → Need
  | .producer => s.producerNeed
  | .worker index => (s.workers[index]?.map fun worker => Task.need worker.task).getD .impossible

/-- Whether the producer has ended. -/
def isSourceClosed (s : State) : Bool :=
  match s.producer with
  | .ended _ => true
  | _ => false

/-- Whether there is something for an idle worker: a target, or the end of all targets. -/
def isServing (s : State) : Bool :=
  !s.queue.isEmpty || s.isSourceClosed

/-- Whether the queue takes another target. -/
def hasRoom (plan : Plan) (s : State) : Bool :=
  s.queue.length < plan.capacity

/-- Whether an actor can make a step. -/
def canStep (plan : Plan) (s : State) (actor : Actor) : Bool :=
  match s.need actor with
  | .nothing | .answer | .retryPause | .pacingPause => true
  | .target => s.isServing
  | .room => s.hasRoom plan
  | .impossible => false

/-! ### Steps of all actors -/

/-- The state behind a step of an actor that can make one. -/
def step (plan : Plan) (s : State) : Actor → State
  | .producer => s.stepProducer plan
  | .worker index => s.stepWorker plan index

/-- One step of an actor, and none if it has to wait or has ended. -/
def step? (plan : Plan) (s : State) (actor : Actor) : Option State :=
  if s.canStep plan actor then some (s.step plan actor) else none

/-! ### Looking at a state -/

/-- All actors, the producer first. -/
def actors (s : State) : List Actor :=
  .producer :: (List.range s.workers.size).map .worker

/-- Whether all actors have ended. -/
def isFinal (s : State) : Bool :=
  s.actors.all fun actor => s.need actor = .impossible

/-- The outcomes of excluded items, and behind them those that workers have handed over. -/
def outcomes (s : State) : List Outcome :=
  s.excluded ++ s.processed

/-- What a batch that ended in this state returns: the error of its source, or its outcomes. -/
def result (s : State) : Except ResetError (List Outcome) :=
  match s.producer with
  | .ended (some error) => .error error
  | _ => .ok s.outcomes

end State

end Rewind.Batch
