import Rewind.Batch.Agenda
import Rewind.Report

/-!
Running a batch.

A run lets the actors make their steps as the agenda says, for a number of moves that goes by what the
source can still give out, how often things may be tried, and how long histories are. Whoever has not
ended by then is settled: one actor after the other goes on, a worker with all of the work on its
target, until nobody can. How often they can go on is known from what there is left to do.
-/

namespace Rewind

namespace Source

/-- An upper bound of the items that a source can give out without a further page. -/
def left (source : Source) : Nat :=
  match source.feed with
  | .file file => file.feed.size
  | .query targets => targets.pages.buffered.length

/-- An upper bound of the further pages of a source and their items: two for each answer to the query
behind the place of the source, and one for a page that may be empty. No page comes for a token that
stands for no place. -/
def ahead (visibility : String → List WorkflowRef) (source : Source) : Nat :=
  match source.feed with
  | .file _ => 0
  | .query targets =>
      if targets.pages.exhausted then 0
      else
        match Paging.offsetOf? targets.pages.token with
        | .ok offset => 2 * ((visibility targets.query).length - offset) + 1
        | .error _ => 0

end Source

namespace Batch

/-- What the producer has left to do, if the source is asked for an item at most so many times. -/
def Producer.rest (most : Nat) : Producer → Nat
  | .pulling attempt => 2 * (most - attempt) + 2
  | .pausing attempt => 2 * (most - attempt) + 3
  | .holding _ => 2 * most + 5
  | .ended _ => 0

/-- What a worker has left to do. To get hold of the receiver counts with what is received. -/
def Task.rest : Task → Nat
  | .idle => 2
  | .busy _ _ => 4
  | .pausing => 3
  | .ended => 0

namespace State

/-! ### What there is left to do -/

/-- How often the source is asked for an item at most. -/
def tries (plan : Plan) : Nat :=
  max 1 plan.settings.retry.maxAttempts

/-- What is left to do, besides calls and pauses at targets, as long as the source brings nothing. -/
def rest (plan : Plan) (s : State) : Nat :=
  s.producer.rest (tries plan) + 4 * s.queue.length +
    (s.workers.toList.map fun worker => worker.task.rest).foldr (· + ·) 0

/-- An upper bound of the items and pages that the source still brings. -/
def supply (s : State) : Nat :=
  s.source.left + s.source.ahead s.service.store.visibility

/-- How often actors can go on until all of them have ended, if the work on a target is done at once. -/
def workload (plan : Plan) (s : State) : Nat :=
  s.rest plan + (2 * tries plan + 4) * s.supply

/-- An upper bound of the moves and turns until all actors have ended. -/
def workLeft (plan : Plan) (s : State) : Nat :=
  let items := s.supply + 3
  let attempts := plan.settings.retry.maxAttempts + 2
  let pages := s.service.store.volume + 2 * items + 4
  8 * (plan.config.parallelism + 3) * items * attempts * pages

/-! ### Runs -/

/-- Makes steps as an agenda says. -/
def runAgenda (plan : Plan) : Nat → Agenda → State → State
  | 0, _, s => s
  | fuel + 1, agenda, s =>
      match agenda.turn with
      | some turn =>
          let (agenda, s) := agenda.move plan turn s
          runAgenda plan fuel agenda s
      | none =>
          match agenda.next? with
          | some agenda => runAgenda plan fuel agenda s
          | none => s

/-- Lets an actor go on. A worker that is at a target does all of the work on it. -/
def advance (plan : Plan) (s : State) : Actor → State
  | .producer => s.stepProducer plan
  | .worker index =>
      match s.workers[index]? with
      | none => s
      | some worker =>
          match worker.task with
          | .busy target program =>
              let (attempted, service) := program.run s.service
              { s with service }.finish plan index worker target attempted
          | _ => s.stepWorker plan index

/-- Lets one actor after the other go on until nobody can. -/
def settle (plan : Plan) : Nat → State → State
  | 0, s => s
  | fuel + 1, s =>
      match s.actors.find? (s.canStep plan) with
      | some actor => settle plan fuel (s.advance plan actor)
      | none => s

/-- Runs a batch to its end. -/
def run (plan : Plan) (s : State) : State :=
  let s := runAgenda plan (workLeft plan s) (.initial s) s
  settle plan (s.workload plan) s

end State

end Batch

namespace Plan

/-- Processes all targets of a source. -/
def run (plan : Plan) (service : Service) (metrics : Metrics) (source : Source)
    (started : Nat) : Batch.State :=
  (Batch.State.initial plan service metrics source started).run plan

/-- Resets one target without checks, at a given event or by the strategy. -/
def resetOne (plan : Plan) (service : Service) (metrics : Metrics) (target : WorkflowRef)
    (eventId : Option Int) (started : Nat) : Outcome × Service × Metrics :=
  let (attempted, service) :=
    (plan.process (.direct eventId) target (plan.requestIds started)).run service
  let (outcome, metrics) := plan.conclude metrics target attempted
  (outcome, service, metrics)

/-- The report of a batch that returned these outcomes. -/
def report (plan : Plan) (batchId : Uuid) (startedAt finishedAt : Timestamp) (metrics : Metrics)
    (outcomes : List Outcome) : BatchReport :=
  ⟨batchId, startedAt, finishedAt, plan.config.dryRun, metrics.summary, outcomes⟩

end Plan

end Rewind
