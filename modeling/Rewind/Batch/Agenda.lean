import Rewind.Batch.State

/-!
The order in which the actors of a batch go on.

Actors take turns. In its turn an actor goes on until it has to wait, or until the turn has been
long; then it is tired, and gets its next turn when those who are ready have had theirs. Workers
have their turns in the order in which they became ready. The producer has its turn when no worker
is ready, and at the latest after a fixed number of turns.

One worker at a time is served at the counter of the queue. The others stand in line, and are called
in the order in which they came.

Time passes only when no actor is ready or tired. Then those wake up whose call or pause ends first.
-/

namespace Rewind.Batch

/-- A turn of an actor. -/
structure Turn where
  actor : Actor
  /-- Whether the actor has waited for a call or a pause that is over now. -/
  due : Bool

/-- What the worker at the counter is at. -/
inductive Stage where
  /-- Was called, and has had no turn since. -/
  | called
  /-- Has come to the counter. -/
  | present
  /-- Has found nothing in the queue, and waits. -/
  | waiting

structure Agenda where
  /-- The time since the start in milliseconds. -/
  clock : Nat
  /-- Whose turn it is. -/
  turn : Option Turn
  /-- How much of the turn is left. -/
  left : Nat
  /-- The next turns of workers. -/
  ready : Std.Queue Turn
  /-- The next turn of the producer, if it can go on. -/
  producer : Option Turn
  /-- How many turns workers have had since the producer was last considered. -/
  turns : Nat
  /-- The worker at the counter. -/
  counter : Option (Actor × Stage)
  /-- The workers in line for the counter. -/
  line : Std.Queue Actor
  /-- The tired actors, the last one in front. -/
  tired : List Actor
  /-- Those who wait for a call or a pause with the time of its end, in the order in which they
  began to wait. -/
  asleep : Array (Nat × Actor)
  /-- How many pauses were made. -/
  pauses : Nat

namespace Agenda

/-- How often an actor gets what it needs in one turn. -/
def turnLength : Nat := 128

/-- How many turns workers have before the producer is considered. -/
def longestRow : Nat := 61

/-- At the start all workers are ready. The producer has the first turn, unless it has to wait for
the content of a file; then the workers have come to the counter when it goes on. -/
def initial (s : State) : Agenda where
  clock := 0
  turn := if s.source.isFile then none else some ⟨.producer, false⟩
  left := turnLength
  ready := (List.range s.workers.size).foldl (fun ready i => ready.enqueue ⟨.worker i, false⟩) ∅
  producer := none
  turns := 0
  counter := none
  line := ∅
  tired := []
  asleep := if s.source.isFile then #[(0, .producer)] else #[]
  pauses := 0

/-! ### Ends and beginnings of turns -/

/-- Ends the turn of an actor that has to wait, or has ended. -/
def endTurn (agenda : Agenda) : Agenda :=
  { agenda with turn := none }

/-- Ends a turn that has been long. -/
def tire (agenda : Agenda) (actor : Actor) : Agenda :=
  { agenda with turn := none, tired := actor :: agenda.tired }

/-- Ends the turn of an actor that waits for so many milliseconds. -/
def sleep (agenda : Agenda) (actor : Actor) (wait : Nat) : Agenda :=
  { agenda with turn := none, asleep := agenda.asleep.push (agenda.clock + wait, actor) }

/-- Makes an actor ready. -/
def wake (agenda : Agenda) (turn : Turn) : Agenda :=
  match turn.actor with
  | .producer => { agenda with producer := some turn }
  | .worker _ => { agenda with ready := agenda.ready.enqueue turn }

/-- Begins a turn. -/
def begin (agenda : Agenda) (turn : Turn) : Agenda :=
  { agenda with turn := some turn, left := turnLength }

/-- Makes those who are tired ready, the last one first. -/
def refresh (agenda : Agenda) : Agenda :=
  agenda.tired.foldl (fun agenda actor => agenda.wake ⟨actor, false⟩) { agenda with tired := [] }

/-- Wakes those up whose waiting ends first, if anyone waits. -/
def elapse? (agenda : Agenda) : Option Agenda :=
  match (agenda.asleep.map Prod.fst).toList.min? with
  | none => none
  | some time =>
      let (woken, asleep) := agenda.asleep.partition fun sleeper => sleeper.1 = time
      some <| woken.foldl (fun agenda sleeper => agenda.wake ⟨sleeper.2, true⟩)
        { agenda with clock := time, asleep, turns := 0 }

/-- Begins the next turn of a worker, unless workers have had so many that the producer has to be
considered. -/
def nextWorker? (agenda : Agenda) : Option Agenda :=
  if agenda.turns < longestRow then
    agenda.ready.dequeue?.map fun (turn, ready) =>
      { agenda with ready, turns := agenda.turns + 1 }.begin turn
  else none

/-- Whether no actor can go on before time passes. -/
def isQuiet (agenda : Agenda) : Bool :=
  agenda.producer.isNone && agenda.tired.isEmpty && agenda.ready.isEmpty

/-- Finds out whose turn is next, or lets time pass; none if all actors have ended. -/
def next? (agenda : Agenda) : Option Agenda :=
  match agenda.producer, agenda.turns with
  | some turn, 0 => some ({ agenda with producer := none }.begin turn)
  | _, _ =>
      agenda.nextWorker?.or <|
        if agenda.isQuiet then agenda.elapse? else some { agenda.refresh with turns := 0 }

/-! ### The counter -/

/-- Calls the first worker in line. -/
def callNext (agenda : Agenda) : Agenda :=
  match agenda.line.dequeue? with
  | some (actor, line) =>
      { agenda with counter := some (actor, .called), line }.wake ⟨actor, false⟩
  | none => { agenda with counter := none }

/-- Tells the worker at the counter that there is something for it. -/
def serve (agenda : Agenda) : Agenda :=
  match agenda.counter with
  | some (actor, .waiting) =>
      { agenda with counter := some (actor, .present) }.wake ⟨actor, false⟩
  | _ => agenda

/-! ### Moves of the actor whose turn it is -/

/-- Uses up some of the turn. -/
def spend (agenda : Agenda) (cost : Nat) : Agenda :=
  { agenda with left := agenda.left - cost }

/-- Lets an actor make its step. What the producer does may be for the worker at the counter. -/
def act (agenda : Agenda) (plan : Plan) (actor : Actor) (s : State) : Agenda × State :=
  let s := s.step plan actor
  let agenda := { agenda with turn := some ⟨actor, false⟩ }
  (if actor = .producer && s.isServing then agenda.serve else agenda, s)

/-- A step behind a wait. It uses up one part of the turn if it was waited for, and else `cost`. -/
def actAfter (agenda : Agenda) (plan : Plan) (turn : Turn) (wait cost : Nat) (s : State) :
    Agenda × State :=
  if turn.due then (agenda.spend 1).act plan turn.actor s
  else if agenda.left < cost then (agenda.tire turn.actor, s)
  else if wait = 0 then (agenda.spend cost).act plan turn.actor s
  else (agenda.sleep turn.actor wait, s)

/-- How long the next pause is, in milliseconds. -/
def nextPause (agenda : Agenda) (plan : Plan) (longest : Duration) : Nat :=
  (jitter longest (plan.randoms agenda.pauses)).wholeMilliseconds

/-- Counts a pause that an actor makes, unless it is too tired to begin with it. -/
def countPause (agenda : Agenda) (turn : Turn) (cost : Nat) : Agenda :=
  if turn.due || agenda.left < cost then agenda else { agenda with pauses := agenda.pauses + 1 }

/-- A step behind a pause. -/
def actRested (agenda : Agenda) (plan : Plan) (turn : Turn) (wait cost : Nat) (s : State) :
    Agenda × State :=
  (agenda.countPause turn cost).actAfter plan turn wait cost s

/-- A move of the worker at the counter: it comes, takes a target, or waits for one. A producer that
waits for room can go on when a target is taken. -/
def moveAtCounter (agenda : Agenda) (plan : Plan) (actor : Actor) (stage : Stage) (s : State) :
    Agenda × State :=
  match stage with
  | .called => ({ agenda.spend 1 with counter := some (actor, .present) }, s)
  | .present | .waiting =>
      if s.isServing then
        let agenda := if s.producerNeed = .room then agenda.wake ⟨.producer, false⟩ else agenda
        (agenda.spend 1).callNext.act plan actor s
      else ({ agenda.endTurn with counter := some (actor, .waiting) }, s)

/-- A move of an idle worker. -/
def moveIdle (agenda : Agenda) (plan : Plan) (actor : Actor) (s : State) : Agenda × State :=
  if agenda.left = 0 then (agenda.tire actor, s)
  else
    match agenda.counter with
    | none => ({ agenda.spend 1 with counter := some (actor, .present) }, s)
    | some (present, stage) =>
        if present = actor then agenda.moveAtCounter plan actor stage s
        else ({ agenda.endTurn with line := agenda.line.enqueue actor }, s)

/-- A move of a producer that holds a target. -/
def moveHolding (agenda : Agenda) (plan : Plan) (actor : Actor) (s : State) : Agenda × State :=
  if agenda.left = 0 then (agenda.tire actor, s)
  else if s.hasRoom plan then (agenda.spend 1).act plan actor s
  else (agenda.endTurn, s)

/-- A move of the actor whose turn it is. A call uses up some of the turn if it takes any time, be it
none, and a pause between two targets if it is one. -/
def move (agenda : Agenda) (plan : Plan) (turn : Turn) (s : State) : Agenda × State :=
  match s.need turn.actor with
  | .nothing => agenda.actAfter plan turn 0 0 s
  | .answer =>
      let cost := if s.service.latency.isSome then 1 else 0
      agenda.actAfter plan turn s.service.callMilliseconds cost s
  | .retryPause =>
      let wait := agenda.nextPause plan plan.settings.retry.maxJitter
      agenda.actRested plan turn wait 1 s
  | .pacingPause =>
      let wait := agenda.nextPause plan plan.settings.pacing
      agenda.actRested plan turn wait (min wait 1) s
  | .target => agenda.moveIdle plan turn.actor s
  | .room => agenda.moveHolding plan turn.actor s
  | .impossible => (agenda.endTurn, s)

end Agenda

end Rewind.Batch
