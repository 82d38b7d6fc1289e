import Rewind.History.Event
import Rewind.Text.Split

/-!
Scans: folds over a history that pick the event to reset to, or judge how the run ended.

A scan sees one event at a time, oldest first. A scheduled workflow task counts as the event behind
it, where its start or its completion would stand.
-/

namespace Rewind

/-- The last workflow task, completed or scheduled, whichever came later. -/
structure LastTaskScan where
  /-- Zero until a task was seen. -/
  candidate : Int
deriving DecidableEq, Repr, Inhabited

namespace LastTaskScan

def initial : LastTaskScan :=
  ⟨0⟩

def observe (scan : LastTaskScan) (event : Event) : LastTaskScan :=
  match event.kind with
  | .taskCompleted => ⟨event.eventId⟩
  | .taskScheduled => ⟨Event.idAfter event.eventId⟩
  | _ => scan

/-- The event found so far, if it can be reset to. -/
def eventId? (scan : LastTaskScan) : Option Int :=
  if scan.candidate > 0 then some scan.candidate else none

/-- The scan of a whole history. -/
def ofEvents (events : List Event) : LastTaskScan :=
  events.foldl observe initial

end LastTaskScan

/-- The first completed workflow task, or else the first scheduled one. -/
structure FirstTaskScan where
  completed : Option Int
  fallback : Option Int
deriving DecidableEq, Repr, Inhabited

namespace FirstTaskScan

def initial : FirstTaskScan :=
  ⟨none, none⟩

/-- Events behind the first completion change nothing. -/
def observe (scan : FirstTaskScan) (event : Event) : FirstTaskScan :=
  if scan.completed.isSome then scan
  else
    match event.kind with
    | .taskCompleted => { scan with completed := some event.eventId }
    | .taskScheduled =>
        { scan with fallback := scan.fallback <|> some (Event.idAfter event.eventId) }
    | _ => scan

/-- Whether no further event can change the answer. -/
def isFinal (scan : FirstTaskScan) : Bool :=
  scan.completed.isSome

/-- The event found so far. -/
def eventId? (scan : FirstTaskScan) : Option Int :=
  scan.completed <|> scan.fallback

/-- The scan of a whole history. -/
def ofEvents (events : List Event) : FirstTaskScan :=
  events.foldl observe initial

end FirstTaskScan

/-- The last workflow task failure that no completion followed. -/
structure NonDeterminismScan where
  pending : Option Event
deriving DecidableEq, Repr, Inhabited

namespace NonDeterminismScan

def initial : NonDeterminismScan :=
  ⟨none⟩

def observe (scan : NonDeterminismScan) (event : Event) : NonDeterminismScan :=
  match event.kind with
  | .taskFailed => ⟨some event⟩
  | .taskCompleted => ⟨none⟩
  | _ => scan

/-- Whether a failure looks like one of non-determinism, by its cause or by its message. -/
def looksNonDeterministic (failure : Event) : Bool :=
  failure.failureCause = some .workerUnhandledFailure ||
    failure.failureMessage.any fun message => Text.contains message "nondeterministic"

def isNonDeterministic (scan : NonDeterminismScan) : Bool :=
  scan.pending.any looksNonDeterministic

/-- The scan of a whole history. -/
def ofEvents (events : List Event) : NonDeterminismScan :=
  events.foldl observe initial

end NonDeterminismScan

end Rewind
