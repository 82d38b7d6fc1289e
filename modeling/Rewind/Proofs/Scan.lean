import Rewind.History.Scan
import Rewind.Proofs.Split

/-!
What scans find in a history.

A scan sees the events one by one and keeps little of them. Here its answer is told from the history
as a whole: from the last workflow task, from the first one, or from the event that settled the last
workflow task.

Main statements: `LastTaskScan.eventId?_ofEvents`, `FirstTaskScan.eventId?_ofEvents` and
`NonDeterminismScan.isNonDeterministic_ofEvents`.
-/

namespace Rewind

namespace Event

/-- The event that completed a workflow task. -/
def completedTask? (event : Event) : Option Int :=
  if event.kind = .taskCompleted then some event.eventId else none

/-- The event behind the one that scheduled a workflow task. -/
def scheduledTask? (event : Event) : Option Int :=
  if event.kind = .taskScheduled then some (idAfter event.eventId) else none

/-- Where a reset to the workflow task that was completed or scheduled goes. -/
def task? (event : Event) : Option Int :=
  event.completedTask? <|> event.scheduledTask?

/-- Whether a workflow task was settled: it was completed, or has failed. -/
def settlesTask (event : Event) : Bool :=
  event.kind = .taskCompleted || event.kind = .taskFailed

/-- A workflow task has failed in the way that a change of the workflow's code makes it fail. -/
def FailsNonDeterministic (event : Event) : Prop :=
  event.kind = .taskFailed ∧
    (event.failureCause = some .workerUnhandledFailure ∨
      ∃ message, event.failureMessage = some message ∧
        "nondeterministic".toList <:+: message.toList)

end Event

/-- The last workflow task that was settled has failed, in the way of non-determinism. -/
def EndsNonDeterministic (events : List Event) : Prop :=
  ∃ event, (events.filter Event.settlesTask).getLast? = some event ∧ event.FailsNonDeterministic

namespace LastTaskScan

theorem candidate_observe (scan : LastTaskScan) (event : Event) :
    (scan.observe event).candidate = event.task?.getD scan.candidate := by
  simp only [observe, Event.task?, Event.completedTask?, Event.scheduledTask?]
  cases event.kind <;> rfl

/-- The candidate is the last workflow task of the events seen, or the one from before them. -/
theorem candidate_foldl (scan : LastTaskScan) (events : List Event) :
    (events.foldl observe scan).candidate =
      (events.filterMap Event.task?).getLast?.getD scan.candidate := by
  induction events generalizing scan with
  | nil => rfl
  | cons event events ih =>
      rw [List.foldl_cons, ih, candidate_observe]
      cases htask : event.task? with
      | none => rw [List.filterMap_cons_none htask, Option.getD_none]
      | some eventId =>
          rw [List.filterMap_cons_some htask, List.getLast?_cons, Option.getD_some, Option.getD_some]

theorem eventId?_ofEvents (events : List Event) :
    (ofEvents events).eventId? =
      (events.filterMap Event.task?).getLast?.filter fun eventId => 0 < eventId := by
  rw [eventId?, ofEvents, candidate_foldl]
  cases (events.filterMap Event.task?).getLast? with
  | none => rfl
  | some eventId => simp [Option.filter]

end LastTaskScan

namespace FirstTaskScan

/-- Behind the first completion nothing changes. -/
theorem foldl_of_isFinal {scan : FirstTaskScan} (hfinal : scan.isFinal = true)
    (events : List Event) : events.foldl observe scan = scan := by
  induction events with
  | nil => rfl
  | cons event events ih =>
      have hfinal' : scan.completed.isSome = true := hfinal
      rw [List.foldl_cons, observe, if_pos hfinal', ih]

theorem eventId?_foldl (scan : FirstTaskScan) (events : List Event) :
    (events.foldl observe scan).eventId? =
      (scan.completed <|> (events.filterMap Event.completedTask?).head? <|> scan.fallback <|>
        (events.filterMap Event.scheduledTask?).head?) := by
  induction events generalizing scan with
  | nil => simp [eventId?]
  | cons event events ih =>
      rw [List.foldl_cons]
      cases hcompleted : scan.completed with
      | some eventId =>
          have hfinal : scan.isFinal = true := by rw [isFinal, hcompleted, Option.isSome_some]
          have hsame : scan.observe event = scan := foldl_of_isFinal hfinal [event]
          rw [hsame, foldl_of_isFinal hfinal]
          simp [eventId?, hcompleted]
      | none =>
          rw [ih]
          obtain ⟨eventId, kind⟩ := event
          cases kind <;>
            simp [observe, hcompleted, Event.completedTask?, Event.scheduledTask?]

theorem eventId?_ofEvents (events : List Event) :
    (ofEvents events).eventId? =
      ((events.filterMap Event.completedTask?).head? <|>
        (events.filterMap Event.scheduledTask?).head?) := by
  rw [ofEvents, eventId?_foldl]
  rfl

theorem isFinal_observe (scan : FirstTaskScan) (event : Event) :
    (scan.observe event).isFinal = true ↔ scan.isFinal = true ∨ event.kind = .taskCompleted := by
  cases hcompleted : scan.completed with
  | some eventId => simp [isFinal, observe, hcompleted]
  | none => cases hkind : event.kind <;> simp [isFinal, observe, hcompleted, hkind]

theorem isFinal_foldl (scan : FirstTaskScan) (events : List Event) :
    (events.foldl observe scan).isFinal = true ↔
      scan.isFinal = true ∨ ∃ event ∈ events, event.kind = .taskCompleted := by
  induction events generalizing scan with
  | nil => simp
  | cons event events ih =>
      simp only [List.foldl_cons, ih, isFinal_observe, List.mem_cons, exists_eq_or_imp, or_assoc]

/-- The answer is known as soon as a task was completed. -/
theorem isFinal_ofEvents {events : List Event} :
    (ofEvents events).isFinal = true ↔ ∃ event ∈ events, event.kind = .taskCompleted := by
  rw [ofEvents, isFinal_foldl]
  simp [initial, isFinal]

/-- A history need not be read behind its first completed workflow task. -/
theorem ofEvents_append {front : List Event} (hfinal : (ofEvents front).isFinal = true)
    (back : List Event) : ofEvents (front ++ back) = ofEvents front := by
  rw [ofEvents, List.foldl_append]
  exact foldl_of_isFinal hfinal back

end FirstTaskScan

namespace NonDeterminismScan

/-- The pending failure, if the last workflow task that was settled has failed. -/
theorem pending_foldl (scan : NonDeterminismScan) (events : List Event) :
    (events.foldl observe scan).pending =
      match (events.filter Event.settlesTask).getLast? with
      | some event => if event.kind = .taskFailed then some event else none
      | none => scan.pending := by
  induction events generalizing scan with
  | nil => rfl
  | cons event events ih =>
      rw [List.foldl_cons, ih]
      by_cases hsettles : event.settlesTask = true
      · rw [List.filter_cons_of_pos hsettles, List.getLast?_cons]
        cases (events.filter Event.settlesTask).getLast? with
        | some last => rfl
        | none =>
            simp only [Event.settlesTask, Bool.or_eq_true, decide_eq_true_eq] at hsettles
            rcases hsettles with hcompleted | hfailed
            · simp [observe, hcompleted]
            · simp [observe, hfailed]
      · rw [List.filter_cons_of_neg hsettles]
        have hsame : scan.observe event = scan := by
          simp only [Event.settlesTask, Bool.or_eq_true, decide_eq_true_eq, not_or] at hsettles
          simp only [observe]
          split
          · next hfailed => exact absurd hfailed hsettles.2
          · next hcompleted => exact absurd hcompleted hsettles.1
          · rfl
        rw [hsame]

theorem looksNonDeterministic_iff {failure : Event} (hfailed : failure.kind = .taskFailed) :
    looksNonDeterministic failure = true ↔ failure.FailsNonDeterministic := by
  simp only [looksNonDeterministic, Event.FailsNonDeterministic, hfailed, true_and,
    Bool.or_eq_true, decide_eq_true_eq, Option.any_eq_true, Text.contains_iff]

theorem isNonDeterministic_ofEvents (events : List Event) :
    (ofEvents events).isNonDeterministic = true ↔ EndsNonDeterministic events := by
  rw [isNonDeterministic, ofEvents, pending_foldl, EndsNonDeterministic]
  cases (events.filter Event.settlesTask).getLast? with
  | none => simp [initial]
  | some event =>
      by_cases hfailed : event.kind = .taskFailed
      · simp [hfailed, looksNonDeterministic_iff hfailed]
      · simp [hfailed, Event.FailsNonDeterministic]

end NonDeterminismScan

instance (events : List Event) : Decidable (EndsNonDeterministic events) :=
  decidable_of_iff _ (NonDeterminismScan.isNonDeterministic_ofEvents events)

end Rewind
