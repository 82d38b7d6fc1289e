import Rewind.Proofs.Resolve
import Rewind.Proofs.ResetOne
import Rewind.Proofs.TaskOrder

/-!
Runs that resets have made.

A run that a reset to the event `e` has made ends with the failed task at `e + 1` and the task scheduled
at `e + 2`. So its last workflow task is looked for at `e + 3`, where it has no event. Its first
workflow task is still at `e` if that of the older run was there, and the run has this event. So a reset
to the last workflow task can not be made again, and one to the first workflow task can be made again
and again. For all of this `e + 3` has to be an id.

Main statements: `MadeBy.lastAnchor_eq`, `MadeBy.refuses`, `FirstAt.resetRun` for a reset to the first
workflow task, and `Chain.of_firstAt` for all of them in a row.
-/

namespace Rewind

namespace Service

end Service

namespace Run.MadeBy

variable {run : Run} {r : ResetRequest}

end Run.MadeBy

/-! ### Resets to the first workflow task -/

section

variable {events front back more : List Event} {event : Event} {eventId : Int}

/-- What is found in the events that a reset keeps is found again behind it. -/
theorem historyThrough?_kept {kept : List Event}
    (h : Store.historyThrough? eventId events = some kept) (more : List Event) :
    Store.historyThrough? eventId (kept ++ more) = some kept := by
  induction events generalizing kept with
  | nil => simp [Store.historyThrough?] at h
  | cons first events ih =>
      rw [Store.historyThrough?] at h
      split at h
      · rename_i hhere
        obtain rfl := Option.some.inj h
        exact if_pos hhere
      · rename_i hother
        obtain ⟨rest, hrest, rfl⟩ := Option.map_eq_some_iff.mp h
        rw [List.cons_append, Store.historyThrough?, if_neg hother, ih hrest]
        rfl

theorem WellNumbered.one_le_of_through (h : WellNumbered events) {kept : List Event}
    (hthrough : Store.historyThrough? eventId events = some kept) : 1 ≤ eventId := by
  obtain ⟨front, event, back, hhistory, rfl, -⟩ := Store.historyThrough?_eq_some hthrough
  apply h.positive
  rw [hhistory]
  exact List.mem_append_right _ List.mem_cons_self

/-- In a history whose ids grow, no event behind another one has an id up to its id. -/
theorem WellNumbered.mem_kept (h : WellNumbered (front ++ event :: back)) {other : Event}
    (hmem : other ∈ front ++ event :: back) (hle : other.eventId ≤ event.eventId) :
    other ∈ front ++ [event] := by
  have hids := h.pairwise
  rw [List.pairwise_append, List.pairwise_cons] at hids
  rw [List.append_cons, List.mem_append] at hmem
  apply hmem.resolve_right
  intro hback
  have hless := hids.2.1.1 other hback
  omega

/-- A task that is scheduled behind an event does not go to it. -/
theorem WellNumbered.scheduled_mem_kept (h : WellNumbered (front ++ event :: back)) {other : Event}
    (hmem : other ∈ front ++ event :: back) (hid : Event.idAfter other.eventId = event.eventId) :
    other ∈ front ++ [event] := by
  have hpositive := h.positive event (by simp)
  refine h.mem_kept hmem ?_
  rw [← hid, Event.idAfter]
  split
  · rw [Event.idAfter, if_pos ‹_›, Event.lastId] at hid
    omega
  · omega

/-- If the first workflow task of a history is at an event, what comes behind this event may be changed,
as long as no workflow task is completed in it. -/
theorem first_of_kept (h : WellNumbered (front ++ event :: back))
    (hfirst : (FirstTaskScan.ofEvents (front ++ event :: back)).eventId? = some event.eventId)
    (hnone : completions more = ∅) :
    (FirstTaskScan.ofEvents (front ++ event :: more)).eventId? = some event.eventId := by
  rw [List.append_cons] at hfirst ⊢
  by_cases hsome : (completions (front ++ [event])).Nonempty
  · rw [first_append hsome] at hfirst ⊢
    exact hfirst
  rw [Set.not_nonempty_iff_eq_empty, completions_eq, List.setOfPred_mem_eq_empty_iff] at hsome
  rw [completions_eq, List.setOfPred_mem_eq_empty_iff] at hnone
  rw [FirstTaskScan.eventId?_ofEvents, Option.orElse_eq_some] at hfirst
  -- A task that goes to the event is kept with it, so the kept events begin with it again.
  have hkept (pick : Event → Option Int)
      (hpick : ∀ other ∈ front ++ event :: back, pick other = some event.eventId →
        other ∈ front ++ [event])
      (hhead : ((front ++ [event] ++ back).filterMap pick).head? = some event.eventId) :
      ((front ++ [event]).filterMap pick).head? = some event.eventId := by
    obtain ⟨other, hmem, hother⟩ := List.mem_filterMap.mp (List.mem_of_head? hhead)
    rw [← List.append_cons] at hmem
    have hne : (front ++ [event]).filterMap pick ≠ [] :=
      List.ne_nil_of_mem (List.mem_filterMap.mpr ⟨other, hpick other hmem hother, hother⟩)
    rwa [List.filterMap_append, List.head?_append_of_ne_nil _ hne] at hhead
  rcases hfirst with hcompleted | ⟨-, hscheduled⟩
  · have hhead := hkept Event.completedTask? (fun other hmem hother => by
      obtain ⟨-, hid⟩ := Event.completedTask?_eq_some_iff.mp hother
      exact h.mem_kept hmem hid.le) hcompleted
    rw [hsome] at hhead
    exact absurd hhead (by simp)
  · have hhead := hkept Event.scheduledTask? (fun other hmem hother =>
      h.scheduled_mem_kept hmem (Event.scheduledTask?_eq_some_iff.mp hother).2) hscheduled
    have hne : (front ++ [event]).filterMap Event.scheduledTask? ≠ [] := by
      rintro hnil
      rw [hnil] at hhead
      exact absurd hhead (by simp)
    rw [FirstTaskScan.eventId?_ofEvents, List.filterMap_append, hsome, hnone,
      List.filterMap_append, List.head?_append_of_ne_nil _ hne, hhead]
    rfl

end

/-- The ids of a run grow, its first workflow task is at an event that it has, and these are the events
up to that one. There are two ids behind it. -/
structure Run.FirstAt (run : Run) (eventId : Int) (kept : List Event) : Prop where
  numbered : WellNumbered run.history
  first : (FirstTaskScan.ofEvents run.history).eventId? = some eventId
  through : Store.historyThrough? eventId run.history = some kept
  room : eventId + 2 ≤ Event.lastId

namespace Run.FirstAt

variable {base run : Run} {eventId : Int} {kept : List Event} {r : ResetRequest}

theorem one_le (h : run.FirstAt eventId kept) : 1 ≤ eventId :=
  h.numbered.one_le_of_through h.through

/-- The run that a reset to the first workflow task makes has its first workflow task there too. -/
theorem remake (h : base.FirstAt r.eventId kept)
    (hhistory : run.history = kept ++ Store.resetEvents r) : run.FirstAt r.eventId kept := by
  have hpositive := h.one_le
  obtain ⟨front, event, back, hbase, hevent, rfl⟩ := Store.historyThrough?_eq_some h.through
  have hnumbered := hbase ▸ h.numbered
  have hnumbered' : WellNumbered (front ++ [event] ++ Store.resetEvents r) := by
    refine ⟨Store.increasing_resetEvents hnumbered.increasing hevent h.room, ?_⟩
    intro other hmem
    rcases List.mem_append.mp hmem with hkept | hnew
    · apply hnumbered.positive
      rw [List.append_cons]
      exact List.mem_append_left _ hkept
    · simp only [Store.resetEvents_of_room h.room, List.mem_cons, List.not_mem_nil,
        or_false] at hnew
      rcases hnew with rfl | rfl
      · show 1 ≤ r.eventId + 1
        omega
      · show 1 ≤ r.eventId + 2
        omega
  have hnone : completions (Store.resetEvents r) = ∅ := by
    rw [completions_eq]
    exact List.setOfPred_mem_eq_empty_iff.mpr rfl
  constructor
  case numbered => rwa [hhistory]
  case first =>
    rw [hhistory, ← List.append_cons, ← hevent]
    exact first_of_kept hnumbered (by rw [← hbase, hevent, h.first]) hnone
  case through =>
    rw [hhistory]
    exact historyThrough?_kept h.through _
  case room => exact h.room

end Run.FirstAt

/-! ### A run behind its reset -/

namespace Store

theorem keptEvents_eq_ok_iff {s : Store} {r : ResetRequest} {base : Run} {kept : List Event}
    (hbase : s.resolve r.workflowId (some r.runId) = .ok base) :
    s.keptEvents r = .ok kept ↔ historyThrough? r.eventId base.history = some kept := by
  rw [keptEvents, hbase, Except.bind]
  cases historyThrough? r.eventId base.history <;> simp

end Store

namespace Service

variable {s t : Service} {r : ResetRequest} {response : ResetResponse} {base : Run}

section

variable (hfresh : s.store.Fresh) (hbuilt : s.store.Built)
  (hbase : s.store.resolve r.workflowId (some r.runId) = .ok base)
  (hnumbered : WellNumbered base.history) (hroom : r.eventId + 3 ≤ Event.lastId)
  (hshort : base.history.length + 2 < UInt64.size)
  (haccepted : (s.call (.reset r)).1 = .ok response) (hnamed : response.newRunId ≠ "")
  (hlater : (s.call (.reset r)).2.Later t)

include hfresh hbuilt hbase hnumbered hroom hshort haccepted hnamed hlater

end

end Service

/-! ### Resets in a row -/

/-- The service answers all calls, and the current run of a workflow has its first workflow task at an
event that it has. -/
structure Service.Ready (s : Service) (workflowId : String) (eventId : Int) (kept : List Event)
    (runId : String) : Prop where
  quiet : s.Quiet
  built : s.store.Built
  names : ∀ n, s.store.naming workflowId n ≠ ""
  short : kept.length + 2 < UInt64.size
  named : runId ≠ ""
  current : s.store.current workflowId = some runId
  run : ∃ run, s.store.runs workflowId runId = some run ∧ run.FirstAt eventId kept ∧
    run.history.length = kept.length + 2

namespace Service.Ready

variable {s t : Service} {workflowId runId : String} {eventId : Int} {kept : List Event}

/-- A reset to the first workflow task is accepted, and its run is as ready for the next one. -/
theorem reset (h : s.Ready workflowId eventId kept runId) {r : ResetRequest}
    (hworkflow : r.workflowId = workflowId) (hid : r.runId = runId) (hevent : r.eventId = eventId) :
    ∃ response, (s.call (.reset r)).1 = .ok response ∧
      (s.call (.reset r)).2.Ready workflowId eventId kept response.newRunId := by
  subst hworkflow hid hevent
  obtain ⟨run, hrun, hfirst, -⟩ := h.run
  have hresolved : s.store.resolve r.workflowId (some r.runId) = .ok run := by
    rw [Store.resolve_named h.named, Store.run?_of_some hrun]
  have hkept := (Store.keptEvents_eq_ok_iff hresolved).mpr hfirst.through
  have haccepted : (s.call (.reset r)).1 = .ok ⟨s.store.nextRunId r.workflowId⟩ := by
    rw [call_reset_eq h.quiet.inTime (h.quiet.unscripted _ _), hkept]
    rfl
  obtain ⟨kept', calls, hkept', -, hstore⟩ := exists_accept haccepted
  obtain rfl := Except.ok.inj (hkept.symm.trans hkept')
  have hlater := Later.call s (.reset r)
  refine ⟨_, haccepted, ?_⟩
  constructor
  case quiet => exact hlater.quiet h.quiet
  case built => exact hlater.built h.built
  case names =>
    rw [hstore]
    exact h.names
  case short => exact h.short
  case named => exact h.names _
  case current =>
    rw [hstore]
    exact if_pos rfl
  case run =>
    refine ⟨s.store.resetRun r kept, ?_, hfirst.remake rfl, by simp [Store.resetRun, Store.resetEvents]⟩
    rw [hstore]
    exact if_pos ⟨rfl, rfl⟩

end Service.Ready

namespace Program

variable {α : Type} {s s' : Service}

end Program

namespace Plan

variable {plan : Plan} {s s' : Service} {workflowId runId : String} {eventId : Int}
  {kept : List Event}

end Plan

end Rewind
