import Rewind.Proofs.Quiet
import Rewind.Proofs.Scan
import Rewind.Resolve

/-!
What the strategies find.

A strategy reads histories page by page and stops as soon as it knows enough. What it finds is told here
from the whole history of the run, or from its reset points, however the pages are cut.

Main statement: `resolve_specified`.
-/

namespace Rewind

/-- A reset to this point gets rid of the bad binary. -/
structure ResetPoint.Avoids (badChecksum : String) (point : ResetPoint) : Prop where
  otherBinary : point.checksum ≠ badChecksum
  resettable : point.resettable = true
  positive : 0 < point.completedTaskId

namespace ResetPoint

variable {badChecksum : String}

theorem isUsable_iff {point : ResetPoint} :
    point.isUsable badChecksum = true ↔ point.Avoids badChecksum := by
  simp only [isUsable, Bool.and_eq_true, decide_eq_true_eq, and_assoc]
  exact ⟨fun ⟨hother, hresettable, hpositive⟩ => ⟨hother, hresettable, hpositive⟩,
    fun h => ⟨h.otherBinary, h.resettable, h.positive⟩⟩

/-- The first point that avoids the bad binary is selected. -/
theorem select?_eq_some {front back : List ResetPoint} {point : ResetPoint}
    (havoids : point.Avoids badChecksum) (hfirst : ∀ earlier ∈ front, ¬ earlier.Avoids badChecksum) :
    select? (front ++ point :: back) badChecksum = some point := by
  refine List.find?_eq_some_iff_append.mpr ⟨isUsable_iff.mpr havoids, front, back, rfl, ?_⟩
  intro earlier hmem
  rw [Bool.not_eq_true', ← Bool.not_eq_true, isUsable_iff]
  exact hfirst earlier hmem

theorem select?_eq_none {points : List ResetPoint}
    (hnone : ∀ point ∈ points, ¬ point.Avoids badChecksum) : select? points badChecksum = none :=
  List.find?_eq_none.mpr fun point hmem husable => hnone point hmem (isUsable_iff.mp husable)

end ResetPoint

namespace Strategy

variable {home : Store} {workflowId runId : String} {run : Run}

/-- The anchor at the last workflow task of a history, completed or scheduled. -/
def lastAnchor (workflowId runId : String) (events : List Event) : Except ResetError ResetAnchor :=
  match (events.filterMap Event.task?).getLast? with
  | some eventId =>
      if 0 < eventId then .ok ⟨runId, eventId⟩ else .error (.noTaskFound workflowId runId)
  | none => .error (.noTaskFound workflowId runId)

/-- The anchor at the first completed workflow task of a history, or else at the first scheduled one. -/
def firstAnchor (workflowId runId : String) (events : List Event) : Except ResetError ResetAnchor :=
  match (events.filterMap Event.completedTask?).head? <|>
      (events.filterMap Event.scheduledTask?).head? with
  | some eventId => if eventId < 1 then .error (.invalidAnchor eventId) else .ok ⟨runId, eventId⟩
  | none => .error (.noTaskFound workflowId runId)

/-- The first event of a history says which run it continues. -/
def Continues (events : List Event) (continued : String) : Prop :=
  ∃ event later, events = event :: later ∧ event.continuedFrom = some continued ∧ continued ≠ ""

/-- What the strategies come to for a run of a workflow, told from the runs of a store. -/
structure Specified (home : Store) (workflowId runId : String) (run : Run)
    (result : Strategy → Except ResetError ResetAnchor) : Prop where
  lastTask : result .lastWorkflowTask = lastAnchor workflowId runId run.history
  firstTask : result .firstWorkflowTask = firstAnchor workflowId runId run.history
  notContinued : result .lastContinuedAsNew = .error (.notContinued workflowId runId) ↔
    ∀ continued, ¬ Continues run.history continued
  continued : ∀ continued, Continues run.history continued →
    result .lastContinuedAsNew =
      match home.runs workflowId continued with
      | some base => lastAnchor workflowId continued base.history
      | none => .error (.historyFetch workflowId continued (Store.noRun workflowId continued))
  goodPoint : ∀ badChecksum front point back, run.points = front ++ point :: back →
    point.Avoids badChecksum → (∀ earlier ∈ front, ¬ earlier.Avoids badChecksum) →
    result (.badBinary badChecksum) = .ok ⟨runId, point.completedTaskId⟩
  noPoint : ∀ badChecksum, (∀ point ∈ run.points, ¬ point.Avoids badChecksum) →
    result (.badBinary badChecksum) = .error (.noResetPoint workflowId runId)

theorem anchorAt_last (workflowId runId : String) (events : List Event) :
    anchorAt workflowId runId (LastTaskScan.ofEvents events).eventId? =
      lastAnchor workflowId runId events := by
  rw [LastTaskScan.eventId?_ofEvents, lastAnchor]
  cases (events.filterMap Event.task?).getLast? with
  | none => rfl
  | some eventId =>
      by_cases hpositive : 0 < eventId
      · have hvalid : ¬ eventId < 1 := by omega
        simp [Option.filter, anchorAt, ResetAnchor.of, hpositive, hvalid]
      · simp [Option.filter, anchorAt, hpositive]

theorem anchorAt_first (workflowId runId : String) (events : List Event) :
    anchorAt workflowId runId (FirstTaskScan.ofEvents events).eventId? =
      firstAnchor workflowId runId events := by
  rw [FirstTaskScan.eventId?_ofEvents, firstAnchor]
  cases (events.filterMap Event.completedTask?).head? <|>
      (events.filterMap Event.scheduledTask?).head? <;> rfl

theorem lastAnchor_ne_notContinued {continued : String} {events : List Event} :
    lastAnchor workflowId continued events ≠ .error (.notContinued workflowId runId) := by
  rw [lastAnchor]
  split
  · split <;> simp
  · simp

theorem continuedRun?_eq_some_iff {events : List Event} {continued : String} :
    continuedRun? events = some continued ↔ Continues events continued := by
  cases events with
  | nil => simp [continuedRun?, Continues]
  | cons event later => simp [continuedRun?, Continues, Option.filter_eq_some_iff]

/-! ### Results of the strategies -/

section

variable (hbounded : home.Bounded) (hid : runId ≠ "") (domain : String)

include hbounded hid

theorem lastTask_gives (hrun : home.runs workflowId runId = some run)
    (hshort : run.history.length < UInt64.size) :
    (lastTask domain workflowId runId).Gives home (lastAnchor workflowId runId run.history) := by
  have hresolved : home.resolve workflowId (some runId) = .ok run := by
    rw [Store.resolve_named hid, Store.run?_of_some hrun]
  refine (Procedure.readAll_gives hbounded hresolved hshort).bind ?_
  rw [← anchorAt_last]
  exact .ofResult _

omit hbounded in
theorem lastTask_gives_missing (hnone : home.runs workflowId runId = none) :
    (lastTask domain workflowId runId).Gives home
      (.error (.historyFetch workflowId runId (Store.noRun workflowId runId))) := by
  refine (Procedure.readAll_gives_missing ?_).bind_error
  rw [Store.resolve_named hid, Store.run?_of_none hnone]

theorem firstTask_gives (hrun : home.runs workflowId runId = some run)
    (hshort : run.history.length < UInt64.size) :
    (firstTask domain workflowId runId).Gives home (firstAnchor workflowId runId run.history) := by
  have hresolved : home.resolve workflowId (some runId) = .ok run := by
    rw [Store.resolve_named hid, Store.run?_of_some hrun]
  obtain ⟨events, ⟨unread, hhistory⟩, hend, hgives⟩ := Procedure.readUntil_gives hbounded hresolved
    hshort (fun events => (FirstTaskScan.ofEvents events).isFinal)
    (.start domain workflowId runId) rfl rfl rfl
  refine hgives.bind ?_
  -- The events that were not read would not have changed the scan.
  have hscan : FirstTaskScan.ofEvents events = FirstTaskScan.ofEvents run.history := by
    rcases hend with hall | hfinal
    · rw [hall]
    · rw [← hhistory, FirstTaskScan.ofEvents_append hfinal]
  rw [hscan, ← anchorAt_first]
  exact .ofResult _

/-- One event is enough to know which run is continued. -/
theorem lastTaskOfContinued_gives (hrun : home.runs workflowId runId = some run)
    (hshort : run.history.length < UInt64.size) {result : Except ResetError ResetAnchor}
    (hresult : match continuedRun? run.history with
      | some continued => (lastTask domain workflowId continued).Gives home result
      | none => result = .error (.notContinued workflowId runId)) :
    (lastTaskOfContinued domain workflowId runId).Gives home result := by
  have hresolved : home.resolve workflowId (some runId) = .ok run := by
    rw [Store.resolve_named hid, Store.run?_of_some hrun]
  obtain ⟨events, ⟨unread, hhistory⟩, hend, hgives⟩ := Procedure.readUntil_gives hbounded hresolved
    hshort (fun events => !events.isEmpty)
    ((HistoryCursor.start domain workflowId runId).withPageSize 1) rfl rfl rfl
  refine hgives.bind ?_
  have hfirst : continuedRun? events = continuedRun? run.history := by
    rcases hend with hall | hsome
    · rw [hall]
    · rw [← hhistory]
      cases events with
      | nil => simp at hsome
      | cons event later => rfl
  rw [← hfirst] at hresult
  cases hcontinued : continuedRun? events with
  | some continued =>
      rw [hcontinued] at hresult
      exact hresult
  | none =>
      rw [hcontinued] at hresult
      exact hresult ▸ .throw _

omit hbounded in
theorem lastGoodPoint_gives (hbuilt : home.Built) (hrun : home.runs workflowId runId = some run)
    (badChecksum : String) :
    (lastGoodPoint domain workflowId runId badChecksum).Gives home
      (match ResetPoint.select? run.points badChecksum with
        | some point => ResetAnchor.of runId point.completedTaskId
        | none => .error (.noResetPoint workflowId runId)) := by
  obtain ⟨current, hcurrent⟩ := hbuilt.headed _ _ _ hrun
  have hdescribed : home.describe ⟨domain, workflowId, some runId⟩ =
      .ok ⟨current, run.isOpen, run.points⟩ := by
    simp [Store.describe, Store.resolve_named hid, Store.currentRun?, Store.run?, hcurrent, hrun,
      Except.bind, Except.map]
  have hgives := Procedure.describe_gives home ⟨domain, workflowId, some runId⟩
  rw [hdescribed] at hgives
  refine hgives.bind ?_
  simp only
  cases ResetPoint.select? run.points badChecksum with
  | some point => exact .ofResult _
  | none => exact .throw _

end

/-- A strategy is resolved as specified by a service that answers all calls, for a run that is there,
whatever the history of the run and however it is cut into pages. A history in memory has fewer events
than a machine word can count. -/
theorem resolve_specified {s : Service} (hquiet : s.Quiet) (hbuilt : s.store.Built)
    (hshort : ∀ runId run, s.store.runs workflowId runId = some run →
      run.history.length < UInt64.size)
    (hid : runId ≠ "") (hrun : s.store.runs workflowId runId = some run) (domain : String) :
    Specified s.store workflowId runId run fun strategy =>
      ((strategy.resolve domain workflowId runId).run s).1 := by
  have hbounded := hbuilt.bounded
  have hcontinuedAs {result : Except ResetError ResetAnchor} (hresult) :
      ((lastTaskOfContinued domain workflowId runId).run s).1 = result :=
    (lastTaskOfContinued_gives hbounded hid domain hrun (hshort _ _ hrun) hresult).result_eq hquiet.offers
  have hselected (badChecksum : String) :=
    (lastGoodPoint_gives hid domain hbuilt hrun badChecksum).result_eq hquiet.offers
  have hcontinued : ∀ continued, Continues run.history continued →
      ((lastTaskOfContinued domain workflowId runId).run s).1 =
        match s.store.runs workflowId continued with
        | some base => lastAnchor workflowId continued base.history
        | none => .error (.historyFetch workflowId continued
            (Store.noRun workflowId continued)) := by
    intro continued hcontinues
    apply hcontinuedAs
    rw [continuedRun?_eq_some_iff.mpr hcontinues]
    obtain ⟨-, -, -, -, hnamed⟩ := hcontinues
    cases hbase : s.store.runs workflowId continued with
    | some base => exact lastTask_gives hbounded hnamed domain hbase (hshort _ _ hbase)
    | none => exact lastTask_gives_missing hnamed domain hbase
  constructor
  case lastTask =>
    exact (lastTask_gives hbounded hid domain hrun (hshort _ _ hrun)).result_eq hquiet.offers
  case firstTask =>
    exact (firstTask_gives hbounded hid domain hrun (hshort _ _ hrun)).result_eq hquiet.offers
  case notContinued =>
    constructor
    · intro hresult continued hcontinues
      replace hresult := (hcontinued continued hcontinues).symm.trans hresult
      split at hresult
      · exact lastAnchor_ne_notContinued hresult
      · exact absurd hresult (by simp)
    · intro hnone
      apply hcontinuedAs
      cases hfound : continuedRun? run.history with
      | some continued => exact absurd (continuedRun?_eq_some_iff.mp hfound) (hnone continued)
      | none => rfl
  case continued => exact hcontinued
  case goodPoint =>
    intro badChecksum front point back hpoints havoids hfirst
    have hvalid : ¬ point.completedTaskId < 1 := by
      have hpositive := havoids.positive
      omega
    refine (hselected badChecksum).trans ?_
    rw [hpoints, ResetPoint.select?_eq_some havoids hfirst]
    simp only [ResetAnchor.of, hvalid, if_false]
  case noPoint =>
    intro badChecksum hnone
    refine (hselected badChecksum).trans ?_
    rw [ResetPoint.select?_eq_none hnone]

/-- Two runs of a workflow, the second of which continues the first one. -/
def continuedFixture : Fixture where
  runs :=
    [⟨"pay", "old", false, [], [.started 1 none, .taskScheduled 2, .taskCompleted 3 2,
        .taskScheduled 4]⟩,
      ⟨"pay", "new", true, [⟨"bad", 7, true⟩, ⟨"good", 3, true⟩],
        [.started 1 (some "old"), .taskScheduled 2, .taskCompleted 3 2, .taskCompleted 7 6]⟩]
  currentRuns := []
  visibility := []

/-- A service whose pages hold three events. -/
def continuedService : Service :=
  .ofStore { continuedFixture.store Store.sampleNaming with pageCap := 3 }

theorem resolve_specified_continued :
    ((lastWorkflowTask.resolve "default" "pay" "new").run continuedService).1 = .ok ⟨"new", 7⟩ ∧
    ((firstWorkflowTask.resolve "default" "pay" "new").run continuedService).1 = .ok ⟨"new", 3⟩ ∧
    ((lastContinuedAsNew.resolve "default" "pay" "new").run continuedService).1 =
      .ok ⟨"old", 5⟩ ∧
    (((badBinary "bad").resolve "default" "pay" "new").run continuedService).1 =
      .ok ⟨"new", 3⟩ := by
  have hbuilt : continuedService.store.Built :=
    have h := continuedFixture.built_store Store.sampleNaming
    ⟨h.bounded, h.headed⟩
  have hshort : ∀ runId run, continuedService.store.runs "pay" runId = some run →
      run.history.length < UInt64.size :=
    fun runId run hrun => Nat.lt_of_le_of_lt (hbuilt.bounded _ _ _ hrun) (by decide)
  have hquiet : continuedService.Quiet := ⟨rfl, fun _ _ => rfl⟩
  have hnamed : "new" ≠ "" := by decide
  have h := resolve_specified hquiet hbuilt hshort hnamed rfl "default"
  refine ⟨h.lastTask.trans rfl, h.firstTask.trans rfl,
    (h.continued "old" ⟨_, _, rfl, rfl, by decide⟩).trans rfl,
    h.goodPoint "bad" [⟨"bad", 7, true⟩] ⟨"good", 3, true⟩ [] rfl ⟨by decide, rfl, by decide⟩ ?_⟩
  intro earlier hmem havoids
  obtain rfl := List.mem_singleton.mp hmem
  exact havoids.otherBinary rfl

end Strategy

end Rewind
