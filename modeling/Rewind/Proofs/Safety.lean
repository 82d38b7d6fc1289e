import Rewind.Proofs.Quiet
import Rewind.Proofs.Scan
import Rewind.Safety

/-!
What the safety checks find.

The checks of a filter are made one after the other, the last one over the whole history of a run. What
they come to is told here from the runs of the workflow, and from there it follows what more checks do.

Main statement: `check_specified`.
-/

namespace Rewind

namespace SafetyFilter

/-- The checks of two filters. -/
def union (filter other : SafetyFilter) : SafetyFilter where
  skipIfOpen := filter.skipIfOpen || other.skipIfOpen
  skipIfBaseNotCurrent := filter.skipIfBaseNotCurrent || other.skipIfBaseNotCurrent
  nonDeterministicOnly := filter.nonDeterministicOnly || other.nonDeterministicOnly

variable (filter other : SafetyFilter) (home : Store) (target : WorkflowRef) (current : String)
  (run : Run)

/-- The target has to name the current run, and does not. -/
def BaseBlocks : Prop :=
  filter.skipIfBaseNotCurrent = true ∧ target.runIdOrEmpty ≠ current

/-- The current run has to be closed, and is not. -/
def OpenBlocks : Prop :=
  filter.skipIfOpen = true ∧ run.isOpen = true

/-- The run has to end in a failure of non-determinism, and does not. -/
def EndBlocks : Prop :=
  filter.nonDeterministicOnly = true ∧
    ∃ scanned, home.runs target.workflowId (target.runId.getD current) = some scanned ∧
      ¬ EndsNonDeterministic scanned.history

/-- The run has to end in a failure of non-determinism, and is not there. -/
def EndMissing : Prop :=
  filter.nonDeterministicOnly = true ∧
    home.runs target.workflowId (target.runId.getD current) = none

/-- What the checks come to for a target of a workflow with this current run. -/
structure Specified (result : Except ResetError Verdict) : Prop where
  baseNotCurrent : result = .ok (.skip (.baseNotCurrent current)) ↔ filter.BaseBlocks target current
  currentRunOpen : ¬ filter.BaseBlocks target current →
    (result = .ok (.skip (.currentRunOpen current)) ↔ filter.OpenBlocks run)
  notNonDeterministic : ¬ filter.BaseBlocks target current → ¬ filter.OpenBlocks run →
    (result = .ok (.skip .notNonDeterministic) ↔ filter.EndBlocks home target current)
  missing : ¬ filter.BaseBlocks target current → ¬ filter.OpenBlocks run →
    (result = .error (.historyFetch target.workflowId (target.runId.getD current)
        (Store.noRun target.workflowId (target.runId.getD current))) ↔
      filter.EndMissing home target current)
  proceeds : ¬ filter.BaseBlocks target current → ¬ filter.OpenBlocks run →
    ¬ filter.EndBlocks home target current → ¬ filter.EndMissing home target current →
    result = .ok (.proceed (target.runId.getD current))

variable {filter other home target current run}

namespace Specified

variable {result : Except ResetError Verdict}

theorem proceeds_iff (h : filter.Specified home target current run result) {runId : String} :
    result = .ok (.proceed runId) ↔
      runId = target.runId.getD current ∧ ¬ filter.BaseBlocks target current ∧
        ¬ filter.OpenBlocks run ∧ ¬ filter.EndBlocks home target current ∧
          ¬ filter.EndMissing home target current := by
  constructor
  · rintro rfl
    have hbase : ¬ filter.BaseBlocks target current := fun hbase =>
      nomatch h.baseNotCurrent.mpr hbase
    have hopen : ¬ filter.OpenBlocks run := fun hopen =>
      nomatch (h.currentRunOpen hbase).mpr hopen
    have hend : ¬ filter.EndBlocks home target current := fun hend =>
      nomatch (h.notNonDeterministic hbase hopen).mpr hend
    have hmissing : ¬ filter.EndMissing home target current := fun hmissing =>
      nomatch (h.missing hbase hopen).mpr hmissing
    have hproceeds := h.proceeds hbase hopen hend hmissing
    simp only [Except.ok.injEq, Verdict.proceed.injEq] at hproceeds
    exact ⟨hproceeds, hbase, hopen, hend, hmissing⟩
  · rintro ⟨rfl, hbase, hopen, hend, hmissing⟩
    exact h.proceeds hbase hopen hend hmissing

theorem skips_iff (h : filter.Specified home target current run result) :
    (∃ reason, result = .ok (.skip reason)) ↔
      filter.BaseBlocks target current ∨ filter.OpenBlocks run ∨
        filter.EndBlocks home target current := by
  by_cases hbase : filter.BaseBlocks target current
  · exact iff_of_true ⟨_, h.baseNotCurrent.mpr hbase⟩ (.inl hbase)
  by_cases hopen : filter.OpenBlocks run
  · exact iff_of_true ⟨_, (h.currentRunOpen hbase).mpr hopen⟩ (.inr (.inl hopen))
  by_cases hend : filter.EndBlocks home target current
  · exact iff_of_true ⟨_, (h.notNonDeterministic hbase hopen).mpr hend⟩ (.inr (.inr hend))
  refine iff_of_false ?_ (by simp [hbase, hopen, hend])
  rintro ⟨reason, rfl⟩
  by_cases hmissing : filter.EndMissing home target current
  · exact nomatch (h.missing hbase hopen).mpr hmissing
  · exact nomatch h.proceeds hbase hopen hend hmissing

end Specified

theorem baseBlocks_iff :
    (filter.skipIfBaseNotCurrent && decide (target.runIdOrEmpty ≠ current)) = true ↔
      filter.BaseBlocks target current := by
  rw [Bool.and_eq_true, decide_eq_true_eq, BaseBlocks]

theorem openBlocks_iff :
    (filter.skipIfOpen && run.isOpen) = true ↔ filter.OpenBlocks run := by
  rw [Bool.and_eq_true, OpenBlocks]

/-! ### More checks -/

theorem baseBlocks_union : (filter.union other).BaseBlocks target current ↔
    filter.BaseBlocks target current ∨ other.BaseBlocks target current := by
  simp only [BaseBlocks, union, Bool.or_eq_true, or_and_right]

theorem openBlocks_union :
    (filter.union other).OpenBlocks run ↔ filter.OpenBlocks run ∨ other.OpenBlocks run := by
  simp only [OpenBlocks, union, Bool.or_eq_true, or_and_right]

theorem endBlocks_union : (filter.union other).EndBlocks home target current ↔
    filter.EndBlocks home target current ∨ other.EndBlocks home target current := by
  simp only [EndBlocks, union, Bool.or_eq_true, or_and_right]

theorem endMissing_union : (filter.union other).EndMissing home target current ↔
    filter.EndMissing home target current ∨ other.EndMissing home target current := by
  simp only [EndMissing, union, Bool.or_eq_true, or_and_right]

/-- A target passes the checks of two filters if it passes those of each. -/
theorem Specified.proceeds_union {result result' both : Except ResetError Verdict}
    (h : filter.Specified home target current run result)
    (h' : other.Specified home target current run result')
    (hboth : (filter.union other).Specified home target current run both) (runId : String) :
    both = .ok (.proceed runId) ↔ result = .ok (.proceed runId) ∧ result' = .ok (.proceed runId) := by
  rw [h.proceeds_iff, h'.proceeds_iff, hboth.proceeds_iff, baseBlocks_union, openBlocks_union,
    endBlocks_union, endMissing_union]
  simp only [not_or]
  constructor
  · rintro ⟨hid, ⟨hbase, hbase'⟩, ⟨hopen, hopen'⟩, ⟨hend, hend'⟩, hmissing, hmissing'⟩
    exact ⟨⟨hid, hbase, hopen, hend, hmissing⟩, hid, hbase', hopen', hend', hmissing'⟩
  · rintro ⟨⟨hid, hbase, hopen, hend, hmissing⟩, -, hbase', hopen', hend', hmissing'⟩
    exact ⟨hid, ⟨hbase, hbase'⟩, ⟨hopen, hopen'⟩, ⟨hend, hend'⟩, hmissing, hmissing'⟩

/-- What one filter skips is skipped with more checks too. -/
theorem Specified.skips_union {result both : Except ResetError Verdict}
    (h : filter.Specified home target current run result)
    (hboth : (filter.union other).Specified home target current run both)
    (hskip : ∃ reason, result = .ok (.skip reason)) : ∃ reason, both = .ok (.skip reason) := by
  rw [hboth.skips_iff, baseBlocks_union, openBlocks_union, endBlocks_union]
  exact (h.skips_iff.mp hskip).imp .inl (.imp .inl .inl)

/-! ### The checks -/

section

variable (hcurrent : home.current target.workflowId = some current)
  (hrun : home.runs target.workflowId current = some run) (domain : String)

include hcurrent hrun

omit hrun in
/-- The run that is scanned is looked up by its id, which may be empty if it is the current one. -/
theorem resolve_scanned (hid : target.runId ≠ some "") :
    home.resolve target.workflowId (some (target.runId.getD current)) =
      home.run? target.workflowId (target.runId.getD current) := by
  obtain ⟨workflowId, runId⟩ := target
  cases runId with
  | some runId => exact Store.resolve_named fun hempty => hid (congrArg some hempty)
  | none =>
      by_cases hempty : current = ""
      · subst hempty
        have hfound : home.currentRun? workflowId = .ok "" := by rw [Store.currentRun?, hcurrent]
        show (home.currentRun? workflowId).bind (home.run? workflowId) = home.run? workflowId ""
        rw [hfound, Except.bind]
      · exact Store.resolve_named hempty

omit hrun in
/-- The last check, over the history of the run that is scanned. -/
theorem scan_gives (hbounded : home.Bounded) (hid : target.runId ≠ some "") {scanned : Run}
    (hscanned : home.runs target.workflowId (target.runId.getD current) = some scanned)
    (hshort : scanned.history.length < UInt64.size) :
    Procedure.Gives home
      (do
        let events ← Procedure.readAll
          (.start domain target.workflowId (target.runId.getD current))
        if (NonDeterminismScan.ofEvents events).isNonDeterministic then
          return Verdict.proceed (target.runId.getD current)
        else
          return .skip .notNonDeterministic)
      (.ok (if EndsNonDeterministic scanned.history then .proceed (target.runId.getD current)
        else .skip .notNonDeterministic)) := by
  have hresolved := (resolve_scanned hcurrent hid).trans (Store.run?_of_some hscanned)
  refine (Procedure.readAll_gives hbounded hresolved hshort).bind ?_
  by_cases hends : EndsNonDeterministic scanned.history
  · rw [if_pos hends, if_pos ((NonDeterminismScan.isNonDeterministic_ofEvents _).mpr hends)]
    exact .pure _
  · rw [if_neg hends, if_neg (mt (NonDeterminismScan.isNonDeterministic_ofEvents _).mp hends)]
    exact .pure _

/-- The checks come to what is specified, whatever service answers from the store. -/
theorem check_gives (hbounded : home.Bounded)
    (hshort : ∀ runId run, home.runs target.workflowId runId = some run →
      run.history.length < UInt64.size)
    (hid : target.runId ≠ some "") (filter : SafetyFilter) :
    ∃ result, filter.Specified home target current run result ∧
      (filter.check domain target).Gives home result := by
  have hdescribed := Procedure.describe_gives home ⟨domain, target.workflowId, none⟩
  rw [Store.describe_current hcurrent hrun domain] at hdescribed
  by_cases hbase : filter.BaseBlocks target current
  · refine ⟨.ok (.skip (.baseNotCurrent current)), by constructor <;> simp [hbase],
      hdescribed.bind ?_⟩
    simp only [baseBlocks_iff.mpr hbase, if_true]
    exact .pure _
  have hbase' := Bool.eq_false_iff.mpr (mt baseBlocks_iff.mp hbase)
  by_cases hopen : filter.OpenBlocks run
  · refine ⟨.ok (.skip (.currentRunOpen current)), by constructor <;> simp [hbase, hopen],
      hdescribed.bind ?_⟩
    simp only [hbase', openBlocks_iff.mpr hopen, Bool.false_eq_true, if_false, if_true]
    exact .pure _
  have hopen' := Bool.eq_false_iff.mpr (mt openBlocks_iff.mp hopen)
  -- Nothing is held against the current run. The rest depends on how the run that is named has ended.
  cases hflag : filter.nonDeterministicOnly with
  | false =>
      refine ⟨.ok (.proceed (target.runId.getD current)),
        by constructor <;> simp [hbase, hopen, EndBlocks, EndMissing, hflag], hdescribed.bind ?_⟩
      simp only [hbase', hopen', hflag, Bool.false_eq_true, if_false]
      exact .pure _
  | true =>
      cases hscanned : home.runs target.workflowId (target.runId.getD current) with
      | none =>
          have hresolved := (resolve_scanned hcurrent hid).trans (Store.run?_of_none hscanned)
          refine ⟨.error (.historyFetch target.workflowId (target.runId.getD current)
              (Store.noRun target.workflowId (target.runId.getD current))),
            by constructor <;> simp [hbase, hopen, EndBlocks, EndMissing, hflag, hscanned],
            hdescribed.bind ?_⟩
          simp only [hbase', hopen', hflag, Bool.false_eq_true, if_false, if_true]
          exact (Procedure.readAll_gives_missing hresolved).bind_error
      | some scanned =>
          have hscan := scan_gives hcurrent domain hbounded hid hscanned (hshort _ _ hscanned)
          refine ⟨.ok (if EndsNonDeterministic scanned.history then
              .proceed (target.runId.getD current) else .skip .notNonDeterministic), ?_,
            hdescribed.bind ?_⟩
          · by_cases hends : EndsNonDeterministic scanned.history <;> constructor <;>
              simp [hbase, hopen, EndBlocks, EndMissing, hflag, hscanned, hends]
          · simp only [hbase', hopen', hflag, Bool.false_eq_true, if_false, if_true]
            exact hscan

end

/-- The checks of any filter come to what is specified, for a target of a workflow whose current run is
there. A target passes the checks of two filters if it passes those of each, and what one of them skips
is skipped with more checks too. -/
theorem check_specified {s : Service} (hquiet : s.Quiet) (hbounded : s.store.Bounded)
    (hshort : ∀ runId run, s.store.runs target.workflowId runId = some run →
      run.history.length < UInt64.size)
    (hid : target.runId ≠ some "") (hcurrent : s.store.current target.workflowId = some current)
    (hrun : s.store.runs target.workflowId current = some run) (domain : String) :
    (∀ filter : SafetyFilter,
      filter.Specified s.store target current run ((filter.check domain target).run s).1) ∧
    (∀ filter other runId,
      (((union filter other).check domain target).run s).1 = .ok (.proceed runId) ↔
        ((filter.check domain target).run s).1 = .ok (.proceed runId) ∧
          ((other.check domain target).run s).1 = .ok (.proceed runId)) ∧
    ∀ filter other, (∃ reason, ((filter.check domain target).run s).1 = .ok (.skip reason)) →
      ∃ reason, (((union filter other).check domain target).run s).1 = .ok (.skip reason) := by
  have hall (filter : SafetyFilter) :
      filter.Specified s.store target current run ((filter.check domain target).run s).1 := by
    obtain ⟨result, hspecified, hgives⟩ :=
      check_gives hcurrent hrun domain hbounded hshort hid filter
    rwa [hgives.result_eq hquiet.offers]
  exact ⟨hall,
    fun filter other runId => (hall filter).proceeds_union (hall other) (hall _) runId,
    fun filter other => (hall filter).skips_union (hall _)⟩

/-- A workflow whose current run is closed and ends in a failure of non-determinism. -/
def failedFixture : Fixture where
  runs :=
    [⟨"pay", "old", false, [], [.started 1 none, .taskScheduled 2, .taskCompleted 3 2]⟩,
      ⟨"pay", "new", false, [], [.started 1 none, .taskScheduled 2, .taskCompleted 3 2,
        .taskFailed 5 .workerUnhandledFailure none, .taskScheduled 6]⟩]
  currentRuns := []
  visibility := []

/-- A service whose pages hold three events. -/
def failedService : Service :=
  .ofStore { failedFixture.store Store.sampleNaming with pageCap := 3 }

theorem check_specified_failed :
    (((⟨false, true, false⟩ : SafetyFilter).check "default" ⟨"pay", none⟩).run failedService).1 =
      .ok (.skip (.baseNotCurrent "new")) ∧
    (((union ⟨true, false, false⟩ ⟨false, false, true⟩).check "default" ⟨"pay", none⟩).run
      failedService).1 = .ok (.proceed "new") := by
  have hbounded : failedService.store.Bounded :=
    failedFixture.bounded_store Store.sampleNaming
  have hshort : ∀ runId run, failedService.store.runs "pay" runId = some run →
      run.history.length < UInt64.size :=
    fun runId run hrun => Nat.lt_of_le_of_lt (hbounded _ _ _ hrun) (by decide)
  have hquiet : failedService.Quiet := ⟨rfl, fun _ _ => rfl⟩
  have hunnamed : (⟨"pay", none⟩ : WorkflowRef).runId ≠ some "" := nofun
  obtain ⟨hall, hunion, -⟩ :=
    check_specified hquiet hbounded hshort hunnamed rfl rfl "default"
  refine ⟨(hall _).baseNotCurrent.mpr ⟨rfl, by decide⟩, (hunion _ _ _).mpr ⟨?_, ?_⟩⟩
  · exact (hall _).proceeds nofun nofun nofun nofun
  · refine (hall _).proceeds nofun nofun ?_ nofun
    rintro ⟨-, scanned, hscanned, hnot⟩
    obtain rfl := Option.some.inj hscanned
    exact hnot ⟨_, rfl, rfl, .inl rfl⟩

end SafetyFilter

end Rewind
