import Rewind.Proofs.Batch.Session
import Rewind.Proofs.Batch.Trace
import Rewind.Proofs.Command.Prepare
import Rewind.Proofs.RoundTrip
import Rewind.Proofs.Words

/-!
How commands end.

A command with something wrong ends before its first call, and leaves nothing behind. Any other one
ends as its targets do: all actors of its batch come to their end, it fails if one of the targets did,
however the actors took turns, and a report that it wrote is read back with all of the outcomes.

Main statement: `Command.fails_closed_or_truthful`.
-/

namespace Rewind

open Json (bind_eq_ok)

/-! ### Reports of a batch -/

theorem Outcome.isFailure_iff {outcome : Outcome} :
    outcome.isFailure = true ↔ ∃ error, outcome.status = .failed error := by
  cases hstatus : outcome.status <;> simp [isFailure, hstatus]

/-- A report tells of failures if there is one among its outcomes. -/
theorem BatchReport.hasFailures_iff {report : BatchReport} :
    report.hasFailures = true ↔
      ∃ outcome ∈ report.outcomes, ∃ error, outcome.status = .failed error := by
  simp only [hasFailures, List.any_eq_true, Outcome.isFailure_iff]

/-- The busy time of a batch is counted in a word of nanoseconds. -/
theorem Metrics.isProper_summary (metrics : Metrics) : metrics.summary.IsProper :=
  Nat.lt_of_le_of_lt (Nat.div_le_self _ _) metrics.busy.toNat_lt

/-- A state whose source has not failed returns its outcomes. -/
theorem Batch.State.outcomes_of_result {final : State} {outcomes : List Outcome}
    (h : final.result = .ok outcomes) : final.outcomes = outcomes := by
  rw [result] at h
  split at h
  · cases h
  · exact Except.ok.inj h

/-- An outcome is that of an excluded item, or of a target that was tried as often as allowed. -/
theorem Batch.Chronicle.stamp_and_attempts_of_mem {plan : Plan} {service : Service}
    {metrics : Metrics} {source : Source} {started : Nat} {schedule : List Actor} {c : Chronicle}
    (hrun : (start plan service metrics source started).follow? plan schedule = some c)
    {outcome : Outcome} (houtcome : outcome ∈ c.state.outcomes) :
    outcome.timestamp = plan.stamp ∧ outcome.attempts ≤ max 1 plan.settings.retry.maxAttempts := by
  rcases (accounted_of_follow? hrun).excluded_or_finished houtcome with ⟨target, rfl⟩ |
    ⟨desk, hdesk, entry, hentry, rfl⟩
  · exact ⟨rfl, Nat.zero_le _⟩
  · -- What a worker did behind the outcome is a run of the work on a target.
    obtain ⟨worker, -, htrace⟩ := exists_left (traced_of_follow? hrun) hdesk
    obtain ⟨now, attempted, hleads, hdone, hend⟩ := htrace.finished entry hentry
    obtain ⟨parts, hparts, hattempts⟩ := attempts_of_leads hleads
    rw [hend]
    refine ⟨rfl, ?_⟩
    show attempted.attempts ≤ _
    rw [hattempts attempted hdone]
    exact hparts.length

namespace Command

/-- A count of 32 bits is less than all of them. -/
theorem lt_of_smallCount? {text : String} {n : Nat} (h : smallCount? text = some n) :
    n < UInt32.size := by
  simpa using (Option.filter_eq_some_iff.mp h).2

/-- The attempts that a command line allows are a word of 32 bits. -/
theorem maxAttempts_of_parse {environment : String → Option String} {words : List String}
    {invocation : Invocation} {options : BatchOptions}
    (hparse : parse environment words = .ok invocation)
    (haction : invocation.action = .resetBatch options) : options.maxAttempts < UInt32.size := by
  simp only [parse, bind_eq_ok] at hparse
  obtain ⟨⟨front, rest⟩, -, hparse⟩ := hparse
  cases rest with
  | none =>
      simp only [bind_eq_ok] at hparse
      obtain ⟨_, -, _, -, hthrown⟩ := hparse
      cases hthrown
  | some found =>
      obtain ⟨command, words⟩ := found
      simp only [bind_eq_ok] at hparse
      obtain ⟨back, -, _, -, _, -, hmade⟩ := hparse
      obtain rfl := Except.ok.inj hmade
      cases command with
      | reset => cases haction
      | resetBatch =>
          obtain rfl := Action.resetBatch.inj haction
          show ((back.value? "max-attempts").bind smallCount?).getD 3 < UInt32.size
          cases hcount : (back.value? "max-attempts").bind smallCount? with
          | none => decide
          | some n =>
              obtain ⟨text, -, hread⟩ := Option.bind_eq_some_iff.mp hcount
              exact lt_of_smallCount? hread

variable {around : Surroundings} {invocation : Invocation} {options : BatchOptions}
  {batch : PreparedBatch}

/-! ### Prepared batches -/

/-- The actors of a batch can all come to an end in this state, in one order of their steps or
another. -/
def PreparedBatch.EndsIn (batch : PreparedBatch) (final : Batch.State) : Prop :=
  ∃ schedule c, (Batch.Chronicle.start batch.plan batch.service .zero batch.source 0).follow?
    batch.plan schedule = some c ∧ c.state = final ∧ final.isFinal

/-- A batch that has ended has printed its outcomes. -/
theorem PreparedBatch.EndsIn.perm_reported {final : Batch.State} (h : batch.EndsIn final) :
    final.reported.Perm final.outcomes := by
  obtain ⟨schedule, c, hrun, rfl, hfinal⟩ := h
  exact Batch.Chronicle.perm_reported .zero hrun hfinal

/-- What a command is connected to has not been called. -/
theorem journal_of_connect {service : Service} (h : connect around invocation = .ok service) :
    service.journal = [] := by
  obtain ⟨path, fixture, -, -, rfl⟩ := connect_eq_ok_iff.mp h
  rfl

/-- It knows how long its histories are, and holds words. -/
theorem store_of_connect {service : Service} (h : connect around invocation = .ok service) :
    service.store.Bounded ∧ service.store.Proper := by
  obtain ⟨path, fixture, -, hload, rfl⟩ := connect_eq_ok_iff.mp h
  exact ⟨fixture.bounded_store around.naming,
    Fixture.proper_store (Fixture.isProper_of_load hload) around.naming⟩

/-- What a prepared batch starts with: workers, and a service as it was connected. -/
structure PreparedBatch.Ready (batch : PreparedBatch) : Prop where
  parallelism : 1 ≤ batch.plan.config.parallelism
  journal : batch.service.journal = []
  bounded : batch.service.store.Bounded
  proper : batch.service.store.Proper

theorem ready_of_prepareBatch (h : prepareBatch around invocation options = .ok batch) :
    batch.Ready := by
  obtain ⟨config, input, exclusions, service, source, hconfig, -, -, hservice, -, rfl⟩ :=
    prepareBatch_eq_ok_iff.mp h
  obtain ⟨-, strategy, -, hvalid, rfl⟩ := BatchOptions.config_eq_ok_iff.mp hconfig
  obtain ⟨-, hworkers, -⟩ := BatchConfig.validate_eq_ok_iff.mp hvalid
  obtain ⟨hbounded, hproper⟩ := store_of_connect hservice
  exact ⟨Nat.one_le_iff_ne_zero.mpr hworkers, journal_of_connect hservice, hbounded, hproper⟩

/-- A single reset that was prepared has made no call. -/
theorem journal_of_prepareReset {options : ResetOptions} {reset : PreparedReset}
    (h : prepareReset around invocation options = .ok reset) : reset.service.journal = [] := by
  obtain ⟨config, service, -, hservice, rfl⟩ := prepareReset_eq_ok_iff.mp h
  exact journal_of_connect hservice

/-- What a batch has to report can be read back. -/
theorem isProper_report (hbatch : prepareBatch around invocation options = .ok batch)
    (hstamp : around.stamp.IsProper) (hattempts : options.maxAttempts < UInt32.size)
    {final : Batch.State} (hends : batch.EndsIn final) (batchId : Uuid) :
    (batch.plan.report batchId around.stamp around.stamp final.metrics final.outcomes).IsProper where
  startedAt := hstamp
  finishedAt := hstamp
  summary := Metrics.isProper_summary _
  outcomes outcome houtcome := by
    have hproper := (ready_of_prepareBatch hbatch).proper
    obtain ⟨schedule, c, hrun, rfl, -⟩ := hends
    have hstatus := Batch.Chronicle.isProper_status hproper hrun houtcome
    obtain ⟨htime, hcount⟩ := Batch.Chronicle.stamp_and_attempts_of_mem hrun houtcome
    obtain ⟨config, input, exclusions, service, source, -, -, -, -, -, rfl⟩ :=
      prepareBatch_eq_ok_iff.mp hbatch
    refine ⟨hstatus, ?_, htime ▸ hstamp⟩
    exact Nat.lt_of_le_of_lt hcount (max_lt (by decide) hattempts)

/-! ### Ends of a command -/

/-- Ends a command around which these are the files. -/
def Progress.finish (files : Files) : Progress → Ending × Files
  | .ended ending => (ending, files)
  | .writing path report resume =>
      match report.persist files path with
      | .ok files => (resume (.ok ()), files)
      | .error error => (resume (.error error), files)

namespace Progress

variable {files : Files} {progress : Progress}

/-- Whether the report of a command can be written, if there is one to write. -/
def isWritable (files : Files) : Progress → Bool
  | .ended _ => true
  | .writing path report _ => (report.persist files path).isOk

/-- A command fails and leaves nothing behind: no call, no outcome and no file. -/
structure FailsClosed (files : Files) (progress : Progress) : Prop where
  failed : ∃ error, (progress.finish files).1.result = .error error
  exitCode : (progress.finish files).1.exitCode ≠ 0
  calls : (progress.finish files).1.calls = []
  stdout : (progress.finish files).1.stdout = []
  files_eq : (progress.finish files).2 = files

/-- A command prints these outcomes, as they come about, and its exit code tells whether one of them is
a failure. -/
structure Truthful (files : Files) (outcomes : List Outcome) (progress : Progress) : Prop where
  stdout : (progress.finish files).1.stdout.Perm (outcomes.map Outcome.line)
  exitCode : (progress.finish files).1.exitCode ≠ 0 ↔
    ∃ outcome ∈ outcomes, ∃ error, outcome.status = .failed error

theorem failsClosed_refused (files : Files) (error : CommandError) :
    (ended (.refused error)).FailsClosed files :=
  ⟨⟨error, rfl⟩, Nat.one_ne_zero, rfl, rfl, rfl⟩

end Progress

theorem Ending.exitCode_ne_zero_iff {ending : Ending} {failed : Bool}
    (h : ending.result = .ok failed) : ending.exitCode ≠ 0 ↔ failed = true := by
  cases failed <;> simp [Ending.exitCode, h]

section

variable {files : Files} {plan : Plan} {final : Batch.State} {outcomes : List Outcome}
  (hresult : final.result = .ok outcomes)
  (hwritable : (concludeBatch around options plan final).isWritable files)

include hresult hwritable

/-- A batch whose source has not failed ends with its report, which is then in its file. -/
theorem finish_concludeBatch :
    let report := plan.report around.batchId around.stamp around.stamp final.metrics outcomes
    ((concludeBatch around options plan final).finish files).1 = batchEnding final report (.ok ()) ∧
      ∀ path, options.reportFile = some path →
        report.persist files path = .ok ((concludeBatch around options plan final).finish files).2 := by
  intro report
  rw [concludeBatch, hresult] at hwritable ⊢
  cases hfile : options.reportFile with
  | none => exact ⟨rfl, nofun⟩
  | some path =>
      simp only [hfile, Progress.isWritable] at hwritable
      simp only [Progress.finish]
      cases hpersist : report.persist files path with
      | error error =>
          rw [hpersist] at hwritable
          exact absurd hwritable Bool.false_ne_true
      | ok files' =>
          refine ⟨rfl, fun path' hpath => ?_⟩
          obtain rfl := Option.some.inj hpath
          exact hpersist

/-- Such a batch is told truthfully, whether there is a report file or not. -/
theorem truthful_concludeBatch (hreported : final.reported.Perm final.outcomes) :
    (concludeBatch around options plan final).Truthful files outcomes := by
  obtain ⟨hending, -⟩ := finish_concludeBatch hresult hwritable
  constructor
  · rw [hending, ← Batch.State.outcomes_of_result hresult]
    exact hreported.map Outcome.line
  · rw [hending, Ending.exitCode_ne_zero_iff rfl, BatchReport.hasFailures_iff]
    rfl

end

/-- The report of a prepared batch is read back from its file. -/
theorem load_of_concludeBatch (hbatch : prepareBatch around invocation options = .ok batch)
    (hstamp : around.stamp.IsProper) (hattempts : options.maxAttempts < UInt32.size)
    {files : Files} {final : Batch.State} {outcomes : List Outcome} (hends : batch.EndsIn final)
    (hresult : final.result = .ok outcomes)
    (hwritable : (concludeBatch around options batch.plan final).isWritable files) {path : String}
    (hpath : options.reportFile = some path) :
    BatchReport.load ((concludeBatch around options batch.plan final).finish files).2 path =
      .ok (batch.plan.report around.batchId around.stamp around.stamp final.metrics outcomes) := by
  obtain ⟨-, hpersist⟩ := finish_concludeBatch hresult hwritable
  refine BatchReport.load_of_persist ?_ (hpersist path hpath)
  rw [← Batch.State.outcomes_of_result hresult]
  exact isProper_report hbatch hstamp hattempts hends around.batchId

theorem failsClosed_of_batchFault (files : Files) (haction : invocation.action = .resetBatch options)
    (hfault : BatchFault around invocation options) :
    (execute around invocation).FailsClosed files := by
  cases hbatch : prepareBatch around invocation options with
  | ok batch => exact absurd hbatch hfault.not_prepareBatch
  | error error =>
      simp only [execute, haction, hbatch]
      exact Progress.failsClosed_refused files error

theorem failsClosed_of_resetFault {options : ResetOptions} (files : Files)
    (haction : invocation.action = .reset options) (hfault : ResetFault around invocation options) :
    (execute around invocation).FailsClosed files := by
  cases hreset : prepareReset around invocation options with
  | ok reset => exact absurd hfault (exists_prepareReset_iff.mp ⟨reset, hreset⟩)
  | error error =>
      simp only [execute, haction, hreset]
      exact Progress.failsClosed_refused files error

/-- A prepared batch is run until all of its actors have come to an end. -/
theorem exists_endsIn_execute (haction : invocation.action = .resetBatch options)
    (hbatch : prepareBatch around invocation options = .ok batch) :
    ∃ final, batch.EndsIn final ∧
      execute around invocation = concludeBatch around options batch.plan final := by
  have hready := ready_of_prepareBatch hbatch
  obtain ⟨schedule, c, hrun, hstate⟩ :=
    Batch.Chronicle.exists_schedule batch.plan hready.bounded .zero batch.source 0
  have hfinal := Batch.State.isFinal_run hready.parallelism hready.bounded .zero batch.source 0
  refine ⟨_, ⟨schedule, c, hrun, hstate, hfinal⟩, ?_⟩
  simp only [execute, haction, hbatch, runBatch]

/-- The outcome of a single reset is told truthfully. -/
theorem truthful_runReset (files : Files) (reset : PreparedReset) :
    (Progress.ended (runReset reset)).Truthful files
      [(reset.plan.resetOne reset.service .zero reset.target reset.eventId 0).1] := by
  constructor
  · exact .refl _
  · have hresult : (runReset reset).result =
        .ok (reset.plan.resetOne reset.service .zero reset.target reset.eventId 0).1.isFailure := rfl
    simp only [List.mem_singleton, exists_eq_left]
    exact (Ending.exitCode_ne_zero_iff hresult).trans Outcome.isFailure_iff

/-- A command with anything wrong fails before its first call, and prints and writes nothing. Any other
batch starts without a call made, and is run until all of its actors have come to an end. However they
take turns on the way, if the source has not failed and the report could be written, the command prints
the outcomes of the batch and fails exactly if one of them is a failure, and the report is read back
with these outcomes and the counters of the batch. Any other single reset prints its outcome, and fails
exactly if that is a failure. -/
theorem fails_closed_or_truthful {environment : String → Option String} {words : List String}
    (hparse : parse environment words = .ok invocation) (hstamp : around.stamp.IsProper)
    (files : Files) :
    (∀ options, invocation.action = .resetBatch options →
      (BatchFault around invocation options → (execute around invocation).FailsClosed files) ∧
      (¬ BatchFault around invocation options →
        ∃ batch, prepareBatch around invocation options = .ok batch ∧ batch.service.journal = [] ∧
          (∃ final, batch.EndsIn final ∧
            execute around invocation = concludeBatch around options batch.plan final) ∧
          ∀ final outcomes, batch.EndsIn final → final.result = .ok outcomes →
            (concludeBatch around options batch.plan final).isWritable files →
            (concludeBatch around options batch.plan final).Truthful files outcomes ∧
            ∀ path, options.reportFile = some path →
              ∃ report, BatchReport.load
                  ((concludeBatch around options batch.plan final).finish files).2 path = .ok report ∧
                report.outcomes = outcomes ∧ report.summary = final.metrics.summary)) ∧
    ∀ options, invocation.action = .reset options →
      (ResetFault around invocation options → (execute around invocation).FailsClosed files) ∧
      (¬ ResetFault around invocation options →
        ∃ reset, prepareReset around invocation options = .ok reset ∧ reset.service.journal = [] ∧
          (execute around invocation).Truthful files
            [(reset.plan.resetOne reset.service .zero reset.target reset.eventId 0).1]) := by
  constructor
  · intro options haction
    refine ⟨failsClosed_of_batchFault files haction, fun hnone => ?_⟩
    obtain ⟨batch, hbatch⟩ := exists_prepareBatch_iff.mpr hnone
    -- What is told of the end holds of every end that the actors can come to, not only of the one that
    -- the agenda leads to.
    refine ⟨batch, hbatch, (ready_of_prepareBatch hbatch).journal,
      exists_endsIn_execute haction hbatch, ?_⟩
    intro final outcomes hends hresult hwritable
    refine ⟨truthful_concludeBatch hresult hwritable hends.perm_reported, fun path hpath => ?_⟩
    have hattempts := maxAttempts_of_parse hparse haction
    exact ⟨_, load_of_concludeBatch hbatch hstamp hattempts hends hresult hwritable hpath, rfl, rfl⟩
  · intro options haction
    refine ⟨failsClosed_of_resetFault files haction, fun hnone => ?_⟩
    obtain ⟨reset, hreset⟩ := exists_prepareReset_iff.mpr hnone
    refine ⟨reset, hreset, journal_of_prepareReset hreset, ?_⟩
    simp only [execute, haction, hreset]
    exact truthful_runReset files reset

/-- A workflow with one completed task. -/
def oneRunFixture : Fixture :=
  ⟨[⟨"pay", "base", true, [], [.taskScheduled 2, .taskCompleted 3 2]⟩], [], []⟩

/-- The second target is not there. -/
def twoTargets : List UInt8 :=
  Utf8.encode "pay\nship\n"

def sampleSurroundings : Surroundings where
  files path :=
    if path = "runs" then .ok (.bytes (Utf8.encode oneRunFixture.toJson.compact))
    else if path = "targets" then .ok (.bytes twoTargets)
    else .error .notFound
  operator := "ada"
  naming _ _ := "next"
  requestIds _ := "request"
  randoms _ := 0
  batchId := .ofRandom 0
  stamp := .ofEpochNanoseconds 0

def sampleOptions (parallelism : Nat) : BatchOptions where
  inputFile := some "targets"
  query := none
  excludeFile := none
  separator := "\t"
  reason := "fix"
  resetType := .lastWorkflowTask
  checksum := none
  reapply := .all
  parallelism := parallelism
  dryRun := false
  skipCurrentOpen := false
  skipBaseIsNotCurrent := false
  nonDeterministic := false
  maxAttempts := 3
  retryJitterMs := 2000
  pacingMs := 1000
  reportFile := some "report.json"

def sampleInvocation (parallelism : Nat) : Invocation where
  domain := "default"
  fixture := some "runs"
  contextTimeout := 5
  logFormat := .text
  verbosity := 0
  action := .resetBatch (sampleOptions parallelism)

def sampleWords (parallelism : String) : List String :=
  ["--fixture", "runs", "reset-batch", "--input-file", "targets", "--reason", "fix", "--reset-type",
    "LastWorkflowTask", "--parallelism", parallelism, "--report-file", "report.json"]

/-- The batch of these options. -/
def sampleBatch : PreparedBatch where
  plan := ⟨(sampleOptions 2).setup "default" .lastWorkflowTask, (sampleOptions 2).settings 5, "ada",
    fun _ => "request", fun _ => 0, .ofEpochNanoseconds 0⟩
  service := { Service.ofStore (oneRunFixture.store fun _ _ => "next") with
    deadline := some (.ofSeconds 5) }
  source := ⟨.file (.start "targets" "\t" (.bytes twoTargets)), .empty⟩

def sampleOutcomes : List Outcome :=
  [.of ⟨"ship", none⟩ (.failed "Service error: not found: workflow ship not found") 1
    (.ofEpochNanoseconds 0), .of ⟨"pay", none⟩ (.reset ⟨"base", 3⟩ "next") 1 (.ofEpochNanoseconds 0)]

theorem load_oneRunFixture :
    Fixture.load sampleSurroundings.files "runs" = .ok oneRunFixture := by
  have hproper : oneRunFixture.IsProper := by
    refine ⟨List.forall_mem_singleton.mpr ⟨nofun, ?_⟩, .nil, .nil⟩
    exact List.forall_mem_cons.mpr ⟨⟨by decide, nofun, nofun⟩,
      List.forall_mem_singleton.mpr ⟨by decide, by decide, by decide⟩⟩
  have hread : sampleSurroundings.files "runs" =
      .ok (.bytes (Utf8.encode oneRunFixture.toJson.compact)) := by
    simp [sampleSurroundings]
  exact Fixture.load_of_kept hproper hread

theorem prepareBatch_sample :
    prepareBatch sampleSurroundings (sampleInvocation 2) (sampleOptions 2) = .ok sampleBatch := by
  refine prepareBatch_eq_ok_iff.mpr ⟨_, .file "targets" "\t", .empty, _, _,
    BatchOptions.config_eq_ok_iff.mpr ⟨by decide, .lastWorkflowTask, rfl, by decide +kernel, rfl⟩,
    by decide +kernel, rfl, connect_eq_ok_iff.mpr ⟨"runs", _, rfl, load_oneRunFixture, rfl⟩, ?_, rfl⟩
  rfl

/-- The second worker takes the first target, and the first worker is done with the second one before
it. The batch fails as that target does. Run by its agenda, it comes to an end, too. Without workers it
fails before all calls. -/
theorem fails_closed_or_truthful_two_workers :
    (execute sampleSurroundings (sampleInvocation 0)).FailsClosed .empty ∧
    (∃ final, sampleBatch.EndsIn final ∧ execute sampleSurroundings (sampleInvocation 2) =
      concludeBatch sampleSurroundings (sampleOptions 2) sampleBatch.plan final) ∧
    ∃ final, sampleBatch.EndsIn final ∧
      let ended := (concludeBatch sampleSurroundings (sampleOptions 2) sampleBatch.plan final).finish
        .empty
      ended.1.stdout.Perm (sampleOutcomes.map Outcome.line) ∧ ended.1.exitCode ≠ 0 ∧
        ∃ report, BatchReport.load ended.2 "report.json" = .ok report ∧
          report.outcomes = sampleOutcomes := by
  have hstamp : sampleSurroundings.stamp.IsProper :=
    Timestamp.isProper_of_year (by decide) (by decide) (by decide) (by decide)
  have hparse : parse (fun _ => none) (sampleWords "0") = .ok (sampleInvocation 0) := by
    decide +kernel
  have hparse' : parse (fun _ => none) (sampleWords "2") = .ok (sampleInvocation 2) := by
    decide +kernel
  have hends : ((Batch.Chronicle.start sampleBatch.plan sampleBatch.service .zero sampleBatch.source
      0).follow? sampleBatch.plan (List.replicate 5 .producer ++ [.worker 1] ++
        List.replicate 5 (.worker 0) ++ List.replicate 6 (.worker 1))).map
          (fun c => (c.state.isFinal, c.state.result)) = some (true, .ok sampleOutcomes) := by
    decide +kernel
  obtain ⟨c, hrun, hends⟩ := Option.map_eq_some_iff.mp hends
  obtain ⟨hfinal, hresult⟩ := Prod.mk.inj hends
  have hends : sampleBatch.EndsIn c.state := ⟨_, c, hrun, rfl, hfinal⟩
  have hwritable : (concludeBatch sampleSurroundings (sampleOptions 2) sampleBatch.plan
      c.state).isWritable .empty := by
    rw [concludeBatch, hresult]
    show (BatchReport.persist _ .empty "report.json").isOk = true
    rw [BatchReport.persist, write_empty]
    rfl
  obtain ⟨hclosed, -⟩ := (fails_closed_or_truthful hparse hstamp .empty).1 _ rfl
  obtain ⟨-, hopen⟩ := (fails_closed_or_truthful hparse' hstamp .empty).1 _ rfl
  obtain ⟨batch, hbatch, -, hexecuted, htold⟩ :=
    hopen (exists_prepareBatch_iff.mp ⟨_, prepareBatch_sample⟩)
  obtain rfl := Except.ok.inj (prepareBatch_sample.symm.trans hbatch)
  obtain ⟨htruthful, hread⟩ := htold c.state sampleOutcomes hends hresult hwritable
  obtain ⟨report, hload, houtcomes, -⟩ := hread "report.json" rfl
  refine ⟨hclosed (.noWorkers rfl), hexecuted, c.state, hends, htruthful.stdout, ?_, report, hload,
    houtcomes⟩
  exact htruthful.exitCode.mpr ⟨_, .head _, _, rfl⟩

end Command

end Rewind
