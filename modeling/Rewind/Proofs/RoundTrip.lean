import Rewind.Proofs.Forms
import Rewind.Proofs.Report

/-!
Everything that is written can be read again.

A value that the words of its numbers and the calendar have room for is read from what is written of
it, and nothing else is ever read. So a text that was accepted is brought to a normal form by
writing what was read. Maps may have been written in any order. Reports are kept in files.

Main statement: `written_is_read`.
-/

namespace Rewind

open Json

/-- A fixture that was kept is the one that is loaded. -/
theorem Fixture.load_of_kept {fixture : Fixture} (h : fixture.IsProper)
    {files : String → Except FileFault FileContent} {path : String}
    (hkept : files path = .ok (.bytes (Utf8.encode fixture.toJson.compact))) :
    load files path = .ok fixture := by
  have htext : ofText fixture.toJson.compact = .ok fixture := by
    rw [ofText, parse?_compact (plain_toJson h.runs)]
    simp only [ofJson_of_shuffles h (.refl fixture)]
    rfl
  rw [load, hkept]
  simp only [Utf8.decode_encode, htext]

/-- Only proper fixtures are ever loaded. -/
theorem Fixture.isProper_of_load {fixture : Fixture} {files : String → Except FileFault FileContent}
    {path : String} (h : load files path = .ok fixture) : fixture.IsProper := by
  unfold load at h
  split at h
  · cases h
  · cases h
  · split at h
    · unfold ofText at h
      split at h
      · cases h
      · exact faithful.proper _ fixture (mapError_eq_ok.mp h)
    · cases h

/-- Whatever is written is read as what it was: reports from their files, and all values from their
texts. -/
theorem written_is_read :
    (∀ (report : BatchReport) (files files' : Files) (path : String), report.IsProper →
      report.persist files path = .ok files' → BatchReport.load files' path = .ok report) ∧
    (∀ (report : BatchReport) (files : Files) (path : String),
      BatchReport.load files path = .ok report → report.IsProper) ∧
    (∀ fixture written : Fixture, fixture.IsProper → written.Shuffles fixture →
      Json.read Fixture.ofJson written.toJson.compact = .ok fixture) ∧
    RoundTrips BatchReport.toJson BatchReport.ofJson BatchReport.IsProper ∧
    RoundTrips Outcome.toJson Outcome.ofJson Outcome.IsProper ∧
    RoundTrips OutcomeStatus.toJson OutcomeStatus.ofJson OutcomeStatus.IsProper ∧
    RoundTrips Fixture.toJson Fixture.ofJson Fixture.IsProper ∧
    RoundTrips Run.toJson Run.ofJson Run.IsProper ∧
    RoundTrips Event.toJson Event.ofJson Event.IsProper ∧
    RoundTrips ResetPoint.toJson ResetPoint.ofJson ResetPoint.IsProper ∧
    RoundTrips WorkflowRef.toJson WorkflowRef.ofJson (fun _ => True) ∧
    RoundTrips Strategy.toJson Strategy.ofJson (fun _ => True) ∧
    RoundTrips BatchConfig.toJson BatchConfig.ofJson BatchConfig.IsProper ∧
    RoundTrips DescribeRequest.toJson DescribeRequest.ofJson (fun _ => True) ∧
    RoundTrips Description.toJson Description.ofJson Description.IsProper ∧
    RoundTrips HistoryRequest.toJson HistoryRequest.ofJson HistoryRequest.IsProper ∧
    RoundTrips (Page.toJson "events" Event.toJson) (Page.ofJson "events" Event.ofJson)
      (fun page => ∀ event ∈ page.items, event.IsProper) ∧
    RoundTrips ScanRequest.toJson ScanRequest.ofJson ScanRequest.IsProper ∧
    RoundTrips (Page.toJson "executions" WorkflowRef.toJson)
      (Page.ofJson "executions" WorkflowRef.ofJson) (fun _ => True) ∧
    RoundTrips ResetRequest.toJson ResetRequest.ofJson ResetRequest.IsProper ∧
    RoundTrips ResetResponse.toJson ResetResponse.ofJson (fun _ => True) := by
  refine ⟨fun report files files' path hproper hkept => BatchReport.load_of_persist hproper hkept,
    fun report files path hload => BatchReport.isProper_of_load hload,
    fun fixture written hfixture hwritten => ?_, BatchReport.faithful.roundTrips,
    Outcome.faithful.roundTrips, OutcomeStatus.faithful.roundTrips, Fixture.faithful.roundTrips,
    Run.faithful.roundTrips, Event.faithful.roundTrips, ResetPoint.faithful.roundTrips,
    WorkflowRef.faithful.roundTrips, Strategy.faithful.roundTrips, BatchConfig.faithful.roundTrips,
    DescribeRequest.faithful.roundTrips, Description.faithful.roundTrips,
    HistoryRequest.faithful.roundTrips, (Page.faithful Event.faithful (by decide)).roundTrips,
    ScanRequest.faithful.roundTrips, Page.faithful_refs.roundTrips,
    ResetRequest.faithful.roundTrips, ResetResponse.faithful.roundTrips⟩
  have hplain : written.toJson.Plain :=
    Fixture.plain_toJson fun run hrun => hfixture.runs run (hwritten.runs ▸ hrun)
  rw [read_ok (parse?_compact hplain), Fixture.ofJson_of_shuffles hfixture hwritten]

/-- The end of a leap day, in the middle of a second. -/
def leapDay : Timestamp :=
  ⟨⟨2024, 2, 29⟩, 86399, 120000000⟩

/-- A report with an outcome of every kind, and with characters that have to be escaped. -/
def mixedReport : BatchReport :=
  ⟨⟨0x0123456789abcdef0123456789abcdef#128⟩, leapDay, leapDay, true,
    ⟨5, 1, 1, 1, 1, 1, 18446744073709551615, ⟨1500000000⟩⟩,
    [⟨"a\"b\\", none, .reset ⟨"run", 7⟩ "né\n", 1, leapDay⟩,
      ⟨"c", some "r", .dryRun ⟨"run", -9223372036854775808⟩, 4294967295, leapDay⟩,
      ⟨"d", none, .skipped (.currentRunOpen "\t"), 1, leapDay⟩,
      ⟨"e", none, .excluded, 0, leapDay⟩, ⟨"f", some "", .failed "\u0000", 3, leapDay⟩]⟩

theorem mixedReport_isProper : mixedReport.IsProper := by
  have hday : leapDay.IsProper :=
    Timestamp.isProper_of_year (by decide) (by decide) (by decide) (by decide)
  refine ⟨hday, hday, show _ < _ by decide, ?_⟩
  intro outcome houtcome
  simp only [mixedReport, List.mem_cons, List.not_mem_nil, or_false] at houtcome
  rcases houtcome with rfl | rfl | rfl | rfl | rfl
  · exact ⟨show IsInt64 7 by decide, by decide, hday⟩
  · exact ⟨show IsInt64 (-9223372036854775808) by decide, by decide, hday⟩
  · exact ⟨trivial, by decide, hday⟩
  · exact ⟨trivial, by decide, hday⟩
  · exact ⟨trivial, by decide, hday⟩

/-- A file can be written to an empty directory. -/
theorem write_empty (bytes : List UInt8) :
    Files.empty.writeWithParents "report.json" bytes = .ok ⟨[(["report.json"], .bytes bytes)]⟩ := by
  have hlocate : Files.empty.locate "report.json" = .ok (.entry [] "report.json") := by
    have hparts : Files.parts "report.json" = ["report.json"] := by decide +kernel
    unfold Files.locate
    rw [if_neg (by decide +kernel), if_neg (by decide +kernel), if_neg (by decide +kernel),
      if_neg (by decide +kernel), hparts]
    rfl
  have hslash : "report.json".endsWith "/" = false := by decide +kernel
  have hshort : ¬"report.json".utf8ByteSize > 255 := by decide +kernel
  have hparents : Files.parents "report.json" = [] := by decide +kernel
  simp only [Files.writeWithParents, hparents, ite_self, Files.makeDirectories, Except.bind,
    Files.write, bind, hlocate, hslash, Files.lookUp, if_neg hshort]
  rfl

theorem mixed_report_is_loaded :
    mixedReport.IsProper ∧ ∃ files, mixedReport.persist .empty "report.json" = .ok files ∧
      BatchReport.load files "report.json" = .ok mixedReport := by
  have hkept : mixedReport.persist .empty "report.json" = .ok _ :=
    congrArg (Except.mapError ReportError.file) (write_empty _)
  exact ⟨mixedReport_isProper, _, hkept,
    written_is_read.1 mixedReport .empty _ "report.json" mixedReport_isProper hkept⟩

end Rewind
