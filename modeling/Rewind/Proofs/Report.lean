import Rewind.Proofs.Files
import Rewind.Proofs.Json.Form
import Rewind.Proofs.Timestamp
import Rewind.Proofs.Utf8
import Rewind.Proofs.Uuid
import Rewind.Report

/-!
Reports survive being kept and loaded.

The status of an outcome has no object of its own: its members stand among those of the outcome, and
they are told from them by their names. A skipped target has a reason among them that may be an
object in an object, which is all that has to be held back until the tag of the status is known.

Main statements: `Outcome.faithful_at`, `BatchReport.faithful` and `BatchReport.load_of_persist`.
-/

namespace Rewind

open Json

/-! ### Parts of a report -/

theorem Uuid.faithful : Faithful Uuid.toJson Uuid.ofJson fun _ => True where
  decode_encode id _ := by
    simp [toJson, ofJson, toString, asString, parse?_text, bind, Except.bind]
  plain _ _ := trivial
  proper _ _ _ := trivial

theorem Timestamp.faithful : Faithful Timestamp.toJson Timestamp.ofJson Timestamp.IsProper where
  decode_encode t h := by
    simp [toJson, ofJson, asString, parse?_text h, bind, Except.bind]
  plain _ _ := trivial
  proper json t h := by
    simp only [ofJson, bind_eq_ok] at h
    obtain ⟨text, -, h⟩ := h
    split at h
    · next hparse =>
        obtain rfl := Except.ok.inj h
        exact isProper_of_parse? hparse
    · cases h

namespace Duration

/-- Its whole seconds are a word. -/
def IsProper (d : Duration) : Prop :=
  d.seconds < UInt64.size

theorem ofParts_seconds_rest (d : Duration) : ofParts d.seconds d.rest = d :=
  congrArg Duration.mk (Nat.div_add_mod' d.nanoseconds 1000000000)

theorem rest_lt (d : Duration) : d.rest < UInt32.size :=
  Nat.lt_trans (Nat.mod_lt d.nanoseconds (by decide)) (by decide : 1000000000 < UInt32.size)

theorem faithful : Faithful toJson ofJson IsProper where
  decode_encode d h := by
    have hseconds := (faithful_nat (Nat.le_refl _)).decode_encode _ h
    have hnanoseconds :=
      (faithful_nat (show UInt32.size ≤ UInt64.size by decide)).decode_encode _ d.rest_lt
    have hbound : d.seconds < UInt64.size := h
    simp [toJson, ofJson, hasOnlyParts, fields_obj, Fields.required, hseconds, hnanoseconds,
      ofParts_seconds_rest, hbound, bind, Except.bind]
  plain d h := by
    have hseconds := (faithful_nat (Nat.le_refl _)).plain _ h
    have hnanoseconds := (faithful_nat (show UInt32.size ≤ UInt64.size by decide)).plain _ d.rest_lt
    simp [toJson, hseconds, hnanoseconds]
  proper json d h := by
    simp only [ofJson] at h
    split at h
    · simp only [bind_eq_ok] at h
      obtain ⟨fields, -, seconds, -, nanoseconds, -, h⟩ := h
      split at h
      · next hbound =>
          obtain rfl := Except.ok.inj h
          exact hbound
      · cases h
    · cases h

end Duration

namespace MetricsSummary

def IsProper (s : MetricsSummary) : Prop :=
  s.busyTime.IsProper

theorem faithful_counter : Faithful (fun n : UInt64 => .nat n.toNat) counter fun _ => True where
  decode_encode n _ := by
    rw [counter, (faithful_nat (Nat.le_refl _)).decode_encode _ n.toNat_lt_size]
    exact congrArg Except.ok UInt64.ofNat_toNat
  plain n _ := (faithful_nat (Nat.le_refl _)).plain _ n.toNat_lt_size
  proper _ _ _ := trivial

theorem faithful : Faithful toJson ofJson IsProper where
  decode_encode s h := by
    have hcounter := fun n : UInt64 => faithful_counter.decode_encode n trivial
    have hbusy := Duration.faithful.decode_encode _ h
    simp [toJson, ofJson, fields_obj, Fields.required, hcounter, hbusy, bind, Except.bind]
  plain s h := by
    have hcounter := fun n : UInt64 => faithful_counter.plain n trivial
    have hbusy := Duration.faithful.plain _ h
    simp [toJson, hcounter, hbusy]
  proper json s h := by
    simp only [ofJson, bind_eq_ok] at h
    obtain ⟨fields, -, processed, -, reset, -, dryRun, -, skipped, -, excluded, -, failed, -,
      retries, -, busyTime, hbusy, h⟩ := h
    obtain rfl := Except.ok.inj h
    exact Fields.proper_of_required Duration.faithful hbusy

end MetricsSummary

/-! ### Outcomes -/

theorem SkipReason.ofHeldBack_toJson (reason : SkipReason) :
    ofHeldBack reason.toJson = .ok reason := by
  cases reason <;>
    simp [ofHeldBack, ofJsonWith, toJson, asVariant, payloadFields, fields_obj, Fields.required,
      asString, isUnit, bind, Except.bind]

namespace OutcomeStatus

/-- The event that was reset to has an id that is a word. -/
def IsProper : OutcomeStatus → Prop
  | .reset anchor _ | .dryRun anchor => IsInt64 anchor.eventId
  | _ => True

/-- The members that tell more than the tag. -/
def details (status : OutcomeStatus) : List (String × Json) :=
  status.members.tail

theorem members_eq (status : OutcomeStatus) :
    status.members = ("status", .str status.tag) :: status.details :=
  rfl

theorem details_names (status : OutcomeStatus) :
    ∀ entry ∈ status.details, entry.1 ≠ "status" ∧ ¬Outcome.ownNames.contains entry.1 := by
  cases status <;> simp [details, members, anchorMembers, Outcome.ownNames]

/-- The tag tells how the other members are read. -/
theorem ofTagged_details {status : OutcomeStatus} (h : status.IsProper) :
    ofTagged status.tag (.obj status.details) = .ok status := by
  cases status with
  | reset anchor newRunId =>
      have heventId := faithful_int64.decode_encode _ h
      simp [ofTagged, tag, details, members, anchorMembers, fields_obj, Fields.required, asString,
        heventId, bind, Except.bind]
  | dryRun anchor =>
      have heventId := faithful_int64.decode_encode _ h
      simp [ofTagged, tag, details, members, anchorMembers, fields_obj, Fields.required, asString,
        heventId, bind, Except.bind]
  | skipped reason =>
      simp [ofTagged, tag, details, members, fields_obj, Fields.required,
        SkipReason.ofHeldBack_toJson, bind, Except.bind]
  | excluded => simp [ofTagged, tag]
  | failed error =>
      simp [ofTagged, tag, details, members, fields_obj, Fields.required, asString, bind,
        Except.bind]

/-- The members are shallow, and all of them can be read. -/
theorem heldBack_members (status : OutcomeStatus) {limit : Nat} (hlimit : 2 ≤ limit) :
    ∀ entry ∈ status.members, entry.2.heldBack limit = .ok entry.2 := by
  have hstr : ∀ text, heldBack limit (.str text) = .ok (.str text) := fun text => by
    simp [heldBack, isReadable, nesting]
  have hint : ∀ n, heldBack limit (.int n) = .ok (.int n) := fun n => by
    simp [heldBack, isReadable, nesting]
  have hreason : ∀ reason : SkipReason, heldBack limit reason.toJson = .ok reason.toJson := by
    intro reason
    cases reason <;>
      simp [SkipReason.toJson, heldBack, isReadable, isReadable.readableMembers, nesting,
        nesting.nestingOfMembers] <;> omega
  cases status <;> simp [members, anchorMembers, hstr, hint, hreason]

theorem heldBack_toJson (status : OutcomeStatus) :
    status.toJson.heldBack heldBackLimit = .ok status.toJson := by
  cases status with
  | skipped reason =>
      cases reason <;>
        simp [toJson, members, tag, SkipReason.toJson, heldBack, isReadable,
          isReadable.readableMembers, nesting, nesting.nestingOfMembers, heldBackLimit]
  | _ =>
      simp [toJson, members, anchorMembers, tag, heldBack, isReadable, isReadable.readableMembers,
        nesting, nesting.nestingOfMembers, heldBackLimit]

theorem filter_status (status : OutcomeStatus) :
    status.members.filter (·.1 = "status") = [("status", .str status.tag)] := by
  have hnone : status.details.filter (·.1 = "status") = [] :=
    List.filter_eq_nil_iff.mpr fun entry hentry => by simp [(details_names status entry hentry).1]
  rw [members_eq, List.filter_cons_of_pos (by simp), hnone]

theorem filter_details (status : OutcomeStatus) :
    status.members.filter (·.1 ≠ "status") = status.details := by
  rw [members_eq, List.filter_cons_of_neg (by simp), List.filter_eq_self]
  exact fun entry hentry => by simp [(details_names status entry hentry).1]

theorem plain_members {status : OutcomeStatus} (h : status.IsProper) :
    ∀ entry ∈ status.members, entry.2.Plain := by
  cases status with
  | reset anchor newRunId => simp [members, anchorMembers, faithful_int64.plain _ h]
  | dryRun anchor => simp [members, anchorMembers, faithful_int64.plain _ h]
  | skipped reason => cases reason <;> simp [members, SkipReason.toJson]
  | excluded => simp [members]
  | failed error => simp [members]

theorem proper_of_ofTagged {tag : String} {json : Json} {status : OutcomeStatus}
    (h : ofTagged tag json = .ok status) : status.IsProper := by
  unfold ofTagged at h
  split at h
  · simp only [bind_eq_ok] at h
    obtain ⟨fields, -, runId, -, eventId, heventId, newRunId, -, h⟩ := h
    obtain rfl := Except.ok.inj h
    exact Fields.proper_of_required faithful_int64 heventId
  split at h
  · simp only [bind_eq_ok] at h
    obtain ⟨fields, -, runId, -, eventId, heventId, h⟩ := h
    obtain rfl := Except.ok.inj h
    exact Fields.proper_of_required faithful_int64 heventId
  split at h
  · simp only [bind_eq_ok] at h
    obtain ⟨fields, -, reason, -, h⟩ := h
    obtain rfl := Except.ok.inj h
    exact trivial
  split at h
  · split at h
    · cases h
    · obtain rfl := Except.ok.inj h
      exact trivial
  split at h
  · simp only [bind_eq_ok] at h
    obtain ⟨fields, -, error, -, h⟩ := h
    obtain rfl := Except.ok.inj h
    exact trivial
  · cases h

theorem faithful : Faithful toJson ofJson IsProper where
  decode_encode status h := by
    simp only [ofJson, heldBack_toJson, bind, Except.bind]
    simp only [toJson, filter_status, filter_details, asString, ofTagged_details h]
  plain status h := plain_obj.mpr (plain_members h)
  proper json status h := by
    simp only [ofJson, bind_eq_ok] at h
    obtain ⟨held, -, h⟩ := h
    split at h
    · split at h
      · cases h
      · simp only [bind_eq_ok] at h
        obtain ⟨tag, -, h⟩ := h
        exact proper_of_ofTagged h
      · cases h
    · simp only [bind_eq_ok] at h
      obtain ⟨tag, -, h⟩ := h
      exact proper_of_ofTagged h
    · cases h

end OutcomeStatus

namespace Outcome

structure IsProper (outcome : Outcome) : Prop where
  status : outcome.status.IsProper
  attempts : outcome.attempts < UInt32.size
  timestamp : outcome.timestamp.IsProper

/-- The members that do not tell the status. -/
def ownMembers (outcome : Outcome) : List (String × Json) :=
  [("workflow_id", .str outcome.workflowId), ("run_id", .ofOption .str outcome.runId),
    ("attempts", .nat outcome.attempts), ("timestamp", outcome.timestamp.toJson)]

/-- All members in the order in which they are written. -/
def allMembers (outcome : Outcome) : List (String × Json) :=
  ("workflow_id", .str outcome.workflowId) :: ("run_id", .ofOption .str outcome.runId)
    :: (outcome.status.members
      ++ [("attempts", .nat outcome.attempts), ("timestamp", outcome.timestamp.toJson)])

theorem toJson_eq (outcome : Outcome) : outcome.toJson = .obj outcome.allMembers := by
  simp [toJson, membersWithoutTime, allMembers]

theorem members_names (status : OutcomeStatus) :
    ∀ entry ∈ status.members, ownNames.contains entry.1 = false := by
  rw [OutcomeStatus.members_eq]
  intro entry hentry
  rcases List.mem_cons.mp hentry with rfl | hentry
  · simp [ownNames]
  · simpa using (OutcomeStatus.details_names status entry hentry).2

theorem mapM_heldBack {limit : Nat} {members : List (String × Json)}
    (h : ∀ entry ∈ members, entry.2.heldBack limit = .ok entry.2) :
    members.mapM (fun entry => (entry.2.heldBack limit).map fun value => (entry.1, value))
      = .ok members := by
  induction members with
  | nil => rfl
  | cons entry members ih =>
      rw [List.mapM_cons, h entry List.mem_cons_self,
        ih fun each heach => h each (List.mem_cons_of_mem entry heach)]
      rfl

theorem fields_ownNames (outcome : Outcome) :
    outcome.toJson.fields ownNames = .ok ⟨outcome.ownMembers, false⟩ := by
  have hnone : outcome.status.members.filter (fun entry => ownNames.contains entry.1) = [] :=
    List.filter_eq_nil_iff.mpr fun entry hentry => by
      rw [members_names outcome.status entry hentry]
      decide
  have hown : outcome.allMembers.filter (fun entry => ownNames.contains entry.1)
      = outcome.ownMembers := by
    simp only [allMembers, List.filter_cons, List.filter_append, hnone]
    simp [ownNames, ownMembers]
  rw [toJson_eq]
  simp only [fields, hown]
  simp [ownMembers, firstRepeated?]

theorem filter_others (outcome : Outcome) :
    outcome.allMembers.filter (fun entry => !ownNames.contains entry.1)
      = outcome.status.members := by
  have hall : outcome.status.members.filter (fun entry => !ownNames.contains entry.1)
      = outcome.status.members :=
    List.filter_eq_self.mpr fun entry hentry => by
      rw [members_names outcome.status entry hentry]
      rfl
  simp only [allMembers, List.filter_cons, List.filter_append, hall]
  simp [ownNames]

/-- The members of the status stand among those of the outcome, and are told from them by name. -/
theorem faithful_at {depth : Nat} (hdepth : depth + 3 ≤ OutcomeStatus.heldBackLimit) :
    Faithful toJson (ofJsonAt depth) IsProper where
  decode_encode outcome h := by
    have hfields := outcome.fields_ownNames
    have hothers := mapM_heldBack (outcome.status.heldBack_members
      (show 2 ≤ OutcomeStatus.heldBackLimit - 1 - depth by omega))
    have hattempts : Fields.required ⟨outcome.ownMembers, false⟩ "attempts" (asNat UInt32.size)
        = .ok outcome.attempts :=
      Fields.required_ok (faithful_nat (by decide)) h.attempts (by simp [ownMembers])
    have htimestamp : Fields.required ⟨outcome.ownMembers, false⟩ "timestamp" Timestamp.ofJson
        = .ok outcome.timestamp :=
      Fields.required_ok Timestamp.faithful h.timestamp (by simp [ownMembers])
    rw [toJson_eq] at hfields ⊢
    simp only [ofJsonAt, bind_eq_ok, filter_others]
    refine ⟨_, hfields, _, hothers, outcome.workflowId, ?_, outcome.runId, ?_, ?_⟩
    · exact Fields.required_ok faithful_string trivial (by simp [ownMembers])
    · exact Fields.optional_ok faithful_string (by simp) (by simp) (by simp [ownMembers])
    · simp only [OutcomeStatus.filter_status, OutcomeStatus.filter_details, asTag, bind,
        Except.bind, OutcomeStatus.ofTagged_details h.status, hattempts, htimestamp]
  plain outcome h := by
    rw [toJson_eq]
    refine plain_obj.mpr fun entry hentry => ?_
    simp only [allMembers, List.mem_cons, List.mem_append, List.not_mem_nil, or_false] at hentry
    rcases hentry with rfl | rfl | hentry | rfl | rfl
    · exact plain_str _
    · exact (faithful_string.ofOption (by simp)).plain outcome.runId (by simp)
    · exact OutcomeStatus.plain_members h.status entry hentry
    · exact (faithful_nat (show UInt32.size ≤ UInt64.size by decide)).plain _ h.attempts
    · exact Timestamp.faithful.plain _ h.timestamp
  proper json outcome h := by
    cases json with
    | obj members =>
        simp only [ofJsonAt, bind_eq_ok] at h
        obtain ⟨fields, -, others, -, workflowId, -, runId, -, h⟩ := h
        split at h
        · cases h
        · simp only [bind_eq_ok] at h
          obtain ⟨tag, -, status, hstatus, attempts, hattempts, timestamp, htimestamp, h⟩ := h
          obtain rfl := Except.ok.inj h
          exact ⟨OutcomeStatus.proper_of_ofTagged hstatus,
            Fields.proper_of_required (faithful_nat (by decide)) hattempts,
            Fields.proper_of_required Timestamp.faithful htimestamp⟩
        · cases h
    | _ => cases h

theorem faithful : Faithful toJson ofJson IsProper :=
  faithful_at (by decide)

end Outcome

/-! ### Reports -/

namespace BatchReport

structure IsProper (report : BatchReport) : Prop where
  startedAt : report.startedAt.IsProper
  finishedAt : report.finishedAt.IsProper
  summary : report.summary.IsProper
  outcomes : ∀ outcome ∈ report.outcomes, outcome.IsProper

theorem faithful : Faithful toJson ofJson IsProper where
  decode_encode report h := by
    have hbatchId := Uuid.faithful.decode_encode report.batchId trivial
    have hstartedAt := Timestamp.faithful.decode_encode _ h.startedAt
    have hfinishedAt := Timestamp.faithful.decode_encode _ h.finishedAt
    have hsummary := MetricsSummary.faithful.decode_encode _ h.summary
    have houtcomes :=
      (Outcome.faithful_at (show 2 + 3 ≤ _ by decide)).ofList.decode_encode _ h.outcomes
    simp [toJson, ofJson, fields_obj, Fields.required, asBool, hbatchId, hstartedAt, hfinishedAt,
      hsummary, houtcomes, bind, Except.bind]
  plain report h := by
    have hbatchId := Uuid.faithful.plain report.batchId trivial
    have hstartedAt := Timestamp.faithful.plain _ h.startedAt
    have hfinishedAt := Timestamp.faithful.plain _ h.finishedAt
    have hsummary := MetricsSummary.faithful.plain _ h.summary
    have houtcomes := Outcome.faithful.ofList.plain _ h.outcomes
    simp [toJson, hbatchId, hstartedAt, hfinishedAt, hsummary, houtcomes]
  proper json report h := by
    simp only [ofJson, bind_eq_ok] at h
    obtain ⟨fields, -, batchId, -, startedAt, hstarted, finishedAt, hfinished, dryRun, -, summary,
      hsummary, outcomes, houtcomes, h⟩ := h
    obtain rfl := Except.ok.inj h
    exact ⟨Fields.proper_of_required Timestamp.faithful hstarted,
      Fields.proper_of_required Timestamp.faithful hfinished,
      Fields.proper_of_required MetricsSummary.faithful hsummary,
      Fields.proper_of_required (Outcome.faithful_at (show 2 + 3 ≤ _ by decide)).ofList houtcomes⟩

/-- The text of a report file is read like any text of its form. -/
theorem ofText_eq (text : String) : ofText text = (Json.read ofJson text).mapError .json := by
  unfold ofText Json.read
  cases parse? text <;> rfl

/-- A report that was kept is the one that is loaded. -/
theorem load_of_persist {report : BatchReport} (h : report.IsProper) {files files' : Files}
    {path : String} (hkept : report.persist files path = .ok files') :
    load files' path = .ok report := by
  have hread : files'.read path = .ok (.bytes (Utf8.encode report.text)) := by
    unfold persist at hkept
    cases hwritten : files.writeWithParents path (Utf8.encode report.text) with
    | error fault => rw [hwritten] at hkept; cases hkept
    | ok made =>
        rw [hwritten] at hkept
        obtain rfl := Except.ok.inj hkept
        exact Files.read_of_writeWithParents hwritten
  have htext : ofText report.text = .ok report := by
    rw [ofText_eq, text, (faithful.roundTrips.read_text report h).2]
    rfl
  rw [load, hread]
  change ofContent (.bytes (Utf8.encode report.text)) = .ok report
  simp only [ofContent, Utf8.decode_encode, htext]

/-- Only proper reports are ever loaded. -/
theorem isProper_of_load {report : BatchReport} {files : Files} {path : String}
    (h : load files path = .ok report) : report.IsProper := by
  unfold load at h
  cases hread : files.read path with
  | error fault => rw [hread] at h; cases h
  | ok found =>
      rw [hread] at h
      change ofContent found = .ok report at h
      unfold ofContent at h
      split at h
      · cases h
      split at h
      · rw [ofText_eq] at h
        obtain ⟨json, hjson⟩ := decode_of_read (mapError_eq_ok.mp h)
        exact faithful.proper json report hjson
      · cases h

end BatchReport

end Rewind
