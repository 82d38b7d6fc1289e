import Rewind.Config
import Rewind.Proofs.Json.Map
import Rewind.Service.Fixture

/-!
The written forms of the setup, of fixtures and of what is exchanged with a service.

Each of them is a record, or one of a few names, and is faithful for the values whose numbers are
words. A field that is left out when it has no value is read as none, whether it is written as null
otherwise or not at all; a fixture is read the same in whatever order its maps were written.

Main statements: one `faithful` for every type, and `Fixture.ofJson_of_shuffles`.
-/

namespace Rewind

open Json

namespace WorkflowRef

theorem faithful : Faithful toJson ofJson fun _ => True where
  decode_encode ref _ := by
    obtain ⟨workflowId, runId⟩ := ref
    cases runId <;>
      simp [toJson, ofJson, optionalMember, fields_obj, Fields.required, Fields.defaulted, asString,
        asOption, bind, Except.bind, Except.map]
  plain ref _ := by
    obtain ⟨workflowId, runId⟩ := ref
    cases runId <;> simp [toJson, optionalMember]
  proper _ _ _ := trivial

end WorkflowRef

namespace ResetPoint

/-- The id of its task is one. -/
def IsProper (point : ResetPoint) : Prop :=
  IsInt64 point.completedTaskId

theorem faithful : Faithful toJson ofJson IsProper where
  decode_encode point h := by
    simp [toJson, ofJson, fields_obj, Fields.required, Fields.defaulted, asString, asBool,
      faithful_int64.decode_encode _ h, bind, Except.bind]
  plain point h := by simp [toJson, faithful_int64.plain _ h]
  proper json point h := by
    simp only [ofJson, bind_eq_ok] at h
    obtain ⟨fields, -, checksum, -, completedTaskId, hid, resettable, -, h⟩ := h
    obtain rfl := Except.ok.inj h
    exact Fields.proper_of_required faithful_int64 hid

end ResetPoint

theorem EventKind.faithful : Faithful EventKind.toJson EventKind.ofJson fun _ => True where
  decode_encode kind _ := by
    simp [toJson, ofJson, asUnitVariant, asVariant, isUnit, ofName_name, bind, Except.bind]
  plain _ _ := trivial
  proper _ _ _ := trivial

theorem FailureCause.faithful :
    Faithful FailureCause.toJson FailureCause.ofJson fun _ => True where
  decode_encode cause _ := by
    simp [toJson, ofJson, asUnitVariant, asVariant, isUnit, ofName_name, bind, Except.bind]
  plain _ _ := trivial
  proper _ _ _ := trivial

theorem ReapplyPolicy.faithful :
    Faithful ReapplyPolicy.toJson ReapplyPolicy.ofJson fun _ => True where
  decode_encode policy _ := by
    simp [toJson, ofJson, asUnitVariant, asVariant, isUnit, ofName?_name, bind, Except.bind]
  plain _ _ := trivial
  proper _ _ _ := trivial

namespace Strategy

theorem faithful : Faithful toJson ofJson fun _ => True where
  decode_encode strategy _ := by
    cases strategy with
    | badBinary checksum =>
        simp [toJson, ofJson, asVariant, ResetType.all, ResetType.name, payloadFields, fields_obj,
          Fields.required, asString, bind, Except.bind]
    | _ =>
        simp [toJson, ofJson, ofJson.bare, asVariant, isUnit, resetType, ResetType.all,
          ResetType.name, bind, Except.bind]
  plain strategy _ := by
    cases strategy with
    | badBinary checksum => simp [toJson]
    | _ => trivial
  proper _ _ _ := trivial

end Strategy

namespace Event

/-- All of its ids are words. -/
structure IsProper (event : Event) : Prop where
  eventId : IsInt64 event.eventId
  completedTaskId : ∀ id ∈ event.completedTaskId, IsInt64 id
  scheduledTaskId : ∀ id ∈ event.scheduledTaskId, IsInt64 id

theorem faithful : Faithful toJson ofJson IsProper where
  decode_encode event h := by
    have hfields : event.toJson.fields ["event_id", "event_type", "completed_task_id",
        "scheduled_task_id", "failure_cause", "failure_message", "continued_from_run_id"] = _ :=
      fields_sublist
        (by simp only [List.map_append]
            exact ((((List.Sublist.refl _).append (optionalMember_sublist _ _)).append
              (optionalMember_sublist _ _)).append (optionalMember_sublist _ _)).append
              (optionalMember_sublist _ _) |>.append (optionalMember_sublist _ _))
        (by decide)
    simp only [ofJson, bind_eq_ok]
    refine ⟨_, hfields, event.eventId, ?_, event.kind, ?_, event.completedTaskId, ?_,
      event.scheduledTaskId, ?_, event.failureCause, ?_, event.failureMessage, ?_,
      event.continuedFrom, ?_, rfl⟩
    · exact Fields.required_ok faithful_int64 h.eventId (by simp)
    · exact Fields.required_ok EventKind.faithful trivial (by simp)
    · exact Fields.defaulted_ok faithful_int64 (by simp) h.completedTaskId (by simp)
    · exact Fields.defaulted_ok faithful_int64 (by simp) h.scheduledTaskId (by simp)
    · exact Fields.defaulted_ok FailureCause.faithful (by simp [FailureCause.toJson]) (by simp)
        (by simp)
    · exact Fields.defaulted_ok faithful_string (by simp) (by simp) (by simp)
    · exact Fields.defaulted_ok faithful_string (by simp) (by simp) (by simp)
  plain event h := by
    refine plain_obj.mpr fun entry hentry => ?_
    simp only [List.mem_append] at hentry
    rcases hentry with ((((hentry | hentry) | hentry) | hentry) | hentry) | hentry
    · simp only [List.mem_cons, List.not_mem_nil, or_false] at hentry
      rcases hentry with rfl | rfl
      · exact faithful_int64.plain _ h.eventId
      · exact EventKind.faithful.plain _ trivial
    · exact faithful_int64.plain_optionalMember _ h.completedTaskId entry hentry
    · exact faithful_int64.plain_optionalMember _ h.scheduledTaskId entry hentry
    · exact FailureCause.faithful.plain_optionalMember _ (fun _ _ => trivial) entry hentry
    · exact faithful_string.plain_optionalMember _ (fun _ _ => trivial) entry hentry
    · exact faithful_string.plain_optionalMember _ (fun _ _ => trivial) entry hentry
  proper json event h := by
    simp only [ofJson, bind_eq_ok] at h
    obtain ⟨fields, -, eventId, hid, kind, -, completed, hcompleted, scheduled, hscheduled, cause,
      -, message, -, continued, -, h⟩ := h
    obtain rfl := Except.ok.inj h
    have hoption := faithful_int64.ofOption fun _ => by simp
    exact ⟨Fields.proper_of_required faithful_int64 hid,
      Fields.proper_of_defaulted hoption (by simp) hcompleted,
      Fields.proper_of_defaulted hoption (by simp) hscheduled⟩

end Event

namespace Run

structure IsProper (run : Run) : Prop where
  points : ∀ point ∈ run.points, point.IsProper
  history : ∀ event ∈ run.history, event.IsProper

theorem faithful : Faithful toJson ofJson IsProper where
  decode_encode run h := by
    have hpoints := ResetPoint.faithful.ofList.decode_encode _ h.points
    have hhistory := Event.faithful.ofList.decode_encode _ h.history
    simp [toJson, ofJson, fields_obj, Fields.required, Fields.defaulted, asString, asBool, hpoints,
      hhistory, bind, Except.bind]
  plain run h := by
    have hpoints := ResetPoint.faithful.ofList.plain _ h.points
    have hhistory := Event.faithful.ofList.plain _ h.history
    simp [toJson, hpoints, hhistory]
  proper json run h := by
    simp only [ofJson, bind_eq_ok] at h
    obtain ⟨fields, -, workflowId, -, runId, -, isOpen, -, points, hpoints, history, hhistory,
      h⟩ := h
    obtain rfl := Except.ok.inj h
    exact ⟨Fields.proper_of_defaulted ResetPoint.faithful.ofList (by simp) hpoints,
      Fields.proper_of_defaulted Event.faithful.ofList (by simp) hhistory⟩

end Run

namespace Fixture

/-- Its runs are proper, and its maps are in the order of their keys. -/
structure IsProper (fixture : Fixture) : Prop where
  runs : ∀ run ∈ fixture.runs, run.IsProper
  currentRuns : Sorted fixture.currentRuns
  visibility : Sorted fixture.visibility

/-- The same fixture with the entries of its maps in any order. -/
structure Shuffles (written fixture : Fixture) : Prop where
  runs : written.runs = fixture.runs
  currentRuns : written.currentRuns.Perm fixture.currentRuns
  visibility : written.visibility.Perm fixture.visibility

theorem Shuffles.refl (fixture : Fixture) : Shuffles fixture fixture :=
  ⟨rfl, .refl _, .refl _⟩

/-- A fixture is read the same in whatever order the entries of its maps were written. -/
theorem ofJson_of_shuffles {written fixture : Fixture} (hfixture : fixture.IsProper)
    (hwritten : written.Shuffles fixture) : ofJson written.toJson = .ok fixture := by
  have hruns := Run.faithful.ofList.decode_encode _ hfixture.runs
  have hcurrent := asMap_of_perm faithful_string hfixture.currentRuns (by simp) hwritten.currentRuns
  have hvisibility := asMap_of_perm WorkflowRef.faithful.ofList hfixture.visibility (by simp)
    hwritten.visibility
  simp [toJson, ofJson, fields_obj, Fields.defaulted, hwritten.runs, hruns, hcurrent, hvisibility,
    bind, Except.bind]

theorem plain_toJson {fixture : Fixture} (hruns : ∀ run ∈ fixture.runs, run.IsProper) :
    fixture.toJson.Plain := by
  refine plain_obj.mpr fun entry hentry => ?_
  simp only [List.mem_cons, List.not_mem_nil, or_false] at hentry
  rcases hentry with rfl | rfl | rfl
  · exact Run.faithful.ofList.plain _ hruns
  · exact faithful_string.plain_map (by simp)
  · exact WorkflowRef.faithful.ofList.plain_map (by simp)

theorem faithful : Faithful toJson ofJson IsProper where
  decode_encode fixture h := ofJson_of_shuffles h (.refl fixture)
  plain fixture h := plain_toJson h.runs
  proper json fixture h := by
    simp only [ofJson, bind_eq_ok] at h
    obtain ⟨fields, -, runs, hruns, currentRuns, hcurrent, visibility, hvisibility, h⟩ := h
    obtain rfl := Except.ok.inj h
    exact ⟨Fields.proper_of_defaulted Run.faithful.ofList (by simp) hruns,
      (Fields.proper_of_defaulted faithful_string.ofMap ⟨.nil, by simp⟩ hcurrent).1,
      (Fields.proper_of_defaulted WorkflowRef.faithful.ofList.ofMap ⟨.nil, by simp⟩ hvisibility).1⟩

end Fixture

namespace BatchConfig

/-- The number of workers is a word. -/
def IsProper (config : BatchConfig) : Prop :=
  config.parallelism < UInt64.size

theorem faithful : Faithful toJson ofJson IsProper where
  decode_encode config h := by
    have hstrategy := Strategy.faithful.decode_encode config.strategy trivial
    have hreapply := ReapplyPolicy.faithful.decode_encode config.reapply trivial
    have hparallelism := (faithful_nat (Nat.le_refl _)).decode_encode _ h
    simp [toJson, ofJson, fields_obj, Fields.required, asString, asBool, hstrategy, hreapply,
      hparallelism, bind, Except.bind]
  plain config h := by
    have hstrategy := Strategy.faithful.plain config.strategy trivial
    have hreapply := ReapplyPolicy.faithful.plain config.reapply trivial
    have hparallelism := (faithful_nat (Nat.le_refl _)).plain _ h
    simp [toJson, hstrategy, hreapply, hparallelism]
  proper json config h := by
    simp only [ofJson, bind_eq_ok] at h
    obtain ⟨fields, -, domain, -, reason, -, strategy, -, skipIfOpen, -, skipIfBaseNotCurrent, -,
      nonDeterministicOnly, -, dryRun, -, reapply, -, parallelism, hparallelism, h⟩ := h
    obtain rfl := Except.ok.inj h
    exact Fields.proper_of_required (faithful_nat (Nat.le_refl _)) hparallelism

end BatchConfig

/-! ### Messages of the service -/

theorem DescribeRequest.faithful :
    Faithful DescribeRequest.toJson DescribeRequest.ofJson fun _ => True where
  decode_encode request _ := by
    have hrunId : ∀ fields : Fields, fields.get? "run_id" = some (.ofOption .str request.runId) →
        fields.optional "run_id" asString = .ok request.runId := fun _ =>
      Fields.optional_ok faithful_string (by simp) (by simp)
    simp [toJson, ofJson, fields_obj, Fields.required, asString, hrunId, bind, Except.bind]
  plain request _ := by
    have hrunId := (faithful_string.ofOption (by simp)).plain request.runId (by simp)
    simp [toJson, hrunId]
  proper _ _ _ := trivial

/-- Tokens are lists of numbers, or null. -/
theorem plain_token (token : Option Token) : (tokenToJson token).Plain :=
  (faithful_byte.ofList.ofOption fun _ => by simp [ofList]).plain token (by simp)

theorem tokenOfJson_ok (token : Option Token) {fields : Fields}
    (h : fields.get? "next_page_token" = some (tokenToJson token)) :
    tokenOfJson fields = .ok token :=
  Fields.optional_ok faithful_byte.ofList (fun _ => by simp [ofList]) (by simp) h

namespace HistoryRequest

/-- The size of its pages is a word. -/
def IsProper (request : HistoryRequest) : Prop :=
  request.pageSize < UInt64.size

theorem faithful : Faithful toJson ofJson IsProper where
  decode_encode request h := by
    have hpageSize := (faithful_nat (Nat.le_refl _)).decode_encode _ h
    simp [toJson, ofJson, fields_obj, Fields.required, asString, hpageSize,
      tokenOfJson_ok request.token, bind, Except.bind]
  plain request h := by
    have hpageSize := (faithful_nat (Nat.le_refl _)).plain _ h
    simp [toJson, hpageSize, plain_token]
  proper json request h := by
    simp only [ofJson, bind_eq_ok] at h
    obtain ⟨fields, -, domain, -, workflowId, -, runId, -, pageSize, hpageSize, token, -, h⟩ := h
    obtain rfl := Except.ok.inj h
    exact Fields.proper_of_required (faithful_nat (Nat.le_refl _)) hpageSize

end HistoryRequest

namespace ScanRequest

/-- The size of its pages is a word. -/
def IsProper (request : ScanRequest) : Prop :=
  request.pageSize < UInt64.size

theorem faithful : Faithful toJson ofJson IsProper where
  decode_encode request h := by
    have hpageSize := (faithful_nat (Nat.le_refl _)).decode_encode _ h
    simp [toJson, ofJson, fields_obj, Fields.required, asString, hpageSize,
      tokenOfJson_ok request.token, bind, Except.bind]
  plain request h := by
    have hpageSize := (faithful_nat (Nat.le_refl _)).plain _ h
    simp [toJson, hpageSize, plain_token]
  proper json request h := by
    simp only [ofJson, bind_eq_ok] at h
    obtain ⟨fields, -, domain, -, query, -, pageSize, hpageSize, token, -, h⟩ := h
    obtain rfl := Except.ok.inj h
    exact Fields.proper_of_required (faithful_nat (Nat.le_refl _)) hpageSize

end ScanRequest

namespace ResetRequest

/-- The event to reset to has an id that is a word. -/
def IsProper (request : ResetRequest) : Prop :=
  IsInt64 request.eventId

theorem faithful : Faithful toJson ofJson IsProper where
  decode_encode request h := by
    have heventId := faithful_int64.decode_encode _ h
    have hreapply := ReapplyPolicy.faithful.decode_encode request.reapply trivial
    simp [toJson, ofJson, fields_obj, Fields.required, asString, heventId, hreapply, bind,
      Except.bind]
  plain request h := by
    have hreapply := ReapplyPolicy.faithful.plain request.reapply trivial
    simp [toJson, faithful_int64.plain _ h, hreapply]
  proper json request h := by
    simp only [ofJson, bind_eq_ok] at h
    obtain ⟨fields, -, domain, -, workflowId, -, runId, -, eventId, heventId, reason, -, requestId,
      -, reapply, -, h⟩ := h
    obtain rfl := Except.ok.inj h
    exact Fields.proper_of_required faithful_int64 heventId

end ResetRequest

theorem ResetResponse.faithful :
    Faithful ResetResponse.toJson ResetResponse.ofJson fun _ => True where
  decode_encode response _ := by
    simp [toJson, ofJson, fields_obj, Fields.required, asString, bind, Except.bind]
  plain response _ := by simp [toJson]
  proper _ _ _ := trivial

namespace Description

def IsProper (description : Description) : Prop :=
  ∀ point ∈ description.points, point.IsProper

theorem faithful : Faithful toJson ofJson IsProper where
  decode_encode description h := by
    have hpoints := ResetPoint.faithful.ofList.decode_encode _ h
    simp [toJson, ofJson, fields_obj, Fields.required, Fields.defaulted, asString, asBool, hpoints,
      bind, Except.bind]
  plain description h := by
    have hpoints := ResetPoint.faithful.ofList.plain _ h
    simp [toJson, hpoints]
  proper json description h := by
    simp only [ofJson, bind_eq_ok] at h
    obtain ⟨fields, -, currentRunId, -, isOpen, -, points, hpoints, h⟩ := h
    obtain rfl := Except.ok.inj h
    exact Fields.proper_of_defaulted ResetPoint.faithful.ofList (by simp) hpoints

end Description

namespace Page

variable {α : Type} {encode : α → Json} {decode : Decoder α} {IsProper : α → Prop}

/-- A page is as faithful as its items, whatever their name is. -/
theorem faithful (h : Faithful encode decode IsProper) {name : String}
    (hname : name ≠ "next_page_token") :
    Faithful (toJson name encode) (ofJson name decode)
      fun page => ∀ item ∈ page.items, IsProper item where
  decode_encode page hpage := by
    have hitems := h.ofList.decode_encode _ hpage
    simp [toJson, ofJson, fields_obj, Fields.required, hitems, hname, tokenOfJson_ok page.token,
      bind, Except.bind]
  plain page hpage := by
    have hitems := h.ofList.plain _ hpage
    simp [toJson, hitems, plain_token]
  proper json page hpage := by
    simp only [ofJson, bind_eq_ok] at hpage
    obtain ⟨fields, -, items, hitems, token, -, hpage⟩ := hpage
    obtain rfl := Except.ok.inj hpage
    exact Fields.proper_of_required h.ofList hitems

theorem faithful_refs :
    Faithful (toJson "executions" WorkflowRef.toJson) (ofJson "executions" WorkflowRef.ofJson)
      fun _ => True :=
  have h := faithful WorkflowRef.faithful (show "executions" ≠ _ by decide)
  ⟨fun page _ => h.decode_encode page (by simp), fun page _ => h.plain page (by simp),
    fun _ _ _ => trivial⟩

end Page

end Rewind
