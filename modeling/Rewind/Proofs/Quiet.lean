import Mathlib.Order.Bounds.Basic
import Mathlib.Order.Nat
import Rewind.Proofs.Run

/-!
Services that answer every call.

Calls of a quiet service are in time and no failures are scripted for them. As long as a program only
looks, all its answers come from one store, so it has one result, which is told from that store.
Reading a history asks for the least number of pages that suffice.

Main statements: `Gives.bind` and `Reads.bind` for the parts of a procedure, and `readUntil_reads`,
`readUntil_gives`, `readAll_gives` and `readAll_gives_missing` for reading a history.
-/

namespace Rewind

namespace Store

/-- What is true of a store that was built from runs, whatever calls it has answered: no history is
longer than the number of events put in, and a workflow that has runs has a current one. -/
structure Built (s : Store) : Prop where
  bounded : s.Bounded
  headed : ∀ workflowId runId run, s.runs workflowId runId = some run →
    ∃ current, s.current workflowId = some current

/-- The refusal to look up a run that is not there. -/
def noRun (workflowId runId : String) : ServiceError :=
  ⟨.notFound, s!"run {workflowId}/{runId} not found"⟩

theorem run?_of_some {s : Store} {workflowId runId : String} {run : Run}
    (hrun : s.runs workflowId runId = some run) : s.run? workflowId runId = .ok run := by
  rw [run?, hrun]

theorem run?_of_none {s : Store} {workflowId runId : String}
    (hnone : s.runs workflowId runId = none) :
    s.run? workflowId runId = .error (noRun workflowId runId) := by
  rw [run?, hnone, noRun]

/-- What is known of a workflow is known of its current run. -/
theorem describe_current {s : Store} {workflowId current : String} {run : Run}
    (hcurrent : s.current workflowId = some current)
    (hrun : s.runs workflowId current = some run) (domain : String) :
    s.describe ⟨domain, workflowId, none⟩ = .ok ⟨current, run.isOpen, run.points⟩ := by
  simp [describe, resolve, currentRun?, run?, hcurrent, hrun, Except.bind, Except.map]

theorem built_empty (naming : String → Nat → String) : (empty naming).Built :=
  ⟨bounded_empty naming, fun _ _ _ hnone => nomatch hnone⟩

theorem Built.setCurrent {s : Store} (h : s.Built) (workflowId current : String) :
    (s.setCurrent workflowId current).Built := by
  refine ⟨h.bounded, fun workflowId' runId run hrun => ?_⟩
  simp only [Store.setCurrent]
  split
  · exact ⟨current, rfl⟩
  · exact h.headed workflowId' runId run hrun

theorem Built.insertRun {s : Store} (h : s.Built) (run : Run) : (s.insertRun run).Built := by
  refine ⟨h.bounded.insertRun run, fun workflowId runId found hfound => ?_⟩
  simp only [Store.insertRun, setRun, Store.setCurrent] at hfound ⊢
  by_cases hsame : workflowId = run.workflowId
  · exact ⟨run.runId, if_pos hsame⟩
  · rw [if_neg fun hboth => hsame hboth.1] at hfound
    rw [if_neg hsame]
    exact h.headed workflowId runId found hfound

theorem Step.built {s s' : Store} {entry : Option (ResetRequest × String)} (h : Step s s' entry)
    (hbuilt : s.Built) : s'.Built := by
  cases h with
  | kept failures calls => exact ⟨hbuilt.bounded, hbuilt.headed⟩
  | accepted calls r kept hkept =>
      have haccepted := hbuilt.insertRun (s.resetRun r kept)
      exact ⟨haccepted.bounded, haccepted.headed⟩

end Store

theorem Fixture.built_store (fixture : Fixture) (naming : String → Nat → String) :
    (fixture.store naming).Built :=
  fixture.store_keeps naming Store.Built (Store.built_empty naming)
    (fun _ hs run _ => hs.insertRun run)
    (fun _ hs workflowId current => hs.setCurrent workflowId current)
    (fun _ hs _ _ => ⟨hs.bounded, hs.headed⟩)

namespace Service

/-- All calls are in time, and no failures are scripted for them. -/
structure Quiet (s : Service) : Prop where
  inTime : s.missed? = none
  unscripted : ∀ method subject, s.store.failures method subject = []

/-- Calls leave a service quiet. -/
theorem Later.quiet {s t : Service} (h : s.Later t) (hquiet : s.Quiet) : t.Quiet :=
  ⟨h.missed?_eq.trans hquiet.inTime,
    fun method subject => h.failures_nil (hquiet.unscripted method subject)⟩

theorem Later.built {s t : Service} (h : s.Later t) (hbuilt : s.store.Built) : t.store.Built := by
  induction h with
  | same => exact hbuilt
  | @called t request _ ih => exact (t.call_step request).built ih

/-- A quiet service answers from a store, but for the calls that were counted. -/
structure Offers (home : Store) (s : Service) : Prop where
  quiet : s.Quiet
  store_eq : ∃ calls, s.store = { home with calls }

theorem Quiet.offers {s : Service} (h : s.Quiet) : Offers s.store s :=
  ⟨h, s.store.calls, rfl⟩

/-- A call that only looks is counted, and changes nothing else. -/
theorem Quiet.store_call_look {s : Service} (h : s.Quiet) (request : Request)
    (hlook : request.method ≠ .reset) :
    (s.call request).2.store = s.store.count request.method :=
  store_call_unscripted h.inTime request (h.unscripted request.method request.subject) hlook

/-- A call that only looks is answered from the store, and the next one is too. -/
theorem Offers.call_look {home : Store} {s : Service} (h : Offers home s) (request : Request)
    (hlook : request.method ≠ .reset) :
    (s.call request).1 = (home.serve request).1 ∧ Offers home (s.call request).2 := by
  obtain ⟨calls, hstore⟩ := h.store_eq
  have hfailures := h.quiet.unscripted request.method request.subject
  have hbehind := h.quiet.store_call_look request hlook
  refine ⟨?_, ⟨h.quiet.inTime, ?_⟩, calls.increment request.method, ?_⟩
  · rw [call_unscripted h.quiet.inTime request hfailures, hstore]
    cases request with
    | describe request | history request | scan request => rfl
    | reset request => exact absurd rfl hlook
  · rw [hbehind]
    exact h.quiet.unscripted
  · rw [hbehind, hstore]
    rfl

/-- Between two states of a service, a page of each of these runs' histories was asked for and given
out, in this order, and nothing else was. -/
structure Paged (workflowId : String) (runIds : List String) (s s' : Service) : Prop where
  journal : ∃ requests : List HistoryRequest,
    s'.journal = s.journal ++ requests.map (fun request => ⟨.history request, none⟩) ∧
    requests.map HistoryRequest.runId = runIds ∧
    ∀ request ∈ requests, request.workflowId = workflowId
  calls : s'.store.calls =
    { s.store.calls with getHistory := s.store.calls.getHistory + runIds.length }

namespace Paged

variable {workflowId : String} {runIds later : List String} {s t u : Service}

theorem refl (workflowId : String) (s : Service) : Paged workflowId [] s s :=
  ⟨⟨[], (List.append_nil _).symm, rfl, nofun⟩, rfl⟩

theorem trans (h : Paged workflowId runIds s t) (h' : Paged workflowId later t u) :
    Paged workflowId (runIds ++ later) s u := by
  obtain ⟨requests, hjournal, hruns, hworkflow⟩ := h.journal
  obtain ⟨requests', hjournal', hruns', hworkflow'⟩ := h'.journal
  constructor
  · refine ⟨requests ++ requests', ?_, ?_, ?_⟩
    · rw [hjournal', hjournal, List.map_append, List.append_assoc]
    · rw [List.map_append, hruns, hruns']
    · intro request hrequest
      exact (List.mem_append.mp hrequest).elim (hworkflow request) (hworkflow' request)
  · rw [h'.calls, h.calls, List.length_append, Nat.add_assoc]

end Paged

/-- A page of a history that the store has is given out. -/
theorem Offers.call_history {home : Store} {s : Service} (h : Offers home s)
    {request : HistoryRequest} {page : Page Event} (hpage : home.historyPage request = .ok page) :
    ∃ s', s.call (.history request) = (.ok page, s') ∧ Offers home s' ∧
      Paged request.workflowId [request.runId] s s' := by
  obtain ⟨hanswer, hbehind⟩ := h.call_look (.history request) nofun
  replace hanswer := hanswer.trans hpage
  refine ⟨_, Prod.ext hanswer rfl, hbehind, ⟨[request], ?_, rfl, by simp⟩, ?_⟩
  · have hfailure : failure? (s.call (.history request)).1 = none := by rw [hanswer]; rfl
    rw [List.map_singleton, ← hfailure]
    rfl
  · rw [h.quiet.store_call_look (.history request) nofun]
    rfl

end Service

namespace Procedure

variable {α β : Type} {home : Store}

/-- What follows a procedure that has a value goes on with it. -/
theorem run_bind_of_ok {procedure : Procedure α} {value : α} {s s' : Service}
    (h : procedure.run s = (.ok value, s')) (f : α → Procedure β) :
    (procedure >>= f).run s = (f value).run s' := by
  refine (Program.run_bind (ExceptT.run procedure) _ s).trans ?_
  rw [show Program.run (ExceptT.run procedure) s = (.ok value, s') from h]
  rfl

/-- A failure is passed on. -/
theorem run_bind_of_error {procedure : Procedure α} {error : ResetError} {s s' : Service}
    (h : procedure.run s = (.error error, s')) (f : α → Procedure β) :
    (procedure >>= f).run s = (.error error, s') := by
  refine (Program.run_bind (ExceptT.run procedure) _ s).trans ?_
  rw [show Program.run (ExceptT.run procedure) s = (.error error, s') from h]
  rfl

/-- A procedure that only looks has this result at every service that answers from a store. -/
def Gives (home : Store) (procedure : Procedure α) (result : Except ResetError α) : Prop :=
  ∀ s, Service.Offers home s → ∃ s', procedure.run s = (result, s') ∧ Service.Offers home s'

namespace Gives

theorem result_eq {procedure : Procedure α} {result : Except ResetError α}
    (h : Gives home procedure result) {s : Service} (hoffers : Service.Offers home s) :
    (procedure.run s).1 = result := by
  obtain ⟨s', hrun, -⟩ := h s hoffers
  rw [hrun]

theorem ofResult (result : Except ResetError α) : Gives home (.mk (Pure.pure result)) result :=
  fun s hoffers => ⟨s, rfl, hoffers⟩

theorem pure (value : α) : Gives home (Pure.pure value) (.ok value) :=
  ofResult (.ok value)

theorem throw (error : ResetError) : Gives home (throw error : Procedure α) (.error error) :=
  ofResult (.error error)

/-- What follows a procedure goes on with its value. -/
theorem bind {procedure : Procedure α} {f : α → Procedure β} {value : α}
    {result : Except ResetError β} (h : Gives home procedure (.ok value))
    (hf : Gives home (f value) result) : Gives home (procedure >>= f) result := by
  intro s hoffers
  obtain ⟨s', hrun, hbehind⟩ := h s hoffers
  obtain ⟨s'', hrun', hend⟩ := hf s' hbehind
  exact ⟨s'', (run_bind_of_ok hrun f).trans hrun', hend⟩

/-- A failure is passed on. -/
theorem bind_error {procedure : Procedure α} {f : α → Procedure β} {error : ResetError}
    (h : Gives home procedure (.error error)) : Gives home (procedure >>= f) (.error error) := by
  intro s hoffers
  obtain ⟨s', hrun, hbehind⟩ := h s hoffers
  exact ⟨s', run_bind_of_error hrun f, hbehind⟩

end Gives

/-- A procedure that asks for a page of each of these runs' histories, and for nothing else, has this
result at every service that answers from a store. -/
def Reads (home : Store) (workflowId : String) (runIds : List String) (procedure : Procedure α)
    (result : Except ResetError α) : Prop :=
  ∀ s, Service.Offers home s → ∃ s', procedure.run s = (result, s') ∧ Service.Offers home s' ∧
    s.Paged workflowId runIds s'

namespace Reads

variable {workflowId : String} {runIds later : List String} {procedure : Procedure α}

theorem gives {result : Except ResetError α} (h : Reads home workflowId runIds procedure result) :
    Gives home procedure result := by
  intro s hoffers
  obtain ⟨s', hrun, hbehind, -⟩ := h s hoffers
  exact ⟨s', hrun, hbehind⟩

theorem run {result : Except ResetError α} (h : Reads home workflowId runIds procedure result)
    {s : Service} (hoffers : Service.Offers home s) :
    (procedure.run s).1 = result ∧ s.Paged workflowId runIds (procedure.run s).2 := by
  obtain ⟨s', hrun, -, hpaged⟩ := h s hoffers
  rw [hrun]
  exact ⟨rfl, hpaged⟩

theorem ofResult (workflowId : String) (result : Except ResetError α) :
    Reads home workflowId [] (.mk (Pure.pure result)) result :=
  fun s hoffers => ⟨s, rfl, hoffers, .refl workflowId s⟩

theorem bind {f : α → Procedure β} {value : α} {result : Except ResetError β}
    (h : Reads home workflowId runIds procedure (.ok value))
    (hf : Reads home workflowId later (f value) result) :
    Reads home workflowId (runIds ++ later) (procedure >>= f) result := by
  intro s hoffers
  obtain ⟨s', hrun, hbehind, hpaged⟩ := h s hoffers
  obtain ⟨s'', hrun', hend, hpaged'⟩ := hf s' hbehind
  exact ⟨s'', (run_bind_of_ok hrun f).trans hrun', hend, hpaged.trans hpaged'⟩

end Reads

theorem describe_gives (home : Store) (request : DescribeRequest) :
    Gives home (describe request) ((home.describe request).mapError .service) := by
  intro s hoffers
  obtain ⟨hanswer, hbehind⟩ := hoffers.call_look (.describe request) nofun
  refine ⟨_, ?_, hbehind⟩
  have hanswer : (s.call (.describe request)).1 = home.describe request := hanswer
  rw [← hanswer]
  rfl

/-! ### Reading -/

section

variable {run : Run} {fetched : Nat} {cursor : HistoryCursor} {enough : List Event → Bool}

/-- So many pages hold all of a history, or enough of it. -/
def Suffice (history : List Event) (limit : Nat) (enough : List Event → Bool) (pages : Nat) : Prop :=
  (0 < pages ∧ history.length ≤ pages * limit) ∨ enough (history.take (pages * limit)) = true

theorem isSatisfied_iff {limit : Nat} (hat : Cursor.At run.history limit fetched 0 cursor.pages) :
    Program.isSatisfied cursor enough = true ↔ Suffice run.history limit enough fetched := by
  rw [Program.isSatisfied, Bool.or_eq_true, hat.exhausted, hat.buffered, List.drop_zero, Suffice]

/-- One page for each event, and one more, hold all of a history. -/
theorem suffice_length {limit : Nat} (hlimit : 0 < limit) (history : List Event)
    (enough : List Event → Bool) : Suffice history limit enough (history.length + 1) :=
  .inl ⟨Nat.succ_pos _,
    Nat.le_trans (Nat.le_succ _) (Nat.le_mul_of_pos_right (history.length + 1) hlimit)⟩

/-- Pages come in until they suffice, the same ones at every service that answers from the store. -/
theorem fetch_reads (enough : List Event → Bool) (cursor : HistoryCursor)
    (hresolved : home.resolve cursor.workflowId (some cursor.runId) = .ok run)
    (hshort : run.history.length < UInt64.size) {limit left : Nat}
    (hlimit : Paging.limit home.pageCap cursor.pageSize = limit)
    (hat : Cursor.At run.history limit fetched 0 cursor.pages)
    (hpages : IsLeast {pages | Suffice run.history limit enough pages} (fetched + left))
    {budget : Nat} (hbudget : left ≤ budget) :
    ∃ last, last.pages.buffered = run.history.take ((fetched + left) * limit) ∧
      ∀ s, Service.Offers home s → ∃ s', Program.fetch enough budget cursor s = (none, last, s') ∧
        Service.Offers home s' ∧
        s.Paged cursor.workflowId (List.replicate left cursor.runId) s' := by
  induction left generalizing cursor fetched budget with
  | zero =>
      exact ⟨cursor, hat.buffered, fun s hoffers =>
        ⟨s, Program.fetch_of_satisfied budget ((isSatisfied_iff hat).mpr hpages.1), hoffers,
          .refl _ s⟩⟩
  | succ left ih =>
      have hmore : Program.isSatisfied cursor enough = false := by
        rw [← Bool.not_eq_true, isSatisfied_iff hat]
        intro hsuffice
        have hleast := hpages.2 hsuffice
        omega
      have hopen : cursor.pages.exhausted = false := by
        rw [← Bool.not_eq_true]
        intro hover
        rw [Program.isSatisfied_of_exhausted enough hover] at hmore
        exact Bool.noConfusion hmore
      obtain ⟨budget, rfl⟩ : ∃ left, budget = left + 1 :=
        Nat.exists_eq_add_one.mpr (Nat.lt_of_lt_of_le (Nat.succ_pos left) hbudget)
      have hpage : home.historyPage cursor.request =
          .ok (Paging.page run.history (fetched * limit) limit) := by
        rw [← hlimit]
        exact Store.historyPage_of_resolve hresolved (hlimit ▸ hat.token hopen)
      obtain ⟨last, hfront, hfetch⟩ := ih (cursor.receive (Paging.page run.history _ _)) hresolved
        hlimit (hat.receive hshort hopen) (by rwa [Nat.add_assoc, Nat.add_comm 1])
        (Nat.le_of_succ_le_succ hbudget)
      refine ⟨last, ?_, fun s hoffers => ?_⟩
      · rw [hfront, Nat.add_assoc, Nat.add_comm 1]
      · obtain ⟨s', hcall, hbehind, hpaged⟩ := hoffers.call_history hpage
        obtain ⟨s'', hrest, hend, hpaged'⟩ := hfetch s' hbehind
        refine ⟨s'', ?_, hend, hpaged.trans hpaged'⟩
        simp only [Program.fetch, hmore, Bool.false_eq_true, if_false, hcall]
        exact hrest

end

variable {domain workflowId runId : String} {run : Run}

section

variable (hbounded : home.Bounded) (hresolved : home.resolve workflowId (some runId) = .ok run)
  (hshort : run.history.length < UInt64.size) (enough : List Event → Bool) (cursor : HistoryCursor)
  (hworkflow : cursor.workflowId = workflowId) (hrun : cursor.runId = runId)
  (hstart : cursor.pages = .start)

include hbounded hresolved hshort hworkflow hrun hstart

/-- Reading a history asks for the least number of pages that suffice. -/
theorem readUntil_reads {limit pages : Nat}
    (hlimit : Paging.limit home.pageCap cursor.pageSize = limit)
    (hpages : IsLeast {pages | Suffice run.history limit enough pages} pages) :
    Reads home workflowId (List.replicate pages runId) (readUntil enough cursor)
      (.ok (run.history.take (pages * limit))) := by
  subst hworkflow hrun
  have hat : Cursor.At run.history limit 0 0 cursor.pages := hstart ▸ .start _ _
  have hlength := Store.length_le_of_resolve hbounded hresolved
  have hfew : pages ≤ home.volume + 1 := Nat.le_trans
    (hpages.2 (suffice_length (hlimit ▸ Paging.limit_pos _ _) run.history enough)) (by omega)
  rw [← Nat.zero_add pages] at hpages
  intro s hoffers
  obtain ⟨last, hfront, hfetch⟩ :=
    fetch_reads enough cursor hresolved hshort hlimit hat hpages hfew
  obtain ⟨s', hrun, hbehind, hpaged⟩ := hfetch s hoffers
  rw [Nat.zero_add] at hfront
  refine ⟨s', ?_, hbehind, hpaged⟩
  have hbudget : Program.pageBudget s = home.volume + 1 := by
    obtain ⟨calls, hstore⟩ := hoffers.store_eq
    rw [Program.pageBudget, hstore]
  show Program.run (.read cursor enough _) s = _
  simp only [Program.run, hbudget, hrun, hfront]

/-- Reading a history brings a front of it, which is enough or all. -/
theorem readUntil_gives :
    ∃ events, events <+: run.history ∧ (events = run.history ∨ enough events = true) ∧
      Gives home (readUntil enough cursor) (.ok events) := by
  have hlimit := Paging.limit_pos home.pageCap cursor.pageSize
  have hsome : ∃ pages, Suffice run.history (Paging.limit home.pageCap cursor.pageSize) enough pages :=
    ⟨_, suffice_length hlimit run.history enough⟩
  classical
  have hleast := Nat.isLeast_find hsome
  refine ⟨_, List.take_prefix _ _, hleast.1.imp (fun hall => ?_) id,
    (readUntil_reads hbounded hresolved hshort enough cursor hworkflow hrun hstart rfl hleast).gives⟩
  exact List.take_of_length_le hall.2

end

theorem readAll_gives (hbounded : home.Bounded)
    (hresolved : home.resolve workflowId (some runId) = .ok run)
    (hshort : run.history.length < UInt64.size) :
    Gives home (readAll (.start domain workflowId runId)) (.ok run.history) := by
  obtain ⟨events, -, hend, hgives⟩ := readUntil_gives hbounded hresolved hshort (fun _ => false)
    (.start domain workflowId runId) rfl rfl rfl
  obtain rfl : events = run.history := by simpa using hend
  exact hgives

/-- The history of a run that is not there can not be read. -/
theorem readAll_gives_missing {error : ServiceError}
    (hmissing : home.resolve workflowId (some runId) = .error error) :
    Gives home (readAll (.start domain workflowId runId))
      (.error (.historyFetch workflowId runId error)) := by
  intro s hoffers
  obtain ⟨hanswer, hbehind⟩ := hoffers.call_look
    (.history (HistoryCursor.start domain workflowId runId).request) nofun
  refine ⟨_, ?_, hbehind⟩
  have hpage : home.historyPage (HistoryCursor.start domain workflowId runId).request =
      .error error := by
    have hoffset : Paging.offsetOf? (HistoryCursor.start domain workflowId runId).request.token =
        .ok 0 := rfl
    have hmissing : home.resolve (HistoryCursor.start domain workflowId runId).request.workflowId
        (some (HistoryCursor.start domain workflowId runId).request.runId) = .error error := hmissing
    rw [Store.historyPage, hoffset, hmissing]
    rfl
  have hanswer := hanswer.trans hpage
  show Program.run (.read (.start domain workflowId runId) (fun _ => false) _) s = _
  have hunread : Program.isSatisfied (.start domain workflowId runId) (fun _ => false) = false := rfl
  simp only [Program.run, Program.pageBudget, Program.fetch, hunread, Bool.false_eq_true, if_false]
  generalize s.call (.history (HistoryCursor.start domain workflowId runId).request) = called
    at hanswer
  obtain ⟨answer, behind⟩ := called
  obtain rfl := hanswer
  rfl

end Procedure

end Rewind
