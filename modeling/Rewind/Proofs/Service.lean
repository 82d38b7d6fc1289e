import Rewind.Service.Basic

/-!
What calls change of a service.

A call either accepts a reset, which adds a run, makes it the current one and puts the reset behind
those accepted before, or it leaves runs and resets as they are. The resets that were accepted on the
way from one store to a later one are its log.

Main statements: a call makes one of these steps (`Service.call_step`), the log is what was added to
the accepted resets (`Logs.resets_eq`), and under fresh run ids each of its entries has a run of its
own that was not there before (`Logs.made`, `Logs.keys_nodup`).
-/

namespace Rewind

/-- The reset that was accepted by a call with this answer, and the id of the run that it made. -/
def Request.accepted? :
    (request : Request) → Except ServiceError request.Response → Option (ResetRequest × String)
  | .reset request, .ok response => some (request, ResetResponse.newRunId response)
  | _, _ => none

@[simp] theorem Request.accepted?_error (request : Request) (error : ServiceError) :
    request.accepted? (.error error) = none := by
  cases request <;> rfl

/-- A call that only looks accepts no reset. -/
theorem Request.accepted?_look {request : Request} (hreset : request.method ≠ .reset)
    (answer : Except ServiceError request.Response) : request.accepted? answer = none := by
  cases request with
  | describe request | history request | scan request => cases answer <;> rfl
  | reset request => exact absurd rfl hreset

namespace Store

/-- The events that a reset keeps, if it can be accepted. -/
def keptEvents (s : Store) (r : ResetRequest) : Except ServiceError (List Event) :=
  (s.resolve r.workflowId (some r.runId)).bind fun base =>
    match historyThrough? r.eventId base.history with
    | none => .error ⟨.invalidArgument,
        s!"event {Decimal.signedText r.eventId} does not exist in {r.workflowId}/{r.runId}"⟩
    | some kept => .ok kept

theorem resolve_congr {s t : Store} {workflowId : String}
    (hruns : ∀ runId, s.runs workflowId runId = t.runs workflowId runId)
    (hcurrent : s.current workflowId = t.current workflowId) (runId : Option String) :
    s.resolve workflowId runId = t.resolve workflowId runId := by
  have hrun : s.run? workflowId = t.run? workflowId := by
    funext runId
    rw [run?, run?, hruns]
  rw [resolve, resolve, currentRun?, currentRun?, hcurrent, hrun]

/-- The store behind an accepted reset. -/
def accept (s : Store) (r : ResetRequest) (kept : List Event) : Store :=
  { s.insertRun (s.resetRun r kept) with resets := s.resets ++ [r] }

section

variable (s : Store) (r : ResetRequest) (kept : List Event) (workflowId runId : String)

@[simp] theorem accept_runs : (s.accept r kept).runs workflowId runId =
    if workflowId = r.workflowId ∧ runId = s.nextRunId r.workflowId then some (s.resetRun r kept)
    else s.runs workflowId runId := rfl

@[simp] theorem accept_current : (s.accept r kept).current workflowId =
    if workflowId = r.workflowId then some (s.nextRunId r.workflowId)
    else s.current workflowId := rfl

@[simp] theorem accept_resets : (s.accept r kept).resets = s.resets ++ [r] := rfl

theorem accept_resetCount : (s.accept r kept).resetCount workflowId =
    s.resetCount workflowId + if r.workflowId = workflowId then 1 else 0 := by
  simp [resetCount, List.countP_append, List.countP_singleton]

end

theorem reset_eq (s : Store) (r : ResetRequest) :
    s.reset r = match s.keptEvents r with
      | .error error => (.error error, s)
      | .ok kept => (.ok ⟨s.nextRunId r.workflowId⟩, s.accept r kept) := by
  unfold reset keptEvents
  cases s.resolve r.workflowId (some r.runId) with
  | error error => rfl
  | ok base =>
      simp only [Except.bind]
      cases historyThrough? r.eventId base.history <;> rfl

/-- What one call does to a store: it counts the call and uses up failures, and accepts a reset or
does nothing else. -/
inductive Step (s : Store) : Store → Option (ResetRequest × String) → Prop
  | kept (failures : Method → String → List ServiceError) (calls : CallCounts) :
      Step s { s with failures, calls } none
  | accepted (calls : CallCounts) (r : ResetRequest) (kept : List Event) :
      s.keptEvents r = .ok kept →
      Step s { s.accept r kept with calls } (some (r, s.nextRunId r.workflowId))

theorem call_step (s : Store) (q : Request) :
    Step s (s.call q).2 (q.accepted? (s.call q).1) := by
  unfold call
  cases hfailures : s.failures q.method q.subject with
  | cons error later =>
      simp only [Request.accepted?_error]
      exact .kept _ _
  | nil =>
      cases q with
      | describe r => exact .kept _ _
      | history r => exact .kept _ _
      | scan r => exact .kept _ _
      | reset r =>
          simp only [serve, reset_eq]
          have hkept : (s.count (Request.reset r).method).keptEvents r = s.keptEvents r := rfl
          cases hevents : s.keptEvents r with
          | error error =>
              rw [hkept, hevents]
              exact .kept _ _
          | ok kept =>
              rw [hkept, hevents]
              exact .accepted _ r kept hevents

/-! ### Logs -/

/-- The resets that were accepted on the way from one store to another, with the runs they made. -/
inductive Logs (before : Store) : Store → List (ResetRequest × String) → Prop
  | start : Logs before before []
  | step {s s' : Store} {log : List (ResetRequest × String)}
      {entry : Option (ResetRequest × String)} :
      Logs before s log → Step s s' entry → Logs before s' (log ++ entry.toList)

/-- The run that an entry of a log is about. -/
def runKey (entry : ResetRequest × String) : String × String :=
  (entry.1.workflowId, entry.2)

/-- The run ids that are still to be given out are distinct, and none of them is in use. -/
structure Fresh (s : Store) : Prop where
  distinct : ∀ workflowId m n, s.naming workflowId m = s.naming workflowId n → m = n
  unused : ∀ workflowId n, s.resetCount workflowId < n →
    s.runs workflowId (s.naming workflowId n) = none

namespace Logs

variable {before after : Store} {log : List (ResetRequest × String)}

/-- The log is what was added to the accepted resets. -/
theorem resets_eq (h : Logs before after log) :
    after.resets = before.resets ++ log.map Prod.fst := by
  induction h with
  | start => simp
  | step h hstep ih =>
      cases hstep with
      | kept failures calls => simpa using ih
      | accepted calls r kept hkept => simp [ih]

theorem naming_eq (h : Logs before after log) : after.naming = before.naming := by
  induction h with
  | start => rfl
  | step h hstep ih => cases hstep <;> exact ih

theorem resetCount_eq (h : Logs before after log) (workflowId : String) :
    after.resetCount workflowId =
      before.resetCount workflowId + log.countP (·.1.workflowId = workflowId) := by
  simp only [resetCount, h.resets_eq, List.countP_append, List.countP_map]
  rfl

/-- Entries bear the numbers behind the resets of their workflow that were accepted before. -/
theorem numbered (h : Logs before after log) {entry : ResetRequest × String}
    (hentry : entry ∈ log) :
    ∃ n, before.resetCount entry.1.workflowId < n ∧ n ≤ after.resetCount entry.1.workflowId ∧
      entry.2 = before.naming entry.1.workflowId n := by
  induction h with
  | start => simp at hentry
  | @step s s' log _ h hstep ih =>
      cases hstep with
      | kept failures calls => exact ih (by simpa using hentry)
      | accepted calls r kept hkept =>
          have hcount (workflowId : String) :
              resetCount { s.accept r kept with calls } workflowId =
                s.resetCount workflowId + if r.workflowId = workflowId then 1 else 0 :=
            s.accept_resetCount r kept workflowId
          rw [Option.toList_some, List.mem_append, List.mem_singleton] at hentry
          rcases hentry with hold | rfl
          · obtain ⟨n, hfirst, hlast, hname⟩ := ih hold
            exact ⟨n, hfirst, by rw [hcount]; omega, hname⟩
          · refine ⟨s.resetCount r.workflowId + 1, ?_, ?_, ?_⟩
            · have hgrown := h.resetCount_eq r.workflowId
              simp only
              omega
            · apply Nat.le_of_eq
              rw [hcount, if_pos rfl]
            · rw [nextRunId, h.naming_eq]

/-- A new entry is not about the run of an older one. -/
theorem runKey_ne (h : Logs before after log) (hfresh : before.Fresh)
    {entry : ResetRequest × String} (hentry : entry ∈ log) (r : ResetRequest) :
    runKey entry ≠ (r.workflowId, after.nextRunId r.workflowId) := by
  intro heq
  obtain ⟨n, -, hlast, hname⟩ := h.numbered hentry
  obtain ⟨hworkflow, hrun⟩ := Prod.mk.inj heq
  rw [hname, nextRunId, h.naming_eq, hworkflow] at hrun
  have hnumber := hfresh.distinct _ _ _ hrun
  rw [hworkflow] at hlast
  omega

/-- No two entries are about one run. -/
theorem keys_nodup (h : Logs before after log) (hfresh : before.Fresh) :
    (log.map runKey).Nodup := by
  induction h with
  | start => simp
  | step h hstep ih =>
      cases hstep with
      | kept failures calls => simpa using ih
      | accepted calls r kept hkept =>
          simp only [Option.toList_some, List.map_append, List.map_cons, List.map_nil]
          rw [List.nodup_append]
          refine ⟨ih, by simp, ?_⟩
          rintro key hmem _ hnew rfl
          rw [List.mem_singleton] at hnew
          subst hnew
          obtain ⟨entry, hentry, heq⟩ := List.mem_map.mp hmem
          exact h.runKey_ne hfresh hentry r heq

/-- Runs that no entry is about are as before. -/
theorem runs_eq (h : Logs before after log) {workflowId runId : String}
    (hnone : (workflowId, runId) ∉ log.map runKey) :
    after.runs workflowId runId = before.runs workflowId runId := by
  induction h with
  | start => rfl
  | step h hstep ih =>
      cases hstep with
      | kept failures calls => exact ih (by simpa using hnone)
      | accepted calls r kept hkept =>
          simp only [Option.toList_some, List.map_append, List.map_cons, List.map_nil,
            List.mem_append, List.mem_singleton, not_or, runKey, Prod.mk.injEq] at hnone
          rw [← ih hnone.1]
          simp only [accept_runs]
          rw [if_neg hnone.2]

theorem current_eq (h : Logs before after log) {workflowId : String}
    (hnone : workflowId ∉ log.map (·.1.workflowId)) :
    after.current workflowId = before.current workflowId := by
  induction h with
  | start => rfl
  | step h hstep ih =>
      cases hstep with
      | kept failures calls => exact ih (by simpa using hnone)
      | accepted calls r kept hkept =>
          simp only [Option.toList_some, List.map_append, List.map_cons, List.map_nil,
            List.mem_append, List.mem_singleton, not_or] at hnone
          rw [← ih hnone.1]
          simp only [accept_current]
          rw [if_neg hnone.2]

/-- Workflows that no entry is about are as before. -/
theorem unreset (h : Logs before after log) {workflowId : String}
    (hnone : workflowId ∉ log.map (·.1.workflowId)) :
    (∀ runId, after.runs workflowId runId = before.runs workflowId runId) ∧
      after.current workflowId = before.current workflowId ∧
        after.nextRunId workflowId = before.nextRunId workflowId := by
  refine ⟨?_, h.current_eq hnone, ?_⟩
  · intro runId
    apply h.runs_eq
    intro hmem
    obtain ⟨entry, hentry, hkey⟩ := List.mem_map.mp hmem
    exact hnone (List.mem_map.mpr ⟨entry, hentry, congrArg Prod.fst hkey⟩)
  · have hcount : log.countP (·.1.workflowId = workflowId) = 0 := by
      rw [List.countP_eq_zero]
      intro entry hentry heq
      exact hnone (List.mem_map.mpr ⟨entry, hentry, by simpa using heq⟩)
    rw [nextRunId, nextRunId, h.naming_eq, h.resetCount_eq, hcount, Nat.add_zero]

theorem visibility_eq (h : Logs before after log) : after.visibility = before.visibility := by
  induction h with
  | start => rfl
  | step h hstep ih => cases hstep <;> exact ih

/-- Where nothing was accepted, all runs and resets are as before. -/
theorem unchanged (h : Logs before after []) :
    after.runs = before.runs ∧ after.current = before.current ∧ after.resets = before.resets := by
  refine ⟨?_, ?_, by simpa using h.resets_eq⟩
  · funext workflowId runId
    exact (h.unreset (by simp)).1 runId
  · funext workflowId
    exact h.current_eq (by simp)

/-- If no workflow has two entries, each entry has made its run out of what was there before. -/
theorem once (h : Logs before after log) (hnodup : (log.map (·.1.workflowId)).Nodup)
    {entry : ResetRequest × String} (hentry : entry ∈ log) :
    ∃ kept, before.keptEvents entry.1 = .ok kept ∧
      entry.2 = before.nextRunId entry.1.workflowId ∧
      after.current entry.1.workflowId = some entry.2 ∧
      ∀ runId, after.runs entry.1.workflowId runId =
        if runId = entry.2 then some (before.resetRun entry.1 kept)
        else before.runs entry.1.workflowId runId := by
  induction h with
  | start => simp at hentry
  | @step s s' log _ h hstep ih =>
      cases hstep with
      | kept failures calls => exact ih (by simpa using hnodup) (by simpa using hentry)
      | accepted calls r kept hkept =>
          simp only [Option.toList_some, List.map_append, List.map_cons, List.map_nil,
            List.nodup_append, List.mem_singleton] at hnodup
          obtain ⟨hnodup, -, hnew⟩ := hnodup
          rw [Option.toList_some, List.mem_append, List.mem_singleton] at hentry
          simp only [accept_current, accept_runs]
          rcases hentry with hold | rfl
          · have hne : entry.1.workflowId ≠ r.workflowId :=
              hnew _ (List.mem_map.mpr ⟨entry, hold, rfl⟩) _ rfl
            obtain ⟨kept', hkept', hname, hcurrent, hruns⟩ := ih hnodup hold
            refine ⟨kept', hkept', hname, ?_, ?_⟩
            · rw [if_neg hne, hcurrent]
            · intro runId
              rw [if_neg (fun heq => hne heq.1), hruns]
          · -- The new entry is the first one of its workflow, which is as it was before.
            have hnone : r.workflowId ∉ log.map (·.1.workflowId) :=
              fun hmem => hnew _ hmem _ rfl rfl
            obtain ⟨hruns, hcurrent, hnext⟩ := h.unreset hnone
            have hevents : before.keptEvents r = s.keptEvents r := by
              rw [keptEvents, keptEvents, resolve_congr hruns hcurrent]
            refine ⟨kept, hevents.trans hkept, hnext, by rw [if_pos rfl], ?_⟩
            intro runId
            simp only [true_and, resetRun, hnext, hruns]

/-- Each entry has made a run that was not there before, and that run still stands. -/
theorem made (h : Logs before after log) (hfresh : before.Fresh)
    {entry : ResetRequest × String} (hentry : entry ∈ log) :
    before.runs entry.1.workflowId entry.2 = none ∧
      ∃ kept, after.runs entry.1.workflowId entry.2 =
        some ⟨entry.1.workflowId, entry.2, true, [], kept ++ resetEvents entry.1⟩ := by
  constructor
  · obtain ⟨n, hfirst, -, hname⟩ := h.numbered hentry
    rw [hname]
    exact hfresh.unused _ _ hfirst
  · induction h with
    | start => simp at hentry
    | step h hstep ih =>
        cases hstep with
        | kept failures calls => exact ih (by simpa using hentry)
        | accepted calls r kept hkept =>
            simp only [accept_runs]
            rw [Option.toList_some, List.mem_append, List.mem_singleton] at hentry
            rcases hentry with hold | rfl
            · have hne := h.runKey_ne hfresh hold r
              rw [runKey, Ne, Prod.mk.injEq] at hne
              rw [if_neg hne]
              exact ih hold
            · exact ⟨kept, by simp [resetRun]⟩

/-- A workflow has the run of its last reset as its current one, and it is open. -/
theorem current_isOpen (h : Logs before after log) {entry : ResetRequest × String}
    (hentry : entry ∈ log) :
    ∃ runId run, after.current entry.1.workflowId = some runId ∧
      after.runs entry.1.workflowId runId = some run ∧ run.isOpen := by
  induction h with
  | start => simp at hentry
  | step h hstep ih =>
      cases hstep with
      | kept failures calls => exact ih (by simpa using hentry)
      | accepted calls r kept hkept =>
          simp only [accept_current, accept_runs]
          by_cases hsame : entry.1.workflowId = r.workflowId
          · exact ⟨_, _, if_pos hsame, if_pos ⟨hsame, rfl⟩, rfl⟩
          · rw [Option.toList_some, List.mem_append, List.mem_singleton] at hentry
            rcases hentry with hold | rfl
            · obtain ⟨runId, run, hcurrent, hrun, hopen⟩ := ih hold
              exact ⟨runId, run, by rw [if_neg hsame, hcurrent],
                by rw [if_neg (fun heq => hsame heq.1), hrun], hopen⟩
            · exact absurd rfl hsame

end Logs

end Store

namespace Service

/-- A call that misses its deadline does nothing to the store. -/
theorem call_step (s : Service) (q : Request) :
    Store.Step s.store (s.call q).2.store (q.accepted? (s.call q).1) := by
  simp only [call, answer]
  cases s.missed? with
  | none => exact s.store.call_step q
  | some deadline =>
      simp only [Request.accepted?_error]
      exact .kept _ _

/-- The store behind an accepted reset. -/
theorem exists_accept {s : Service} {r : ResetRequest} {response : ResetResponse}
    (haccepted : (s.call (.reset r)).1 = .ok response) :
    ∃ kept calls, s.store.keptEvents r = .ok kept ∧
      response.newRunId = s.store.nextRunId r.workflowId ∧
      (s.call (.reset r)).2.store = { s.store.accept r kept with calls } := by
  have hstep := s.call_step (.reset r)
  rw [haccepted] at hstep
  generalize (s.call (.reset r)).2.store = after at hstep ⊢
  generalize hentry : (Request.reset r).accepted? (.ok response) = entry at hstep
  cases hstep with
  | kept => exact absurd hentry (by simp [Request.accepted?])
  | accepted calls r' kept hkept =>
      obtain ⟨rfl, hid⟩ := Prod.mk.inj (Option.some.inj hentry)
      exact ⟨kept, calls, hkept, hid, rfl⟩

@[simp] theorem length_journal_call (s : Service) (q : Request) :
    (s.call q).2.journal.length = s.journal.length + 1 := by
  simp [call]

end Service

end Rewind
