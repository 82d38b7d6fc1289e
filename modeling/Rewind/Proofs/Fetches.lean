import Rewind.Proofs.Resolve

/-!
How many pages the strategies ask for.

Reading up to the first completed workflow task asks for the pages up to the one that holds it, and for
no further one, wherever the pages are cut. Without such a task all pages are asked for, one at least.
The run that a run continues is told by a first page of one event.

Main statement: `Strategy.fetches_exact`.
-/

namespace Rewind

variable {home : Store} {workflowId runId : String} {run : Run} {limit : Nat}

/-! ### Pages that suffice -/

/-- So many entries fit on as many pages as they fill. -/
theorem Paging.le_mul_iff (hlimit : 0 < limit) {entries pages : Nat} :
    entries ≤ pages * limit ↔ (entries + limit - 1) / limit ≤ pages := by
  rw [Nat.div_le_iff_le_mul_add_pred hlimit, Nat.mul_comm pages]
  omega

namespace Procedure

/-- All pages of a history, one at least, are needed if nothing is enough. -/
theorem isLeast_all (hlimit : 0 < limit) (history : List Event) (enough : List Event → Bool)
    (hnever : ∀ pages, enough (history.take (pages * limit)) = false) :
    IsLeast {pages | Suffice history limit enough pages}
      (max 1 ((history.length + limit - 1) / limit)) := by
  have hsuffice (pages : Nat) : Suffice history limit enough pages ↔
      max 1 ((history.length + limit - 1) / limit) ≤ pages := by
    rw [Suffice, hnever, Paging.le_mul_iff hlimit]
    simp [Nat.succ_le_iff]
  exact ⟨(hsuffice _).mpr (Nat.le_refl _), fun pages hpages => (hsuffice pages).mp hpages⟩

/-- The pages up to the one with the first completed task are enough to know it. -/
theorem isLeast_first (hlimit : 0 < limit) {history front back : List Event} {event : Event}
    (hhistory : history = front ++ event :: back) (hcompleted : event.kind = .taskCompleted)
    (hfirst : ∀ earlier ∈ front, earlier.kind ≠ .taskCompleted) :
    IsLeast
      {pages | Suffice history limit (fun events => (FirstTaskScan.ofEvents events).isFinal) pages}
      ((front.length + 1 + limit - 1) / limit) := by
  subst hhistory
  have hfinal (entries : Nat) :
      (FirstTaskScan.ofEvents ((front ++ event :: back).take entries)).isFinal = true ↔
        front.length + 1 ≤ entries := by
    rw [FirstTaskScan.isFinal_ofEvents]
    constructor
    · rintro ⟨found, hfound, hkind⟩
      by_contra hless
      rw [List.take_append_of_le_length (by omega)] at hfound
      exact hfirst found (List.mem_of_mem_take hfound) hkind
    · intro hmore
      refine ⟨event, ?_, hcompleted⟩
      rw [List.append_cons, List.take_append, List.take_of_length_le (by simpa using hmore)]
      simp
  have hsuffice (pages : Nat) : Suffice (front ++ event :: back) limit
      (fun events => (FirstTaskScan.ofEvents events).isFinal) pages ↔
      (front.length + 1 + limit - 1) / limit ≤ pages := by
    rw [Suffice, hfinal, ← Paging.le_mul_iff hlimit, List.length_append, List.length_cons]
    omega
  exact ⟨(hsuffice _).mpr (Nat.le_refl _), fun pages hpages => (hsuffice pages).mp hpages⟩

/-- One page is enough to know the first event, or that there is none. -/
theorem isLeast_head (hlimit : 0 < limit) (history : List Event) :
    IsLeast {pages | Suffice history limit (fun events => !events.isEmpty) pages} 1 := by
  constructor
  · cases history with
    | nil => exact .inl ⟨Nat.one_pos, Nat.zero_le _⟩
    | cons event later =>
        right
        obtain ⟨size, rfl⟩ := Nat.exists_eq_add_one.mpr hlimit
        rw [Nat.one_mul, List.take_succ_cons]
        rfl
  · rintro pages (⟨hpages, -⟩ | hsome)
    · exact hpages
    · rw [Nat.one_le_iff_ne_zero]
      rintro rfl
      simp at hsome

end Procedure

/-! ### Pages that the strategies ask for -/

namespace Strategy

section

variable (hbounded : home.Bounded) (hid : runId ≠ "") (domain : String)
  (hrun : home.runs workflowId runId = some run) (hshort : run.history.length < UInt64.size)

include hbounded hid hrun hshort

theorem firstTask_reads {pages : Nat}
    (hlimit : Paging.limit home.pageCap defaultPageSize = limit)
    (hpages : IsLeast
      {pages | Procedure.Suffice run.history limit
        (fun events => (FirstTaskScan.ofEvents events).isFinal) pages} pages) :
    (firstTask domain workflowId runId).Reads home workflowId (List.replicate pages runId)
      (anchorAt workflowId runId (FirstTaskScan.ofEvents run.history).eventId?) := by
  have hresolved : home.resolve workflowId (some runId) = .ok run := by
    rw [Store.resolve_named hid, Store.run?_of_some hrun]
  have hreads := Procedure.readUntil_reads hbounded hresolved hshort _
    (.start domain workflowId runId) rfl rfl rfl hlimit hpages
  -- The events that were not read would not have changed the scan.
  have hscan : FirstTaskScan.ofEvents (run.history.take (pages * limit)) =
      FirstTaskScan.ofEvents run.history := by
    rcases hpages.1 with hall | hfinal
    · rw [List.take_of_length_le hall.2]
    · conv_rhs => rw [← List.take_append_drop (pages * limit) run.history]
      rw [FirstTaskScan.ofEvents_append hfinal]
  rw [← hscan, ← List.append_nil (List.replicate pages runId)]
  exact hreads.bind (.ofResult workflowId _)

theorem lastTask_reads (hlimit : Paging.limit home.pageCap defaultPageSize = limit) :
    (lastTask domain workflowId runId).Reads home workflowId
      (List.replicate (max 1 ((run.history.length + limit - 1) / limit)) runId)
      (anchorAt workflowId runId (LastTaskScan.ofEvents run.history).eventId?) := by
  have hresolved : home.resolve workflowId (some runId) = .ok run := by
    rw [Store.resolve_named hid, Store.run?_of_some hrun]
  have hpages := Procedure.isLeast_all (hlimit ▸ Paging.limit_pos _ _) run.history (fun _ => false)
    fun _ => rfl
  have hreads := Procedure.readUntil_reads hbounded hresolved hshort _
    (.start domain workflowId runId) rfl rfl rfl hlimit hpages
  have hall : run.history.take (max 1 ((run.history.length + limit - 1) / limit) * limit) =
      run.history := by
    rcases hpages.1 with hall | hnever
    · exact List.take_of_length_le hall.2
    · exact absurd hnever Bool.false_ne_true
  rw [hall] at hreads
  rw [← List.append_nil (List.replicate _ runId)]
  exact hreads.bind (.ofResult workflowId _)

theorem lastTaskOfContinued_reads {later : List String} {result : Except ResetError ResetAnchor}
    (hlater : match continuedRun? run.history with
      | some continued => (lastTask domain workflowId continued).Reads home workflowId later result
      | none => later = [] ∧ result = .error (.notContinued workflowId runId)) :
    (lastTaskOfContinued domain workflowId runId).Reads home workflowId (runId :: later) result := by
  have hresolved : home.resolve workflowId (some runId) = .ok run := by
    rw [Store.resolve_named hid, Store.run?_of_some hrun]
  have hpositive := Paging.limit_pos home.pageCap 1
  have hlimit : Paging.limit home.pageCap
      ((HistoryCursor.start domain workflowId runId).withPageSize 1).pageSize =
      Paging.limit home.pageCap 1 := rfl
  have hreads := Procedure.readUntil_reads hbounded hresolved hshort _ _ rfl rfl rfl hlimit
    (Procedure.isLeast_head hpositive run.history)
  refine hreads.bind ?_
  have hfirst : continuedRun? (run.history.take (1 * Paging.limit home.pageCap 1)) =
      continuedRun? run.history := by
    rw [continuedRun?, continuedRun?, List.head?_take, if_neg (by omega)]
  rw [← hfirst] at hlater
  cases hcontinued : continuedRun? (run.history.take (1 * Paging.limit home.pageCap 1)) with
  | some continued =>
      rw [hcontinued] at hlater
      exact hlater
  | none =>
      rw [hcontinued] at hlater
      obtain ⟨rfl, rfl⟩ := hlater
      exact .ofResult workflowId _

end

/-- The first workflow task is found as in the whole history, by asking for the pages up to the one
with the first completed task and for no further one, or for all pages, and one at least, if there is
none. One page tells which run is continued, if one is; all pages of that run are asked for then. A
history in memory has fewer events than a machine word can count. -/
theorem fetches_exact {s : Service} (hquiet : s.Quiet) (hbounded : s.store.Bounded)
    (hshort : ∀ runId run, s.store.runs workflowId runId = some run →
      run.history.length < UInt64.size)
    (hcap : 1 ≤ s.store.pageCap) (hid : runId ≠ "")
    (hrun : s.store.runs workflowId runId = some run) (domain : String) :
    let pageSize := min 1000 s.store.pageCap
    let first := (firstWorkflowTask.resolve domain workflowId runId).run s
    let continued := (lastContinuedAsNew.resolve domain workflowId runId).run s
    first.1 = anchorAt workflowId runId (FirstTaskScan.ofEvents run.history).eventId? ∧
    (∀ front event back, run.history = front ++ event :: back → event.kind = .taskCompleted →
      (∀ earlier ∈ front, earlier.kind ≠ .taskCompleted) →
      s.Paged workflowId
        (List.replicate ((front.length + 1 + pageSize - 1) / pageSize) runId) first.2) ∧
    ((∀ event ∈ run.history, event.kind ≠ .taskCompleted) →
      s.Paged workflowId
        (List.replicate (max 1 ((run.history.length + pageSize - 1) / pageSize)) runId) first.2) ∧
    ((∀ baseId, ¬ Continues run.history baseId) → s.Paged workflowId [runId] continued.2) ∧
    ∀ baseId base, Continues run.history baseId → s.store.runs workflowId baseId = some base →
      s.Paged workflowId
        (runId :: List.replicate (max 1 ((base.history.length + pageSize - 1) / pageSize)) baseId)
        continued.2 := by
  intro pageSize first continued
  have hlimit : Paging.limit s.store.pageCap defaultPageSize = pageSize :=
    Nat.max_eq_right (Nat.le_min.mpr ⟨by decide, hcap⟩)
  have hpositive : 0 < pageSize := hlimit ▸ Paging.limit_pos _ _
  have hshort' := hshort _ _ hrun
  refine ⟨?_, ?_, ?_, ?_, ?_⟩
  · rw [anchorAt_first]
    exact (firstTask_gives hbounded hid domain hrun hshort').result_eq hquiet.offers
  · intro front event back hhistory hcompleted hearlier
    have hpages := Procedure.isLeast_first hpositive hhistory hcompleted hearlier
    exact ((firstTask_reads hbounded hid domain hrun hshort' hlimit hpages).run hquiet.offers).2
  · intro hnone
    have hpages := Procedure.isLeast_all hpositive run.history
      (fun events => (FirstTaskScan.ofEvents events).isFinal) fun pages => by
        rw [← Bool.not_eq_true, FirstTaskScan.isFinal_ofEvents]
        rintro ⟨event, hevent, hkind⟩
        exact hnone event (List.mem_of_mem_take hevent) hkind
    exact ((firstTask_reads hbounded hid domain hrun hshort' hlimit hpages).run hquiet.offers).2
  · intro hnone
    have hfound : continuedRun? run.history = none :=
      Option.eq_none_iff_forall_ne_some.mpr fun baseId hfound =>
        hnone baseId (continuedRun?_eq_some_iff.mp hfound)
    have hreads : (lastTaskOfContinued domain workflowId runId).Reads s.store workflowId [runId]
        (.error (.notContinued workflowId runId)) := by
      refine lastTaskOfContinued_reads hbounded hid domain hrun hshort' ?_
      rw [hfound]
      exact ⟨rfl, rfl⟩
    exact (hreads.run hquiet.offers).2
  · intro baseId base hcontinues hbase
    have hfound := continuedRun?_eq_some_iff.mpr hcontinues
    obtain ⟨-, -, -, -, hnamed⟩ := hcontinues
    have hreads : (lastTaskOfContinued domain workflowId runId).Reads s.store workflowId
        (runId :: List.replicate (max 1 ((base.history.length + pageSize - 1) / pageSize)) baseId)
        (anchorAt workflowId baseId (LastTaskScan.ofEvents base.history).eventId?) := by
      refine lastTaskOfContinued_reads hbounded hid domain hrun hshort' ?_
      rw [hfound]
      exact lastTask_reads hbounded hnamed domain hbase (hshort _ _ hbase) hlimit
    exact (hreads.run hquiet.offers).2

/-- With three events to a page, the third event of the new run decides, so one page is enough; the old
run has four events on two pages. -/
theorem fetches_exact_continued :
    let first := (firstWorkflowTask.resolve "default" "pay" "new").run continuedService
    let continued := (lastContinuedAsNew.resolve "default" "pay" "new").run continuedService
    first.1 = .ok ⟨"new", 3⟩ ∧ continuedService.Paged "pay" ["new"] first.2 ∧
      continuedService.Paged "pay" ["new", "old", "old"] continued.2 := by
  intro first continued
  have hbounded : continuedService.store.Bounded :=
    (continuedFixture.built_store Store.sampleNaming).bounded
  have hshort : ∀ runId run, continuedService.store.runs "pay" runId = some run →
      run.history.length < UInt64.size :=
    fun runId run hrun => Nat.lt_of_le_of_lt (hbounded _ _ _ hrun) (by decide)
  have hquiet : continuedService.Quiet := ⟨rfl, fun _ _ => rfl⟩
  have hnamed : "new" ≠ "" := by decide
  obtain ⟨hresult, hsplit, -, -, hbase⟩ :=
    fetches_exact hquiet hbounded hshort (by decide) hnamed rfl "default"
  refine ⟨hresult.trans rfl, ?_, ?_⟩
  · exact hsplit [.started 1 (some "old"), .taskScheduled 2] (.taskCompleted 3 2) [.taskCompleted 7 6]
      rfl rfl (by simp [Event.started, Event.taskScheduled, Event.plain])
  · exact hbase "old" _ ⟨_, _, rfl, rfl, by decide⟩ rfl

end Strategy

end Rewind
