import Rewind.Proofs.Charges
import Rewind.Proofs.Reading
import Rewind.Retry

/-!
Programs amid the calls of others.

Between two calls of a program the service may answer any calls of others, so a program is looked at
from a service on: each of its calls is answered by some later service, and it goes on from the service
behind that call. Only moments up to a last one are considered, so what is known of the last moment is
known of all of them.

Main statements: `Amid.next` and `Amid.later` for the steps of a program and those of others,
`Amid.bind` and `Amid.exceptBind` for its parts, and `readAll_amid` for reading a history.
-/

namespace Rewind

namespace Service

/-- A service behind some calls, whoever made them. -/
inductive Later (s : Service) : Service → Prop
  | same : Later s s
  | called {t : Service} (request : Request) : Later s t → Later s (t.call request).2

namespace Later

variable {s t u : Service}

theorem trans (h : s.Later t) (h' : t.Later u) : s.Later u := by
  induction h' with
  | same => exact h
  | called request _ ih => exact .called request ih

theorem call (s : Service) (request : Request) : s.Later (s.call request).2 :=
  .called request .same

theorem missed?_eq (h : s.Later t) : t.missed? = s.missed? := by
  induction h with
  | same => rfl
  | called request _ ih => exact ih

theorem exists_logs (h : s.Later t) : ∃ log, Store.Logs s.store t.store log := by
  induction h with
  | same => exact ⟨[], .start⟩
  | @called t request _ ih =>
      obtain ⟨log, hlog⟩ := ih
      exact ⟨_, hlog.step (t.call_step request)⟩

theorem fresh (h : s.Later t) (hfresh : s.store.Fresh) : t.store.Fresh := by
  obtain ⟨log, hlog⟩ := h.exists_logs
  exact hlog.fresh hfresh

/-- A run that was there is there later, and is as it was. -/
theorem runs_kept (h : s.Later t) (hfresh : s.store.Fresh) {workflowId runId : String} {run : Run}
    (hrun : s.store.runs workflowId runId = some run) :
    t.store.runs workflowId runId = some run := by
  obtain ⟨log, hlog⟩ := h.exists_logs
  exact hlog.runs_kept hfresh hrun

theorem pageCap_eq (h : s.Later t) : t.store.pageCap = s.store.pageCap := by
  induction h with
  | same => rfl
  | @called t request _ ih => rw [(t.call_step request).pageCap_eq, ih]

theorem exists_charges (h : s.Later t) : ∃ charges, s.Charged charges t := by
  induction h with
  | same => exact ⟨[], .refl s⟩
  | called request _ ih =>
      obtain ⟨charges, hcharged⟩ := ih
      exact ⟨_, hcharged.call request⟩

/-- Calls script no failures. -/
theorem failures_nil (h : s.Later t) {method : Method} {subject : String}
    (hnil : s.store.failures method subject = []) : t.store.failures method subject = [] := by
  obtain ⟨charges, hcharged⟩ := h.exists_charges
  rw [hcharged.store.failures, hnil, List.drop_nil]

end Later

/-- A call is answered by the store, or fails. It fails only if calls miss their deadlines or failures
are scripted for it. -/
theorem call_cases (s : Service) (request : Request) :
    (s.call request).1 = ((s.store.count request.method).serve request).1 ∨
    ∃ error, (s.call request).1 = .error error ∧
      (s.missed? = none → s.store.failures request.method request.subject ≠ []) := by
  cases htime : s.missed? with
  | some deadline => exact .inr ⟨timeout request.method deadline, by simp [call, answer, htime], nofun⟩
  | none =>
      cases hfailures : s.store.failures request.method request.subject with
      | nil => exact .inl (call_unscripted htime request hfailures)
      | cons error later =>
          exact .inr ⟨error, (call_scripted htime request hfailures).1, fun _ => by simp⟩

end Service

namespace Program

variable {α β : Type} {final s t : Service}

/-- How a program ends while others call the service too, from some moment up to a last one. -/
inductive Amid (final : Service) (ends : α → Prop) : Service → Program α → Prop
  | done {s : Service} {value : α} : (s.Later final → ends value) → Amid final ends s (.done value)
  | call {s : Service} {request : Request}
      {resume : Except ServiceError request.Response → Program α} :
      (∀ t, s.Later t → (t.call request).2.Later final →
        Amid final ends (t.call request).2 (resume (t.call request).1)) →
      Amid final ends s (.call request resume)
  | pause {s : Service} {resume : Unit → Program α} :
      Amid final ends s (resume ()) → Amid final ends s (.pause resume)
  | read {s : Service} {cursor : HistoryCursor} {enough : List Event → Bool}
      {resume : Option ServiceError → HistoryCursor → Program α} :
      (isSatisfied cursor enough = true → Amid final ends s (resume none cursor)) →
      (∀ t page, isSatisfied cursor enough = false → s.Later t →
        (t.call (.history cursor.request)).2.Later final →
        (t.call (.history cursor.request)).1 = .ok page →
        Amid final ends (t.call (.history cursor.request)).2
          (.read (cursor.receive page) enough resume)) →
      (∀ t error, isSatisfied cursor enough = false → s.Later t →
        (t.call (.history cursor.request)).2.Later final →
        (t.call (.history cursor.request)).1 = .error error →
        Amid final ends (t.call (.history cursor.request)).2 (resume (some error) cursor)) →
      Amid final ends s (.read cursor enough resume)

namespace Amid

variable {ends : α → Prop}

/-- What others do in between, a program allows for. -/
theorem later {program : Program α} (h : Amid final ends s program) (hlater : s.Later t) :
    Amid final ends t program := by
  induction h generalizing t with
  | done hends => exact .done fun hfinal => hends (hlater.trans hfinal)
  | call _ ih => exact .call fun u hu hfinal => ih u (hlater.trans hu) hfinal .same
  | pause _ ih => exact .pause (ih hlater)
  | read _ _ _ ihnone ihpage iherror =>
      exact .read (fun henough => ihnone henough hlater)
        (fun u page hopen hu hfinal hpage => ihpage u page hopen (hlater.trans hu) hfinal hpage .same)
        (fun u error hopen hu hfinal herror =>
          iherror u error hopen (hlater.trans hu) hfinal herror .same)

/-- What may come next: an end of the right kind, a call, or a pause. -/
theorem next {program : Program α} (h : Amid final ends s program) :
    match program.next with
    | .done value => s.Later final → ends value
    | .ask request resume => (s.call request).2.Later final →
        Amid final ends (s.call request).2 (resume (s.call request).1)
    | .pause resume => Amid final ends s resume := by
  induction h with
  | done hends => exact hends
  | call hanswer _ => exact hanswer _ .same
  | pause hrested _ => exact hrested
  | @read s cursor enough resume _ hpage herror ihnone _ _ =>
      by_cases henough : isSatisfied cursor enough = true
      · simp only [Program.next, henough, if_true]
        exact ihnone henough
      · rw [Bool.not_eq_true] at henough
        simp only [Program.next, henough, Bool.false_eq_true, if_false]
        intro hfinal
        cases hanswer : (s.call (.history cursor.request)).1 with
        | ok page => exact hpage s page henough .same hfinal hanswer
        | error error => exact herror s error henough .same hfinal hanswer

/-- Moments that do not come before the last one are not considered. -/
theorem of_not_later (program : Program α) (hnot : ¬ s.Later final) :
    Amid final ends s program := by
  have hcall {t : Service} {request : Request} (ht : s.Later t) :
      ¬ (t.call request).2.Later final :=
    fun hfinal => hnot (ht.trans ((Service.Later.call t request).trans hfinal))
  induction program with
  | done value => exact .done fun hfinal => absurd hfinal hnot
  | call request resume _ => exact .call fun t ht hfinal => absurd hfinal (hcall ht)
  | pause resume ih => exact .pause (ih ())
  | read cursor enough resume ih =>
      exact .read (fun _ => ih none cursor) (fun t page _ ht hfinal => absurd hfinal (hcall ht))
        (fun t error _ ht hfinal => absurd hfinal (hcall ht))

/-- What follows a program goes on from the service and the value that it ends with. -/
theorem bind {ends' : β → Prop} {program : Program α} {f : α → Program β}
    (h : Amid final ends s program)
    (hf : ∀ t value, s.Later t → t.Later final → ends value → Amid final ends' t (f value)) :
    Amid final ends' s (program.bind f) := by
  induction h with
  | @done s value hends =>
      by_cases hfinal : s.Later final
      · exact hf s value .same hfinal (hends hfinal)
      · exact of_not_later _ hfinal
  | @call s request resume _ ih =>
      refine .call fun t ht hfinal => ih t ht hfinal ?_
      exact fun u value hu => hf u value (ht.trans ((Service.Later.call t request).trans hu))
  | pause _ ih => exact .pause (ih hf)
  | @read s cursor enough resume _ _ _ ihnone ihpage iherror =>
      have hbehind {t u : Service} (ht : s.Later t)
          (hu : (t.call (.history cursor.request)).2.Later u) : s.Later u :=
        ht.trans ((Service.Later.call t _).trans hu)
      exact .read (fun henough => ihnone henough hf)
        (fun t page hopen ht hfinal hpage =>
          ihpage t page hopen ht hfinal hpage fun u value hu => hf u value (hbehind ht hu))
        (fun t error hopen ht hfinal herror =>
          iherror t error hopen ht hfinal herror fun u value hu => hf u value (hbehind ht hu))

/-- The same for programs that may fail. A failure is passed on. -/
theorem exceptBind {ends : Except ResetError α → Prop} {ends' : Except ResetError β → Prop}
    {procedure : Procedure α} {f : α → Procedure β}
    (h : Amid final ends s (ExceptT.run procedure))
    (hok : ∀ t value, s.Later t → t.Later final → ends (.ok value) →
      Amid final ends' t (ExceptT.run (f value)))
    (herror : ∀ error, ends (.error error) → ends' (.error error)) :
    Amid final ends' s (ExceptT.run (procedure >>= f)) := by
  apply h.bind
  intro t result hlater hfinal hresult
  cases result with
  | ok value => exact hok t value hlater hfinal hresult
  | error error => exact .done fun _ => herror error hresult

end Amid

/-- A call is answered at some moment, and what follows it goes on from there. A failure is passed on. -/
theorem callBind_amid {request : Request} {f : request.Response → Procedure β}
    {ends : Except ResetError β → Prop}
    (hok : ∀ t value, s.Later t → (t.call request).2.Later final →
      (t.call request).1 = .ok value → Amid final ends (t.call request).2 (ExceptT.run (f value)))
    (herror : ∀ t error, s.Later t → (t.call request).2.Later final →
      (t.call request).1 = .error error → ends (.error (.service error))) :
    Amid final ends s (ExceptT.run (Procedure.call request >>= f)) := by
  refine .call fun t hlater hfinal => ?_
  cases hanswer : (t.call request).1 with
  | ok value => exact hok t value hlater hfinal hanswer
  | error error => exact .done fun _ => herror t error hlater hfinal hanswer

/-- A history of which a cursor has received some pages and given out no event, seen from a moment at
which the run was there. -/
structure Unread (home : Service) (run : Run) (fetched : Nat) (cursor : HistoryCursor) : Prop where
  fresh : home.store.Fresh
  there : home.store.runs cursor.workflowId cursor.runId = some run
  named : cursor.runId ≠ ""
  short : run.history.length < UInt64.size
  pages : Cursor.At run.history (Paging.limit home.store.pageCap cursor.pageSize) fetched 0
    cursor.pages

namespace Unread

variable {home : Service} {run : Run} {fetched : Nat} {cursor : HistoryCursor}

/-- The page that comes next, at that moment or later. -/
theorem historyPage_eq (h : Unread home run fetched cursor) (hlater : home.Later t)
    (hopen : cursor.pages.exhausted = false) (method : Method) :
    (t.store.count method).historyPage cursor.request =
      .ok (Paging.page run.history (fetched * Paging.limit home.store.pageCap cursor.pageSize)
        (Paging.limit home.store.pageCap cursor.pageSize)) := by
  have hrun : t.store.runs cursor.workflowId cursor.runId = some run :=
    hlater.runs_kept h.fresh h.there
  have hpage := Store.historyPage_eq (s := t.store.count method) (r := cursor.request) h.named hrun
    (h.pages.token hopen)
  rwa [show (t.store.count method).pageCap = home.store.pageCap from hlater.pageCap_eq] at hpage

theorem receive (h : Unread home run fetched cursor) (hopen : cursor.pages.exhausted = false) :
    Unread home run (fetched + 1) (cursor.receive
      (Paging.page run.history (fetched * Paging.limit home.store.pageCap cursor.pageSize)
        (Paging.limit home.store.pageCap cursor.pageSize))) where
  fresh := h.fresh
  there := h.there
  named := h.named
  short := h.short
  pages := h.pages.receive h.short hopen

/-- With the last page all events are there. -/
theorem buffered_eq (h : Unread home run fetched cursor) (hover : cursor.pages.exhausted = true) :
    cursor.pages.buffered = run.history := by
  rw [h.pages.buffered, List.drop_zero, List.take_of_length_le (h.pages.exhausted.mp hover).2]

/-- While there is another page, no more pages than events were received. -/
theorem fetched_le (h : Unread home run fetched cursor) (hopen : cursor.pages.exhausted = false) :
    fetched ≤ run.history.length :=
  h.pages.fetched_le (Nat.le_max_left _ _) hopen

end Unread

/-- Reading all of a history brings its events, or fails because a call for a page has failed. -/
theorem readAll_amid {home : Service} {run : Run} {fetched : Nat} {cursor : HistoryCursor}
    (h : Unread home run fetched cursor) (hlater : home.Later s) :
    Amid final (fun result => result = .ok run.history ∨
      ∃ error, result = .error (.historyFetch cursor.workflowId cursor.runId error) ∧
        (home.missed? = none → home.store.failures .getHistory cursor.workflowId ≠ []))
      s (ExceptT.run (Procedure.readAll cursor)) := by
  -- Each page that arrives leaves one page less to be read.
  generalize hleft : run.history.length + 1 - fetched = left
  induction left generalizing s fetched cursor with
  | zero =>
      cases hover : cursor.pages.exhausted with
      | false => exact absurd (h.fetched_le hover) (by omega)
      | true =>
          refine .read (fun _ => .done fun _ => .inl ?_) ?_ ?_
          · exact congrArg Except.ok (h.buffered_eq hover)
          · intro t page hopen
            simp [isSatisfied, hover] at hopen
          · intro t error hopen
            simp [isSatisfied, hover] at hopen
  | succ left ih =>
      refine .read ?_ ?_ ?_
      · intro hover
        have hover : cursor.pages.exhausted = true := by simpa [isSatisfied] using hover
        exact .done fun _ => .inl (congrArg Except.ok (h.buffered_eq hover))
      · intro t page hopen ht hfinal hanswer
        have hopen : cursor.pages.exhausted = false := by simpa [isSatisfied] using hopen
        rcases t.call_cases (.history cursor.request) with hserved | ⟨error, hfailed, -⟩
        · have hpage := h.historyPage_eq (hlater.trans ht) hopen .getHistory
          obtain rfl := Except.ok.inj (hanswer.symm.trans (hserved.trans hpage))
          exact ih (h.receive hopen) ((hlater.trans ht).trans (.call t _)) (by omega)
        · rw [hfailed] at hanswer
          exact absurd hanswer (by simp)
      · intro t error hopen ht hfinal hanswer
        have hopen : cursor.pages.exhausted = false := by simpa [isSatisfied] using hopen
        refine .done fun _ => .inr ⟨error, rfl, fun htime hnil => ?_⟩
        rcases t.call_cases (.history cursor.request) with hserved | ⟨error, -, hscripted⟩
        · have hpage := h.historyPage_eq (hlater.trans ht) hopen .getHistory
          exact absurd (hanswer.symm.trans (hserved.trans hpage)) (by simp)
        · exact hscripted ((hlater.trans ht).missed?_eq.trans htime)
            ((hlater.trans ht).failures_nil hnil)

/-! ### Attempts -/

/-- How the last of some attempts ends: it was the last one that may be made, or did not fail in
passing. -/
structure LastAttempt (ends : Except ResetError α → Prop) (last : Nat)
    (attempted : Attempted ResetError α) : Prop where
  result : ends attempted.result
  attempts_le : attempted.attempts ≤ last
  stops : attempted.attempts = last ∨
    ∀ error, attempted.result = .error error → error.isRetryable = false

/-- Attempts of which each comes to an end of some kind come to such an end. -/
theorem attemptFrom_amid {ends : Except ResetError α → Prop}
    {operation : Program (Except ResetError α)}
    (h : ∀ t, s.Later t → t.Later final → Amid final ends t operation) (attempt spare : Nat) :
    Amid final (LastAttempt ends (attempt + spare)) s
      (attemptFrom Program.rest ResetError.isRetryable (fun _ => operation) attempt spare) := by
  by_cases hfinal : s.Later final
  · induction spare generalizing s attempt with
    | zero =>
        refine (h s .same hfinal).bind ?_
        intro t result _ _ hresult
        exact .done fun _ => ⟨hresult, Nat.le_refl _, .inl rfl⟩
    | succ spare ih =>
        refine (h s .same hfinal).bind ?_
        intro t result hlater hfinal' hresult
        cases result with
        | ok value => exact .done fun _ => ⟨hresult, Nat.le_add_right _ _, .inr nofun⟩
        | error error =>
            simp only
            split
            · have hagain := ih (s := t) (fun u hu => h u (hlater.trans hu)) (attempt + 1) hfinal'
              rw [show attempt + 1 + spare = attempt + (spare + 1) by omega] at hagain
              exact .pause hagain
            · rename_i hpermanent
              refine .done fun _ => ⟨hresult, Nat.le_add_right _ _, .inr ?_⟩
              rintro error' herror
              obtain rfl := Except.error.inj herror
              simpa using hpermanent
  · exact .of_not_later _ hfinal

end Program

end Rewind
