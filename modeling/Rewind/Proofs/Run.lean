import Rewind.Proofs.Amid
import Rewind.Proofs.Part
import Rewind.Proofs.Program
import Rewind.Proofs.Volume

/-!
Programs that are run in one go.

A run makes all calls of a program in a row, and has a budget of pages for every history. No history
has more pages than that, so a run does the same as going on call by call.

Main statements: `run_eq_next` and `ends_run` for the calls one by one, `run_bind` for the parts of a
program, and `Obeys.run` for what calls keep under rules.
-/

namespace Rewind

namespace Paging

variable {α : Type} {items : List α} {offset limit : Nat}

/-- Another page starts behind the place of this one and the entries that this one holds. -/
theorem exists_stop (hlimit : 0 < limit) {token : Token}
    (htoken : (page items offset limit).token = some token) :
    ∃ stop, token = tokenOf stop ∧ offset < stop ∧ stop < items.length ∧
      offset + (page items offset limit).items.length = stop := by
  simp only [page] at htoken ⊢
  split at htoken
  · rename_i hmore
    refine ⟨_, (Option.some.inj htoken).symm, ?_, hmore, ?_⟩
    · omega
    · rw [List.length_take, List.length_drop]
      omega
  · exact absurd htoken (by simp)

/-- A page holds no more than there is behind its place. -/
theorem length_page_le (items : List α) (offset limit : Nat) :
    (page items offset limit).items.length ≤ items.length - offset := by
  simp only [page, List.length_take, List.length_drop]
  omega

/-- A token is read as the offset that it was made from, or not at all. -/
theorem eq_of_offsetOf?_tokenOf {stop : Nat} (h : offsetOf? (some (tokenOf stop)) = .ok offset) :
    offset = stop := by
  rw [offsetOf?_tokenOf_eq] at h
  split at h
  · exact (Except.ok.inj h).symm
  · exact absurd h (by simp)

end Paging

namespace Store

variable {s : Store}

/-- What a reference is resolved to is a run that the store has. -/
theorem exists_runs_of_resolve {workflowId : String} {runId : Option String} {run : Run}
    (hrun : s.resolve workflowId runId = .ok run) : ∃ found, s.runs workflowId found = some run := by
  rw [resolve] at hrun
  split at hrun
  · exact ⟨_, runs_of_run? hrun⟩
  · cases hcurrent : s.currentRun? workflowId with
    | error error =>
        rw [hcurrent] at hrun
        exact absurd hrun (by simp [Except.bind])
    | ok current =>
        rw [hcurrent] at hrun
        exact ⟨current, runs_of_run? hrun⟩

theorem length_le_of_resolve (hbounded : s.Bounded) {workflowId : String} {runId : Option String}
    {run : Run} (hrun : s.resolve workflowId runId = .ok run) : run.history.length ≤ s.volume := by
  obtain ⟨found, hfound⟩ := exists_runs_of_resolve hrun
  exact hbounded workflowId found run hfound

/-- The answer to a request for a page is the page at the offset that is asked for, of a run that the
store has. -/
theorem exists_page {request : HistoryRequest} {page : Page Event}
    (hpage : s.historyPage request = .ok page) :
    ∃ runId run offset limit, s.runs request.workflowId runId = some run ∧
      Paging.offsetOf? request.token = .ok offset ∧ 0 < limit ∧
      page = Paging.page run.history offset limit := by
  rw [historyPage] at hpage
  cases hoffset : Paging.offsetOf? request.token with
  | error error =>
      rw [hoffset] at hpage
      exact absurd hpage (by simp [Except.bind])
  | ok offset =>
      rw [hoffset, Except.bind] at hpage
      cases hresolved : s.resolve request.workflowId (some request.runId) with
      | error error =>
          rw [hresolved] at hpage
          exact absurd hpage (by simp [Except.map])
      | ok run =>
          rw [hresolved] at hpage
          obtain ⟨runId, hrun⟩ := exists_runs_of_resolve hresolved
          exact ⟨runId, run, offset, _, hrun, rfl, Nat.le_max_left _ _,
            (Except.ok.inj hpage).symm⟩

/-- A call that accepts no reset puts no events in. -/
theorem Step.volume_eq {s' : Store} (h : Step s s' none) : s'.volume = s.volume := by
  cases h with
  | kept failures calls => rfl

end Store

namespace Program

variable {α β : Type} {s : Service} {cursor : HistoryCursor}

/-! ### Pages -/

/-- A bound for the pages that a cursor can still get: one for each event behind its place, and one
that may be empty. -/
def pagesLeft (store : Store) (cursor : HistoryCursor) : Nat :=
  if cursor.pages.exhausted then 0
  else
    match Paging.offsetOf? cursor.pages.token with
    | .ok offset => store.volume - offset + 1
    | .error _ => 1

theorem pagesLeft_le (store : Store) (cursor : HistoryCursor) :
    pagesLeft store cursor ≤ store.volume + 1 := by
  unfold pagesLeft
  split
  · exact Nat.zero_le _
  · split <;> omega

/-- Each page that arrives leaves less to come. -/
theorem pagesLeft_receive (hbounded : s.store.Bounded) (hopen : cursor.pages.exhausted = false)
    {page : Page Event} {s' : Service} (hcall : s.call (.history cursor.request) = (.ok page, s')) :
    s'.store.Bounded ∧ pagesLeft s'.store (cursor.receive page) < pagesLeft s.store cursor := by
  have hstep := s.call_step (.history cursor.request)
  rw [Request.accepted?_look (by simp [Request.method]), hcall] at hstep
  have hvolume : s'.store.volume = s.store.volume := hstep.volume_eq
  refine ⟨hstep.bounded hbounded, ?_⟩
  have hpage : (s.call (.history cursor.request)).1 = .ok page := congrArg Prod.fst hcall
  obtain ⟨runId, run, offset, limit, hrun, hoffset, hlimit, rfl⟩ :=
    (s.store.count .getHistory).exists_page (Service.served_of_ok hpage)
  have hlength : run.history.length ≤ s.store.volume := hbounded _ _ _ hrun
  have hoffset : Paging.offsetOf? cursor.pages.token = .ok offset := hoffset
  have hleft : pagesLeft s.store cursor = s.store.volume - offset + 1 := by
    simp only [pagesLeft, hopen, hoffset, Bool.false_eq_true, if_false]
  rw [hleft]
  cases htoken : (Paging.page run.history offset limit).token with
  | none => simp [pagesLeft, HistoryCursor.receive, Cursor.receive, htoken, hasMore]
  | some token =>
      obtain ⟨stop, rfl, hless, hstop, -⟩ := Paging.exists_stop hlimit htoken
      simp only [pagesLeft, HistoryCursor.receive, Cursor.receive, htoken, Paging.hasMore_tokenOf,
        hvolume, Bool.not_true, Bool.false_eq_true, if_false, if_true]
      split
      · rename_i next hnext
        obtain rfl := Paging.eq_of_offsetOf?_tokenOf hnext
        omega
      · omega

theorem isSatisfied_of_exhausted (enough : List Event → Bool)
    (hexhausted : cursor.pages.exhausted = true) : isSatisfied cursor enough = true := by
  rw [isSatisfied, hexhausted, Bool.true_or]

/-- If nothing is left, no page is needed. -/
theorem isSatisfied_of_pagesLeft (enough : List Event → Bool) (store : Store)
    (hnone : pagesLeft store cursor = 0) : isSatisfied cursor enough = true := by
  cases hexhausted : cursor.pages.exhausted with
  | true => exact isSatisfied_of_exhausted enough hexhausted
  | false =>
      simp only [pagesLeft, hexhausted, Bool.false_eq_true, if_false] at hnone
      split at hnone <;> omega

theorem fetch_of_satisfied {enough : List Event → Bool} (budget : Nat)
    (hsatisfied : isSatisfied cursor enough = true) :
    fetch enough budget cursor s = (none, cursor, s) := by
  cases budget with
  | zero => rfl
  | succ budget => simp only [fetch, hsatisfied, if_true]

/-- Two budgets that are enough for all pages are as good as each other. -/
theorem fetch_eq (enough : List Event → Bool) {budget budget' : Nat} (hbounded : s.store.Bounded)
    (hbudget : pagesLeft s.store cursor ≤ budget) (hbudget' : pagesLeft s.store cursor ≤ budget') :
    fetch enough budget cursor s = fetch enough budget' cursor s := by
  induction budget generalizing budget' cursor s with
  | zero =>
      have hsatisfied := isSatisfied_of_pagesLeft enough s.store (Nat.le_zero.mp hbudget)
      rw [fetch_of_satisfied _ hsatisfied, fetch_of_satisfied _ hsatisfied]
  | succ budget ih =>
      by_cases hsatisfied : isSatisfied cursor enough = true
      · rw [fetch_of_satisfied _ hsatisfied, fetch_of_satisfied _ hsatisfied]
      · cases budget' with
        | zero =>
            exact absurd (isSatisfied_of_pagesLeft enough s.store (Nat.le_zero.mp hbudget'))
              hsatisfied
        | succ budget' =>
            have hopen : cursor.pages.exhausted = false := by
              rw [← Bool.not_eq_true]
              exact fun hexhausted => hsatisfied (isSatisfied_of_exhausted enough hexhausted)
            rw [Bool.not_eq_true] at hsatisfied
            simp only [fetch, hsatisfied, Bool.false_eq_true, if_false]
            generalize hcall : s.call (.history cursor.request) = called
            obtain ⟨answer, s'⟩ := called
            cases answer with
            | error error => rfl
            | ok page =>
                obtain ⟨hbehind, hless⟩ := pagesLeft_receive hbounded hopen hcall
                exact ih hbehind (by omega) (by omega)

/-! ### Runs -/

/-- Running a program is going on to its next call, and running on behind the answer. -/
theorem run_eq_next (program : Program α) (hbounded : s.store.Bounded) :
    program.run s =
      match program.next with
      | .done value => (value, s)
      | .ask request resume => (resume (s.call request).1).run (s.call request).2
      | .pause resume => resume.run s := by
  induction program generalizing s with
  | done value => rfl
  | call request resume ih => rfl
  | pause resume ih => rfl
  | read cursor enough resume ih =>
      by_cases hsatisfied : isSatisfied cursor enough = true
      · simp only [run, next, hsatisfied, if_true, fetch_of_satisfied _ hsatisfied]
        exact ih none cursor hbounded
      · have hopen : cursor.pages.exhausted = false := by
          rw [← Bool.not_eq_true]
          exact fun hexhausted => hsatisfied (isSatisfied_of_exhausted enough hexhausted)
        rw [Bool.not_eq_true] at hsatisfied
        simp only [run, next, hsatisfied, Bool.false_eq_true, if_false, pageBudget, fetch]
        generalize hcall : s.call (.history cursor.request) = called
        obtain ⟨answer, s'⟩ := called
        cases answer with
        | error error => rfl
        | ok page =>
            -- The page was paid for out of the budget, which is still enough for the others.
            obtain ⟨hbehind, hless⟩ := pagesLeft_receive hbounded hopen hcall
            have hbudget := pagesLeft_le s.store cursor
            simp only [run, pageBudget]
            rw [fetch_eq enough hbehind (by omega) (pagesLeft_le s'.store _)]

/-- Going on from one call or pause to the next, a program comes to this end. -/
inductive Ends : Program α → Service → α → Service → Prop
  | done {program : Program α} {s : Service} {value : α} :
      program.next = .done value → Ends program s value s
  | ask {program : Program α} {s behind : Service} {value : α} {request : Request}
      {resume : Except ServiceError request.Response → Program α} :
      program.next = .ask request resume →
      Ends (resume (s.call request).1) (s.call request).2 value behind →
      Ends program s value behind
  | pause {program resume : Program α} {s behind : Service} {value : α} :
      program.next = .pause resume → Ends resume s value behind → Ends program s value behind

theorem Ends.of_next {program program' : Program α} {behind : Service} {value : α}
    (h : Ends program' s value behind) (hnext : program.next = program'.next) :
    Ends program s value behind := by
  cases h with
  | done hdone => exact .done (hnext.trans hdone)
  | ask hask hlater => exact .ask (hnext.trans hask) hlater
  | pause hpause hlater => exact .pause (hnext.trans hpause) hlater

/-- Call by call, a program comes to the end of its run. -/
theorem ends_run (program : Program α) (hbounded : s.store.Bounded) :
    Ends program s (program.run s).1 (program.run s).2 := by
  induction program generalizing s with
  | done value => exact .done rfl
  | call request resume ih => exact .ask rfl (ih _ ((s.call_step request).bounded hbounded))
  | pause resume ih => exact .pause rfl (ih () hbounded)
  | read cursor enough resume ih =>
      -- Behind each page there are fewer pages to come.
      generalize hleft : pagesLeft s.store cursor = left
      induction left using Nat.strongRecOn generalizing s cursor with
      | ind left ihleft =>
          by_cases hsatisfied : isSatisfied cursor enough = true
          · have hrun : (read cursor enough resume).run s = (resume none cursor).run s := by
              simp only [run, fetch_of_satisfied _ hsatisfied]
            rw [hrun]
            exact (ih none cursor hbounded).of_next (by simp only [next, hsatisfied, if_true])
          · have hopen : cursor.pages.exhausted = false := by
              rw [← Bool.not_eq_true]
              exact fun hexhausted => hsatisfied (isSatisfied_of_exhausted enough hexhausted)
            have hnext : (read cursor enough resume).next = _ := if_neg hsatisfied
            rw [run_eq_next _ hbounded, hnext]
            refine .ask hnext ?_
            have hbehind := (s.call_step (.history cursor.request)).bounded hbounded
            dsimp only
            generalize hcall : s.call (.history cursor.request) = called at hbehind
            obtain ⟨answer, s'⟩ := called
            cases answer with
            | error error => exact ih (some error) cursor hbehind
            | ok page =>
                obtain ⟨-, hless⟩ := pagesLeft_receive hbounded hopen hcall
                exact ihleft _ (hleft ▸ hless) _ hbehind rfl

theorem run_bind (program : Program α) (f : α → Program β) (s : Service) :
    (program.bind f).run s = (f (program.run s).1).run (program.run s).2 := by
  induction program generalizing s with
  | done value => rfl
  | call request resume ih => exact ih (s.call request).1 (s.call request).2
  | pause resume ih => exact ih () s
  | read cursor enough resume ih =>
      simp only [bind, run]
      exact ih _ _ _

theorem later_fetch (enough : List Event → Bool) (budget : Nat) (cursor : HistoryCursor)
    (s : Service) : s.Later (fetch enough budget cursor s).2.2 := by
  induction budget generalizing cursor s with
  | zero => exact .same
  | succ budget ih =>
      rw [fetch]
      split
      · exact .same
      · have hbehind := Service.Later.call s (.history cursor.request)
        generalize s.call (.history cursor.request) = called at hbehind
        obtain ⟨answer, s'⟩ := called
        cases answer with
        | error error => exact hbehind
        | ok page => exact hbehind.trans (ih _ s')

/-- A run only makes calls. -/
theorem later_run (program : Program α) (s : Service) : s.Later (program.run s).2 := by
  induction program generalizing s with
  | done value => exact .same
  | call request resume ih => exact (Service.Later.call s request).trans (ih _ _)
  | pause resume ih => exact ih () s
  | read cursor enough resume ih =>
      have hfetched := later_fetch enough (pageBudget s) cursor s
      simp only [run]
      exact hfetched.trans (ih _ _ _)

namespace Obeys

variable {Standing : Type} {rules : Rules Standing} {Holds : Service → Standing → Prop}
  {standing : Standing}

/-- Pages that arrive leave the standing as it is, and a fetch that fails is the last one. -/
theorem fetch
    (hcall : ∀ s standing request, Holds s standing → rules.allows standing request →
      Holds (s.call request).2 (rules.next standing request (s.call request).1))
    (hallowed : ∀ token, rules.allows standing (pageRequest cursor token))
    (hpage : ∀ token page, rules.next standing (pageRequest cursor token) (.ok page) = standing)
    (hs : Holds s standing) (enough : List Event → Bool) (budget : Nat) :
    ∃ failure cursor' s', Program.fetch enough budget cursor s = (failure, cursor', s') ∧
      match failure with
      | none => Holds s' standing
      | some error =>
          ∃ token, Holds s' (rules.next standing (pageRequest cursor token) (.error error)) := by
  induction budget generalizing cursor s with
  | zero => exact ⟨none, cursor, s, rfl, hs⟩
  | succ budget ih =>
      simp only [Program.fetch]
      split
      · exact ⟨none, cursor, s, rfl, hs⟩
      · have hafter := hcall s standing (.history cursor.request) hs (hallowed cursor.pages.token)
        generalize s.call (.history cursor.request) = called at hafter
        obtain ⟨answer, s'⟩ := called
        cases answer with
        | error error => exact ⟨some error, cursor, s', rfl, cursor.pages.token, hafter⟩
        | ok page =>
            have hstanding : rules.next standing (.history cursor.request) (.ok page) = standing :=
              hpage cursor.pages.token page
            rw [hstanding] at hafter
            exact ih hallowed hpage hafter

/-- What allowed calls keep, a run of a program that obeys the rules keeps. -/
theorem run {ends : Standing → α → Prop} {program : Program α}
    (h : Obeys rules ends standing program)
    (hcall : ∀ s standing request, Holds s standing → rules.allows standing request →
      Holds (s.call request).2 (rules.next standing request (s.call request).1))
    (hs : Holds s standing) :
    ∃ standing', ends standing' (program.run s).1 ∧ Holds (program.run s).2 standing' := by
  induction h generalizing s with
  | done hvalue => exact ⟨_, hvalue, hs⟩
  | @call standing request resume hallowed _ ih => exact ih _ (hcall s standing request hs hallowed)
  | pause _ ih => exact ih hs
  | @read standing cursor enough resume hallowed hpage _ _ ihnone ihsome =>
      obtain ⟨failure, cursor', s', hfetch, hafter⟩ :=
        fetch hcall hallowed hpage hs enough (pageBudget s)
      simp only [Program.run, hfetch]
      cases failure with
      | none => exact ihnone cursor' hafter
      | some error =>
          obtain ⟨token, hafter⟩ := hafter
          exact ihsome token error cursor' hafter

end Obeys

end Program

end Rewind
