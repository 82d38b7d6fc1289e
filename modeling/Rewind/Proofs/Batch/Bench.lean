import Mathlib.Data.List.Forall2
import Rewind.Proofs.Batch.Chronicle

/-!
Workers and their desks.

The record of a batch has a desk for each worker. What holds of every worker with its desk is a
relation along the two lists; a step of a worker touches one place of either list.

Main statements: a worker has a visit open exactly while it is busy (`seats_of_change`).
-/

namespace Rewind.Batch

/-- The partner of an item in a related list. -/
theorem exists_partner {α β : Type} {R : α → β → Prop} {as : List α} {bs : List β}
    (h : List.Forall₂ R as bs) {index : Nat} {a : α} (ha : as[index]? = some a) :
    ∃ b, bs[index]? = some b ∧ R a b := by
  obtain ⟨hindex, rfl⟩ := List.getElem?_eq_some_iff.mp ha
  have hindex' : index < bs.length := h.length_eq ▸ hindex
  exact ⟨bs[index], List.getElem?_eq_getElem hindex', h.get hindex hindex'⟩

theorem exists_left {α β : Type} {R : α → β → Prop} {as : List α} {bs : List β}
    (h : List.Forall₂ R as bs) {b : β} (hb : b ∈ bs) : ∃ a ∈ as, R a b := by
  induction h with
  | nil => simp at hb
  | @cons a b' as bs hrelated _ ih =>
      rcases List.mem_cons.mp hb with rfl | hrest
      · exact ⟨a, List.mem_cons_self, hrelated⟩
      · obtain ⟨a', ha', hrelated'⟩ := ih hrest
        exact ⟨a', List.mem_cons_of_mem a ha', hrelated'⟩

theorem exists_right {α β : Type} {R : α → β → Prop} {as : List α} {bs : List β}
    (h : List.Forall₂ R as bs) {a : α} (ha : a ∈ as) : ∃ b ∈ bs, R a b := by
  obtain ⟨index, hindex⟩ := List.getElem?_of_mem ha
  obtain ⟨b, hb, hrelated⟩ := exists_partner h hindex
  exact ⟨b, List.mem_of_getElem? hb, hrelated⟩

theorem forall₂_and {α β : Type} {R R' : α → β → Prop} {as : List α} {bs : List β}
    (h : List.Forall₂ R as bs) (h' : List.Forall₂ R' as bs) :
    List.Forall₂ (fun a b => R a b ∧ R' a b) as bs := by
  induction h with
  | nil => exact .nil
  | cons hrelated _ ih =>
      cases h' with
      | cons hrelated' htail => exact .cons ⟨hrelated, hrelated'⟩ (ih htail)

/-- A relation between items survives a change of one place that it survives there, if it survives
at the other places. -/
theorem forall₂_modify {α β : Type} {R R' : α → β → Prop} {as : List α} {bs : List β}
    (h : List.Forall₂ R as bs) {index : Nat} {a a' : α} {f : β → β} (ha : as[index]? = some a)
    (hplace : ∀ b, bs[index]? = some b → R a b → R' a' (f b))
    (hothers : ∀ i a b, i ≠ index → bs[i]? = some b → R a b → R' a b) :
    List.Forall₂ R' (as.set index a') (bs.modify index f) := by
  rw [List.forall₂_iff_get]
  refine ⟨by simpa using h.length_eq, ?_⟩
  intro i hi hi'
  have hi' : i < bs.length := by simpa using hi'
  have hrelated := h.get (i := i) (by simpa using hi) hi'
  simp only [List.get_eq_getElem, List.getElem_set, List.getElem_modify] at hrelated ⊢
  have hb : bs[i]? = some bs[i] := List.getElem?_eq_getElem hi'
  by_cases heq : index = i
  · subst heq
    obtain ⟨_, hvalue⟩ := List.getElem?_eq_some_iff.mp ha
    simpa using hplace _ hb (hvalue ▸ hrelated)
  · simpa [heq] using hothers i _ _ (Ne.symm heq) hb hrelated

/-- What one place adds to the items that places give, all of them add. -/
theorem perm_flatMap_modify {α β : Type} {as : List α} {index : Nat} {a : α} {f : α → α}
    {g : α → List β} (ha : as[index]? = some a) (less more : List β)
    (h : (g (f a) ++ less).Perm (g a ++ more)) :
    ((as.modify index f).flatMap g ++ less).Perm (as.flatMap g ++ more) := by
  induction as generalizing index with
  | nil => simp at ha
  | cons b as ih =>
      cases index with
      | zero =>
          obtain rfl : b = a := by simpa using ha
          simp only [List.modify_zero_cons, List.flatMap_cons, List.append_assoc]
          calc g (f b) ++ (as.flatMap g ++ less)
              _ |>.Perm (g (f b) ++ (less ++ as.flatMap g)) := List.perm_append_comm.append_left _
              _ |>.Perm (g b ++ (more ++ as.flatMap g)) := by
                  simpa [List.append_assoc] using h.append_right (as.flatMap g)
              _ |>.Perm (g b ++ (as.flatMap g ++ more)) := List.perm_append_comm.append_left _
      | succ index =>
          simp only [List.modify_succ_cons, List.flatMap_cons, List.append_assoc]
          exact (ih (by simpa using ha)).append_left (g b)

theorem flatMap_modify {α β : Type} {as : List α} {index : Nat} {f : α → α} {g : α → List β}
    (h : ∀ a, g (f a) = g a) : (as.modify index f).flatMap g = as.flatMap g := by
  induction as generalizing index with
  | nil => simp
  | cons a as ih => cases index <;> simp [h, ih]

/-- A worker and its desk agree on the target at hand. -/
structure Seated (worker : Worker) (desk : Desk) : Prop where
  busy : ∀ target program, worker.task = .busy target program →
    ∃ visit, desk.current = some visit ∧ visit.target = target
  free : (∀ target program, worker.task ≠ .busy target program) → desk.current = none
  ended : worker.task = .ended → worker.outcomes = []

/-- A worker is at the target of the visit that is open. -/
theorem Seated.exists_busy {worker : Worker} {desk : Desk} {visit : Visit}
    (h : Seated worker desk) (hvisit : desk.current = some visit) :
    ∃ program, worker.task = .busy visit.target program := by
  cases htask : worker.task with
  | busy target program =>
      obtain ⟨visit', hvisit', rfl⟩ := h.busy target program htask
      obtain rfl := Option.some.inj (hvisit.symm.trans hvisit')
      exact ⟨program, rfl⟩
  | idle | pausing | ended =>
      rw [h.free (by simp [htask])] at hvisit
      exact absurd hvisit (by simp)

/-- What a step of a worker makes of it, its desk and the service. -/
inductive Move (plan : Plan) (c : Chronicle) (worker : Worker) :
    Worker → (Desk → Desk) → Service → Prop
  | taken (target : WorkflowRef) (rest : List WorkflowRef) :
      worker.task = .idle → c.state.queue = target :: rest →
      Move plan c worker
        { worker with
          task := .busy target (plan.process .checked target (plan.requestIds c.state.started)) }
        (Desk.take target (plan.requestIds c.state.started)) c.state.service
  | left : worker.task = .idle → c.state.queue = [] →
      Move plan c worker ⟨.ended, []⟩ id c.state.service
  | finished (target : WorkflowRef) (program : Program (Attempted ResetError OutcomeStatus))
      (attempted : Attempted ResetError OutcomeStatus) :
      worker.task = .busy target program → program.next = .done attempted →
      Move plan c worker ⟨.pausing, worker.outcomes ++ [plan.outcome target attempted]⟩
        (Desk.close (plan.outcome target attempted)) c.state.service
  | called (target : WorkflowRef) (program : Program (Attempted ResetError OutcomeStatus))
      (request : Request)
      (resume : Except ServiceError request.Response →
        Program (Attempted ResetError OutcomeStatus)) :
      worker.task = .busy target program → program.next = .ask request resume →
      Move plan c worker
        { worker with task := .busy target (resume (c.state.service.call request).1) }
        (Desk.note (c.ask request)) (c.state.service.call request).2
  | rested (target : WorkflowRef) (program resume : Program (Attempted ResetError OutcomeStatus)) :
      worker.task = .busy target program → program.next = .pause resume →
      Move plan c worker { worker with task := .busy target resume } id c.state.service
  | readied : worker.task = .pausing →
      Move plan c worker { worker with task := .idle } id c.state.service

namespace Chronicle

variable {plan : Plan} {c c' : Chronicle}

theorem getElem?_toList {workers : Array Worker} {index : Nat} {worker : Worker}
    (h : workers[index]? = some worker) : workers.toList[index]? = some worker := by
  simpa using h

/-- What a change does to the workers, their desks and the service: it is the producer's, which may
scan, or the move of one worker. -/
inductive BenchChange (plan : Plan) (c c' : Chronicle) : Prop
  | producer : c'.state.workers.toList = c.state.workers.toList → c'.desks = c.desks →
      (c'.state.service = c.state.service ∧ c'.scans = c.scans ∨
        ∃ request, c'.state.service = (c.state.service.call (.scan request)).2 ∧
          c'.scans = c.scans ++ [c.ask (.scan request)]) →
      BenchChange plan c c'
  | worker (index : Nat) (worker worker' : Worker) (f : Desk → Desk) :
      c.state.workers.toList[index]? = some worker →
      Move plan c worker worker' f c'.state.service →
      c'.state.workers.toList = c.state.workers.toList.set index worker' →
      c'.desks = c.desks.modify index f → c'.scans = c.scans → BenchChange plan c c'

theorem bench_of_change (h : Change plan c c') : BenchChange plan c c' := by
  cases h with
  | closed | excluded | offered | resumed | queued =>
      exact .producer rfl rfl (.inl ⟨rfl, rfl⟩)
  | failed => exact .producer (by simp) rfl (.inl ⟨by simp, rfl⟩)
  | paged attempt source request page hproducer hpoll hcall =>
      exact .producer rfl rfl (.inr ⟨request, rfl, rfl⟩)
  | pageFailed attempt source request error hproducer hpoll hcall =>
      exact .producer (by simp) rfl (.inr ⟨request, by simp, rfl⟩)
  | taken index worker target rest hworker htask hqueue =>
      exact .worker index worker _ _ (getElem?_toList hworker) (.taken target rest htask hqueue)
        (Array.toList_setIfInBounds ..) rfl rfl
  | left index worker hworker htask hqueue hclosed =>
      exact .worker index worker _ _ (getElem?_toList hworker) (.left htask hqueue)
        (Array.toList_setIfInBounds ..) (by simp) rfl
  | finished index worker target program attempted hworker htask hnext =>
      exact .worker index worker _ _ (getElem?_toList hworker)
        (.finished target program attempted htask hnext) (Array.toList_setIfInBounds ..) rfl rfl
  | called index worker target program request resume hworker htask hnext =>
      exact .worker index worker _ _ (getElem?_toList hworker)
        (.called target program request resume htask hnext) (Array.toList_setIfInBounds ..) rfl rfl
  | rested index worker target program resume hworker htask hnext =>
      exact .worker index worker _ _ (getElem?_toList hworker)
        (.rested target program resume htask hnext) (Array.toList_setIfInBounds ..) (by simp) rfl
  | readied index worker hworker htask =>
      exact .worker index worker _ _ (getElem?_toList hworker) (.readied htask)
        (Array.toList_setIfInBounds ..) (by simp) rfl

/-- What holds of every worker with its desk, and is kept by the moves of a worker, is kept by every
change. -/
theorem forall₂_of_change {R : Worker → Desk → Prop} (h : Change plan c c')
    (hc : List.Forall₂ R c.state.workers.toList c.desks)
    (hmove : ∀ worker worker' f desk, Move plan c worker worker' f c'.state.service →
      R worker desk → R worker' (f desk)) :
    List.Forall₂ R c'.state.workers.toList c'.desks := by
  rcases bench_of_change h with ⟨hworkers, hdesks, -⟩ | ⟨index, worker, worker', f, hworker, hmoved,
    hworkers, hdesks, -⟩
  · rw [hworkers, hdesks]
    exact hc
  · rw [hworkers, hdesks]
    refine forall₂_modify hc hworker ?_ fun _ _ _ _ _ => id
    intro desk _ hdesk
    exact hmove worker worker' f desk hmoved hdesk

/-- Every worker agrees with its desk. -/
def Seats (c : Chronicle) : Prop :=
  List.Forall₂ Seated c.state.workers.toList c.desks

theorem seated_of_move {worker worker' : Worker} {f : Desk → Desk} {service : Service} {desk : Desk}
    (h : Move plan c worker worker' f service) (hseat : Seated worker desk) :
    Seated worker' (f desk) := by
  cases h with
  | taken target rest htask hqueue =>
      refine ⟨?_, fun hfree => absurd rfl (hfree _ _), by simp⟩
      intro target' program hbusy
      exact ⟨_, rfl, by simp_all⟩
  | left htask hqueue => exact ⟨by simp, fun _ => hseat.free (by simp [htask]), fun _ => rfl⟩
  | finished target program attempted htask hnext => exact ⟨by simp, fun _ => rfl, by simp⟩
  | called target program request resume htask hnext =>
      obtain ⟨visit, hvisit, htarget⟩ := hseat.busy target program htask
      refine ⟨?_, fun hfree => absurd rfl (hfree _ _), by simp⟩
      intro target' program' hbusy
      exact ⟨visit.after (c.ask request), by simp [Desk.note, hvisit], by simp_all [Visit.after]⟩
  | rested target program resume htask hnext =>
      obtain ⟨visit, hvisit, htarget⟩ := hseat.busy target program htask
      refine ⟨?_, fun hfree => absurd rfl (hfree _ _), by simp⟩
      intro target' program' hbusy
      exact ⟨visit, hvisit, by simp_all⟩
  | readied htask => exact ⟨by simp, fun _ => hseat.free (by simp [htask]), by simp⟩

theorem seats_of_change (h : Change plan c c') (hc : c.Seats) : c'.Seats :=
  forall₂_of_change h hc fun _ _ _ _ => seated_of_move

/-- The desk of a worker. -/
theorem Seats.exists_desk (hc : c.Seats) {index : Nat} {worker : Worker}
    (hworker : c.state.workers[index]? = some worker) :
    ∃ desk, c.desks[index]? = some desk ∧ Seated worker desk :=
  exists_partner hc (getElem?_toList hworker)

/-! ### Who calls the service -/

/-- In a step nobody calls the service, or the producer scans, or one worker makes a call. -/
inductive Calling (c c' : Chronicle) : Prop
  | silent : c'.state.service = c.state.service → c'.scans = c.scans →
      c'.desks.map Desk.calls = c.desks.map Desk.calls → Calling c c'
  | scanned (request : ScanRequest) :
      c'.state.service = (c.state.service.call (.scan request)).2 →
      c'.scans = c.scans ++ [c.ask (.scan request)] →
      c'.desks.map Desk.calls = c.desks.map Desk.calls → Calling c c'
  | called (index : Nat) (calls : List Call) (request : Request) :
      c'.state.service = (c.state.service.call request).2 → c'.scans = c.scans →
      (c.desks.map Desk.calls)[index]? = some calls →
      c'.desks.map Desk.calls =
        (c.desks.map Desk.calls).set index (calls ++ [c.ask request]) → Calling c c'

theorem map_modify {α β : Type} {as : List α} {index : Nat} {a : α} {f : α → α} {g : α → β}
    (ha : as[index]? = some a) : (as.modify index f).map g = (as.map g).set index (g (f a)) := by
  induction as generalizing index with
  | nil => simp at ha
  | cons b as ih =>
      cases index with
      | zero =>
          obtain rfl : b = a := by simpa using ha
          simp
      | succ index => simpa using ih (by simpa using ha)

theorem map_modify_eq {α β : Type} {as : List α} {index : Nat} {a : α} {f : α → α} {g : α → β}
    (ha : as[index]? = some a) (hsame : g (f a) = g a) : (as.modify index f).map g = as.map g := by
  rw [map_modify ha, hsame]
  refine List.ext_getElem? fun i => ?_
  rw [List.getElem?_set]
  split
  · rename_i heq
    subst heq
    split <;> simp_all
  · rfl

theorem calling_of_change (h : Change plan c c') (hseats : c.Seats) : Calling c c' := by
  rcases bench_of_change h with ⟨-, hdesks, hcall⟩ | ⟨index, worker, worker', f, hworker, hmoved,
    -, hdesks, hscans⟩
  · have hsame : c'.desks.map Desk.calls = c.desks.map Desk.calls := by rw [hdesks]
    rcases hcall with ⟨hservice, hscans⟩ | ⟨request, hservice, hscans⟩
    · exact .silent hservice hscans hsame
    · exact .scanned request hservice hscans hsame
  · obtain ⟨desk, hdesk, hseat⟩ := exists_partner hseats hworker
    have hsilent (hservice : c'.state.service = c.state.service)
        (hcalls : (f desk).calls = desk.calls) : Calling c c' :=
      .silent hservice hscans (by rw [hdesks, map_modify_eq hdesk hcalls])
    generalize hservice : c'.state.service = service at hmoved
    cases hmoved with
    | taken target rest htask hqueue =>
        exact hsilent hservice (Desk.calls_take (hseat.free (by simp [htask])))
    | left htask hqueue => exact hsilent hservice rfl
    | finished target program attempted htask hnext => exact hsilent hservice Desk.calls_close
    | called target program request resume htask hnext =>
        obtain ⟨visit, hvisit, -⟩ := hseat.busy target program htask
        refine .called index desk.calls request hservice hscans (by simp [hdesk]) ?_
        rw [hdesks, map_modify hdesk, Desk.calls_note hvisit]
    | rested target program resume htask hnext => exact hsilent hservice rfl
    | readied htask => exact hsilent hservice rfl

/-- All calls of workers. -/
def calls (c : Chronicle) : List Call :=
  c.desks.flatMap Desk.calls

theorem calls_eq (h : c'.desks.map Desk.calls = c.desks.map Desk.calls) : c'.calls = c.calls := by
  rw [calls, calls, List.flatMap_def, List.flatMap_def, h]

theorem perm_flatten_set {α : Type} {as : List (List α)} {index : Nat} {a : List α}
    (ha : as[index]? = some a) (more : List α) :
    (as.set index (a ++ more)).flatten.Perm (as.flatten ++ more) := by
  have hperm := perm_flatMap_modify (f := fun _ => a ++ more) (g := id) ha [] more (by simp)
  simpa [List.set_eq_modify, List.flatMap_id] using hperm

theorem perm_calls {index : Nat} {calls : List Call} {call : Call}
    (hcalls : (c.desks.map Desk.calls)[index]? = some calls)
    (hdesks : c'.desks.map Desk.calls = (c.desks.map Desk.calls).set index (calls ++ [call])) :
    c'.calls.Perm (c.calls ++ [call]) := by
  rw [Chronicle.calls, Chronicle.calls, List.flatMap_def, List.flatMap_def, hdesks]
  exact perm_flatten_set hcalls [call]

/-! ### The start -/

/-- At the start all workers are idle, and their desks are empty. -/
theorem forall₂_start {R : Worker → Desk → Prop} (hempty : R ⟨.idle, []⟩ .empty) (plan : Plan)
    (service : Service) (metrics : Metrics) (source : Source) (started : Nat) :
    List.Forall₂ R (start plan service metrics source started).state.workers.toList
      (start plan service metrics source started).desks := by
  simp only [start, State.initial, Array.toList_replicate]
  rw [List.forall₂_iff_get]
  refine ⟨by simp, fun i _ _ => ?_⟩
  simpa using hempty

theorem seats_start (plan : Plan) (service : Service) (metrics : Metrics) (source : Source)
    (started : Nat) : (start plan service metrics source started).Seats :=
  forall₂_start ⟨by simp, fun _ => rfl, by simp⟩ plan service metrics source started

theorem calls_start (plan : Plan) (service : Service) (metrics : Metrics) (source : Source)
    (started : Nat) : (start plan service metrics source started).calls = [] := by
  simp +contextual [calls, start, List.flatMap_eq_nil_iff, List.mem_replicate, Desk.calls,
    Desk.visits, Desk.empty]

end Chronicle

end Rewind.Batch
