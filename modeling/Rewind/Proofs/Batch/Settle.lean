import Rewind.Proofs.Batch.Amid
import Rewind.Proofs.Batch.Termination
import Rewind.Proofs.Run

/-!
Running a batch to its end.

A batch that is run makes one step after the other that its actors can make: first those that its agenda
says, and then those of one actor after the other. A worker that does all of the work on its target makes
the steps of this work in a row. So what is known of all schedules is known of the run. It ends, because
whoever goes on behind the agenda leaves less to do.

Main statements: `Chronicle.exists_schedule`, and `State.isFinal_run`.
-/

namespace Rewind

/-! ### What a source still brings -/

namespace Source

variable {visibility : String → List WorkflowRef} {source behind : Source} {request : ScanRequest}

theorem ahead_poll (visibility : String → List WorkflowRef) (source : Source) :
    source.poll.2.ahead visibility = source.ahead visibility := by
  unfold poll
  split
  · next file hfeed => simp only [ahead, hfeed]
  · next targets hfeed =>
      split
      · next ref pages htake =>
          obtain ⟨-, htoken, hexhausted⟩ := Cursor.take?_eq_some htake
          simp only [ahead, hfeed, htoken, hexhausted]
      · split <;> rfl

/-- A page and its items leave less to come. -/
theorem supply_receive (hpoll : source.poll = (.ask request, behind)) {store : Store}
    {page : Page WorkflowRef} (hpage : store.scanPage request = .ok page) :
    (behind.receive page).left + (behind.receive page).ahead store.visibility + 1 ≤
      source.left + source.ahead store.visibility := by
  obtain ⟨targets, hfeed, hopen, hempty, rfl, rfl⟩ := exists_query hpoll
  rw [Store.scanPage] at hpage
  cases hoffset : Paging.offsetOf? targets.request.token with
  | error error => simp [hoffset, Except.map] at hpage
  | ok offset =>
      rw [hoffset] at hpage
      have hplace : Paging.offsetOf? targets.pages.token = .ok offset := hoffset
      obtain rfl : Paging.page (store.visibility targets.query) offset
          (Paging.limit store.pageCap targets.request.pageSize) = page := Except.ok.inj hpage
      have hlength := Paging.length_page_le (store.visibility targets.query) offset
        (Paging.limit store.pageCap targets.request.pageSize)
      simp only [left, ahead, receive, hfeed, Cursor.receive, hopen, hempty, hplace,
        Bool.false_eq_true, if_false, List.nil_append, List.length_nil]
      cases htoken : (Paging.page (store.visibility targets.query) offset
          (Paging.limit store.pageCap targets.request.pageSize)).token with
      | none =>
          simp only [hasMore, Bool.not_false, if_true]
          omega
      | some token =>
          obtain ⟨stop, rfl, hless, hstop, hitems⟩ :=
            Paging.exists_stop (Paging.limit_pos _ _) htoken
          simp only [Paging.hasMore_tokenOf, Bool.not_true, Bool.false_eq_true, if_false, if_true]
          split
          · next next hnext =>
              obtain rfl := Paging.eq_of_offsetOf?_tokenOf hnext
              omega
          · omega

end Source

/-- Calls leave the answers to queries alone. -/
theorem Service.Later.visibility_eq {s t : Service} (h : s.Later t) :
    t.store.visibility = s.store.visibility := by
  obtain ⟨log, hlog⟩ := h.exists_logs
  exact hlog.visibility_eq

namespace Batch

namespace State

variable {plan : Plan} {s s' : State} {actor : Actor}

/-- What the source gives out and the pages that it gets are taken from what it still brings. -/
theorem supply_of_effect (h : Effect plan s.service.call s actor s') :
    s'.supply + s.fetched s.service.call actor + (s.given actor).toList.length ≤ s.supply := by
  have hleft := s.source.left_poll
  have hahead := s.source.ahead_poll s.service.store.visibility
  cases h with
  | closed hproducer hpoll | offered hproducer hpoll | excluded hproducer hpoll
  | failed hproducer hpoll =>
      simp only [hpoll] at hleft hahead
      simp only [supply, exclude, sourceFailed_source, sourceFailed_service, fetched, given, hproducer,
        hpoll, hahead]
      omega
  | @scanned attempt source request hproducer hpoll =>
      have hvisibility := (Service.Later.call s.service (.scan request)).visibility_eq
      rcases hcall : s.service.call (.scan request) with ⟨error | page, service⟩
      · simp only [hpoll] at hleft hahead
        simp only [hcall] at hvisibility
        simp only [scanned, supply, sourceFailed_source, sourceFailed_service, fetched, given,
          hproducer, hpoll, hcall, hvisibility, hahead]
        omega
      · have hpage : (s.service.store.count .scan).scanPage request = .ok page :=
          s.service.served_of_ok (congrArg Prod.fst hcall)
        have hreceived := Source.supply_receive hpoll hpage
        simp only [hcall] at hvisibility
        simp only [scanned, supply, fetched, given, givenBy, hproducer, hpoll, hcall, hvisibility]
        exact hreceived
  | rested hproducer | queued hproducer => simp [supply, fetched, given, hproducer]
  | taken | left | finished | paused | readied =>
      simp [supply, fetched, given, take, handOver, finish, resumed]
  | @answered index worker target program request resume hworker htask hnext =>
      have hvisibility := (Service.Later.call s.service request).visibility_eq
      simp [supply, fetched, given, resumed, hvisibility]

/-- A step that is not at a target leaves less to do. -/
theorem workload_of_effect (h : Effect plan s.service.call s actor s')
    (hworks : s.works actor = false) : s'.workload plan < s.workload plan := by
  have hrest := rest_of_effect h
  have hsupply := Nat.mul_le_mul_left (2 * tries plan + 4) (supply_of_effect h)
  have hfetched : s.fetched s.service.call actor ≤
      (2 * tries plan + 4) * s.fetched s.service.call actor :=
    Nat.le_mul_of_pos_left _ (Nat.succ_pos _)
  have hprice : 1 ≤ s.price actor := by
    simp [price, hworks]
  simp only [Nat.mul_add] at hsupply
  unfold workload
  omega

/-- So does all of the work on a target. -/
theorem workload_finish {index : Nat} {worker : Worker} {target : WorkflowRef}
    {program : Program (Attempted ResetError OutcomeStatus)}
    (hworker : s.workers[index]? = some worker) (htask : worker.task = .busy target program)
    (attempted : Attempted ResetError OutcomeStatus) {service : Service}
    (hlater : s.service.Later service) :
    ({ s with service }.finish plan index worker target attempted).workload plan <
      s.workload plan := by
  have hrest : ({ s with service }.finish plan index worker target attempted).rest plan + 1 ≤
      s.rest plan := by
    refine rest_set hworker _ _ _ _ _ _ ?_
    simp only [htask, Task.rest]
    omega
  have hsupply : ({ s with service }.finish plan index worker target attempted).supply =
      s.supply := by
    simp only [supply, finish, hlater.visibility_eq]
  rw [workload, workload, hsupply]
  omega

/-- Whoever can go on leaves less to do. -/
theorem workload_advance (hcan : s.canStep plan actor) :
    (s.advance plan actor).workload plan < s.workload plan := by
  have hstep (hworks : s.works actor = false) :
      (s.step plan actor).workload plan < s.workload plan := by
    rw [step_eq_stepUnder]
    exact workload_of_effect (effect_of_canStep _ hcan) hworks
  cases actor with
  | producer => exact hstep rfl
  | worker index =>
      cases hworker : s.workers[index]? with
      | none => simp [canStep, need, hworker] at hcan
      | some worker =>
          have hneed := need_worker hworker
          cases htask : worker.task with
          | busy target program =>
              simp only [advance, hworker, htask]
              exact workload_finish hworker htask _ (Program.later_run program s.service)
          | idle | pausing | ended =>
              simp only [advance, hworker, htask]
              exact hstep (by simp [works, hneed, htask, Task.need])

/-- Who does not belong to the batch can not make a step. -/
theorem mem_actors_of_canStep (hcan : s.canStep plan actor) : actor ∈ s.actors := by
  cases actor with
  | producer => exact List.mem_cons_self
  | worker index =>
      have hindex : index < s.workers.size := by
        by_contra hnot
        simp [canStep, need, hnot] at hcan
      exact List.mem_cons_of_mem _ (List.mem_map.mpr ⟨index, List.mem_range.mpr hindex, rfl⟩)

/-- With as many turns as there is work, nobody is left who can go on. -/
theorem canStep_settle {turns : Nat} (henough : s.workload plan ≤ turns) (actor : Actor) :
    (s.settle plan turns).canStep plan actor = false := by
  induction turns generalizing s with
  | zero =>
      by_contra hcan
      have hless := workload_advance (by simpa [settle] using hcan)
      omega
  | succ turns ih =>
      rw [settle]
      split
      · next actor hfound =>
          have hless := workload_advance (List.find?_some hfound)
          exact ih (by omega)
      · next hnone =>
          by_contra hcan
          have hcan : s.canStep plan actor := by simpa using hcan
          exact List.find?_eq_none.mp hnone actor (mem_actors_of_canStep hcan) hcan

/-! ### Work in a row -/

theorem getElem?_resumed {index : Nat} {worker : Worker} (hworker : s.workers[index]? = some worker)
    (service : Service) (outcomes : List Outcome) (target : WorkflowRef)
    (program : Program (Attempted ResetError OutcomeStatus)) :
    (s.resumed service index outcomes target program).workers[index]? =
      some ⟨.busy target program, outcomes⟩ := by
  have hindex := (Array.getElem?_eq_some_iff.mp hworker).1
  simp [resumed, hindex]

/-- A worker that is at a target can go on. -/
theorem canStep_of_busy {index : Nat} {worker : Worker} {target : WorkflowRef}
    {program : Program (Attempted ResetError OutcomeStatus)}
    (hworker : s.workers[index]? = some worker) (htask : worker.task = .busy target program) :
    s.canStep plan (.worker index) := by
  rw [canStep, need_worker hworker, htask, Task.need]
  cases program.next <;> rfl

/-- What a worker has gone through on its target leaves no trace in its report but the service. -/
theorem finish_resumed (index : Nat) (worker : Worker) (service behind : Service)
    (target : WorkflowRef) (program : Program (Attempted ResetError OutcomeStatus))
    (attempted : Attempted ResetError OutcomeStatus) :
    { s.resumed service index worker.outcomes target program with service := behind }.finish plan
        index ⟨.busy target program, worker.outcomes⟩ target attempted =
      { s with service := behind }.finish plan index worker target attempted := by
  simp only [finish, resumed, Array.setIfInBounds_setIfInBounds]

end State

/-! ### Steps of a run -/

/-- A move of an agenda leaves the state alone, or makes a step that the actor can make. -/
theorem Agenda.move_state (agenda : Agenda) (plan : Plan) (turn : Turn) (s : State) :
    (agenda.move plan turn s).2 = s ∨
      s.canStep plan turn.actor ∧ (agenda.move plan turn s).2 = s.step plan turn.actor := by
  have hact (agenda : Agenda) : (agenda.act plan turn.actor s).2 = s.step plan turn.actor := rfl
  have hafter (agenda : Agenda) (wait cost : Nat) :
      (agenda.actAfter plan turn wait cost s).2 = s ∨
        (agenda.actAfter plan turn wait cost s).2 = s.step plan turn.actor := by
    unfold actAfter
    split
    · exact .inr (hact _)
    · split
      · exact .inl rfl
      · split
        · exact .inr (hact _)
        · exact .inl rfl
  unfold move
  cases hturn : s.need turn.actor with
  | nothing | answer =>
      rcases hafter _ _ _ with hsame | hstep
      · exact .inl hsame
      · exact .inr ⟨by rw [State.canStep, hturn], hstep⟩
  | retryPause | pacingPause =>
      rcases hafter _ _ _ with hsame | hstep
      · exact .inl hsame
      · exact .inr ⟨by rw [State.canStep, hturn], hstep⟩
  | target =>
      simp only [State.canStep, hturn, moveIdle]
      split
      · exact .inl rfl
      · split
        · exact .inl rfl
        · split
          · unfold moveAtCounter
            split
            · exact .inl rfl
            · split
              · exact .inr ⟨‹_›, hact _⟩
              · exact .inl rfl
            · split
              · exact .inr ⟨‹_›, hact _⟩
              · exact .inl rfl
          · exact .inl rfl
  | room =>
      simp only [State.canStep, hturn, moveHolding]
      split
      · exact .inl rfl
      · split
        · exact .inr ⟨‹_›, hact _⟩
        · exact .inl rfl
  | impossible => exact .inl rfl

namespace Chronicle

variable {plan : Plan} {c : Chronicle} {actor : Actor}

theorem follow?_singleton (hcan : c.state.canStep plan actor) :
    c.follow? plan [actor] =
      some { c.record plan actor with state := c.state.step plan actor } := by
  simp [follow?, step?, State.step?, hcan]

theorem exists_schedule_of_runAgenda (plan : Plan) (fuel : Nat) (agenda : Agenda)
    (c : Chronicle) :
    ∃ schedule c', c.follow? plan schedule = some c' ∧
      c'.state = c.state.runAgenda plan fuel agenda := by
  induction fuel generalizing agenda c with
  | zero => exact ⟨[], c, rfl, rfl⟩
  | succ fuel ih =>
      simp only [State.runAgenda]
      split
      · rename_i turn _
        rcases Agenda.move_state agenda plan turn c.state with hsame | ⟨hcan, hstep⟩
        · obtain ⟨schedule, c', hrun, hstate⟩ := ih (agenda.move plan turn c.state).1 c
          exact ⟨schedule, c', hrun, by rw [hstate, hsame]⟩
        · obtain ⟨schedule, c', hrun, hstate⟩ := ih (agenda.move plan turn c.state).1
            { c.record plan turn.actor with state := c.state.step plan turn.actor }
          exact ⟨_, c', follow?_append (follow?_singleton hcan) hrun, by rw [hstate, hstep]⟩
      · split
        · exact ih _ c
        · exact ⟨[], c, rfl, rfl⟩

theorem bounded_of_follow? {schedule : List Actor} {c' : Chronicle}
    (hrun : c.follow? plan schedule = some c') (hbounded : c.state.service.store.Bounded) :
    c'.state.service.store.Bounded := by
  have hlater : c.state.service.Later c'.state.service :=
    of_follow? (fun c' => c.state.service.Later c'.state.service)
      (fun _ _ h hc => hc.trans (later_of_change h)) hrun .same
  obtain ⟨log, hlog⟩ := hlater.exists_logs
  exact hlog.bounded hbounded

/-- A worker whose next step goes on with the work on its target does this work if it does the rest. -/
theorem exists_schedule_of_resumed {index : Nat} {worker : Worker} {target : WorkflowRef}
    {program : Program (Attempted ResetError OutcomeStatus)}
    {attempted : Attempted ResetError OutcomeStatus} {service behind : Service}
    (hcan : c.state.canStep plan (.worker index))
    (hstep : c.state.step plan (.worker index) =
      c.state.resumed service index worker.outcomes target program)
    (hrest : ∀ next : Chronicle,
      next.state = c.state.resumed service index worker.outcomes target program →
      ∃ schedule c', next.follow? plan schedule = some c' ∧
        c'.state = { next.state with service := behind }.finish plan index
          ⟨.busy target program, worker.outcomes⟩ target attempted) :
    ∃ schedule c', c.follow? plan schedule = some c' ∧
      c'.state = { c.state with service := behind }.finish plan index worker target attempted := by
  obtain ⟨schedule, c', hrun, hstate⟩ :=
    hrest { c.record plan (.worker index) with state := c.state.step plan (.worker index) } hstep
  refine ⟨_, c', follow?_append (follow?_singleton hcan) hrun, ?_⟩
  rw [hstate, hstep, State.finish_resumed]

/-- A worker can do all of the work on its target in a row. -/
theorem exists_schedule_of_ends {index : Nat} {worker : Worker} {target : WorkflowRef}
    {program : Program (Attempted ResetError OutcomeStatus)}
    {attempted : Attempted ResetError OutcomeStatus} {behind : Service}
    (h : program.Ends c.state.service attempted behind)
    (hworker : c.state.workers[index]? = some worker)
    (htask : worker.task = .busy target program) :
    ∃ schedule c', c.follow? plan schedule = some c' ∧
      c'.state = { c.state with service := behind }.finish plan index worker target attempted := by
  generalize hservice : c.state.service = service at h
  induction h generalizing c worker with
  | done hnext =>
      refine ⟨_, _, follow?_singleton (State.canStep_of_busy hworker htask), ?_⟩
      subst hservice
      simp only [State.step, State.stepWorker, hworker, htask, hnext]
  | @ask program service behind attempted request resume hnext _ ih =>
      have hstep : c.state.step plan (.worker index) =
          c.state.resumed (c.state.service.call request).2 index worker.outcomes target
            (resume (c.state.service.call request).1) := by
        simp only [State.step, State.stepWorker, hworker, htask, hnext, State.resumed]
      subst hservice
      refine exists_schedule_of_resumed (State.canStep_of_busy hworker htask) hstep ?_
      intro next hresumed
      exact ih (hresumed ▸ State.getElem?_resumed hworker _ _ _ _) rfl (hresumed ▸ rfl)
  | @pause program resume service behind attempted hnext _ ih =>
      have hstep : c.state.step plan (.worker index) =
          c.state.resumed c.state.service index worker.outcomes target resume := by
        simp only [State.step, State.stepWorker, hworker, htask, hnext, State.resumed]
      subst hservice
      refine exists_schedule_of_resumed (State.canStep_of_busy hworker htask) hstep ?_
      intro next hresumed
      exact ih (hresumed ▸ State.getElem?_resumed hworker _ _ _ _) rfl (hresumed ▸ rfl)

/-- So an actor that goes on follows a schedule. -/
theorem exists_schedule_of_advance (hcan : c.state.canStep plan actor)
    (hbounded : c.state.service.store.Bounded) :
    ∃ schedule c', c.follow? plan schedule = some c' ∧ c'.state = c.state.advance plan actor := by
  have hstep : ∃ schedule c', c.follow? plan schedule = some c' ∧
      c'.state = c.state.step plan actor := ⟨_, _, follow?_singleton hcan, rfl⟩
  cases actor with
  | producer => exact hstep
  | worker index =>
      cases hworker : c.state.workers[index]? with
      | none => simp [State.canStep, State.need, hworker] at hcan
      | some worker =>
          cases htask : worker.task with
          | busy target program =>
              simp only [State.advance, hworker, htask]
              exact exists_schedule_of_ends (Program.ends_run program hbounded) hworker htask
          | idle | pausing | ended =>
              simp only [State.advance, hworker, htask]
              exact hstep

theorem exists_schedule_of_settle (turns : Nat) (hbounded : c.state.service.store.Bounded) :
    ∃ schedule c', c.follow? plan schedule = some c' ∧ c'.state = c.state.settle plan turns := by
  induction turns generalizing c with
  | zero => exact ⟨[], c, rfl, rfl⟩
  | succ turns ih =>
      rw [State.settle]
      split
      · next actor hfound =>
          obtain ⟨first, mid, hfirst, hmid⟩ :=
            exists_schedule_of_advance (List.find?_some hfound) hbounded
          obtain ⟨second, c', hsecond, hstate⟩ := ih (bounded_of_follow? hfirst hbounded)
          exact ⟨_, c', follow?_append hfirst hsecond, by rw [hstate, hmid]⟩
      · exact ⟨[], c, rfl, rfl⟩

/-- A batch that is run follows a schedule. -/
theorem exists_schedule (plan : Plan) {service : Service} (hbounded : service.store.Bounded)
    (metrics : Metrics) (source : Source) (started : Nat) :
    ∃ schedule c, (start plan service metrics source started).follow? plan schedule = some c ∧
      c.state = plan.run service metrics source started := by
  obtain ⟨first, mid, hfirst, hmid⟩ := exists_schedule_of_runAgenda plan
    (State.workLeft plan (State.initial plan service metrics source started))
    (.initial (State.initial plan service metrics source started))
    (start plan service metrics source started)
  obtain ⟨second, c, hsecond, hstate⟩ := exists_schedule_of_settle (mid.state.workload plan)
    (bounded_of_follow? hfirst hbounded)
  refine ⟨_, c, follow?_append hfirst hsecond, ?_⟩
  rw [hstate, hmid]
  rfl

end Chronicle

/-- What a batch that is run ends with is the state at some moment. -/
theorem Moment.exists_reachable_run (plan : Plan) {service : Service}
    (hbounded : service.store.Bounded) (metrics : Metrics) (source : Source) (started : Nat) :
    ∃ m, Reachable plan (start plan service metrics source started) m ∧
      m.state = plan.run service metrics source started := by
  obtain ⟨schedule, c, hrun, hstate⟩ :=
    Chronicle.exists_schedule plan hbounded metrics source started
  have hfirst : Reachable plan (start plan service metrics source started)
      (start plan service metrics source started) := .first
  obtain ⟨m, hm, hsame, -⟩ := exists_reachable_of_follow? hrun hfirst rfl rfl
  exact ⟨m, hm, hsame.trans hstate⟩

/-- A batch that is run ends. -/
theorem State.isFinal_run {plan : Plan} (hparallel : 1 ≤ plan.config.parallelism)
    {service : Service} (hbounded : service.store.Bounded) (metrics : Metrics) (source : Source)
    (started : Nat) : (plan.run service metrics source started).isFinal := by
  obtain ⟨m, hm, hstate⟩ := Moment.exists_reachable_run plan hbounded metrics source started
  have hsound := Moment.sound_of_reachable hm
  rw [← hstate]
  by_contra hgoes
  obtain ⟨actor, hcan⟩ := m.state.exists_canStep plan (hsound.size ▸ hparallel) hsound.order
    (by simpa using hgoes)
  rw [hstate, Plan.run, run, canStep_settle (Nat.le_refl _) actor] at hcan
  exact absurd hcan (by simp)

end Batch

end Rewind
