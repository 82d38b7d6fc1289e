import Rewind.Proofs.Batch.Visits

/-!
Accounting for the items of a source.

Every item that the source gives out is somewhere: an excluded one among the outcomes, a target with
the producer, in the queue, or with one worker. A batch that has ended has nothing left on the way,
so its outcomes are those of the items, one each.

Main statements: what is known at any time (`accounted_of_follow?`), and the account of a batch that
has ended (`outcomes_match_items`).
-/

namespace Rewind

namespace SourceItem

@[simp] def target? : SourceItem → Option WorkflowRef
  | .target ref => some ref
  | .excluded _ => none

@[simp] def excluded? : SourceItem → Option WorkflowRef
  | .target _ => none
  | .excluded ref => some ref

end SourceItem

namespace Batch

/-- The item that an answer of the source gives out. -/
@[simp] def itemOf : Except ResetError (Option SourceItem) → Option SourceItem
  | .ok item => item
  | .error _ => none

namespace Producer

/-- The target that the producer holds. -/
def held : Producer → List WorkflowRef
  | .holding target => [target]
  | _ => []

@[simp] theorem held_pulling (attempt : Nat) : (pulling attempt).held = [] := rfl

@[simp] theorem held_pausing (attempt : Nat) : (pausing attempt).held = [] := rfl

@[simp] theorem held_holding (target : WorkflowRef) : (holding target).held = [target] := rfl

@[simp] theorem held_ended (failure : Option ResetError) : (ended failure).held = [] := rfl

end Producer

namespace Chronicle

variable {plan : Plan} {c c' : Chronicle}

/-- The items that the source has given out, in order. -/
def items (c : Chronicle) : List SourceItem :=
  c.answers.filterMap itemOf

/-- The targets among them. -/
def targets (c : Chronicle) : List WorkflowRef :=
  c.items.filterMap SourceItem.target?

/-- The excluded ones among them. -/
def exclusions (c : Chronicle) : List WorkflowRef :=
  c.items.filterMap SourceItem.excluded?

@[simp] theorem sourceFailed_held (plan : Plan) (s : State) (attempt : Nat) (error : ResetError) :
    (s.sourceFailed plan attempt error).producer.held = [] := by
  rcases s.sourceFailed_producer plan attempt error with ⟨-, h⟩ | h <;> rw [h] <;> rfl

/-! ### Where the targets are -/

/-- Every target that was given out is at a desk, in the queue, or held by the producer. -/
def TargetsPlaced (c : Chronicle) : Prop :=
  c.targets.Perm
    (c.desks.flatMap Desk.targets ++ (c.state.queue ++ c.state.producer.held))

theorem targetsPlaced_of_change (h : Change plan c c') (hseats : c.Seats)
    (hc : c.TargetsPlaced) : c'.TargetsPlaced := by
  unfold TargetsPlaced targets items at *
  cases h with
  | closed attempt source hproducer hpoll =>
      simpa [hproducer, List.filterMap_cons] using hc
  | excluded attempt source target hproducer hpoll =>
      simpa [hproducer, List.filterMap_cons, State.exclude] using hc
  | offered attempt source target hproducer hpoll =>
      simpa [hproducer] using hc.append_right [target]
  | failed attempt source error hproducer hpoll =>
      simpa [hproducer, List.filterMap_cons] using hc
  | paged attempt source request page hproducer hpoll hcall => simpa [hproducer] using hc
  | pageFailed attempt source request error hproducer hpoll hcall =>
      simpa [hproducer, List.filterMap_cons] using hc
  | resumed attempt hproducer => simpa [hproducer] using hc
  | queued target hproducer hroom => simpa [hproducer] using hc
  | taken index worker target rest hworker htask hqueue =>
      obtain ⟨desk, hdesk, hseat⟩ := hseats.exists_desk hworker
      have hfree : desk.current = none := hseat.free (by simp [htask])
      have hadded : ((desk.take target (plan.requestIds c.state.started)).targets ++ []).Perm
          (desk.targets ++ [target]) := by
        simp [Desk.targets, Desk.visits_take hfree]
      have hperm := perm_flatMap_modify (g := Desk.targets) hdesk [] [target] hadded
      apply hc.trans
      simp only [State.take, hqueue, List.cons_append]
      apply List.perm_middle.trans
      simpa [List.append_assoc] using
        ((List.perm_append_singleton _ _).symm.trans hperm.symm).append_right
          (rest ++ c.state.producer.held)
  | left index worker hworker htask hqueue hclosed => exact hc
  | finished index worker target program attempted hworker htask hnext =>
      rw [flatMap_modify (g := Desk.targets) (fun desk => by simp [Desk.targets])]
      exact hc
  | called index worker target program request resume hworker htask hnext =>
      rw [flatMap_modify (g := Desk.targets) (fun desk => by simp)]
      exact hc
  | rested index worker target program resume hworker htask hnext => exact hc
  | readied index worker hworker htask => exact hc

/-! ### Where the outcomes are -/

/-- Every outcome of a visit was handed over, or is with its worker. -/
def OutcomesPlaced (c : Chronicle) : Prop :=
  (c.state.processed ++ c.state.workers.toList.flatMap Worker.outcomes).Perm
    (c.desks.flatMap Desk.outcomes)

theorem set_eq_modify {workers : Array Worker} {index : Nat} {worker : Worker} :
    (workers.setIfInBounds index worker).toList =
      workers.toList.modify index fun _ => worker := by
  simp [List.set_eq_modify]

theorem outcomesPlaced_of_change (h : Change plan c c') (hseats : c.Seats)
    (hc : c.OutcomesPlaced) : c'.OutcomesPlaced := by
  -- A step that leaves the outcomes of its worker alone moves none.
  have hkept {index : Nat} {worker : Worker} (task : Task)
      (hworker : c.state.workers[index]? = some worker) :
      (c.state.processed ++ ((c.state.workers.setIfInBounds index
        { worker with task }).toList).flatMap Worker.outcomes).Perm
      (c.desks.flatMap Desk.outcomes) := by
    rw [set_eq_modify]
    have hperm := perm_flatMap_modify (f := fun _ => { worker with task }) (g := Worker.outcomes)
      (getElem?_toList hworker) [] [] (.refl (worker.outcomes ++ []))
    exact ((by simpa using hperm : List.Perm _ _).append_left _).trans hc
  cases h with
  | closed | excluded | offered | paged | resumed | queued => exact hc
  | failed | pageFailed => simpa [OutcomesPlaced] using hc
  | taken index worker target rest hworker htask hqueue =>
      unfold OutcomesPlaced
      rw [flatMap_modify (g := Desk.outcomes) (fun desk => by simp)]
      exact hkept _ hworker
  | left index worker hworker htask hqueue hclosed =>
      unfold OutcomesPlaced
      simp only [State.handOver, set_eq_modify]
      have hperm := perm_flatMap_modify (f := fun _ => ⟨.ended, []⟩) (g := Worker.outcomes)
        (getElem?_toList hworker) worker.outcomes [] (by simp)
      refine List.Perm.trans ?_ hc
      rw [List.append_assoc]
      exact (List.perm_append_comm.trans (by simpa using hperm)).append_left _
  | finished index worker target program attempted hworker htask hnext =>
      obtain ⟨desk, hdesk, hseat⟩ := hseats.exists_desk hworker
      obtain ⟨visit, hvisit, -⟩ := hseat.busy target program htask
      unfold OutcomesPlaced
      simp only [State.finish, set_eq_modify]
      have hworkers := perm_flatMap_modify
        (f := fun _ => ⟨.pausing, worker.outcomes ++ [plan.outcome target attempted]⟩)
        (g := Worker.outcomes) (getElem?_toList hworker) [] [plan.outcome target attempted] (by simp)
      have hdesks := perm_flatMap_modify (f := Desk.close (plan.outcome target attempted))
        (g := Desk.outcomes) hdesk [] [plan.outcome target attempted]
        (by simp [Desk.outcomes_close hvisit])
      rw [List.append_nil] at hworkers hdesks
      refine (hworkers.append_left _).trans (List.Perm.trans ?_ hdesks.symm)
      rw [← List.append_assoc]
      exact hc.append_right _
  | called index worker target program request resume hworker htask hnext =>
      unfold OutcomesPlaced
      rw [flatMap_modify (g := Desk.outcomes) (fun desk => by simp)]
      exact hkept _ hworker
  | rested index worker target program resume hworker htask hnext => exact hkept _ hworker
  | readied index worker hworker htask => exact hkept _ hworker

/-- The outcomes of excluded items, in the order of the source. -/
def ExclusionsReported (plan : Plan) (c : Chronicle) : Prop :=
  c.state.excluded = c.exclusions.map fun target => .excluded target plan.stamp

theorem exclusionsReported_of_change (h : Change plan c c') (hc : c.ExclusionsReported plan) :
    c'.ExclusionsReported plan := by
  unfold ExclusionsReported exclusions items at *
  cases h with
  | excluded attempt source target hproducer hpoll => simp [State.exclude, hc]
  | closed | failed | pageFailed => simpa [List.filterMap_cons] using hc
  | offered => simpa [List.filterMap_cons] using hc
  | paged | resumed | queued | taken | left | finished | called | rested | readied => exact hc

/-! ### How a batch ends -/

/-- An answer behind which the source is asked again: an item, or a failure that may pass. -/
def IsPassing : Except ResetError (Option SourceItem) → Prop
  | .ok item => item.isSome
  | .error error => error.isRetryable

/-- The source was asked again behind all of its answers but the last one; with that one, which is
its end or a failure, the producer has ended. -/
def SourceHeard (c : Chronicle) : Prop :=
  match c.state.producer with
  | .ended none => ∃ earlier, c.answers = earlier ++ [.ok none] ∧ ∀ answer ∈ earlier, IsPassing answer
  | .ended (some error) =>
      ∃ earlier, c.answers = earlier ++ [.error error] ∧ ∀ answer ∈ earlier, IsPassing answer
  | _ => ∀ answer ∈ c.answers, IsPassing answer

theorem sourceHeard_of_failure {s : State} {attempt : Nat} {error : ResetError}
    (hpassing : ∀ answer ∈ c.answers, IsPassing answer)
    (hstate : c'.state = s.sourceFailed plan attempt error)
    (hanswers : c'.answers = c.answers ++ [.error error]) : c'.SourceHeard := by
  unfold SourceHeard
  rw [hstate, hanswers]
  rcases s.sourceFailed_producer plan attempt error with ⟨hretry, hproducer⟩ | hproducer
  · rw [hproducer]
    simpa [List.mem_append, or_imp, forall_and, IsPassing, hretry] using hpassing
  · rw [hproducer]
    exact ⟨c.answers, rfl, hpassing⟩

theorem sourceHeard_of_change (h : Change plan c c') (hc : c.SourceHeard) : c'.SourceHeard := by
  cases h with
  | closed attempt source hproducer hpoll =>
      exact ⟨c.answers, rfl, by simpa [SourceHeard, hproducer] using hc⟩
  | excluded attempt source target hproducer hpoll =>
      simpa [SourceHeard, hproducer, State.exclude, or_imp, forall_and, IsPassing] using hc
  | offered attempt source target hproducer hpoll =>
      simpa [SourceHeard, hproducer, or_imp, forall_and, IsPassing] using hc
  | failed attempt source error hproducer hpoll =>
      exact sourceHeard_of_failure (by simpa [SourceHeard, hproducer] using hc) rfl rfl
  | pageFailed attempt source request error hproducer hpoll hcall =>
      exact sourceHeard_of_failure (by simpa [SourceHeard, hproducer] using hc) rfl rfl
  | paged attempt source request page hproducer hpoll hcall =>
      simpa [SourceHeard, hproducer] using hc
  | resumed attempt hproducer => simpa [SourceHeard, hproducer] using hc
  | queued target hproducer hroom => simpa [SourceHeard, hproducer] using hc
  | taken | left | finished | called | rested | readied => exact hc

/-- A worker ends only behind the end of the producer, and leaves an empty queue. -/
def EndsLast (c : Chronicle) : Prop :=
  (∃ worker ∈ c.state.workers.toList, worker.task = .ended) →
    c.state.isSourceClosed ∧ c.state.queue = []

theorem endsLast_of_change (h : Change plan c c') (hc : c.EndsLast) : c'.EndsLast := by
  -- A worker that is at work changes nothing of what the others know.
  have hset {index : Nat} {worker : Worker} {c' : Chronicle} (hended : worker.task ≠ .ended)
      (hworkers : c'.state.workers = c.state.workers.setIfInBounds index worker)
      (hkept : c.state.isSourceClosed ∧ c.state.queue = [] →
        c'.state.isSourceClosed ∧ c'.state.queue = []) : c'.EndsLast := by
    rintro ⟨other, hother, htask⟩
    rw [hworkers, Array.toList_setIfInBounds] at hother
    rcases List.mem_or_eq_of_mem_set hother with hold | rfl
    · exact hkept (hc ⟨other, hold, htask⟩)
    · exact absurd htask hended
  have hproducer (hopen : c.state.isSourceClosed = false) {c' : Chronicle}
      (hworkers : c'.state.workers = c.state.workers) : c'.EndsLast := by
    rintro ⟨other, hother, htask⟩
    rw [hworkers] at hother
    exact absurd (hc ⟨other, hother, htask⟩).1 (by simp [hopen])
  cases h with
  | closed attempt source hpulling | excluded attempt source target hpulling
  | offered attempt source target hpulling | failed attempt source error hpulling
  | paged attempt source request page hpulling | pageFailed attempt source request error hpulling
  | resumed attempt hpulling | queued target hpulling =>
      exact hproducer (by simp [State.isSourceClosed, hpulling]) (by simp [State.exclude])
  | taken index worker target rest hworker htask hqueue =>
      exact hset (by simp) rfl fun hclosed => by simp [hqueue] at hclosed
  | left index worker hworker htask hqueue hclosed => exact fun _ => ⟨hclosed, hqueue⟩
  | finished index worker target program attempted hworker htask hnext =>
      exact hset (by simp) rfl id
  | called index worker target program request resume hworker htask hnext =>
      exact hset (by simp) rfl id
  | rested index worker target program resume hworker htask hnext => exact hset (by simp) rfl id
  | readied index worker hworker htask => exact hset (by simp) rfl id

/-! ### The account of a batch -/

/-- All that is known about items and outcomes at any time. -/
structure Accounted (plan : Plan) (c : Chronicle) : Prop where
  seats : c.Seats
  lawful : c.Lawful plan
  targets : c.TargetsPlaced
  outcomes : c.OutcomesPlaced
  exclusions : c.ExclusionsReported plan
  heard : c.SourceHeard
  last : c.EndsLast

theorem accounted_of_change (c c' : Chronicle) (h : Change plan c c') (hc : c.Accounted plan) :
    c'.Accounted plan where
  seats := seats_of_change h hc.seats
  lawful := lawful_of_change h hc.seats hc.lawful
  targets := targetsPlaced_of_change h hc.seats hc.targets
  outcomes := outcomesPlaced_of_change h hc.seats hc.outcomes
  exclusions := exclusionsReported_of_change h hc.exclusions
  heard := sourceHeard_of_change h hc.heard
  last := endsLast_of_change h hc.last

theorem accounted_start (plan : Plan) (service : Service) (metrics : Metrics) (source : Source)
    (started : Nat) : (start plan service metrics source started).Accounted plan where
  seats := seats_start plan service metrics source started
  lawful := lawful_start plan service metrics source started
  targets := by
    simp [TargetsPlaced, Chronicle.targets, items, start, State.initial, Desk.targets, Desk.visits,
      Desk.empty]
  outcomes := by
    have hworkers : (List.replicate plan.config.parallelism (⟨.idle, []⟩ : Worker)).flatMap
        Worker.outcomes = [] := by
      simp +contextual [List.flatMap_eq_nil_iff, List.mem_replicate]
    have hdesks : (List.replicate plan.config.parallelism Desk.empty).flatMap
        Desk.outcomes = [] := by
      simp +contextual [List.flatMap_eq_nil_iff, List.mem_replicate, Desk.outcomes, Desk.empty]
    simp [OutcomesPlaced, start, State.initial, hworkers, hdesks]
  exclusions := rfl
  heard := by simp [SourceHeard, start, State.initial]
  last := by
    rintro ⟨worker, hworker, htask⟩
    simp only [start, State.initial, Array.toList_replicate, List.mem_replicate] at hworker
    simp [hworker.2] at htask

theorem accounted_of_follow? {service : Service} {metrics : Metrics} {source : Source}
    {started : Nat} {schedule : List Actor}
    (hrun : (start plan service metrics source started).follow? plan schedule = some c) :
    c.Accounted plan :=
  of_follow? _ accounted_of_change hrun (accounted_start plan service metrics source started)

/-- What holds at the start and is kept by every step on top of the account. -/
theorem of_schedule {service : Service} {metrics : Metrics} {source : Source} {started : Nat}
    {schedule : List Actor} (Holds : Chronicle → Prop)
    (hkeep : ∀ c c', Change plan c c' → c.Accounted plan → Holds c → Holds c')
    (hstart : Holds (start plan service metrics source started))
    (hrun : (start plan service metrics source started).follow? plan schedule = some c) :
    Holds c := by
  refine (of_follow? (fun c => c.Accounted plan ∧ Holds c) ?_ hrun
    ⟨accounted_start plan service metrics source started, hstart⟩).2
  rintro c c' h ⟨haccounted, hc⟩
  exact ⟨accounted_of_change c c' h haccounted, hkeep c c' h haccounted hc⟩

/-- An outcome is that of an excluded item, or some worker has finished a visit with it. -/
theorem Accounted.excluded_or_finished (hc : c.Accounted plan) {outcome : Outcome}
    (houtcome : outcome ∈ c.state.outcomes) :
    (∃ target, outcome = .excluded target plan.stamp) ∨
      ∃ desk ∈ c.desks, ∃ entry ∈ desk.finished, entry.2 = outcome := by
  rcases List.mem_append.mp houtcome with hexcluded | hprocessed
  · rw [hc.exclusions] at hexcluded
    obtain ⟨target, -, rfl⟩ := List.mem_map.mp hexcluded
    exact .inl ⟨target, rfl⟩
  · have hdesks := hc.outcomes.mem_iff.mp (List.mem_append_left _ hprocessed)
    obtain ⟨desk, hdesk, hmem⟩ := List.mem_flatMap.mp hdesks
    exact .inr ⟨desk, hdesk, List.mem_map.mp hmem⟩

/-- Where all actors have ended, the producer and every worker has. -/
theorem ended_of_isFinal {s : State} (hfinal : s.isFinal) :
    (∃ failure, s.producer = .ended failure) ∧
      ∀ worker ∈ s.workers.toList, worker.task = .ended := by
  simp only [State.isFinal, State.actors, List.all_cons, List.all_map, Bool.and_eq_true,
    decide_eq_true_eq, List.all_eq_true, List.mem_range, Function.comp_apply] at hfinal
  obtain ⟨hproducer, hworkers⟩ := hfinal
  constructor
  · simp only [State.need, State.producerNeed] at hproducer
    split at hproducer
    · split at hproducer <;> simp at hproducer
    · simp at hproducer
    · simp at hproducer
    · rename_i failure hended
      exact ⟨failure, hended⟩
  · intro worker hworker
    obtain ⟨index, hindex, rfl⟩ := List.getElem_of_mem hworker
    have hneed := hworkers index (by simpa using hindex)
    simp only [Array.length_toList] at hindex
    simp only [State.need, hindex, getElem?_pos, Option.map_some, Option.getD_some,
      State.Task.need] at hneed
    simp only [Array.getElem_toList]
    split at hneed
    · simp at hneed
    · split at hneed <;> simp at hneed
    · simp at hneed
    · assumption

/-! ### A batch that has ended -/

/-- The last answer of the source decides what the batch returns: its outcomes at the end of the
items, and the failure of the source otherwise. -/
def Returns (c : Chronicle) : Except ResetError (Option SourceItem) → Prop
  | .ok item => item = none ∧ c.state.result = .ok c.state.outcomes
  | .error error => c.state.result = .error error

theorem SourceHeard.returns (hc : c.SourceHeard) {failure : Option ResetError}
    (hended : c.state.producer = .ended failure) :
    ∃ earlier last, c.answers = earlier ++ [last] ∧ (∀ answer ∈ earlier, IsPassing answer) ∧
      c.Returns last := by
  unfold SourceHeard at hc
  rw [hended] at hc
  cases failure with
  | none =>
      obtain ⟨earlier, hanswers, hpassing⟩ := hc
      exact ⟨earlier, .ok none, hanswers, hpassing, rfl, by simp [State.result, hended]⟩
  | some error =>
      obtain ⟨earlier, hanswers, hpassing⟩ := hc
      exact ⟨earlier, .error error, hanswers, hpassing, by simp [Returns, State.result, hended]⟩

/-- Behind the end of a batch nothing is left on the way. -/
structure Cleared (c : Chronicle) : Prop where
  queue : c.state.queue = []
  held : c.state.producer.held = []
  retired : c.state.workers.toList.flatMap Worker.outcomes = [] ∧
    ∀ desk ∈ c.desks, desk.current = none

theorem size_workers_of_change (h : Change plan c c') :
    c'.state.workers.size = c.state.workers.size := by
  cases h <;> simp [State.exclude, State.take, State.handOver, State.finish]

theorem size_workers {service : Service} {metrics : Metrics} {source : Source} {started : Nat}
    {schedule : List Actor}
    (hrun : (start plan service metrics source started).follow? plan schedule = some c) :
    c.state.workers.size = plan.config.parallelism := by
  refine of_follow? (fun c => c.state.workers.size = plan.config.parallelism) ?_ hrun
    (by simp [start, State.initial])
  intro c c' h hc
  rw [size_workers_of_change h, hc]

/-- Workers that have ended have handed over their outcomes, and are at no target. -/
theorem Accounted.retired (hc : c.Accounted plan) (hfinal : c.state.isFinal) :
    c.state.workers.toList.flatMap Worker.outcomes = [] ∧
      ∀ desk ∈ c.desks, desk.current = none := by
  have hended := (ended_of_isFinal hfinal).2
  have hseated {worker : Worker} {desk : Desk} (hworker : worker ∈ c.state.workers.toList)
      (hseat : Seated worker desk) : worker.outcomes = [] ∧ desk.current = none :=
    ⟨hseat.ended (hended worker hworker), hseat.free (by simp [hended worker hworker])⟩
  constructor
  · rw [List.flatMap_eq_nil_iff]
    intro worker hworker
    obtain ⟨desk, -, hseat⟩ := exists_right hc.seats hworker
    exact (hseated hworker hseat).1
  · intro desk hdesk
    obtain ⟨worker, hworker, hseat⟩ := exists_left hc.seats hdesk
    exact (hseated hworker hseat).2

theorem Accounted.cleared (hc : c.Accounted plan) (hworkers : 0 < c.state.workers.size)
    (hfinal : c.state.isFinal) : c.Cleared := by
  obtain ⟨⟨failure, hproducer⟩, hended⟩ := ended_of_isFinal hfinal
  have hlast := hc.last ⟨c.state.workers[0], by simp, hended _ (by simp)⟩
  exact ⟨hlast.2, by rw [hproducer]; rfl, hc.retired hfinal⟩

/-- A desk without a visit at hand has an outcome for each of its targets. -/
theorem Lawful.refs_eq_targets (hc : c.Lawful plan) {desk : Desk} (hdesk : desk ∈ c.desks)
    (hfree : desk.current = none) : desk.outcomes.map Outcome.ref = desk.targets := by
  simp only [Desk.outcomes, Desk.targets, Desk.visits, hfree, Option.toList_none, List.append_nil,
    List.map_map]
  apply List.map_congr_left
  intro entry hentry
  exact (hc.closed hdesk hentry).ref_eq

/-- All visits that have ended, with their outcomes. -/
def finished (c : Chronicle) : List (Visit × Outcome) :=
  c.desks.flatMap Desk.finished

theorem visits_eq_finished (hfree : ∀ desk ∈ c.desks, desk.current = none) :
    c.desks.flatMap Desk.visits = c.finished.map Prod.fst := by
  rw [finished, List.map_flatMap]
  apply List.flatMap_congr
  intro desk hdesk
  simp [Desk.visits, hfree desk hdesk]

theorem Accounted.perm_targets (hc : c.Accounted plan) (hclear : c.Cleared) :
    (c.desks.flatMap Desk.targets).Perm c.targets := by
  have htargets := hc.targets
  simp only [TargetsPlaced, hclear.queue, hclear.held, List.append_nil] at htargets
  exact htargets.symm

theorem Accounted.perm_finished (hc : c.Accounted plan) (hclear : c.Cleared) :
    (c.finished.map fun entry => entry.1.target).Perm c.targets := by
  have htargets : c.desks.flatMap Desk.targets =
      (c.desks.flatMap Desk.visits).map Visit.target := by
    rw [List.map_flatMap]
    rfl
  have hperm := hc.perm_targets hclear
  rwa [htargets, visits_eq_finished hclear.retired.2, List.map_map] at hperm

theorem Accounted.perm_outcomes (hc : c.Accounted plan) (hfinal : c.state.isFinal) :
    c.state.processed.Perm (c.desks.flatMap Desk.outcomes) := by
  have houtcomes := hc.outcomes
  rwa [OutcomesPlaced, (hc.retired hfinal).1, List.append_nil] at houtcomes

/-- An outcome that was handed over is that of a visit which has ended. -/
theorem Accounted.exists_finished (hc : c.Accounted plan) (hfinal : c.state.isFinal)
    {outcome : Outcome} (houtcome : outcome ∈ c.state.processed) :
    ∃ entry ∈ c.finished, entry.2 = outcome ∧ entry.1.target = outcome.ref := by
  obtain ⟨desk, hdesk, hmem⟩ := List.mem_flatMap.mp ((hc.perm_outcomes hfinal).mem_iff.mp houtcome)
  obtain ⟨entry, hentry, rfl⟩ := List.mem_map.mp hmem
  exact ⟨entry, List.mem_flatMap.mpr ⟨desk, hdesk, hentry⟩, rfl,
    (hc.lawful.closed hdesk hentry).ref_eq.symm⟩

theorem Accounted.processed_perm (hc : c.Accounted plan) (hfinal : c.state.isFinal)
    (hclear : c.Cleared) :
    (c.state.processed.map Outcome.ref).Perm c.targets := by
  have hdesks : (c.desks.flatMap Desk.outcomes).map Outcome.ref = c.desks.flatMap Desk.targets := by
    rw [List.map_flatMap]
    apply List.flatMap_congr
    intro desk hdesk
    exact hc.lawful.refs_eq_targets hdesk (hclear.retired.2 desk hdesk)
  calc c.state.processed.map Outcome.ref
      _ |>.Perm ((c.desks.flatMap Desk.outcomes).map Outcome.ref) :=
          (hc.perm_outcomes hfinal).map _
      _ |>.Perm c.targets := hdesks ▸ hc.perm_targets hclear

/-- Items are excluded ones or targets. -/
theorem perm_items (c : Chronicle) :
    (c.exclusions ++ c.targets).Perm (c.items.map SourceItem.ref) := by
  unfold exclusions targets
  induction c.items with
  | nil => exact .refl _
  | cons item items ih =>
      cases item with
      | excluded ref => simpa [SourceItem.ref, List.filterMap_cons] using ih
      | target ref =>
          simpa [SourceItem.ref, List.filterMap_cons] using List.perm_middle.trans (ih.cons ref)

/-- However the actors take turns, a batch that has ended returned its outcomes or the failure of its
source, as the last answer of the source says. Each item that the source gave out has one outcome; the
excluded ones were never attempted, and every target was processed exactly once. -/
theorem outcomes_match_items {plan : Plan} {service : Service} {metrics : Metrics}
    {source : Source} {started : Nat} {schedule : List Actor} {c : Chronicle}
    (hparallelism : 1 ≤ plan.config.parallelism)
    (hrun : (start plan service metrics source started).follow? plan schedule = some c)
    (hfinal : c.state.isFinal) :
    (∃ earlier last, c.answers = earlier ++ [last] ∧ (∀ answer ∈ earlier, IsPassing answer) ∧
      c.Returns last) ∧
    (c.state.outcomes.map Outcome.ref).Perm (c.items.map SourceItem.ref) ∧
    c.state.excluded = c.exclusions.map (fun target => .of target .excluded 0 plan.stamp) ∧
    (∀ outcome ∈ c.state.processed, outcome.status ≠ .excluded) ∧
    (c.state.processed.map Outcome.ref).Perm c.targets ∧
    ((c.desks.flatMap Desk.finished).map fun entry => entry.1.target).Perm c.targets ∧
    ∀ desk ∈ c.desks, desk.current = none := by
  have hc := accounted_of_follow? hrun
  have hclear := hc.cleared (by rw [size_workers hrun]; exact hparallelism) hfinal
  obtain ⟨⟨failure, hended⟩, -⟩ := ended_of_isFinal hfinal
  have hprocessed := hc.processed_perm hfinal hclear
  have hexcluded : c.state.excluded.map Outcome.ref = c.exclusions := by
    rw [hc.exclusions, List.map_map]
    exact List.map_id _
  refine ⟨hc.heard.returns hended, ?_, hc.exclusions, ?_, hprocessed, hc.perm_finished hclear,
    hclear.retired.2⟩
  · rw [State.outcomes, List.map_append, hexcluded]
    exact (hprocessed.append_left _).trans (perm_items c)
  · intro outcome houtcome
    obtain ⟨desk, hdesk, hmem⟩ :=
      List.mem_flatMap.mp ((hc.perm_outcomes hfinal).mem_iff.mp houtcome)
    obtain ⟨entry, hentry, rfl⟩ := List.mem_map.mp hmem
    exact (hc.lawful.closed hdesk hentry).status_ne_excluded

/-! ### A small batch -/

/-- The n-th of some ids. -/
def sampleId (n : Nat) : String :=
  String.ofList ('#' :: List.replicate n 'i')

/-- A plan with two workers. -/
def samplePlan : Plan where
  config := { BatchConfig.of "rollback" .lastWorkflowTask with skipIfOpen := true, parallelism := 2 }
  settings := .immediate
  operator := "ops"
  requestIds := sampleId
  randoms _ := 0
  stamp := .ofEpochNanoseconds 0

/-- A closed run with one workflow task. -/
def sampleRun (workflowId : String) : Run where
  workflowId := workflowId
  runId := "base"
  isOpen := false
  points := []
  history := [.started 1 none, .taskScheduled 2, .taskCompleted 3 2]

def sampleService : Service :=
  .ofStore (((Store.empty fun _ => sampleId).insertRun (sampleRun "pay")).insertRun
    (sampleRun "ship"))

/-- A query with these workflows on its last page, and one workflow that is excluded. -/
def sampleSource (workflowIds : List String) : Source where
  feed := .query ⟨"default", "all", ⟨workflowIds.map fun id => ⟨id, none⟩, none, true⟩⟩
  exclusions := .ofList ["audit"]

def sampleStart (workflowIds : List String) : Chronicle :=
  start samplePlan sampleService .zero (sampleSource workflowIds) 0

/-- The producer goes first. Then one worker does all the work, and the other one nothing. -/
def sampleSchedule : List Actor :=
  List.replicate 4 .producer ++ List.replicate 7 (.worker 1) ++ [.worker 0]

/-- Two workers take turns in the middle of their targets. -/
def crossedSchedule : List Actor :=
  List.replicate 5 .producer ++ List.replicate 3 (.worker 0) ++ List.replicate 7 (.worker 1) ++
    List.replicate 4 (.worker 0)

theorem outcomes_match_items_sample :
    ∃ c, (sampleStart ["pay", "audit"]).follow? samplePlan sampleSchedule = some c ∧
      c.state.isFinal ∧ c.items.map SourceItem.ref = [⟨"pay", none⟩, ⟨"audit", none⟩] ∧
      (c.state.outcomes.map Outcome.ref).Perm [⟨"pay", none⟩, ⟨"audit", none⟩] := by
  have hsome : ((sampleStart ["pay", "audit"]).follow? samplePlan sampleSchedule).isSome := by
    decide +kernel
  obtain ⟨c, hrun⟩ := Option.isSome_iff_exists.mp hsome
  have hends : ((sampleStart ["pay", "audit"]).follow? samplePlan sampleSchedule).map
      (fun c => (c.state.isFinal, c.items.map SourceItem.ref)) =
      some (true, [⟨"pay", none⟩, ⟨"audit", none⟩]) := by
    decide +kernel
  rw [hrun, Option.map_some, Option.some.injEq, Prod.mk.injEq] at hends
  obtain ⟨hfinal, hitems⟩ := hends
  obtain ⟨-, hperm, -⟩ := outcomes_match_items (by decide) hrun hfinal
  exact ⟨c, hrun, hfinal, hitems, hitems ▸ hperm⟩

end Chronicle

end Batch

end Rewind
