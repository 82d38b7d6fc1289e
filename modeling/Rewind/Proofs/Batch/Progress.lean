import Mathlib.Algebra.GroupWithZero.Nat
import Rewind.Proofs.Batch.Accounting
import Rewind.Proofs.Batch.Behaviour

/-!
How far a batch can be behind its source, and that it can always go on.

The workers of a batch share one receiver for the queue. A worker that wants a target gets hold of
the receiver first, and keeps it while the queue has nothing for it; the others wait for the receiver
in the meantime. So a step is either that a worker gets hold of the receiver, or it is a step of the
batch, under any behaviour of the service.

Main statements: what holds at every moment (`sound_of_reachable`), how many items can be on their
way (`Sound.items_le`), and that a batch goes on exactly as long as it has not ended
(`Sound.exists_step_iff`).
-/

namespace Rewind

namespace Batch

/-! ### Moments -/

/-- A batch between two steps, with what was counted so far. -/
structure Moment where
  state : State
  /-- The worker that has the receiver of the queue. -/
  receiver : Option Actor
  /-- The items that the source has given out. -/
  items : List SourceItem
  /-- How many pages of answers have arrived for the source. -/
  pages : Nat
  /-- How many steps were calls and pauses at a target. -/
  work : Nat
  /-- How many steps there were besides. -/
  others : Nat

/-- The target that a worker is at. -/
def Task.atHand : Task → List WorkflowRef
  | .busy target _ => [target]
  | _ => []

/-- The item that a source gives out with an answer. -/
def givenBy : Poll → Option SourceItem
  | .answer result => itemOf result
  | .ask _ => none

namespace State

/-- The targets that are being processed. -/
def processing (s : State) : List WorkflowRef :=
  s.workers.toList.flatMap fun worker => worker.task.atHand

/-- The outcomes of targets that were processed, handed over or not. -/
def finished (s : State) : List Outcome :=
  s.processed ++ s.workers.toList.flatMap Worker.outcomes

/-- The item that the source gives out in the step of an actor. -/
def given (s : State) : Actor → Option SourceItem
  | .producer =>
      match s.producer with
      | .pulling _ => givenBy s.source.poll.1
      | _ => none
  | .worker _ => none

/-- How many pages arrive for the source in the step of an actor. -/
def fetched (behaviour : Behaviour) (s : State) : Actor → Nat
  | .producer =>
      match s.producer, s.source.poll.1 with
      | .pulling _, .ask request =>
          match (behaviour (.scan request)).1 with
          | .ok _ => 1
          | .error _ => 0
      | _, _ => 0
  | .worker _ => 0

/-- Whether the step of an actor is a call or a pause at a target. -/
def works (s : State) : Actor → Bool
  | .producer => false
  | .worker index =>
      match s.need (.worker index) with
      | .answer | .retryPause => true
      | _ => false

end State

namespace Moment

/-- The start of a batch. Nobody has the receiver. -/
def start (plan : Plan) (service : Service) (metrics : Metrics) (source : Source)
    (started : Nat) : Moment :=
  ⟨.initial plan service metrics source started, none, [], 0, 0, 0⟩

/-- The moment behind a step of the batch. Who has received something gives the receiver back. -/
def advance (plan : Plan) (behaviour : Behaviour) (m : Moment) (actor : Actor) : Moment where
  state := m.state.stepUnder plan behaviour actor
  receiver := if m.receiver = some actor then none else m.receiver
  items := m.items ++ (m.state.given actor).toList
  pages := m.pages + m.state.fetched behaviour actor
  work := m.work + (m.state.works actor).toNat
  others := m.others + (!m.state.works actor).toNat

/-- One step of an actor, and none if it has to wait or has ended. A worker that wants a target, and
does not have the receiver, gets hold of it as soon as it is free. -/
def step? (plan : Plan) (behaviour : Behaviour) (m : Moment) (actor : Actor) : Option Moment :=
  if m.state.need actor = .target ∧ m.receiver ≠ some actor then
    if m.receiver = none then some { m with receiver := some actor, others := m.others + 1 }
    else none
  else if m.state.canStep plan actor then some (m.advance plan behaviour actor)
  else none

/-- The moments that a batch can come to. -/
inductive Reachable (plan : Plan) (first : Moment) : Moment → Prop
  | first : Reachable plan first first
  | step {m m' : Moment} (behaviour : Behaviour) (actor : Actor) :
      Reachable plan first m → m.step? plan behaviour actor = some m' → Reachable plan first m'

variable {plan : Plan} {behaviour : Behaviour} {m m' : Moment} {actor : Actor}

/-- A step is that a worker gets hold of the receiver, or a step of the batch. -/
theorem cases_of_step? (h : m.step? plan behaviour actor = some m') :
    (m.state.need actor = .target ∧ m.receiver = none ∧
      m' = { m with receiver := some actor, others := m.others + 1 }) ∨
    (m.state.canStep plan actor ∧ (m.state.need actor = .target → m.receiver = some actor) ∧
      m' = m.advance plan behaviour actor) := by
  unfold step? at h
  split at h
  · next hwants =>
      split at h
      · next hfree => exact .inl ⟨hwants.1, hfree, (Option.some.inj h).symm⟩
      · exact absurd h (by simp)
  · next hwants =>
      split at h
      · next hcan =>
          refine .inr ⟨hcan, fun hneed => ?_, (Option.some.inj h).symm⟩
          exact Decidable.not_not.mp fun hreceiver => hwants ⟨hneed, hreceiver⟩
      · exact absurd h (by simp)

end Moment

/-! ### What steps count -/

/-- Putting another entry in the place of one changes a sum by what the two differ in. -/
theorem sum_map_set {α : Type} {as : List α} {index : Nat} {a : α} (f : α → Nat) (b : α)
    (ha : as[index]? = some a) : ((as.set index b).map f).sum + f a = (as.map f).sum + f b := by
  induction as generalizing index with
  | nil => simp at ha
  | cons c as ih =>
      cases index with
      | zero =>
          obtain rfl : c = a := by simpa using ha
          simp only [List.set_cons_zero, List.map_cons, List.sum_cons]
          omega
      | succ index =>
          have hrest := @ih index (by simpa using ha)
          simp only [List.set_cons_succ, List.map_cons, List.sum_cons]
          omega

theorem length_flatMap_set {α β : Type} {as : List α} {index : Nat} {a : α} (f : α → List β) (b : α)
    (ha : as[index]? = some a) :
    ((as.set index b).flatMap f).length + (f a).length =
      (as.flatMap f).length + (f b).length := by
  rw [List.length_flatMap, List.length_flatMap]
  exact sum_map_set (fun a => (f a).length) b ha

theorem length_flatMap_le {α β : Type} {f : α → List β} (h : ∀ a, (f a).length ≤ 1)
    (as : List α) : (as.flatMap f).length ≤ as.length := by
  induction as with
  | nil => simp
  | cons a as ih =>
      have ha := h a
      simp only [List.flatMap_cons, List.length_append, List.length_cons]
      omega

theorem Task.length_atHand_le (task : Task) : task.atHand.length ≤ 1 := by
  cases task <;> simp [atHand]

namespace State

variable {plan : Plan} {behaviour : Behaviour} {s s' : State} {actor : Actor} {index : Nat}
  {worker : Worker}

/-- How many items of the source are accounted for: excluded, finished, or on their way. -/
def accounted (s : State) : Nat :=
  s.excluded.length + s.finished.length + s.processing.length + s.queue.length +
    s.producer.held.length

theorem length_processing_set (worker' : Worker) (hworker : s.workers[index]? = some worker) :
    ((s.workers.setIfInBounds index worker').toList.flatMap fun worker => worker.task.atHand).length +
        worker.task.atHand.length =
      s.processing.length + worker'.task.atHand.length := by
  rw [Array.toList_setIfInBounds]
  exact length_flatMap_set _ worker' (Chronicle.getElem?_toList hworker)

theorem length_outcomes_set (worker' : Worker) (hworker : s.workers[index]? = some worker) :
    ((s.workers.setIfInBounds index worker').toList.flatMap Worker.outcomes).length +
        worker.outcomes.length =
      (s.workers.toList.flatMap Worker.outcomes).length + worker'.outcomes.length := by
  rw [Array.toList_setIfInBounds]
  exact length_flatMap_set _ worker' (Chronicle.getElem?_toList hworker)

/-- What a worker does with its own place, and what it changes beside. -/
theorem accounted_set {worker' : Worker} (hworker : s.workers[index]? = some worker)
    (service : Service) (metrics : Metrics) (queue : List WorkflowRef)
    (processed reported : List Outcome) (started : Nat)
    (hbalance : processed.length + worker'.outcomes.length + worker'.task.atHand.length +
        queue.length =
      s.processed.length + worker.outcomes.length + worker.task.atHand.length + s.queue.length) :
    accounted { s with
      service, metrics, queue, processed, reported, started
      workers := s.workers.setIfInBounds index worker' } = s.accounted := by
  have hprocessing := length_processing_set worker' hworker
  have houtcomes := length_outcomes_set worker' hworker
  simp only [accounted, finished, processing, List.length_append] at hprocessing houtcomes ⊢
  omega

theorem accounted_sourceFailed (source : Source) (service : Service) {attempt attempt' : Nat}
    (error : ResetError) (hproducer : s.producer = .pulling attempt') :
    (sourceFailed plan { s with source, service } attempt error).accounted = s.accounted := by
  simp [accounted, finished, processing, hproducer]

/-- Every item that a step takes out of the source is accounted for behind the step, and nothing
else is. -/
theorem accounted_of_effect (h : Effect plan behaviour s actor s') :
    s'.accounted = s.accounted + (s.given actor).toList.length := by
  cases h with
  | closed hproducer hpoll =>
      simp [accounted, finished, processing, given, givenBy, hproducer, hpoll]
  | excluded hproducer hpoll =>
      have hgiven : (s.given .producer).toList.length = 1 := by
        simp [given, givenBy, hproducer, hpoll]
      simp only [accounted, finished, processing, exclude, hproducer, hgiven, Producer.held_pulling,
        List.length_append, List.length_singleton]
      omega
  | offered hproducer hpoll =>
      have hgiven : (s.given .producer).toList.length = 1 := by
        simp [given, givenBy, hproducer, hpoll]
      simp only [accounted, finished, processing, hproducer, hgiven, Producer.held_pulling,
        Producer.held_holding, List.length_singleton, List.length_nil, Nat.add_zero]
  | failed hproducer hpoll =>
      rw [accounted_sourceFailed _ _ _ hproducer]
      simp [given, givenBy, hproducer, hpoll]
  | @scanned attempt source request hproducer hpoll =>
      have hgiven : s.given .producer = none := by simp [given, givenBy, hproducer, hpoll]
      rw [hgiven]
      rcases behaviour (.scan request) with ⟨_ | _, service⟩
      · exact accounted_sourceFailed _ _ _ hproducer
      · rfl
  | rested hproducer =>
      simp only [accounted, finished, processing, given, hproducer, Producer.held_pulling,
        Producer.held_pausing, Option.toList_none, List.length_nil, Nat.add_zero]
  | queued hproducer hroom =>
      simp only [accounted, finished, processing, given, hproducer, Producer.held_pulling,
        Producer.held_holding, Option.toList_none, List.length_append, List.length_singleton,
        List.length_nil]
      omega
  | taken hworker htask hqueue =>
      refine accounted_set hworker _ _ _ _ _ _ ?_
      simp only [hqueue, htask, Task.atHand, List.length_cons, List.length_nil]
      omega
  | left hworker htask hqueue hclosed =>
      refine accounted_set hworker _ _ _ _ _ _ ?_
      simp only [htask, Task.atHand, List.length_append, List.length_nil]
  | finished hworker htask hnext =>
      refine accounted_set hworker _ _ _ _ _ _ ?_
      simp only [htask, Task.atHand, List.length_append, List.length_singleton, List.length_nil]
      omega
  | answered hworker htask | paused hworker htask =>
      refine accounted_set hworker _ _ _ _ _ _ ?_
      simp only [htask, Task.atHand, List.length_singleton]
  | readied hworker htask =>
      refine accounted_set hworker _ _ _ _ _ _ ?_
      simp only [htask, Task.atHand, List.length_nil]

/-! ### What steps keep -/

theorem scanned_workers {attempt : Nat} {source : Source}
    (answer : Except ServiceError (Page WorkflowRef) × Service) :
    (s.scanned plan attempt source answer).workers = s.workers := by
  rcases answer with ⟨_ | _, service⟩ <;> simp [scanned]

theorem scanned_queue {attempt : Nat} {source : Source}
    (answer : Except ServiceError (Page WorkflowRef) × Service) :
    (s.scanned plan attempt source answer).queue = s.queue := by
  rcases answer with ⟨_ | _, service⟩ <;> simp [scanned]

/-- The workers behind a step: those before, or one of them at another task. -/
theorem workers_of_effect (h : Effect plan behaviour s actor s') :
    s'.workers = s.workers ∨
      ∃ index worker', actor = .worker index ∧ s'.workers = s.workers.setIfInBounds index worker' := by
  cases h with
  | closed | excluded | offered | rested | queued => exact .inl rfl
  | failed => exact .inl (by simp)
  | scanned => exact .inl (scanned_workers _)
  | taken | left | finished | answered | paused | readied => exact .inr ⟨_, _, rfl, rfl⟩

theorem size_workers_of_effect (h : Effect plan behaviour s actor s') :
    s'.workers.size = s.workers.size := by
  rcases workers_of_effect h with hsame | ⟨index, worker', -, hset⟩
  · rw [hsame]
  · rw [hset, Array.size_setIfInBounds]

/-- A step leaves the places of other workers alone. -/
theorem getElem?_of_effect (h : Effect plan behaviour s actor s') (hother : actor ≠ .worker index) :
    s'.workers[index]? = s.workers[index]? := by
  rcases workers_of_effect h with hsame | ⟨index', worker', rfl, hset⟩
  · rw [hsame]
  · rw [hset, Array.getElem?_setIfInBounds_ne fun heq => hother (by rw [heq])]

theorem need_worker (hworker : s.workers[index]? = some worker) :
    s.need (.worker index) = Task.need worker.task := by
  simp only [need, hworker, Option.map_some, Option.getD_some]

/-- The producer never wants a target. -/
theorem producerNeed_ne_target : s.need .producer ≠ .target := by
  intro hneed
  simp only [need, producerNeed] at hneed
  split at hneed
  · split at hneed <;> simp at hneed
  all_goals simp at hneed

/-- An actor that wants a target wants it still behind a step of another actor. -/
theorem need_of_effect {waiting : Actor} (h : Effect plan behaviour s actor s')
    (hother : actor ≠ waiting) (hneed : s.need waiting = .target) : s'.need waiting = .target := by
  cases waiting with
  | producer => exact absurd hneed producerNeed_ne_target
  | worker index =>
      simp only [need] at hneed ⊢
      rwa [getElem?_of_effect h hother]

/-- The queue is never longer than it may be. -/
theorem room_of_effect (h : Effect plan behaviour s actor s')
    (hroom : s.queue.length ≤ plan.capacity) : s'.queue.length ≤ plan.capacity := by
  cases h with
  | closed | excluded | offered | rested | left | finished | answered | paused | readied =>
      exact hroom
  | failed => simpa using hroom
  | scanned => exact (scanned_queue _).symm ▸ hroom
  | queued hproducer hspace => simpa [Nat.succ_le_iff] using hspace
  | taken hworker htask hqueue =>
      simp only [hqueue, List.length_cons] at hroom
      exact Nat.le_of_succ_le hroom

/-- A worker ends only behind the producer, and only when the queue is empty. -/
def EndsInOrder (s : State) : Prop :=
  ∀ worker ∈ s.workers.toList, worker.task = .ended → s.isSourceClosed ∧ s.queue = []

/-- A worker that goes on does not end. -/
theorem endsInOrder_set {worker' : Worker} (h : s.EndsInOrder) (hgoes : worker'.task ≠ .ended)
    (service : Service) (metrics : Metrics) (processed reported : List Outcome) :
    EndsInOrder { s with
      service, metrics, processed, reported
      workers := s.workers.setIfInBounds index worker' } := by
  intro worker hworker hended
  simp only [Array.toList_setIfInBounds] at hworker
  rcases List.mem_or_eq_of_mem_set hworker with hold | rfl
  · exact h worker hold hended
  · exact absurd hended hgoes

/-- The producer makes steps until it ends. -/
theorem isSourceClosed_of_effect (h : Effect plan behaviour s .producer s') :
    s.isSourceClosed = false := by
  cases h <;> simp [isSourceClosed, *]

theorem endsInOrder_of_effect (h : Effect plan behaviour s actor s') (hs : s.EndsInOrder) :
    s'.EndsInOrder := by
  cases actor with
  | producer =>
      have hworkers : s'.workers = s.workers := by simpa using workers_of_effect h
      intro worker hmem hended
      rw [hworkers] at hmem
      exact absurd (hs worker hmem hended).1 (by simp [isSourceClosed_of_effect h])
  | worker index =>
      cases h with
      | taken hworker htask hqueue =>
          intro worker hmem hended
          simp only [take, Array.toList_setIfInBounds] at hmem
          rcases List.mem_or_eq_of_mem_set hmem with hold | rfl
          · have hempty := (hs worker hold hended).2
            rw [hqueue] at hempty
            simp at hempty
          · simp at hended
      | left hworker htask hqueue hclosed => exact fun _ _ _ => ⟨hclosed, hqueue⟩
      | finished | answered | paused | readied =>
          exact endsInOrder_set hs (by simp) _ _ _ _

/-! ### What an actor can do -/

/-- Where the producer and all workers have ended, all actors have. -/
theorem isFinal_of_ended (hclosed : s.isSourceClosed)
    (hworkers : ∀ worker ∈ s.workers.toList, worker.task = .ended) : s.isFinal := by
  simp only [isFinal, actors, List.all_cons, List.all_map, Bool.and_eq_true, decide_eq_true_eq,
    List.all_eq_true, List.mem_range, Function.comp_apply]
  constructor
  · unfold isSourceClosed at hclosed
    split at hclosed
    · next hproducer => simp [need, producerNeed, hproducer]
    · exact absurd hclosed (by simp)
  · intro index hindex
    have hended := hworkers s.workers[index] (by simp)
    simp [need, hindex, hended, Task.need]

/-- Where all actors have ended, there is nothing that one of them needs. -/
theorem need_of_isFinal (hfinal : s.isFinal) (actor : Actor) : s.need actor = .impossible := by
  simp only [isFinal, actors, List.all_cons, List.all_map, Bool.and_eq_true, decide_eq_true_eq,
    List.all_eq_true, List.mem_range, Function.comp_apply] at hfinal
  cases actor with
  | producer => exact hfinal.1
  | worker index =>
      by_cases hindex : index < s.workers.size
      · exact hfinal.2 index hindex
      · simp [need, hindex]

/-- A producer that can not make a step has ended, or waits for room in a full queue. -/
theorem closed_or_full (hcan : s.canStep plan .producer = false) :
    s.isSourceClosed ∨ plan.capacity ≤ s.queue.length := by
  cases hproducer : s.producer with
  | pulling attempt =>
      cases hpage : s.source.needsPage <;>
        simp [canStep, need, producerNeed, hproducer, hpage] at hcan
  | pausing attempt => simp [canStep, need, producerNeed, hproducer] at hcan
  | holding target =>
      right
      simpa [canStep, need, producerNeed, hproducer, hasRoom] using hcan
  | ended failure => exact .inl (by simp [isSourceClosed, hproducer])

/-- A worker that has not ended can make a step, or wants a target. -/
theorem canStep_or_wants (plan : Plan) (hworker : s.workers[index]? = some worker)
    (hgoes : worker.task ≠ .ended) :
    s.need (.worker index) = .target ∨
      s.need (.worker index) ≠ .target ∧ s.canStep plan (.worker index) := by
  simp only [canStep, need_worker hworker]
  cases htask : worker.task with
  | idle => exact .inl rfl
  | busy target program =>
      right
      cases hnext : program.next <;> simp [Task.need, hnext]
  | pausing => exact .inr (by simp [Task.need])
  | ended => exact absurd htask hgoes

/-- As long as not all actors have ended, one of them can make a step of the batch. -/
theorem exists_canStep (plan : Plan) (s : State) (hworkers : 0 < s.workers.size)
    (horder : s.EndsInOrder) (hgoes : s.isFinal = false) : ∃ actor, s.canStep plan actor := by
  have hserved {index : Nat} {worker : Worker} (hworker : s.workers[index]? = some worker)
      (hworkergoes : worker.task ≠ .ended) (hserving : s.isServing) :
      ∃ actor, s.canStep plan actor := by
    rcases canStep_or_wants plan hworker hworkergoes with hwants | ⟨-, hcan⟩
    · exact ⟨.worker index, by simp only [canStep, hwants, hserving]⟩
    · exact ⟨.worker index, hcan⟩
  by_cases hcan : s.canStep plan .producer
  · exact ⟨.producer, hcan⟩
  rcases closed_or_full (by simpa using hcan) with hclosed | hfull
  · -- The producer has ended, so one of the workers has not.
    have hnotall : ¬ ∀ worker ∈ s.workers.toList, worker.task = .ended := fun hended =>
      absurd (isFinal_of_ended hclosed hended) (by simp [hgoes])
    obtain ⟨worker, hworker⟩ := not_forall.mp hnotall
    obtain ⟨hmem, hworkergoes⟩ := not_forall.mp hworker
    obtain ⟨index, hindex⟩ := List.mem_iff_getElem?.mp hmem
    exact hserved (by simpa using hindex) hworkergoes (by simp [isServing, hclosed])
  · -- The queue is full, so no worker has ended.
    have hqueue : s.queue ≠ [] := by
      intro hempty
      simp [hempty, Plan.capacity] at hfull
    have hworkergoes : s.workers[0].task ≠ .ended := fun hended =>
      hqueue (horder _ (by simp) hended).2
    exact hserved (Array.getElem?_eq_getElem hworkers) hworkergoes (by simp [isServing, hqueue])

end State

namespace Moment

variable {plan : Plan} {behaviour : Behaviour} {m m' : Moment} {actor : Actor}

/-! ### What holds at every moment -/

/-- How the parts of a batch stand to each other. -/
structure Sound (plan : Plan) (m : Moment) : Prop where
  size : m.state.workers.size = plan.config.parallelism
  room : m.state.queue.length ≤ plan.capacity
  order : m.state.EndsInOrder
  /-- Who has the receiver wants a target. -/
  waiting : ∀ actor, m.receiver = some actor → m.state.need actor = .target
  account : m.items.length = m.state.accounted

theorem sound_start (plan : Plan) (service : Service) (metrics : Metrics) (source : Source)
    (started : Nat) : (start plan service metrics source started).Sound plan where
  size := by simp [start, State.initial]
  room := by simp [start, State.initial]
  order := by
    intro worker hworker hended
    simp only [start, State.initial, Array.toList_replicate, List.mem_replicate] at hworker
    rw [hworker.2] at hended
    simp at hended
  waiting := by simp [start]
  account := by
    simp [start, State.initial, State.accounted, State.finished, State.processing, Task.atHand]

theorem sound_of_step? (h : m.step? plan behaviour actor = some m') (hm : m.Sound plan) :
    m'.Sound plan := by
  rcases cases_of_step? h with ⟨hneed, -, rfl⟩ | ⟨hcan, hreceiver, rfl⟩
  · refine { hm with waiting := ?_ }
    intro holder hholder
    obtain rfl := Option.some.inj hholder
    exact hneed
  · have heffect := State.effect_of_canStep behaviour hcan
    refine ⟨?_, State.room_of_effect heffect hm.room, State.endsInOrder_of_effect heffect hm.order,
      ?_, ?_⟩
    · exact (State.size_workers_of_effect heffect).trans hm.size
    · intro holder hholder
      simp only [advance] at hholder
      split at hholder
      · simp at hholder
      · next hfree =>
          refine State.need_of_effect heffect ?_ (hm.waiting holder hholder)
          rintro rfl
          exact hfree hholder
    · simp only [advance, List.length_append, hm.account, State.accounted_of_effect heffect]

theorem sound_of_reachable {service : Service} {metrics : Metrics} {source : Source} {started : Nat}
    (h : Reachable plan (start plan service metrics source started) m) : m.Sound plan := by
  induction h with
  | first => exact sound_start plan service metrics source started
  | step behaviour actor _ hstep ih => exact sound_of_step? hstep ih

/-! ### Schedules -/

/-- Any step of a batch against its own service can be made where the receiver is free, if need be
by getting hold of the receiver first, and the receiver is free again behind it. -/
theorem exists_reachable_of_step? {first : Moment} {c c' : Chronicle}
    (hstep : c.step? plan actor = some c') (hm : Reachable plan first m)
    (hstate : m.state = c.state) (hfree : m.receiver = none) :
    ∃ m', Reachable plan first m' ∧ m'.state = c'.state ∧ m'.receiver = none := by
  obtain ⟨s, hs, rfl⟩ := Option.map_eq_some_iff.mp hstep
  rw [← hstate] at hs
  have hcan : m.state.canStep plan actor := by
    cases hcan : m.state.canStep plan actor with
    | true => rfl
    | false => simp [State.step?, hcan] at hs
  obtain rfl : m.state.step plan actor = s := by simpa [State.step?, hcan] using hs
  rw [State.step_eq_stepUnder]
  by_cases hneed : m.state.need actor = .target
  · let waiting : Moment := { m with receiver := some actor, others := m.others + 1 }
    have hwaiting : Reachable plan first waiting :=
      hm.step m.state.service.call actor (by simp [step?, hneed, hfree, waiting])
    refine ⟨waiting.advance plan m.state.service.call actor,
      hwaiting.step m.state.service.call actor ?_, rfl, by simp [advance, waiting]⟩
    simp only [step?, waiting, ne_eq, not_true_eq_false, and_false, ↓reduceIte, hcan]
  · refine ⟨m.advance plan m.state.service.call actor, hm.step m.state.service.call actor ?_, rfl,
      by simp [advance, hfree]⟩
    simp only [step?, hneed, false_and, ↓reduceIte, hcan]

theorem exists_reachable_of_follow? {first : Moment} {schedule : List Actor} {c c' : Chronicle}
    (hrun : c.follow? plan schedule = some c') (hm : Reachable plan first m)
    (hstate : m.state = c.state) (hfree : m.receiver = none) :
    ∃ m', Reachable plan first m' ∧ m'.state = c'.state ∧ m'.receiver = none := by
  induction schedule generalizing c m with
  | nil =>
      obtain rfl : c = c' := by simpa [Chronicle.follow?] using hrun
      exact ⟨m, hm, hstate, hfree⟩
  | cons actor schedule ih =>
      simp only [Chronicle.follow?, List.foldlM_cons, Option.bind_eq_bind,
        Option.bind_eq_some_iff] at hrun
      obtain ⟨next, hstep, hrun⟩ := hrun
      obtain ⟨m', hm', hstate', hfree'⟩ := exists_reachable_of_step? hstep hm hstate hfree
      exact ih hrun hm' hstate' hfree'

namespace Sound

theorem processing_le (hm : m.Sound plan) :
    m.state.processing.length ≤ plan.config.parallelism := by
  have hlength := length_flatMap_le (fun worker : Worker => worker.task.length_atHand_le)
    m.state.workers.toList
  have hsize : m.state.workers.toList.length = plan.config.parallelism := by simpa using hm.size
  rwa [hsize] at hlength

/-- The source is at most so many items ahead: one with each worker, those in the queue, and the one
that the producer holds. -/
theorem items_le (hm : m.Sound plan) :
    m.items.length ≤ m.state.finished.length + m.state.excluded.length +
      plan.config.parallelism + plan.capacity + 1 := by
  have hheld : m.state.producer.held.length ≤ 1 := by cases m.state.producer <;> simp
  have hprocessing := hm.processing_le
  have hroom := hm.room
  rw [hm.account, State.accounted]
  omega

/-! ### Going on -/

/-- If an actor could make a step of the batch, some actor can: who has the receiver gets what is there,
and if nobody has it, the actor gets hold of it. -/
theorem exists_step_of_canStep (hm : m.Sound plan) (hcan : m.state.canStep plan actor)
    (behaviour : Behaviour) : ∃ actor, (m.step? plan behaviour actor).isSome := by
  by_cases hneed : m.state.need actor = .target
  · have hserving : m.state.isServing := by simpa [State.canStep, hneed] using hcan
    cases hreceiver : m.receiver with
    | none => exact ⟨actor, by simp [step?, hneed, hreceiver]⟩
    | some holder =>
        have hholder : m.state.canStep plan holder := by
          simp only [State.canStep, hm.waiting holder hreceiver, hserving]
        exact ⟨holder, by simp [step?, hreceiver, hholder]⟩
  · exact ⟨actor, by simp [step?, hneed, hcan]⟩

/-- As long as not all actors have ended, one of them can make a step. -/
theorem exists_step (hm : m.Sound plan) (hparallel : 1 ≤ plan.config.parallelism)
    (hgoes : m.state.isFinal = false) (behaviour : Behaviour) :
    ∃ actor, (m.step? plan behaviour actor).isSome := by
  obtain ⟨actor, hcan⟩ := m.state.exists_canStep plan (hm.size ▸ hparallel) hm.order hgoes
  exact hm.exists_step_of_canStep hcan behaviour

/-- A batch goes on exactly as long as not all actors have ended. -/
theorem exists_step_iff (hm : m.Sound plan) (hparallel : 1 ≤ plan.config.parallelism)
    (behaviour : Behaviour) :
    (∃ actor, (m.step? plan behaviour actor).isSome) ↔ m.state.isFinal = false := by
  refine ⟨fun ⟨actor, hstep⟩ => ?_, fun hgoes => hm.exists_step hparallel hgoes behaviour⟩
  cases hfinal : m.state.isFinal with
  | false => rfl
  | true => simp [step?, State.canStep, State.need_of_isFinal hfinal actor] at hstep

/-- A batch that can not go on has nothing left in the queue, and all of its workers have ended. -/
theorem ended (hm : m.Sound plan) (hparallel : 1 ≤ plan.config.parallelism)
    (hstuck : ∀ actor, m.step? plan behaviour actor = none) :
    m.state.isFinal ∧ m.state.queue = [] ∧ ∀ worker ∈ m.state.workers.toList, worker.task = .ended := by
  have hfinal : m.state.isFinal := by
    cases hgoes : m.state.isFinal with
    | true => rfl
    | false =>
        obtain ⟨actor, hstep⟩ := hm.exists_step hparallel hgoes behaviour
        rw [hstuck actor] at hstep
        simp at hstep
  have hworkers := (Chronicle.ended_of_isFinal hfinal).2
  have hsize : 0 < m.state.workers.size := by
    rw [hm.size]
    exact hparallel
  have hmem : m.state.workers[0] ∈ m.state.workers.toList := by simp
  exact ⟨hfinal, (hm.order _ hmem (hworkers _ hmem)).2, hworkers⟩

end Sound

end Moment

end Batch

end Rewind
