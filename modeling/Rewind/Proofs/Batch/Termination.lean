import Mathlib.Data.Finset.Lattice.Fold
import Mathlib.Order.Monotone.Basic
import Rewind.Proofs.Batch.Progress
import Rewind.Proofs.Paging

/-!
How long a batch can go on.

Every step besides calls and pauses at a target is paid for. What is left to pay for is a number
that such a step makes smaller, except when it brings an item of the source or a page of answers:
then a fixed amount is added. So if the source is finite, only so many steps are not at a target, and
a batch goes on forever only if some worker is at one target forever.

Main statements: how many steps there can be (`Paid`, `paid_of_reachable`), no run is endless
(`not_endless`), and all of it together (`never_stuck`).
-/

namespace Rewind

/-! ### What a source has left -/

namespace TargetFile

variable (path separator : String)

/-- Reading goes forward in a file. -/
theorem size_nextFrom_le (line : Nat) (rest : List (List UInt8)) :
    (nextFrom path separator line rest).2.feed.size ≤ rest.length := by
  fun_induction nextFrom path separator line rest with
  | case1 line => exact Nat.le_refl _
  | case2 | case3 | case5 => exact Nat.le_succ _
  | case4 line raw rest text htext parsed hother hparsed ih => exact ih.trans (Nat.le_succ _)

/-- A target takes at least one line. -/
theorem size_nextFrom_lt {line : Nat} {rest : List (List UInt8)} {ref : WorkflowRef}
    (hnext : (nextFrom path separator line rest).1 = .ok (some ref)) :
    (nextFrom path separator line rest).2.feed.size < rest.length := by
  fun_induction nextFrom path separator line rest with
  | case1 | case2 | case5 => simp at hnext
  | case3 => exact Nat.lt_succ_self _
  | case4 line raw rest text htext parsed hother hparsed ih =>
      exact (ih hnext).trans (Nat.lt_succ_self _)

theorem size_next_le (file : TargetFile) : file.next.2.feed.size ≤ file.feed.size := by
  unfold next
  split
  · next rest hfeed => simpa [hfeed, LineFeed.size] using size_nextFrom_le _ _ _ rest
  · exact Nat.le_refl _

theorem size_next_lt {file : TargetFile} {ref : WorkflowRef} (hnext : file.next.1 = .ok (some ref)) :
    file.next.2.feed.size < file.feed.size := by
  unfold next at hnext ⊢
  split at hnext
  · next rest hfeed => simpa [hfeed, LineFeed.size] using size_nextFrom_lt _ _ hnext
  · simp at hnext

end TargetFile

namespace Source

/-- With every item there is less left. -/
theorem left_poll (source : Source) :
    source.poll.2.left + (Batch.givenBy source.poll.1).toList.length ≤ source.left := by
  unfold poll
  split
  · next file hfeed =>
      simp only [left, hfeed]
      rcases hresult : file.next.1 with error | _ | ref
      · exact file.size_next_le
      · exact file.size_next_le
      · exact TargetFile.size_next_lt hresult
  · next targets hfeed =>
      split
      · next ref pages htake =>
          obtain ⟨hbuffered, -⟩ := Cursor.take?_eq_some htake
          simp [left, hfeed, hbuffered, Batch.givenBy]
      · split <;> exact Nat.le_refl _

/-- A file needs no pages. -/
theorem poll_of_isFile {source : Source} (hfile : source.isFile) :
    (∃ result, source.poll.1 = .answer result) ∧ source.poll.2.isFile := by
  unfold isFile at hfile
  split at hfile
  · next file hfeed => simp [poll, hfeed, isFile]
  · exact absurd hfile (by simp)

end Source

namespace Batch

/-! ### What is left to do besides the targets -/

namespace State

variable {plan : Plan} {behaviour : Behaviour} {s s' : State} {actor : Actor} {index : Nat}
  {worker : Worker}

/-- What a step of an actor is worth: one of its own, and one for the receiver that it needed. -/
def price (s : State) (actor : Actor) : Nat :=
  (!s.works actor).toNat + if s.need actor = .target then 1 else 0

theorem rest_eq (plan : Plan) (s : State) :
    s.rest plan = s.producer.rest (tries plan) + 4 * s.queue.length +
      (s.workers.toList.map fun worker => worker.task.rest).sum := rfl

/-- What the step of a worker is worth is paid for by its own place and the queue. -/
theorem rest_set {worker' : Worker} (hworker : s.workers[index]? = some worker)
    (service : Service) (metrics : Metrics) (queue : List WorkflowRef)
    (processed reported : List Outcome) (started : Nat) {price : Nat}
    (hpaid : worker'.task.rest + 4 * queue.length + price ≤
      worker.task.rest + 4 * s.queue.length) :
    rest plan { s with
        service, metrics, queue, processed, reported, started
        workers := s.workers.setIfInBounds index worker' } + price ≤ s.rest plan := by
  have hsum := sum_map_set (fun worker : Worker => worker.task.rest) worker'
    (Chronicle.getElem?_toList hworker)
  simp only [rest_eq, Array.toList_setIfInBounds]
  omega

/-- A failure of the source leaves less to do. -/
theorem rest_sourceFailed (plan : Plan) (s : State) {attempt : Nat} (error : ResetError)
    (hproducer : s.producer = .pulling attempt) :
    (s.sourceFailed plan attempt error).rest plan + 1 ≤ s.rest plan := by
  unfold sourceFailed
  split
  · next hretry =>
      have htries : attempt < tries plan :=
        of_decide_eq_true (Bool.and_eq_true_iff.mp hretry).2
      simp only [rest, hproducer, Producer.rest]
      omega
  · simp only [rest, hproducer, Producer.rest]
    omega

/-- A step of the producer is paid for by what it leaves to do, by a page that arrives, or by the item
that the source gives out. -/
theorem rest_of_producer (h : Effect plan behaviour s .producer s') :
    s'.rest plan + 1 ≤ s.rest plan + s.fetched behaviour .producer +
      (2 * tries plan + 4) * (s.given .producer).toList.length := by
  cases h with
  | closed hproducer hpoll =>
      simp only [rest, hproducer, Producer.rest]
      omega
  | excluded hproducer hpoll =>
      simp only [rest, exclude, given, givenBy, hproducer, hpoll, Producer.rest, itemOf,
        Option.toList_some, List.length_singleton]
      omega
  | offered hproducer hpoll =>
      simp only [rest, given, givenBy, hproducer, hpoll, Producer.rest, itemOf,
        Option.toList_some, List.length_singleton]
      omega
  | @failed attempt source error hproducer hpoll =>
      have hrest := rest_sourceFailed plan { s with source } error hproducer
      exact hrest.trans (by simp only [rest]; omega)
  | @scanned attempt source request hproducer hpoll =>
      rcases hanswer : behaviour (.scan request) with ⟨error | page, service⟩
      · have hrest := rest_sourceFailed plan { s with service, source } (.service error) hproducer
        exact hrest.trans (by simp only [rest]; omega)
      · simp only [rest, scanned, fetched, hproducer, hpoll, hanswer, Producer.rest]
        omega
  | rested hproducer =>
      simp only [rest, hproducer, Producer.rest]
      omega
  | queued hproducer hroom =>
      have htries : 1 ≤ tries plan := Nat.le_max_left ..
      simp only [rest, hproducer, Producer.rest, List.length_append, List.length_singleton]
      omega

/-- What the step of a worker is worth, by what it needs. -/
def Need.price : Need → Nat
  | .target => 2
  | .answer | .retryPause => 0
  | _ => 1

theorem price_worker (s : State) (index : Nat) :
    s.price (.worker index) = (s.need (.worker index)).price := by
  cases hneed : s.need (.worker index) <;> simp [price, works, hneed, Need.price]

/-- A step of a worker is paid for by what it leaves to do, unless it is one at a target. -/
theorem rest_of_worker (h : Effect plan behaviour s (.worker index) s') :
    s'.rest plan + s.price (.worker index) ≤ s.rest plan := by
  rw [price_worker]
  cases h with
  | taken hworker htask hqueue =>
      refine rest_set hworker _ _ _ _ _ _ ?_
      simp only [need_worker hworker, htask, hqueue, Task.need, Need.price, Task.rest,
        List.length_cons]
      omega
  | left hworker htask hqueue hclosed =>
      refine rest_set hworker _ _ _ _ _ _ ?_
      simp only [need_worker hworker, htask, Task.need, Need.price, Task.rest]
      omega
  | finished hworker htask hnext | answered hworker htask hnext | paused hworker htask hnext =>
      refine rest_set hworker _ _ _ _ _ _ ?_
      simp only [need_worker hworker, htask, hnext, Task.need, Need.price, Task.rest]
      omega
  | readied hworker htask =>
      refine rest_set hworker _ _ _ _ _ _ ?_
      simp only [need_worker hworker, htask, Task.need, Need.price, Task.rest]
      omega

theorem rest_of_effect (h : Effect plan behaviour s actor s') :
    s'.rest plan + s.price actor ≤ s.rest plan + s.fetched behaviour actor +
      (2 * tries plan + 4) * (s.given actor).toList.length := by
  cases actor with
  | producer =>
      have hprice : s.price .producer = 1 := by simp [price, works, producerNeed_ne_target]
      rw [hprice]
      exact rest_of_producer h
  | worker index => exact rest_of_worker h

/-- Without a page a source has less left with every item. -/
theorem left_of_effect (h : Effect plan behaviour s actor s')
    (hfetched : s.fetched behaviour actor = 0) :
    s'.source.left + (s.given actor).toList.length ≤ s.source.left := by
  have hleft := s.source.left_poll
  cases h with
  | closed hproducer hpoll | offered hproducer hpoll | failed hproducer hpoll =>
      rw [hpoll] at hleft
      simpa [given, hproducer, hpoll] using hleft
  | excluded hproducer hpoll =>
      rw [hpoll] at hleft
      simpa [given, hproducer, hpoll, exclude] using hleft
  | @scanned attempt source request hproducer hpoll =>
      rw [hpoll] at hleft
      rcases hanswer : behaviour (.scan request) with ⟨error | page, service⟩
      · simpa [given, hproducer, hpoll, scanned] using hleft
      · simp [fetched, hproducer, hpoll, hanswer] at hfetched
  | rested hproducer | queued hproducer => simp [given, hproducer]
  | taken | left | finished | answered | paused | readied =>
      simp [given, take, handOver, finish, resumed]

theorem fetched_of_isFile (behaviour : Behaviour) (actor : Actor) (hfile : s.source.isFile) :
    s.fetched behaviour actor = 0 := by
  obtain ⟨⟨result, hpoll⟩, -⟩ := Source.poll_of_isFile hfile
  cases actor with
  | worker index => rfl
  | producer => cases hproducer : s.producer <;> simp [fetched, hproducer, hpoll]

theorem isFile_of_effect (h : Effect plan behaviour s actor s') (hfile : s.source.isFile) :
    s'.source.isFile := by
  obtain ⟨⟨result, hanswer⟩, hsame⟩ := Source.poll_of_isFile hfile
  cases h with
  | closed hproducer hpoll | excluded hproducer hpoll | offered hproducer hpoll =>
      rw [hpoll] at hsame
      exact hsame
  | failed hproducer hpoll =>
      rw [hpoll] at hsame
      simpa using hsame
  | scanned hproducer hpoll =>
      rw [hpoll] at hanswer
      simp at hanswer
  | rested | queued | taken | left | finished | answered | paused | readied => exact hfile

end State

namespace Moment

variable {plan : Plan} {behaviour : Behaviour} {m m' : Moment} {actor : Actor}

/-- Steps that are not at a target are paid for by the pages and items of the source, and by what
there was to do at the start. Who has the receiver has paid for it beforehand. -/
def Paid (plan : Plan) (m : Moment) : Prop :=
  m.others + m.state.rest plan ≤
    m.pages + (2 * State.tries plan + 4) * m.items.length + 2 * State.tries plan +
      2 * plan.config.parallelism + if m.receiver = none then 0 else 1

theorem paid_start (plan : Plan) (service : Service) (metrics : Metrics) (source : Source)
    (started : Nat) : (start plan service metrics source started).Paid plan := by
  have htries : 1 ≤ State.tries plan := Nat.le_max_left ..
  simp [Paid, start, State.initial, State.rest_eq, Producer.rest, Task.rest]
  omega

theorem paid_of_step? (h : m.step? plan behaviour actor = some m') (hm : m.Sound plan)
    (hpaid : m.Paid plan) : m'.Paid plan := by
  unfold Paid at hpaid ⊢
  rcases cases_of_step? h with ⟨-, hfree, rfl⟩ | ⟨hcan, hreceiver, rfl⟩
  · simp only [hfree, reduceCtorEq, ↓reduceIte] at hpaid ⊢
    omega
  · have hrest := State.rest_of_effect (State.effect_of_canStep behaviour hcan)
    simp only [advance, State.price, List.length_append, Nat.mul_add] at hrest ⊢
    by_cases hneed : m.state.need actor = .target
    · simp only [hneed, hreceiver hneed, reduceCtorEq, ↓reduceIte] at hrest hpaid ⊢
      omega
    · have hother : m.receiver ≠ some actor := fun heq => hneed (hm.waiting actor heq)
      simp only [hneed, hother, ↓reduceIte] at hrest hpaid ⊢
      omega

theorem paid_of_reachable {service : Service} {metrics : Metrics} {source : Source} {started : Nat}
    (h : Reachable plan (start plan service metrics source started) m) : m.Paid plan := by
  induction h with
  | first => exact paid_start plan service metrics source started
  | step behaviour actor hreached hstep ih =>
      exact paid_of_step? hstep (sound_of_reachable hreached) ih

/-- How many steps there can be that are not at a target. -/
theorem Paid.others_le (hpaid : m.Paid plan) :
    m.others ≤ m.pages + (2 * State.tries plan + 4) * (m.items.length + 1) +
      2 * plan.config.parallelism := by
  unfold Paid at hpaid
  have hone : (if m.receiver = none then 0 else 1) ≤ 1 := by split <;> simp
  rw [Nat.mul_add]
  omega

end Moment

/-! ### Endless runs -/

namespace State

variable {plan : Plan} {behaviour : Behaviour} {s s' : State} {actor : Actor} {index : Nat}

/-- A worker is at a target. -/
def IsBusy (s : State) (index : Nat) : Prop :=
  ∃ worker target program, s.workers[index]? = some worker ∧ worker.task = .busy target program

/-- Only workers make steps at a target, and only those that are at one. -/
theorem exists_busy_of_works (h : s.works actor) : ∃ index, actor = .worker index ∧ s.IsBusy index := by
  cases actor with
  | producer => simp [works] at h
  | worker index =>
      refine ⟨index, rfl, ?_⟩
      cases hworker : s.workers[index]? with
      | none => simp [works, need, hworker] at h
      | some worker =>
          cases htask : worker.task with
          | busy target program => exact ⟨worker, target, program, hworker, htask⟩
          | idle | pausing | ended => simp [works, need_worker hworker, htask, Task.need] at h

theorem IsBusy.lt_size (h : s.IsBusy index) : index < s.workers.size := by
  obtain ⟨worker, target, program, hworker, -⟩ := h
  exact (Array.getElem?_eq_some_iff.mp hworker).1

theorem isBusy_resumed (hlt : index < s.workers.size) (service : Service) (outcomes : List Outcome)
    (target : WorkflowRef) (program : Program (Attempted ResetError OutcomeStatus)) :
    (s.resumed service index outcomes target program).IsBusy index :=
  ⟨⟨.busy target program, outcomes⟩, target, program, by simp [resumed, hlt], rfl⟩

/-- A worker that makes a step at a target stays at it. -/
theorem isBusy_of_effect (h : Effect plan behaviour s actor s') (hworks : s.works actor)
    (hbusy : s.IsBusy index) : s'.IsBusy index := by
  by_cases hother : actor = .worker index
  · subst hother
    have hlt := hbusy.lt_size
    cases h with
    | taken hworker htask | left hworker htask | readied hworker htask =>
        simp [works, need_worker hworker, htask, Task.need] at hworks
    | finished hworker htask hnext =>
        simp [works, need_worker hworker, htask, hnext, Task.need] at hworks
    | answered | paused => exact isBusy_resumed hlt _ _ _ _
  · obtain ⟨worker, target, program, hworker, htask⟩ := hbusy
    exact ⟨worker, target, program, (getElem?_of_effect h hother).trans hworker, htask⟩

end State

namespace Moment

variable {plan : Plan} {behaviour : Behaviour} {m m' : Moment} {actor : Actor}

/-- Who gets hold of the receiver is not at a target. -/
theorem works_of_need (hneed : m.state.need actor = .target) : m.state.works actor = false := by
  cases actor with
  | producer => rfl
  | worker index => simp [State.works, hneed]

theorem others_of_step? (h : m.step? plan behaviour actor = some m') :
    m'.others = m.others + (!m.state.works actor).toNat := by
  rcases cases_of_step? h with ⟨hneed, -, rfl⟩ | ⟨-, -, rfl⟩
  · simp [works_of_need hneed]
  · rfl

theorem pages_of_step? (h : m.step? plan behaviour actor = some m') : m.pages ≤ m'.pages := by
  rcases cases_of_step? h with ⟨-, -, rfl⟩ | ⟨-, -, rfl⟩
  · exact Nat.le_refl _
  · exact Nat.le_add_right ..

theorem items_of_step? (h : m.step? plan behaviour actor = some m') :
    m.items.length ≤ m'.items.length := by
  rcases cases_of_step? h with ⟨-, -, rfl⟩ | ⟨-, -, rfl⟩
  · exact Nat.le_refl _
  · simp [advance]

/-- Until the next page arrives, items only take from what the source has left. -/
theorem left_of_step? (h : m.step? plan behaviour actor = some m') (hpages : m'.pages = m.pages) :
    m'.items.length + m'.state.source.left ≤ m.items.length + m.state.source.left := by
  rcases cases_of_step? h with ⟨-, -, rfl⟩ | ⟨hcan, -, rfl⟩
  · exact Nat.le_refl _
  · have hleft := State.left_of_effect (State.effect_of_canStep behaviour hcan)
      (Nat.add_eq_left.mp hpages)
    simp only [advance, List.length_append]
    omega

theorem isFile_of_step? (h : m.step? plan behaviour actor = some m')
    (hfile : m.state.source.isFile) (hpages : m.pages = 0) :
    m'.state.source.isFile ∧ m'.pages = 0 := by
  rcases cases_of_step? h with ⟨-, -, rfl⟩ | ⟨hcan, -, rfl⟩
  · exact ⟨hfile, hpages⟩
  · refine ⟨State.isFile_of_effect (State.effect_of_canStep behaviour hcan) hfile, ?_⟩
    simp [advance, hpages, State.fetched_of_isFile behaviour actor hfile]

theorem isBusy_of_step? {index : Nat} (h : m.step? plan behaviour actor = some m')
    (hworks : m.state.works actor) (hbusy : m.state.IsBusy index) : m'.state.IsBusy index := by
  rcases cases_of_step? h with ⟨-, -, rfl⟩ | ⟨hcan, -, rfl⟩
  · exact hbusy
  · exact State.isBusy_of_effect (State.effect_of_canStep behaviour hcan) hworks hbusy

end Moment

/-- A sequence of steps without an end, from a moment that the batch can come to. -/
structure EndlessRun (plan : Plan) (first : Moment) where
  moment : Nat → Moment
  actor : Nat → Actor
  behaviour : Nat → Behaviour
  reachable : Moment.Reachable plan first (moment 0)
  step : ∀ k, (moment k).step? plan (behaviour k) (actor k) = some (moment (k + 1))

namespace EndlessRun

variable {plan : Plan} {first : Moment}

/-- The source is finite: only so many pages arrive for it. For a file none arrives. -/
def SourceEnds (run : EndlessRun plan first) : Prop :=
  ∃ most, ∀ k, (run.moment k).pages ≤ most

/-- The processing of each target ends: a worker that stays at one makes only so many steps. -/
def TargetsEnd (run : EndlessRun plan first) : Prop :=
  ∀ index k, (∀ j, k ≤ j → (run.moment j).state.IsBusy index) →
    ∃ last, ∀ j, last ≤ j → run.actor j ≠ .worker index

variable {service : Service} {metrics : Metrics} {source : Source} {started : Nat}

theorem reachable_moment (run : EndlessRun plan first) (k : Nat) :
    Moment.Reachable plan first (run.moment k) := by
  induction k with
  | zero => exact run.reachable
  | succ k ih => exact .step _ _ ih (run.step k)

/-- A file is finite. -/
theorem sourceEnds_of_isFile (run : EndlessRun plan (.start plan service metrics source started))
    (hfile : source.isFile) : run.SourceEnds := by
  refine ⟨0, fun k => ?_⟩
  have hreached {m : Moment}
      (hm : Moment.Reachable plan (.start plan service metrics source started) m) :
      m.state.source.isFile ∧ m.pages = 0 := by
    induction hm with
    | first => exact ⟨hfile, rfl⟩
    | step behaviour actor _ hstep ih => exact Moment.isFile_of_step? hstep ih.1 ih.2
  exact (hreached (run.reachable_moment k)).2.le

/-- A source that brings finitely many pages gives out finitely many items. -/
theorem exists_items_le (run : EndlessRun plan first) (hsource : run.SourceEnds) :
    ∃ most, ∀ k, (run.moment k).items.length ≤ most := by
  obtain ⟨most, hmost⟩ := hsource
  have hpages : Monotone fun k => (run.moment k).pages :=
    monotone_nat_of_le_succ fun k => Moment.pages_of_step? (run.step k)
  have hitems : Monotone fun k => (run.moment k).items.length :=
    monotone_nat_of_le_succ fun k => Moment.items_of_step? (run.step k)
  obtain ⟨pages, last, hlast⟩ := converges_of_monotone_of_bounded hpages hmost
  -- Behind the last page the items are taken from what is left there.
  have hleft (k : Nat) (hk : last ≤ k) :
      (run.moment k).items.length + (run.moment k).state.source.left ≤
        (run.moment last).items.length + (run.moment last).state.source.left := by
    induction k, hk using Nat.le_induction with
    | base => exact Nat.le_refl _
    | succ k hk ih =>
        have hsame : (run.moment (k + 1)).pages = (run.moment k).pages :=
          (hlast (k + 1) (Nat.le_succ_of_le hk)).trans (hlast k hk).symm
        exact (Moment.left_of_step? (run.step k) hsame).trans ih
  refine ⟨(run.moment last).items.length + (run.moment last).state.source.left, fun k => ?_⟩
  rcases Nat.le_total last k with hk | hk
  · exact (Nat.le_add_right ..).trans (hleft k hk)
  · exact (hitems hk).trans (Nat.le_add_right ..)

/-- With a finite source all steps from some time on are steps at targets. -/
theorem exists_works (run : EndlessRun plan (.start plan service metrics source started))
    (hsource : run.SourceEnds) :
    ∃ last, ∀ k, last ≤ k → (run.moment k).state.works (run.actor k) := by
  obtain ⟨items, hitems⟩ := run.exists_items_le hsource
  obtain ⟨pages, hpages⟩ := hsource
  have hmono : Monotone fun k => (run.moment k).others :=
    monotone_nat_of_le_succ fun k =>
      (Nat.le_add_right ..).trans (Moment.others_of_step? (run.step k)).ge
  have hothers (k : Nat) : (run.moment k).others ≤
      pages + (2 * State.tries plan + 4) * (items + 1) + 2 * plan.config.parallelism := by
    have hpaid := (Moment.paid_of_reachable (run.reachable_moment k)).others_le
    have hworth := Nat.mul_le_mul_left (2 * State.tries plan + 4) (Nat.add_le_add_right (hitems k) 1)
    have hpage := hpages k
    omega
  obtain ⟨others, last, hlast⟩ := converges_of_monotone_of_bounded hmono hothers
  refine ⟨last, fun k hk => ?_⟩
  have hsame : (run.moment (k + 1)).others = (run.moment k).others :=
    (hlast (k + 1) (Nat.le_succ_of_le hk)).trans (hlast k hk).symm
  have hothers := Moment.others_of_step? (run.step k)
  rw [hsame] at hothers
  cases hworks : (run.moment k).state.works (run.actor k) with
  | true => rfl
  | false => simp [hworks] at hothers

/-- If the source is finite and the processing of each target ends, no run is endless. -/
theorem not_endless (run : EndlessRun plan (.start plan service metrics source started))
    (hsource : run.SourceEnds) : ¬ run.TargetsEnd := by
  intro htargets
  obtain ⟨last, hworks⟩ := run.exists_works hsource
  have hbusy {index k : Nat} (hk : last ≤ k) (h : (run.moment k).state.IsBusy index) (j : Nat)
      (hj : k ≤ j) : (run.moment j).state.IsBusy index := by
    induction j, hj using Nat.le_induction with
    | base => exact h
    | succ j hj ih => exact Moment.isBusy_of_step? (run.step j) (hworks j (hk.trans hj)) ih
  -- From some time on a worker makes no step.
  have hrests (index : Nat) : ∃ rests, ∀ j, rests ≤ j → run.actor j ≠ .worker index := by
    by_cases hacts : ∃ k, last ≤ k ∧ run.actor k = .worker index
    · obtain ⟨k, hk, hactor⟩ := hacts
      obtain ⟨index', hindex, h⟩ := State.exists_busy_of_works (hworks k hk)
      obtain rfl : index = index' := Actor.worker.inj (hactor.symm.trans hindex)
      exact htargets index k (hbusy hk h)
    · exact ⟨last, fun j hj hactor => hacts ⟨j, hj, hactor⟩⟩
  choose rests hrests using hrests
  -- There are only so many workers, so from some time on nobody makes a step.
  let quiet := max last ((Finset.range plan.config.parallelism).sup rests)
  obtain ⟨index, hactor, h⟩ := State.exists_busy_of_works (hworks quiet (Nat.le_max_left ..))
  have hindex : index < plan.config.parallelism := by
    rw [← (Moment.sound_of_reachable (run.reachable_moment quiet)).size]
    exact h.lt_size
  refine hrests index quiet ?_ hactor
  exact (Finset.le_sup (Finset.mem_range.mpr hindex)).trans (Nat.le_max_right ..)

end EndlessRun

namespace Moment

/-! ### All together -/

/-- However the service behaves, a batch with at least one worker stays within its bounds, makes
steps until all actors have ended, and then has nothing left in the queue. Its run has an end if its
source is finite and the processing of each target ends. -/
theorem never_stuck {plan : Plan} (hparallel : 1 ≤ plan.config.parallelism) (service : Service)
    (metrics : Metrics) (source : Source) (started : Nat) :
    (∀ m, Reachable plan (start plan service metrics source started) m →
      m.state.queue.length ≤ max 1 plan.settings.queueCapacity ∧
      m.state.processing.length ≤ plan.config.parallelism ∧
      m.items.length ≤ m.state.finished.length + m.state.excluded.length +
        plan.config.parallelism + max 1 plan.settings.queueCapacity + 1 ∧
      (∀ behaviour, (∃ actor, (m.step? plan behaviour actor).isSome) ↔ m.state.isFinal = false) ∧
      (∀ behaviour, (∀ actor, m.step? plan behaviour actor = none) →
        m.state.isFinal ∧ m.state.queue = [] ∧
          ∀ worker ∈ m.state.workers.toList, worker.task = .ended) ∧
      m.others ≤ m.pages + (2 * max 1 plan.settings.retry.maxAttempts + 4) * (m.items.length + 1) +
        2 * plan.config.parallelism) ∧
    ∀ run : EndlessRun plan (start plan service metrics source started),
      run.SourceEnds → ¬ run.TargetsEnd := by
  refine ⟨fun m hm => ?_, fun run => run.not_endless⟩
  have hsound := sound_of_reachable hm
  exact ⟨hsound.room, hsound.processing_le, hsound.items_le,
    fun behaviour => hsound.exists_step_iff hparallel behaviour,
    fun _ hstuck => hsound.ended hparallel hstuck, (paid_of_reachable hm).others_le⟩

/-- Two workers, and two targets. -/
def sampleFirst : Moment :=
  start Chronicle.samplePlan Chronicle.sampleService .zero (Chronicle.sampleSource ["pay", "ship"]) 0

/-- At one moment a worker is in the middle of its target and the other one has not started, and at
another moment the batch has ended. -/
theorem never_stuck_sample :
    1 ≤ Chronicle.samplePlan.config.parallelism ∧
    (∃ m, Reachable Chronicle.samplePlan sampleFirst m ∧
      m.state.processing = [⟨"pay", none⟩] ∧ m.state.queue = [⟨"ship", none⟩] ∧
      m.items.length ≤ m.state.finished.length + m.state.excluded.length + 2 +
        max 1 Chronicle.samplePlan.settings.queueCapacity + 1 ∧
      ∃ actor, (m.step? Chronicle.samplePlan m.state.service.call actor).isSome) ∧
    ∃ m, Reachable Chronicle.samplePlan sampleFirst m ∧
      (∀ actor, m.step? Chronicle.samplePlan m.state.service.call actor = none) ∧
      m.state.finished.length = 2 ∧ m.state.queue = [] := by
  have hbatch := @never_stuck Chronicle.samplePlan (by decide) Chronicle.sampleService .zero
    (Chronicle.sampleSource ["pay", "ship"]) 0
  have hfirst : Reachable Chronicle.samplePlan sampleFirst sampleFirst := .first
  refine ⟨by decide, ?_, ?_⟩
  · have hstate : ((Chronicle.sampleStart ["pay", "ship"]).follow? Chronicle.samplePlan
        (Chronicle.crossedSchedule.take 8)).map
          (fun c => (c.state.isFinal, c.state.processing, c.state.queue)) =
        some (false, [⟨"pay", none⟩], [⟨"ship", none⟩]) := by
      decide +kernel
    obtain ⟨c, hrun, hc⟩ := Option.map_eq_some_iff.mp hstate
    simp only [Prod.mk.injEq] at hc
    obtain ⟨m, hm, hsame, -⟩ := exists_reachable_of_follow? hrun hfirst rfl rfl
    obtain ⟨hgoes, hprocessing, hqueue⟩ := hsame ▸ hc
    obtain ⟨-, -, hitems, hstep, -⟩ := hbatch.1 m hm
    exact ⟨m, hm, hprocessing, hqueue, hitems, (hstep _).mpr hgoes⟩
  · have hstate : ((Chronicle.sampleStart ["pay", "ship"]).follow? Chronicle.samplePlan
        Chronicle.crossedSchedule).map (fun c => (c.state.isFinal, c.state.finished.length)) =
        some (true, 2) := by
      decide +kernel
    obtain ⟨c, hrun, hc⟩ := Option.map_eq_some_iff.mp hstate
    simp only [Prod.mk.injEq] at hc
    obtain ⟨m, hm, hsame, -⟩ := exists_reachable_of_follow? hrun hfirst rfl rfl
    obtain ⟨hfinal, hfinished⟩ := hsame ▸ hc
    obtain ⟨-, -, -, hstep, hended, -⟩ := hbatch.1 m hm
    have hstuck (actor : Actor) :
        m.step? Chronicle.samplePlan m.state.service.call actor = none := by
      cases hsome : m.step? Chronicle.samplePlan m.state.service.call actor with
      | none => rfl
      | some m' =>
          have hgoes := (hstep m.state.service.call).mp ⟨actor, by simp [hsome]⟩
          simp [hfinal] at hgoes
    exact ⟨m, hm, hstuck, hfinished, (hended _ hstuck).2.1⟩

end Moment

end Batch

end Rewind
