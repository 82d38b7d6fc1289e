import Mathlib.Logic.Function.Iterate
import Rewind.Proofs.Batch.Accounting
import Rewind.Proofs.Batch.Behaviour
import Rewind.Proofs.Paging
import Rewind.Proofs.Part
import Rewind.Proofs.Retry

/-!
How often the producer asks its source.

The producer has a loop of its own around its source: it counts its attempts, notes down a retry and
pauses. That loop does what the general one does if the operation is to ask the source once. The source
may be any, and the service may answer its scans as it likes. If it answers with pages without entries
for ever, neither loop comes to an end.

Main statement: `one_retry_law`.
-/

namespace Rewind

variable {Env : Type}

/-! ### A source and a service that answers as it likes -/

/-- How a service answers scans while its environment changes, and what else it is by then. -/
structure Answering (Env : Type) where
  scan : Env → ScanRequest → Except ServiceError (Page WorkflowRef) × Env
  service : Env → Service

namespace Answering

/-- A service in memory answers by itself. -/
def own : Answering Service where
  scan service request := service.call (.scan request)
  service := id

/-- How such a service behaves. -/
def behaviour (answering : Answering Env) (env : Env) : Batch.Behaviour
  | .scan request =>
      let (answer, env) := answering.scan env request
      (answer, answering.service env)
  | request => (answering.service env).call request

/-- A service that answers scans from a script, and behind its end with nothing found. -/
def scripted (service : Service) :
    Answering (List (Except ServiceError (Page WorkflowRef))) where
  scan script _ := (script.headD (.ok ⟨[], none⟩), script.tail)
  service _ := service

theorem behaviour_own (service : Service) : own.behaviour service = service.call := by
  funext request
  cases request <;> rfl

end Answering

/-- What comes of it if a source is asked. -/
inductive Turn (Env : Type) where
  /-- It answers, maybe with the failure of a scan. -/
  | answered (answer : Except ResetError (Option SourceItem)) (source : Source) (env : Env)
  /-- It has got another page, and has to be asked again. -/
  | paged (source : Source) (env : Env)

namespace Source

/-- Asks a source, and the service if the source needs a page. -/
def turn (answering : Answering Env) (source : Source) (env : Env) : Turn Env :=
  match source.poll with
  | (.answer answer, source) => .answered answer source env
  | (.ask request, source) =>
      match answering.scan env request with
      | (.ok page, env) => .paged (source.receive page) env
      | (.error error, env) => .answered (.error (.service error)) source env

/-- Asks until there is an answer, and gives up behind a number of turns. -/
def nextUnder (answering : Answering Env) :
    Nat → Source → Env → Option (Except ResetError (Option SourceItem) × Source × Env)
  | 0, _, _ => none
  | budget + 1, source, env =>
      match source.turn answering env with
      | .answered answer source env => some (answer, source, env)
      | .paged source env => nextUnder answering budget source env

end Source

/-! ### The answers of a service in memory -/

/-- Behind a page that a service in memory has answered with, there is an answer to the query, or they
are over. -/
theorem Service.settled_of_scan {s : Service} {request : ScanRequest} {page : Page WorkflowRef}
    (h : (s.call (.scan request)).1 = .ok page) (cursor : Cursor WorkflowRef) :
    ((cursor.receive page).exhausted || !(cursor.receive page).buffered.isEmpty) = true := by
  have hserved : (s.store.count .scan).scanPage request = .ok page := s.served_of_ok h
  rw [Store.scanPage] at hserved
  cases hoffset : Paging.offsetOf? request.token with
  | error error => simp [hoffset, Except.map] at hserved
  | ok offset =>
      simp only [hoffset, Except.map, Except.ok.injEq] at hserved
      by_cases hmore : page.token = none
      · simp [Cursor.receive, hmore, hasMore]
      · have hsome : page.items ≠ [] :=
          hserved ▸ Paging.items_page_ne_nil (Paging.limit_pos _ _) (hserved ▸ hmore)
        simp [Cursor.receive, hsome]

namespace Source

variable {source behind : Source} {request : ScanRequest} {page : Page WorkflowRef}

/-- Behind such a page, a source answers. -/
theorem poll_receive (h : source.poll = (.ask request, behind))
    (hsettled : ∀ cursor : Cursor WorkflowRef,
      ((cursor.receive page).exhausted || !(cursor.receive page).buffered.isEmpty) = true) :
    ∃ answer source', (behind.receive page).poll = (.answer answer, source') := by
  obtain ⟨targets, hfeed, -, -, -, rfl⟩ := exists_query h
  have hpage := hsettled targets.pages
  simp only [receive, poll, hfeed]
  cases htake : (targets.pages.receive page).take? with
  | some found => exact ⟨_, _, rfl⟩
  | none =>
      rw [Cursor.take?_eq_none.mp htake] at hpage
      have hover : (targets.pages.receive page).exhausted = true := by simpa using hpage
      simp only [hover, if_true]
      exact ⟨_, _, rfl⟩

theorem one_le_pageBudget (source : Source) (service : Service) :
    1 ≤ source.pageBudget service := by
  unfold pageBudget
  split <;> omega

theorem two_le_pageBudget (h : source.poll = (.ask request, behind)) (service : Service) :
    2 ≤ source.pageBudget service := by
  obtain ⟨targets, hfeed, -⟩ := exists_query h
  simp only [pageBudget, hfeed]
  omega

/-- Against a service in memory, a source answers within two turns. -/
theorem nextUnder_own (source : Source) (service : Service) :
    source.nextUnder .own 2 service = some (source.next service) := by
  rcases hpoll : source.poll with ⟨answer | request, behind⟩
  · obtain ⟨budget, hbudget⟩ := Nat.exists_eq_add_of_le' (one_le_pageBudget source service)
    simp [nextUnder, turn, next, hbudget, nextWithin, hpoll]
  · obtain ⟨budget, hbudget⟩ := Nat.exists_eq_add_of_le' (two_le_pageBudget hpoll service)
    rcases hcall : service.call (.scan request) with ⟨error | page, service'⟩
    · simp [nextUnder, turn, next, hbudget, nextWithin, hpoll, Answering.own, hcall]
    · obtain ⟨answer, source', hanswer⟩ :=
        poll_receive hpoll fun cursor => Service.settled_of_scan (congrArg Prod.fst hcall) cursor
      simp [nextUnder, turn, next, hbudget, nextWithin, hpoll, Answering.own, hcall, hanswer]

end Source

/-! ### Readers of sources -/

/-- A source that is read, with all that it has answered. -/
structure Reader (Env : Type) where
  source : Source
  env : Env
  heard : List (Except ResetError (Option SourceItem))

namespace Reader

variable {answering : Answering Env} {budget attempt spare : Nat} {reader : Reader Env}

/-- Asks the source for its next item, and notes down what it answers. -/
def next (answering : Answering Env) (budget : Nat) :
    StateT (Reader Env) Option (Except ResetError (Option SourceItem)) := fun reader =>
  (reader.source.nextUnder answering budget reader.env).map fun (answer, source, env) =>
    (answer, ⟨source, env, reader.heard ++ [answer]⟩)

theorem next_succ : next answering (budget + 1) reader =
    match reader.source.turn answering reader.env with
    | .answered answer source env => some (answer, ⟨source, env, reader.heard ++ [answer]⟩)
    | .paged source env => next answering budget ⟨source, env, reader.heard⟩ := by
  simp only [next, Source.nextUnder]
  cases reader.source.turn answering reader.env <;> rfl

/-- Makes the attempt of that number, and up to `spare` further ones. -/
def attempts (answering : Answering Env) (budget attempt spare : Nat) :
    StateT (Reader Env) Option (Attempted ResetError (Option SourceItem)) :=
  attemptFrom (pure ()) ResetError.isRetryable (fun _ => next answering budget) attempt spare

theorem run_attempts_zero :
    (attempts answering budget attempt 0).run reader =
      (next answering budget reader).map fun (answer, reader) => (⟨answer, attempt⟩, reader) := by
  change (next answering budget reader).bind _ = _
  cases next answering budget reader <;> rfl

theorem run_attempts_succ :
    (attempts answering budget attempt (spare + 1)).run reader =
      (next answering budget reader).bind fun (answer, reader) =>
        if isSettled ResetError.isRetryable answer then some (⟨answer, attempt⟩, reader)
        else (attempts answering budget (attempt + 1) spare).run reader := by
  rw [attempts, attemptFrom_succ]
  change (next answering budget reader).bind _ = _
  congr 1
  funext ⟨answer, behind⟩
  cases hsettled : isSettled ResetError.isRetryable answer <;> (simp only [hsettled]; rfl)

end Reader

theorem Reader.next_own (reader : Reader Service) :
    next .own 2 reader =
      some ((reader.source.next reader.env).1,
        ⟨(reader.source.next reader.env).2.1, (reader.source.next reader.env).2.2,
          reader.heard ++ [(reader.source.next reader.env).1]⟩) := by
  rw [next, Source.nextUnder_own]
  rfl

/-- Asks a source and a service in memory for the next item. -/
def Source.pull : StateM (Source × Service) (Except ResetError (Option SourceItem)) :=
  fun (source, service) => source.next service

theorem Source.run_pull_succ (source : Source) (service : Service) (attempt spare : Nat) :
    (attemptFrom (pure ()) ResetError.isRetryable (fun _ => pull) attempt (spare + 1)).run
        (source, service) =
      if isSettled ResetError.isRetryable (source.next service).1 then
        (⟨(source.next service).1, attempt⟩, (source.next service).2)
      else
        (attemptFrom (pure ()) ResetError.isRetryable (fun _ => pull) (attempt + 1) spare).run
          (source.next service).2 := by
  rw [attemptFrom_succ]
  change StateT.run (if isSettled ResetError.isRetryable (source.next service).1 = true then _ else _)
    (source.next service).2 = _
  split <;> rfl

/-- What is heard aside, attempts against a service in memory come to what they come to with the next
item of the source. -/
theorem Reader.run_attempts_own (reader : Reader Service) (attempt spare : Nat) :
    ((attempts .own 2 attempt spare).run reader).map (fun (attempted, behind) =>
      (attempted, behind.source, behind.env)) =
      some ((attemptFrom (pure ()) ResetError.isRetryable (fun _ => Source.pull) attempt spare).run
        (reader.source, reader.env)) := by
  induction spare generalizing attempt reader with
  | zero =>
      simp only [run_attempts_zero, next_own, Option.map_some]
      rfl
  | succ spare ih =>
      rw [run_attempts_succ, next_own, Option.bind_some, Source.run_pull_succ]
      dsimp only
      by_cases hsettled : isSettled ResetError.isRetryable (reader.source.next reader.env).1 = true
      · rw [if_pos hsettled, if_pos hsettled, Option.map_some]
      · rw [if_neg hsettled, if_neg hsettled]
        exact ih _ (attempt + 1)

namespace Batch

/-! ### The producer and such a service -/

namespace State

/-- Whether the producer asks its source, or will do so behind a pause. -/
def isAsking (s : State) : Bool :=
  match s.producer with
  | .pulling _ | .pausing _ => true
  | .holding _ | .ended _ => false

/-- Goes on with an answer of the source behind which it is not asked again. -/
def deliver (plan : Plan) (s : State) : Except ResetError (Option SourceItem) → State
  | .ok none => { s with producer := .ended none }
  | .ok (some (.excluded target)) => s.exclude plan target
  | .ok (some (.target target)) => { s with producer := .holding target }
  | .error error => { s with producer := .ended (some error) }

variable {plan : Plan} {s : State} {attempt : Nat} {answer : Except ResetError (Option SourceItem)}

theorem sourceAnswered_of_settled (h : isSettled ResetError.isRetryable answer = true) :
    s.sourceAnswered plan attempt answer = s.deliver plan answer := by
  rcases answer with error | _ | item
  · have hfinal : error.isRetryable = false := by simpa [isSettled] using h
    simp [sourceAnswered, sourceFailed, deliver, hfinal]
  · rfl
  · cases item <;> rfl

/-- The last attempt is the last one whatever the answer is. -/
theorem sourceAnswered_of_spent (h : attempt = max 1 plan.settings.retry.maxAttempts) :
    s.sourceAnswered plan attempt answer = s.deliver plan answer := by
  rcases answer with error | _ | item
  · simp [sourceAnswered, sourceFailed, deliver, h]
  · rfl
  · cases item <;> rfl

theorem sourceAnswered_of_open (hopen : isSettled ResetError.isRetryable answer = false)
    (hspare : attempt < max 1 plan.settings.retry.maxAttempts) :
    s.sourceAnswered plan attempt answer =
      { s with metrics := s.metrics.record .retry, producer := .pausing (attempt + 1) } := by
  cases answer with
  | ok item => simp [isSettled] at hopen
  | error error =>
      have hpasses : error.isRetryable = true := by simpa [isSettled] using hopen
      rw [sourceAnswered, sourceFailed, hpasses, Bool.true_and, decide_eq_true hspare, if_pos rfl]

theorem sourceAnswered_service : (s.sourceAnswered plan attempt answer).service = s.service := by
  rcases answer with error | _ | item
  · exact sourceFailed_service plan s attempt error
  · rfl
  · cases item <;> rfl

/-- What the producer was at does not matter to how it goes on. -/
theorem deliver_congr {t : State} (h : { s with producer := t.producer } = t) :
    s.deliver plan answer = t.deliver plan answer := by
  rw [← h]
  rcases answer with error | _ | item
  · rfl
  · rfl
  · cases item <;> rfl

end State

/-- A batch whose producer makes steps, with all that the source has answered it. -/
structure Pull (Env : Type) where
  state : State
  env : Env
  heard : List (Except ResetError (Option SourceItem))

namespace Pull

variable {plan : Plan} {answering : Answering Env} {p : Pull Env} {attempt budget : Nat}

/-- The producer is about to ask for its next item. -/
def start (answering : Answering Env) (s : State) (env : Env) : Pull Env :=
  ⟨{ s with service := answering.service env, producer := .pulling 1 }, env, []⟩

/-- A step of the producer, which notes down what it hears. -/
def step (plan : Plan) (answering : Answering Env) (p : Pull Env) : Pull Env :=
  let state := p.state.stepUnder plan (answering.behaviour p.env) .producer
  match p.state.producer with
  | .pulling _ =>
      match p.state.source.turn answering p.env with
      | .answered answer _ env => ⟨state, env, p.heard ++ [answer]⟩
      | .paged _ env => ⟨state, env, p.heard⟩
  | _ => ⟨state, p.env, p.heard⟩

/-- The source with all that it has answered. -/
def reader (p : Pull Env) : Reader Env :=
  ⟨p.state.source, p.env, p.heard⟩

/-- The same batch when its source has been read further, and something has come of it. -/
def read (answering : Answering Env) (p : Pull Env) (reader : Reader Env) (goOn : State → State) :
    Pull Env :=
  ⟨goOn { p.state with source := reader.source, service := answering.service reader.env },
    reader.env, reader.heard⟩

/-- The producer asks its source, or rests in between, for so many steps. -/
def Asks (plan : Plan) (answering : Answering Env) (p : Pull Env) (n : Nat) : Prop :=
  ∀ k < n, ((step plan answering)^[k] p).state.isAsking

/-- The producer is at an attempt, and the batch holds the service that answers. -/
structure At (answering : Answering Env) (p : Pull Env) (attempt : Nat) : Prop where
  producer : p.state.producer = .pulling attempt
  service : p.state.service = answering.service p.env

variable (plan) in
theorem step_of_answered (h : p.At answering attempt)
    {answer : Except ResetError (Option SourceItem)} {source : Source} {env : Env}
    (hturn : p.state.source.turn answering p.env = .answered answer source env) :
    p.step plan answering =
      p.read answering ⟨source, env, p.heard ++ [answer]⟩ (·.sourceAnswered plan attempt answer) := by
  simp only [step, h.producer, hturn, read, Pull.mk.injEq, and_true]
  rcases hpoll : p.state.source.poll with ⟨polled | request, behind⟩
  · simp only [Source.turn, hpoll, Turn.answered.injEq] at hturn
    obtain ⟨rfl, rfl, rfl⟩ := hturn
    simp only [State.stepUnder, h.producer, hpoll, State.step, State.stepProducer, State.pull,
      ← h.service]
  · rcases hscan : answering.scan p.env request with ⟨error | page, env'⟩
    · simp only [Source.turn, hpoll, hscan, Turn.answered.injEq] at hturn
      obtain ⟨rfl, rfl, rfl⟩ := hturn
      simp only [State.stepUnder, h.producer, hpoll, Answering.behaviour, hscan, State.scanned,
        State.sourceAnswered]
    · simp [Source.turn, hpoll, hscan] at hturn

variable (plan) in
theorem step_of_paged (h : p.At answering attempt) {source : Source} {env : Env}
    (hturn : p.state.source.turn answering p.env = .paged source env) :
    p.step plan answering = p.read answering ⟨source, env, p.heard⟩ id := by
  simp only [step, h.producer, hturn, read, Pull.mk.injEq, and_true, id]
  rcases hpoll : p.state.source.poll with ⟨polled | request, behind⟩
  · simp [Source.turn, hpoll] at hturn
  · rcases hscan : answering.scan p.env request with ⟨error | page, env'⟩
    · simp [Source.turn, hpoll, hscan] at hturn
    · simp only [Source.turn, hpoll, hscan, Turn.paged.injEq] at hturn
      obtain ⟨rfl, rfl⟩ := hturn
      simp only [State.stepUnder, h.producer, hpoll, Answering.behaviour, hscan, State.scanned]

theorem step_of_pausing (hpausing : p.state.producer = .pausing attempt) :
    p.step plan answering = { p with state := { p.state with producer := .pulling attempt } } := by
  simp only [step, hpausing, State.stepUnder, State.step, State.stepProducer]

/-! ### Many steps -/

namespace Asks

variable {n m : Nat}

theorem zero : p.Asks plan answering 0 := fun _ hk => absurd hk (Nat.not_lt_zero _)

theorem cons (hasking : p.state.isAsking) (h : (p.step plan answering).Asks plan answering n) :
    p.Asks plan answering (n + 1) := by
  intro k hk
  cases k with
  | zero => exact hasking
  | succ k => exact h k (Nat.lt_of_succ_lt_succ hk)

theorem append (h : p.Asks plan answering n)
    (h' : ((step plan answering)^[n] p).Asks plan answering m) : p.Asks plan answering (m + n) := by
  intro k hk
  by_cases hsplit : k < n
  · exact h k hsplit
  · obtain ⟨j, rfl⟩ := Nat.exists_eq_add_of_le' (Nat.le_of_not_lt hsplit)
    rw [Function.iterate_add_apply]
    exact h' j (by omega)

theorem mono (h : p.Asks plan answering n) (hm : m ≤ n) : p.Asks plan answering m := fun k hk =>
  h k (Nat.lt_of_lt_of_le hk hm)

end Asks

/-- The producer asks until it has come to another state. -/
def AsksUntil (plan : Plan) (answering : Answering Env) (p q : Pull Env) : Prop :=
  ∃ n, p.Asks plan answering n ∧ (step plan answering)^[n] p = q

namespace AsksUntil

variable {q r : Pull Env}

theorem cons (hasking : p.state.isAsking) (h : (p.step plan answering).AsksUntil plan answering q) :
    p.AsksUntil plan answering q := by
  obtain ⟨n, hasks, hsteps⟩ := h
  exact ⟨n + 1, hasks.cons hasking, hsteps⟩

theorem trans (h : p.AsksUntil plan answering q) (h' : q.AsksUntil plan answering r) :
    p.AsksUntil plan answering r := by
  obtain ⟨n, hasks, rfl⟩ := h
  obtain ⟨m, hasks', rfl⟩ := h'
  exact ⟨m + n, hasks.append hasks', Function.iterate_add_apply _ _ _ _⟩

/-- Who asks until a state asks at least as long as from there on. -/
theorem asks {n : Nat} (h : p.AsksUntil plan answering q) (h' : q.Asks plan answering n) :
    p.Asks plan answering n := by
  obtain ⟨m, hasks, rfl⟩ := h
  exact (hasks.append h').mono (Nat.le_add_right n m)

theorem single (hasking : p.state.isAsking) :
    p.AsksUntil plan answering (p.step plan answering) :=
  ⟨1, Asks.zero.cons hasking, rfl⟩

end AsksUntil

theorem asksUntil_of_pausing (hpausing : p.state.producer = .pausing attempt) :
    p.AsksUntil plan answering { p with state := { p.state with producer := .pulling attempt } } := by
  rw [← step_of_pausing hpausing]
  exact .single (by rw [State.isAsking, hpausing])

theorem At.isAsking (h : p.At answering attempt) : p.state.isAsking = true := by
  rw [State.isAsking, h.producer]

variable (plan) in
/-- If the source answers in the end, the producer gets that answer. -/
theorem asksUntil_of_next (h : p.At answering attempt)
    {answer : Except ResetError (Option SourceItem)} {reader : Reader Env}
    (hnext : Reader.next answering budget p.reader = some (answer, reader)) :
    p.AsksUntil plan answering (p.read answering reader (·.sourceAnswered plan attempt answer)) ∧
      reader.heard = p.heard ++ [answer] := by
  induction budget generalizing p with
  | zero => cases hnext
  | succ budget ih =>
      rw [Reader.next_succ] at hnext
      cases hturn : p.reader.source.turn answering p.reader.env with
      | answered found source env =>
          simp only [hturn, Option.some.injEq, Prod.mk.injEq] at hnext
          obtain ⟨rfl, rfl⟩ := hnext
          have hstep := step_of_answered plan h hturn
          exact ⟨hstep ▸ .single h.isAsking, rfl⟩
      | paged source env =>
          simp only [hturn] at hnext
          have hstep := step_of_paged plan h hturn
          obtain ⟨huntil, hheard⟩ :=
            ih (p := p.read answering ⟨source, env, p.heard⟩ id) ⟨h.producer, rfl⟩ hnext
          exact ⟨.cons h.isAsking (hstep ▸ huntil), hheard⟩

/-- While the source gives no answer, the producer goes on asking. -/
theorem asks_of_next (h : p.At answering attempt)
    (hnext : Reader.next answering budget p.reader = none) : p.Asks plan answering budget := by
  induction budget generalizing p with
  | zero => exact .zero
  | succ budget ih =>
      rw [Reader.next_succ] at hnext
      cases hturn : p.reader.source.turn answering p.reader.env with
      | answered found source env => simp [hturn] at hnext
      | paged source env =>
          simp only [hturn] at hnext
          have hstep := step_of_paged plan h hturn
          have hasks := ih (p := p.read answering ⟨source, env, p.heard⟩ id) ⟨h.producer, rfl⟩ hnext
          exact .cons h.isAsking (hstep ▸ hasks)

/-! ### Many attempts -/

/-- The batch when its producer is done with an item that it has asked for since some attempt. -/
def finish (plan : Plan) (answering : Answering Env) (p : Pull Env) (attempt : Nat)
    (attempted : Attempted ResetError (Option SourceItem)) (reader : Reader Env) : Pull Env :=
  p.read answering reader fun s =>
    { s with
      metrics := s.metrics.recordRetries (UInt64.ofNat (attempted.attempts - attempt)) }.deliver plan
        attempted.result

variable {spare : Nat} {attempted : Attempted ResetError (Option SourceItem)} {reader : Reader Env}

theorem finish_self {answer : Except ResetError (Option SourceItem)} :
    p.finish plan answering attempt ⟨answer, attempt⟩ reader =
      p.read answering reader (·.deliver plan answer) := by
  simp [finish, Metrics.recordRetries]

/-- A retry that is noted down at once is one that is counted in the end. -/
theorem finish_succ (hlater : attempt < attempted.attempts) {between : Reader Env} :
    (p.read answering between fun s =>
      { s with
        metrics := s.metrics.record .retry,
        producer := .pulling (attempt + 1) }).finish plan answering (attempt + 1) attempted reader =
      p.finish plan answering attempt attempted reader := by
  obtain ⟨more, hmore⟩ := Nat.exists_eq_add_of_lt hlater
  have hretries (metrics : Metrics) :
      (metrics.record .retry).recordRetries (UInt64.ofNat (attempted.attempts - (attempt + 1))) =
        metrics.recordRetries (UInt64.ofNat (attempted.attempts - attempt)) := by
    have hafter : attempted.attempts - (attempt + 1) = more := by omega
    have hcount : attempted.attempts - attempt = 1 + more := by omega
    rw [hafter, hcount, UInt64.ofNat_add]
    simp [Metrics.recordRetries, Metrics.record, UInt64.add_assoc]
  simp only [finish, read, hretries, Pull.mk.injEq, and_true]
  exact State.deliver_congr rfl

/-- The producer asks for an item with as many attempts as there are, and goes on with the result of
the last one. -/
structure Finishes (plan : Plan) (answering : Answering Env) (p : Pull Env) (attempt : Nat)
    (attempted : Attempted ResetError (Option SourceItem)) (reader : Reader Env) : Prop where
  asks : p.AsksUntil plan answering (p.finish plan answering attempt attempted reader)
  attempts : attempt ≤ attempted.attempts
  heard : reader.heard.length = p.heard.length + (attempted.attempts + 1 - attempt)
  last : reader.heard.getLast? = some attempted.result

/-- An attempt that no other one follows. -/
theorem finishes_of_last (h : p.At answering attempt)
    {answer : Except ResetError (Option SourceItem)}
    (hnext : Reader.next answering budget p.reader = some (answer, reader))
    (hlast : ∀ s : State, s.sourceAnswered plan attempt answer = s.deliver plan answer) :
    p.Finishes plan answering attempt ⟨answer, attempt⟩ reader := by
  obtain ⟨hasks, hheard⟩ := asksUntil_of_next plan h hnext
  constructor
  case asks =>
    rw [finish_self]
    simpa only [read, hlast] using hasks
  case attempts => exact Nat.le_refl _
  case heard => simp [hheard]
  case last => simp [hheard]

/-- Behind an answer that leaves the matter open, the producer notes down a retry and asks again. -/
theorem asksUntil_of_open (h : p.At answering attempt) {between : Reader Env}
    {answer : Except ResetError (Option SourceItem)}
    (hnext : Reader.next answering budget p.reader = some (answer, between))
    (hopen : isSettled ResetError.isRetryable answer = false)
    (hmore : attempt < max 1 plan.settings.retry.maxAttempts) :
    p.AsksUntil plan answering (p.read answering between fun s =>
      { s with metrics := s.metrics.record .retry, producer := .pulling (attempt + 1) }) := by
  have hasks := (asksUntil_of_next plan h hnext).1
  simp only [State.sourceAnswered_of_open hopen hmore] at hasks
  exact hasks.trans (asksUntil_of_pausing rfl)

/-- An attempt that another one follows. -/
theorem finishes_of_more (h : p.At answering attempt) {between : Reader Env}
    {answer : Except ResetError (Option SourceItem)}
    (hnext : Reader.next answering budget p.reader = some (answer, between))
    (hopen : isSettled ResetError.isRetryable answer = false)
    (hmore : attempt < max 1 plan.settings.retry.maxAttempts)
    (hlater : (p.read answering between fun s =>
      { s with
        metrics := s.metrics.record .retry,
        producer := .pulling (attempt + 1) }).Finishes plan answering (attempt + 1) attempted reader) :
    p.Finishes plan answering attempt attempted reader := by
  have hheard := (asksUntil_of_next plan h hnext).2
  have hattempts : attempt + 1 ≤ attempted.attempts := hlater.attempts
  have hlength := hlater.heard
  simp only [read, hheard, List.length_append, List.length_singleton] at hlength
  constructor
  case asks =>
    rw [← finish_succ hattempts]
    exact (asksUntil_of_open h hnext hopen hmore).trans hlater.asks
  case attempts => omega
  case heard => omega
  case last => exact hlater.last

/-- Where the attempts come to an end, so does the producer. -/
theorem finishes_of_attempts (h : p.At answering attempt)
    (hspare : attempt + spare = max 1 plan.settings.retry.maxAttempts)
    (hrun : (Reader.attempts answering budget attempt spare).run p.reader =
      some (attempted, reader)) :
    p.Finishes plan answering attempt attempted reader := by
  induction spare generalizing p attempt with
  | zero =>
      rw [Reader.run_attempts_zero, Option.map_eq_some_iff] at hrun
      obtain ⟨⟨answer, behind⟩, hnext, hends⟩ := hrun
      obtain ⟨rfl, rfl⟩ := Prod.mk.inj hends
      exact finishes_of_last h hnext fun _ => State.sourceAnswered_of_spent hspare
  | succ spare ih =>
      rw [Reader.run_attempts_succ, Option.bind_eq_some_iff] at hrun
      obtain ⟨⟨answer, between⟩, hnext, hrun⟩ := hrun
      cases hsettled : isSettled ResetError.isRetryable answer with
      | true =>
          simp only [hsettled, if_true, Option.some.injEq, Prod.mk.injEq] at hrun
          obtain ⟨rfl, rfl⟩ := hrun
          exact finishes_of_last h hnext fun _ => State.sourceAnswered_of_settled hsettled
      | false =>
          simp only [hsettled] at hrun
          exact finishes_of_more h hnext hsettled (by omega) (ih ⟨rfl, rfl⟩ (by omega) hrun)

/-- Where an attempt does not come to an end, neither does the producer. -/
theorem asks_of_attempts (h : p.At answering attempt)
    (hspare : attempt + spare = max 1 plan.settings.retry.maxAttempts)
    (hrun : (Reader.attempts answering budget attempt spare).run p.reader = none) :
    p.Asks plan answering budget := by
  induction spare generalizing p attempt with
  | zero =>
      rw [Reader.run_attempts_zero, Option.map_eq_none_iff] at hrun
      exact asks_of_next h hrun
  | succ spare ih =>
      cases hnext : Reader.next answering budget p.reader with
      | none => exact asks_of_next h hnext
      | some found =>
          obtain ⟨answer, between⟩ := found
          rw [Reader.run_attempts_succ, hnext, Option.bind_some] at hrun
          cases hsettled : isSettled ResetError.isRetryable answer with
          | true => simp [hsettled] at hrun
          | false =>
              simp only [hsettled] at hrun
              have hmore : attempt < max 1 plan.settings.retry.maxAttempts := by omega
              exact (asksUntil_of_open h hnext hsettled hmore).asks (ih ⟨rfl, rfl⟩ (by omega) hrun)

/-! ### A batch against its own service -/

/-- The producer does not change the service but by its scans. -/
theorem service_step (h : p.state.service = answering.service p.env) :
    (p.step plan answering).state.service = answering.service (p.step plan answering).env := by
  cases hproducer : p.state.producer with
  | pulling attempt =>
      cases hturn : p.state.source.turn answering p.env with
      | answered answer source env =>
          rw [step_of_answered plan ⟨hproducer, h⟩ hturn]
          exact State.sourceAnswered_service
      | paged source env => rw [step_of_paged plan ⟨hproducer, h⟩ hturn, read, id]
  | pausing | holding | ended =>
      simpa only [step, hproducer, State.stepUnder, State.step, State.stepProducer] using h

/-- Against its own service a batch makes its own steps. -/
theorem iterate_own {p : Pull Service} (h : p.state.service = p.env) (n : Nat) :
    ((step plan .own)^[n] p).state = (State.step plan · .producer)^[n] p.state := by
  induction n generalizing p with
  | zero => rfl
  | succ n ih =>
      have hstep : (p.step plan .own).state = p.state.step plan .producer := by
        rw [State.step_eq_stepUnder, h, ← Answering.behaviour_own, step]
        split
        · split <;> rfl
        · rfl
      rw [Function.iterate_succ_apply, Function.iterate_succ_apply, ← hstep]
      exact ih (service_step h)

end Pull

/-- A batch whose producer is about to ask for an item comes to where the attempts against its service
come to. -/
theorem exists_steps_of_attempts {plan : Plan} {s : State} {spare : Nat}
    (hspare : 1 + spare = max 1 plan.settings.retry.maxAttempts)
    {attempted : Attempted ResetError (Option SourceItem)} {source : Source} {service : Service}
    (hrun : (attemptFrom (pure ()) ResetError.isRetryable (fun _ => Source.pull) 1 spare).run
      (s.source, s.service) = (attempted, source, service)) :
    ∃ n, (∀ k < n, ((State.step plan · .producer)^[k] { s with producer := .pulling 1 }).isAsking) ∧
      (State.step plan · .producer)^[n] { s with producer := .pulling 1 } =
        { s with
          source
          service
          metrics := s.metrics.recordRetries
            (UInt64.ofNat (attempted.attempts - 1)) }.deliver plan attempted.result := by
  have hown := Reader.run_attempts_own ⟨s.source, s.service, []⟩ 1 spare
  rw [hrun, Option.map_eq_some_iff] at hown
  obtain ⟨⟨_, reader⟩, hreader, hsame⟩ := hown
  cases hsame
  have hfinishes := Pull.finishes_of_attempts (p := .start .own s s.service) ⟨rfl, rfl⟩ hspare hreader
  obtain ⟨n, hasks, hends⟩ := hfinishes.asks
  refine ⟨n, ?_, ?_⟩
  · intro k hk
    have hasking := hasks k hk
    rw [Pull.iterate_own rfl] at hasking
    exact hasking
  · have hstate := congrArg Pull.state hends
    rw [Pull.iterate_own rfl] at hstate
    exact hstate.trans (State.deliver_congr rfl)

/-- One law of retries holds for both loops. With known responses, the general loop makes the attempts up
to the first one that settles the matter, or up to the last one that it may make, in order, and has the
response to that one as its result. The producer asks its source as often as the general loop would do,
hears the same, counts a retry for each attempt but one, and goes on with the same result; if the one
loop gets no answer, nor does the other. In a batch against its own service there is always one. -/
theorem one_retry_law :
    (∀ (m : Type → Type) [Monad m] [LawfulMonad m] (ε α : Type) (policy : RetryPolicy)
      (pause : m Unit) (mayPass : ε → Bool) (call : Nat → m Unit) (respond : Nat → Except ε α),
      let most := max 1 policy.maxAttempts
      let last := ((List.range' 1 most).find? fun n => isSettled mayPass (respond n)).getD most
      retrying policy pause mayPass (fun n => do call n; pure (respond n)) = (do
        callsUpTo pause call 1 last
        pure ⟨respond last, last⟩)) ∧
    (∀ (Env : Type) (answering : Answering Env) (plan : Plan) (s : State) (env : Env) (budget : Nat),
      match (retrying plan.settings.retry (pure ()) ResetError.isRetryable fun _ =>
        Reader.next answering budget).run ⟨s.source, env, []⟩ with
      | some (attempted, reader) =>
          (Pull.start answering s env).Finishes plan answering 1 attempted reader
      | none => (Pull.start answering s env).Asks plan answering budget) ∧
    ∀ (plan : Plan) (s : State),
      let (attempted, source, service) :=
        (retrying plan.settings.retry (pure ()) ResetError.isRetryable fun _ => Source.pull).run
          (s.source, s.service)
      ∃ n, (∀ k < n, ((State.step plan · .producer)^[k] { s with producer := .pulling 1 }).isAsking) ∧
        (State.step plan · .producer)^[n] { s with producer := .pulling 1 } =
          { s with
            source
            service
            metrics := s.metrics.recordRetries
              (UInt64.ofNat (attempted.attempts - 1)) }.deliver plan attempted.result := by
  have hspare (plan : Plan) :
      1 + plan.settings.retry.spare = max 1 plan.settings.retry.maxAttempts := by
    rw [RetryPolicy.spare]
    omega
  refine ⟨?_, ?_, ?_⟩
  · intro m _ _ ε α policy pause mayPass call respond
    simp only [← RetryPolicy.lastAttempt_eq]
    exact retrying_eq policy pause mayPass call respond
  · intro Env answering plan s env budget
    split
    · next attempted reader hrun =>
        exact Pull.finishes_of_attempts ⟨rfl, rfl⟩ (hspare plan) hrun
    · next hrun => exact Pull.asks_of_attempts ⟨rfl, rfl⟩ (hspare plan) hrun
  · intro plan s
    rcases hrun : (retrying plan.settings.retry (pure ()) ResetError.isRetryable fun _ =>
      Source.pull).run (s.source, s.service) with ⟨attempted, source, service⟩
    exact exists_steps_of_attempts (hspare plan) hrun

/-- A script with a failure, a page without entries, and a page with one. -/
def sampleScript : List (Except ServiceError (Page WorkflowRef)) :=
  [.error ⟨.unavailable, "busy"⟩, .ok ⟨[], some [49]⟩, .ok ⟨[⟨"pay", none⟩], none⟩]

/-- A batch that asks for the answers to a query. -/
def sampleQuery : State :=
  .initial Chronicle.samplePlan Chronicle.sampleService .zero
    ⟨.query ⟨"default", "all", .start⟩, .empty⟩ 0

/-- What the source of that batch has answered under that script. -/
def sampleReader : Reader (List (Except ServiceError (Page WorkflowRef))) where
  source := ⟨.query ⟨"default", "all", ⟨[], some [49], true⟩⟩, .empty⟩
  env := []
  heard := [.error (.service ⟨.unavailable, "busy"⟩), .ok (some (.target ⟨"pay", none⟩))]

theorem one_retry_law_sample :
    (retrying (.immediate 5) (pure ()) (fun passes => passes) fun n => do
      modify (· ++ [n])
      pure (if n < 3 then .error true else .ok n) : StateM (List Nat) (Attempted Bool Nat)).run [] =
        (⟨.ok 3, 3⟩, [1, 2, 3]) ∧
    (Pull.start (.scripted Chronicle.sampleService) sampleQuery sampleScript).Finishes
      Chronicle.samplePlan (.scripted Chronicle.sampleService) 1
      ⟨.ok (some (.target ⟨"pay", none⟩)), 2⟩ sampleReader := by
  obtain ⟨hgeneral, hproducer, -⟩ := one_retry_law
  constructor
  · rw [hgeneral (StateM (List Nat)) Bool Nat]
    rfl
  · have hrun := hproducer _ (.scripted Chronicle.sampleService) Chronicle.samplePlan sampleQuery
      sampleScript 3
    exact hrun

end Batch

end Rewind
