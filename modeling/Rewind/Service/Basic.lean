import Rewind.Service.Store
import Rewind.Time.Duration

/-!
A service as it is called: a store behind a line that takes time, with a deadline on every call.

A call takes its time first, and then asks the store. A deadline that comes before that drops the
call, so nothing of it reaches the store. When the timers of both fire is up to the runtime: a service
comes with the time at which a timer of any span fires. All calls and their fates are written down in
order.
-/

namespace Rewind

/-- A call that was made, and the error if it failed. -/
structure Exchange where
  request : Request
  failure : Option ServiceError
deriving DecidableEq, Repr

structure Service where
  store : Store
  /-- The time that every call takes. -/
  latency : Option Duration
  /-- The time that every call is given. -/
  deadline : Option Duration
  /-- The milliseconds after which a timer of a span fires, as the runtime has it. -/
  timer : Duration → Nat
  journal : List Exchange

namespace Service

/-- A service without latency and deadline, where no timer runs. If one did, it would fire on time. -/
def ofStore (store : Store) : Service :=
  ⟨store, none, none, Duration.wholeMilliseconds, []⟩

/-- The deadline that calls miss, if they do: its timer fires before that of the latency. A call that
is done when the deadline comes is in time. -/
def missed? (s : Service) : Option Duration :=
  match s.latency, s.deadline with
  | some latency, some deadline => if s.timer deadline < s.timer latency then some deadline else none
  | _, _ => none

/-- The time until a call is answered, or fails at its deadline, in milliseconds. -/
def callMilliseconds (s : Service) : Nat :=
  match s.latency, s.deadline with
  | some latency, some deadline => min (s.timer latency) (s.timer deadline)
  | some latency, none => s.timer latency
  | none, _ => 0

/-- The failure of a call that misses its deadline. -/
def timeout (method : Method) (deadline : Duration) : ServiceError :=
  ⟨.deadlineExceeded, s!"{method.callName} did not complete within {deadline.text}"⟩

/-- The answer to a call and the store behind it, the journal aside. -/
def answer (s : Service) (q : Request) : Except ServiceError q.Response × Store :=
  match s.missed? with
  | some deadline => (.error (timeout q.method deadline), s.store)
  | none => s.store.call q

/-- The error of an answer that has one. -/
def failure? {α : Type} : Except ServiceError α → Option ServiceError
  | .ok _ => none
  | .error error => some error

/-- Makes a call. -/
def call (s : Service) (q : Request) : Except ServiceError q.Response × Service :=
  let (answer, store) := s.answer q
  (answer, { s with store, journal := s.journal ++ [⟨q, failure? answer⟩] })

end Service

end Rewind
