import Rewind.Proofs.Amid

/-!
Calls with a deadline.

All calls of a service take the same time, so either all of them miss the deadline or none does. A call
that misses it fails before it reaches the store: nothing is counted, no scripted failure is used up,
and no reset is accepted. A call that is in time is answered as if there were no deadline.

Main statements: `call_of_missed` and `Later.store_eq` for calls that miss the deadline, and
`answers_of_inTime` for calls that do not.
-/

namespace Rewind

namespace Duration

/-- A span of whole milliseconds. -/
def ofMilliseconds (milliseconds : Nat) : Duration :=
  ⟨milliseconds * 1000000⟩

@[simp] theorem wholeMilliseconds_ofMilliseconds (milliseconds : Nat) :
    (ofMilliseconds milliseconds).wholeMilliseconds = milliseconds :=
  Nat.mul_div_cancel milliseconds (by decide)

end Duration

namespace Service

variable {s t : Service} {latency deadline : Nat}

/-- The timers that calls wait for fire when their spans are over. -/
def Punctual (s : Service) : Prop :=
  ∀ span, s.latency = some span ∨ s.deadline = some span → s.timer span = span.wholeMilliseconds

theorem missed?_of_slow (hpunctual : s.Punctual)
    (hlatency : s.latency = some (.ofMilliseconds latency))
    (hdeadline : s.deadline = some (.ofMilliseconds deadline)) (hslow : deadline < latency) :
    s.missed? = some (.ofMilliseconds deadline) := by
  simp only [missed?, hlatency, hdeadline, hpunctual _ (.inl hlatency),
    hpunctual _ (.inr hdeadline), Duration.wholeMilliseconds_ofMilliseconds, hslow, ↓reduceIte]

theorem missed?_of_fast (hpunctual : s.Punctual)
    (hdeadline : s.deadline = some (.ofMilliseconds deadline))
    (hfast : ∀ span, s.latency = some span →
      ∃ latency, span = .ofMilliseconds latency ∧ latency < deadline) : s.missed? = none := by
  cases hlatency : s.latency with
  | none => simp [missed?, hlatency]
  | some span =>
      obtain ⟨latency, rfl, hless⟩ := hfast span hlatency
      have hintime : ¬ deadline < latency := Nat.lt_asymm hless
      simp only [missed?, hlatency, hdeadline, hpunctual _ (.inl hlatency),
        hpunctual _ (.inr hdeadline), Duration.wholeMilliseconds_ofMilliseconds, hintime, ↓reduceIte]

/-! ### Calls that miss the deadline -/

@[simp] theorem isRetryable_timeout (method : Method) (span : Duration) :
    (timeout method span).isRetryable = true := rfl

theorem call_of_missed {span : Duration} (hmissed : s.missed? = some span) (request : Request) :
    s.call request = (.error (timeout request.method span),
      { s with journal := s.journal ++ [⟨request, some (timeout request.method span)⟩] }) := by
  simp [call, answer, hmissed, failure?]

/-- Whatever is called, nothing reaches the store. -/
theorem Later.store_eq {span : Duration} (hmissed : s.missed? = some span) (h : s.Later t) :
    t.store = s.store := by
  induction h with
  | same => rfl
  | called request h ih => rw [call_of_missed (h.missed?_eq.trans hmissed), ih]

/-! ### Calls that are in time -/

/-- The answers to several calls, one after the other. -/
def answers (s : Service) : List Request → List (Σ request : Request, Except ServiceError request.Response)
  | [] => []
  | request :: requests => ⟨request, (s.call request).1⟩ :: (s.call request).2.answers requests

/-- The service behind several calls. -/
def callAll (s : Service) (requests : List Request) : Service :=
  requests.foldl (fun s request => (s.call request).2) s

/-- The service without a deadline. -/
def unlimited (s : Service) : Service :=
  { s with deadline := none }

theorem missed?_unlimited (s : Service) : s.unlimited.missed? = none := by
  unfold missed? unlimited
  split <;> simp_all

/-- A call that is in time does not feel the deadline. -/
theorem call_of_inTime (hmissed : s.missed? = none) (request : Request) :
    (s.call request).1 = (s.unlimited.call request).1 ∧
      (s.call request).2.unlimited = (s.unlimited.call request).2 := by
  have hunlimited := s.missed?_unlimited
  constructor
  · simp only [call, answer, hmissed, hunlimited]
    rfl
  · simp only [call, answer, hmissed, hunlimited]
    rfl

theorem answers_of_inTime (hmissed : s.missed? = none) (requests : List Request) :
    s.answers requests = s.unlimited.answers requests ∧
      (s.callAll requests).unlimited = s.unlimited.callAll requests := by
  induction requests generalizing s with
  | nil => exact ⟨rfl, rfl⟩
  | cons request requests ih =>
      obtain ⟨hanswer, hbehind⟩ := call_of_inTime hmissed request
      obtain ⟨hanswers, hall⟩ := ih (s := (s.call request).2) hmissed
      rw [hbehind] at hanswers hall
      exact ⟨by rw [answers, answers, hanswer, hanswers], hall⟩

end Service

end Rewind
