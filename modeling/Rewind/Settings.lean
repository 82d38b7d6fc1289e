import Rewind.Retry

/-!
How a batch is run, apart from what it does.
-/

namespace Rewind

structure Settings where
  retry : RetryPolicy
  /-- The time that every call is given. -/
  deadline : Duration
  /-- Pauses between two targets of one worker are shorter than this. -/
  pacing : Duration
  /-- How many targets may wait for a worker. -/
  queueCapacity : Nat
deriving DecidableEq, Repr, Inhabited

namespace Settings

def standard : Settings :=
  ⟨.standard, .ofSeconds 5, .ofSeconds 1, 64⟩

/-- The standard settings without any pause. -/
def immediate : Settings :=
  { standard with retry := .immediate 3, pacing := .zero }

/-- Sets the length of the queue, which is one at least. -/
def withQueueCapacity (settings : Settings) (capacity : Nat) : Settings :=
  { settings with queueCapacity := max 1 capacity }

end Settings

end Rewind
