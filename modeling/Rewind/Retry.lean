import Rewind.Time.Duration

/-!
Retrying.

An operation is told the number of its attempt. It is tried again while it fails, the failure may
pass, and attempts are left; between two attempts there is a random pause.
-/

namespace Rewind

/-- How often an operation may be tried, and how long the pauses in between may be. -/
structure RetryPolicy where
  maxAttempts : Nat
  /-- Pauses are shorter than this. -/
  maxJitter : Duration
deriving DecidableEq, Repr, Inhabited

namespace RetryPolicy

/-- Three attempts, up to two seconds between them. -/
def standard : RetryPolicy :=
  ⟨3, .ofSeconds 2⟩

/-- A number of attempts without pauses. -/
def immediate (maxAttempts : Nat) : RetryPolicy :=
  ⟨maxAttempts, .zero⟩

/-- How many attempts may follow the first one. -/
def spare (policy : RetryPolicy) : Nat :=
  max 1 policy.maxAttempts - 1

def toJson (policy : RetryPolicy) : Json :=
  .obj [("max_attempts", .nat policy.maxAttempts), ("max_jitter", policy.maxJitter.toJson)]

def ofJson : Json.Decoder RetryPolicy := fun json => do
  let fields ← json.fields ["max_attempts", "max_jitter"]
  let maxAttempts ← fields.required "max_attempts" (Json.asNat UInt32.size)
  let maxJitter ← fields.required "max_jitter" Duration.ofJson
  .ok ⟨maxAttempts, maxJitter⟩

end RetryPolicy

/-- The result of the last attempt, and its number. -/
structure Attempted (ε α : Type) where
  result : Except ε α
  attempts : Nat

/-- Makes the attempt of that number, and up to `spare` further ones with a pause before each. -/
def attemptFrom {m : Type → Type} [Monad m] {ε α : Type} (pause : m Unit) (mayPass : ε → Bool)
    (operation : Nat → m (Except ε α)) : (attempt spare : Nat) → m (Attempted ε α)
  | attempt, 0 => do return ⟨← operation attempt, attempt⟩
  | attempt, spare + 1 => do
      match ← operation attempt with
      | .ok value => return ⟨.ok value, attempt⟩
      | .error error =>
          if mayPass error then
            pause
            attemptFrom pause mayPass operation (attempt + 1) spare
          else return ⟨.error error, attempt⟩

/-- Tries an operation as often as a policy allows. -/
def retrying {m : Type → Type} [Monad m] {ε α : Type} (policy : RetryPolicy) (pause : m Unit)
    (mayPass : ε → Bool) (operation : Nat → m (Except ε α)) : m (Attempted ε α) :=
  attemptFrom pause mayPass operation 1 policy.spare

/-- The pause that a random number of 64 bits picks: whole milliseconds, shorter than `longest`, each
as likely as any other, and none if `longest` is under a millisecond. -/
def jitter (longest : Duration) (random : UInt64) : Duration :=
  let milliseconds := min longest.wholeMilliseconds (UInt64.size - 1)
  ⟨random.toNat * milliseconds / UInt64.size * 1000000⟩

end Rewind
