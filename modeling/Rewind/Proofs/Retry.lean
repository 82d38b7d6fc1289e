import Rewind.Retry

/-!
How often an operation is tried.

If the response to every attempt is known, so is the attempt that no other one follows: the first one
that succeeds or fails for good, and the last one that may be made if there is none. An operation is
tried with all numbers up to that one, and its response there is the result.

Main statement: `retrying_eq`.
-/

namespace Rewind

variable {ε α : Type}

/-- Whether a response settles the matter: it is a value, or a failure that does not pass. -/
def isSettled (mayPass : ε → Bool) : Except ε α → Bool
  | .ok _ => true
  | .error error => !mayPass error

/-- The first of some attempts, counted from a number on, whose response settles the matter, and the last
one of them if there is none. -/
def settledFrom (mayPass : ε → Bool) (respond : Nat → Except ε α) (attempt spare : Nat) : Nat :=
  ((List.range' attempt (spare + 1)).find? fun n => isSettled mayPass (respond n)).getD
    (attempt + spare)

section

variable {mayPass : ε → Bool} {respond : Nat → Except ε α} {attempt : Nat}

theorem settledFrom_zero : settledFrom mayPass respond attempt 0 = attempt := by
  rw [settledFrom, List.range'_one, List.find?_singleton]
  split <;> rfl

theorem settledFrom_of_settled (hsettled : isSettled mayPass (respond attempt) = true)
    (spare : Nat) : settledFrom mayPass respond attempt spare = attempt := by
  rw [settledFrom, List.range'_succ, List.find?_cons, hsettled, Option.getD_some]

theorem settledFrom_of_open (hopen : isSettled mayPass (respond attempt) = false) (spare : Nat) :
    settledFrom mayPass respond attempt (spare + 1) =
      settledFrom mayPass respond (attempt + 1) spare := by
  rw [settledFrom, List.range'_succ, List.find?_cons, hopen, settledFrom,
    show attempt + 1 + spare = attempt + (spare + 1) by omega]

theorem le_settledFrom (mayPass : ε → Bool) (respond : Nat → Except ε α) (attempt spare : Nat) :
    attempt ≤ settledFrom mayPass respond attempt spare := by
  induction spare generalizing attempt with
  | zero => exact Nat.le_of_eq settledFrom_zero.symm
  | succ spare ih =>
      cases hsettled : isSettled mayPass (respond attempt) with
      | true => exact Nat.le_of_eq (settledFrom_of_settled hsettled _).symm
      | false =>
          rw [settledFrom_of_open hsettled]
          exact Nat.le_of_succ_le (ih (attempt + 1))

end

/-- The attempt that no other one follows. -/
def RetryPolicy.lastAttempt (policy : RetryPolicy) (mayPass : ε → Bool)
    (respond : Nat → Except ε α) : Nat :=
  settledFrom mayPass respond 1 policy.spare

/-- Of all attempts that may be made it is the first that settles the matter, or the last one. -/
theorem RetryPolicy.lastAttempt_eq (policy : RetryPolicy) (mayPass : ε → Bool)
    (respond : Nat → Except ε α) :
    policy.lastAttempt mayPass respond =
      ((List.range' 1 (max 1 policy.maxAttempts)).find? fun n => isSettled mayPass (respond n)).getD
        (max 1 policy.maxAttempts) := by
  have hspare : policy.spare + 1 = max 1 policy.maxAttempts := by
    rw [spare]
    omega
  rw [lastAttempt, settledFrom, hspare, Nat.add_comm, hspare]

section

variable {m : Type → Type} [Monad m]

/-- Attempts go on behind a response that leaves the matter open. -/
theorem attemptFrom_succ (pause : m Unit) (mayPass : ε → Bool) (operation : Nat → m (Except ε α))
    (attempt spare : Nat) :
    attemptFrom pause mayPass operation attempt (spare + 1) = (do
      let response ← operation attempt
      if isSettled mayPass response then pure ⟨response, attempt⟩
      else
        pause
        attemptFrom pause mayPass operation (attempt + 1) spare) := by
  rw [attemptFrom]
  congr 1
  funext response
  cases response with
  | ok value => rfl
  | error error => cases hpasses : mayPass error <;> simp [isSettled, hpasses]

/-- Calls with all numbers from one up to another, with a pause behind each but the last. -/
def callsUpTo (pause : m Unit) (call : Nat → m Unit) (first last : Nat) : m Unit := do
  (List.range' first (last - first)).forM fun n => do
    call n
    pause
  call last

variable [LawfulMonad m]

theorem attemptFrom_eq (pause : m Unit) (mayPass : ε → Bool) (call : Nat → m Unit)
    (respond : Nat → Except ε α) (attempt spare : Nat) :
    attemptFrom pause mayPass (fun n => do call n; pure (respond n)) attempt spare = (do
      callsUpTo pause call attempt (settledFrom mayPass respond attempt spare)
      pure ⟨respond (settledFrom mayPass respond attempt spare),
        settledFrom mayPass respond attempt spare⟩) := by
  induction spare generalizing attempt with
  | zero => simp [attemptFrom, callsUpTo, settledFrom_zero]
  | succ spare ih =>
      cases hsettled : isSettled mayPass (respond attempt) with
      | true =>
          rw [settledFrom_of_settled hsettled, attemptFrom]
          cases hresponse : respond attempt with
          | ok value => simp [callsUpTo]
          | error error =>
              have hfinal : mayPass error = false := by
                simpa [isSettled, hresponse] using hsettled
              simp [callsUpTo, hfinal]
      | false =>
          rw [settledFrom_of_open hsettled, attemptFrom]
          have hafter := le_settledFrom mayPass respond (attempt + 1) spare
          have hrange : settledFrom mayPass respond (attempt + 1) spare - attempt =
              settledFrom mayPass respond (attempt + 1) spare - (attempt + 1) + 1 := by
            omega
          cases hresponse : respond attempt with
          | ok value => simp [isSettled, hresponse] at hsettled
          | error error =>
              have hpassing : mayPass error = true := by
                simpa [isSettled, hresponse] using hsettled
              simp only [bind_assoc, pure_bind, hpassing, if_true, ih, callsUpTo, hrange,
                List.range'_succ, List.forM_eq_forM, List.forM_cons]

/-- An operation whose responses are known is tried with the numbers up to the first one that settles the
matter, in order and with a pause behind each of them but the last. -/
theorem retrying_eq (policy : RetryPolicy) (pause : m Unit) (mayPass : ε → Bool)
    (call : Nat → m Unit) (respond : Nat → Except ε α) :
    retrying policy pause mayPass (fun n => do call n; pure (respond n)) = (do
      callsUpTo pause call 1 (policy.lastAttempt mayPass respond)
      pure ⟨respond (policy.lastAttempt mayPass respond), policy.lastAttempt mayPass respond⟩) :=
  attemptFrom_eq pause mayPass call respond 1 policy.spare

end

end Rewind
