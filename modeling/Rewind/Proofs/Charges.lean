import Rewind.Proofs.Service

/-!
What calls use up.

A call that reaches a store is counted, and takes the first of the failures that are scripted for it.
So what a store has counted and what failures it has left depend on which calls were made, but not on
their order.

Main statements: `Charged.call` for one call, and `Charged.calls_eq` and `Charged.failures_eq` for
calls in any two orders.
-/

namespace Rewind

/-- What a call is counted as: its method and what it is about. -/
def Request.charge (request : Request) : Method × String :=
  (request.method, request.subject)

namespace CallCounts

theorem ext_of {counts counts' : CallCounts} (h : ∀ method, counts.of method = counts'.of method) :
    counts = counts' := by
  obtain ⟨describe, getHistory, scan, reset⟩ := counts
  obtain ⟨describe', getHistory', scan', reset'⟩ := counts'
  obtain rfl : describe = describe' := h .describe
  obtain rfl : getHistory = getHistory' := h .getHistory
  obtain rfl : scan = scan' := h .scan
  obtain rfl : reset = reset' := h .reset
  rfl

theorem of_increment (counts : CallCounts) (method method' : Method) :
    (counts.increment method').of method =
      counts.of method + if method' = method then 1 else 0 := by
  cases method <;> cases method' <;> rfl

end CallCounts

namespace Store

theorem calls_call (s : Store) (request : Request) :
    (s.call request).2.calls = s.calls.increment request.method := by
  rw [call]
  cases s.failures request.method request.subject with
  | cons error later => rfl
  | nil =>
      cases request with
      | describe request | history request | scan request => rfl
      | reset request =>
          simp only [serve, reset_eq]
          cases (s.count (Request.reset request).method).keptEvents request <;> rfl

theorem failures_call (s : Store) (request : Request) (method : Method) (subject : String) :
    (s.call request).2.failures method subject =
      if request.charge = (method, subject) then (s.failures method subject).tail
      else s.failures method subject := by
  rw [call]
  cases hfailures : s.failures request.method request.subject with
  | cons error later =>
      simp only [setFailures, Request.charge, Prod.mk.injEq]
      by_cases hhere : request.method = method ∧ request.subject = subject
      · obtain ⟨rfl, rfl⟩ := hhere
        simp [hfailures]
      · rw [if_neg fun heq => hhere ⟨heq.1.symm, heq.2.symm⟩, if_neg hhere]
        rfl
  | nil =>
      have hkept : ((s.count request.method).serve request).2.failures = s.failures := by
        cases request with
        | describe request | history request | scan request => rfl
        | reset request =>
            simp only [serve, reset_eq]
            cases (s.count (Request.reset request).method).keptEvents request <;> rfl
      rw [hkept]
      split
      · rename_i hhere
        obtain ⟨rfl, rfl⟩ := Prod.mk.inj hhere
        rw [hfailures]
        rfl
      · rfl

/-- Between two stores, calls were counted and have taken their failures. -/
structure Charged (before : Store) (charges : List (Method × String)) (after : Store) : Prop where
  calls : ∀ method, after.calls.of method =
    before.calls.of method + charges.countP fun charge => charge.1 = method
  failures : ∀ method subject, after.failures method subject =
    (before.failures method subject).drop (charges.count (method, subject))

namespace Charged

variable {before after before' after' : Store} {charges charges' : List (Method × String)}

theorem refl (s : Store) : Charged s [] s :=
  ⟨fun _ => rfl, fun _ _ => rfl⟩

theorem call (h : Charged before charges after) (request : Request) :
    Charged before (charges ++ [request.charge]) (after.call request).2 := by
  constructor
  · intro method
    rw [calls_call, CallCounts.of_increment, h.calls, List.countP_append, List.countP_singleton,
      Nat.add_assoc]
    by_cases hmethod : request.method = method <;> simp [Request.charge, hmethod]
  · intro method subject
    rw [failures_call, h.failures, List.count_append, List.count_singleton]
    by_cases hhere : request.charge = (method, subject)
    · simp [hhere]
    · simp [hhere]

theorem perm (h : Charged before charges after) (hperm : charges.Perm charges') :
    Charged before charges' after := by
  refine ⟨fun method => ?_, fun method subject => ?_⟩
  · rw [h.calls, hperm.countP_eq]
  · rw [h.failures, hperm.count_eq]

theorem calls_eq (h : Charged before charges after) (h' : Charged before' charges' after')
    (hperm : charges.Perm charges') (hbefore : before.calls = before'.calls) :
    after.calls = after'.calls := by
  apply CallCounts.ext_of
  intro method
  rw [h.calls, h'.calls, hperm.countP_eq, hbefore]

theorem failures_eq (h : Charged before charges after) (h' : Charged before' charges' after')
    (hperm : charges.Perm charges') (hbefore : before.failures = before'.failures) :
    after.failures = after'.failures := by
  funext method subject
  rw [h.failures, h'.failures, hperm.count_eq, hbefore]

end Charged

end Store

namespace Service

/-- Between two services, calls were counted and have taken their failures, unless all of them missed
their deadlines. -/
structure Charged (before : Service) (charges : List (Method × String)) (after : Service) :
    Prop where
  missed : after.missed? = before.missed?
  store : before.store.Charged (if before.missed?.isSome then [] else charges) after.store

namespace Charged

variable {before after : Service} {charges charges' : List (Method × String)}

theorem refl (s : Service) : Charged s [] s :=
  ⟨rfl, by rw [ite_self]; exact .refl _⟩

theorem call (h : Charged before charges after) (request : Request) :
    Charged before (charges ++ [request.charge]) (after.call request).2 := by
  refine ⟨h.missed, ?_⟩
  have hstore := h.store
  simp only [Service.call, answer, h.missed]
  cases hmissed : before.missed? with
  | none =>
      rw [hmissed] at hstore
      exact Store.Charged.call hstore request
  | some deadline =>
      rw [hmissed] at hstore
      exact hstore

theorem perm (h : Charged before charges after) (hperm : charges.Perm charges') :
    Charged before charges' after := by
  refine ⟨h.missed, h.store.perm ?_⟩
  split
  · exact .refl _
  · exact hperm

end Charged

end Service

end Rewind
