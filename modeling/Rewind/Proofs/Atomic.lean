import Rewind.Proofs.Charges
import Rewind.Proofs.Lineage

/-!
Calls that fail do nothing else.

A call is counted and takes its scripted failure before anything that it asks for is looked at. Only an
accepted reset changes what the store holds. The places that a call reads from and the numbers that it
makes are never out of range, which is told by a second version of it that checks them all.

Main statement: `call_atomic`.
-/

namespace Rewind

/-! ### Checked operations -/

/-- A number moved into a range, which must not be empty. -/
def clamp? (n low high : Nat) : Option Nat :=
  if low ≤ high then some (max low (min n high)) else none

/-- The items between two places of a list, which must be in order and within it. -/
def slice? {α : Type} (items : List α) (start stop : Nat) : Option (List α) :=
  if start ≤ stop ∧ stop ≤ items.length then some ((items.drop start).take (stop - start))
  else none

/-- The number behind this one, which must fit into a signed word. -/
def nextInt64? (n : Int) : Option Int :=
  if Int64.minValue.toInt ≤ n + 1 ∧ n + 1 ≤ Int64.maxValue.toInt then some (n + 1) else none

theorem clamp?_eq {n cap : Nat} (hcap : 1 ≤ cap) : clamp? n 1 cap = some (Paging.limit cap n) :=
  if_pos hcap

theorem nextInt64?_eq {n : Int} (hlow : Int64.minValue.toInt ≤ n)
    (hhigh : n + 1 ≤ Int64.maxValue.toInt) : nextInt64? n = some (n + 1) :=
  if_pos ⟨by omega, hhigh⟩

namespace Paging

/-- A page that is cut out with its bounds checked. -/
def page? {α : Type} (items : List α) (offset limit : Nat) : Option (Page α) :=
  let start := min offset items.length
  let stop := min (start + limit) items.length
  (slice? items start stop).map fun part =>
    ⟨part, if stop < items.length then some (tokenOf stop) else none⟩

theorem page?_eq {α : Type} (items : List α) (offset limit : Nat) :
    page? items offset limit = some (page items offset limit) := by
  have hpart : (items.drop (min offset items.length)).take
      (min (min offset items.length + limit) items.length - min offset items.length) =
        (items.drop (min offset items.length)).take limit := by
    rw [List.take_eq_take_iff, List.length_drop]
    omega
  have hbounds : min offset items.length ≤ min (min offset items.length + limit) items.length ∧
      min (min offset items.length + limit) items.length ≤ items.length := by
    omega
  simp only [page?, slice?, if_pos hbounds, Option.map_some, hpart, page]

end Paging

namespace Store

/-! ### Calls with checked bounds -/

/-- Counts a call, as long as there is a number for it. -/
def count? (s : Store) (method : Method) : Option Store :=
  if s.calls.of method + 1 < UInt64.size then some (s.count method) else none

def historyPage? (s : Store) (r : HistoryRequest) : Option (Except ServiceError (Page Event)) :=
  match Paging.offsetOf? r.token with
  | .error error => some (.error error)
  | .ok offset =>
      match s.resolve r.workflowId (some r.runId) with
      | .error error => some (.error error)
      | .ok run => do
          let limit ← clamp? r.pageSize 1 s.pageCap
          let page ← Paging.page? run.history offset limit
          some (.ok page)

def scanPage? (s : Store) (r : ScanRequest) : Option (Except ServiceError (Page WorkflowRef)) :=
  match Paging.offsetOf? r.token with
  | .error error => some (.error error)
  | .ok offset => do
      let limit ← clamp? r.pageSize 1 s.pageCap
      let page ← Paging.page? (s.visibility r.query) offset limit
      some (.ok page)

/-- The events that a reset keeps are cut out at the place of the one that it goes back to. -/
def reset? (s : Store) (r : ResetRequest) :
    Option (Except ServiceError ResetResponse × Store) :=
  match s.resolve r.workflowId (some r.runId) with
  | .error error => some (.error error, s)
  | .ok base =>
      match base.history.findIdx? fun event => event.eventId = r.eventId with
      | none =>
          let event := Decimal.signedText r.eventId
          some (.error ⟨.invalidArgument,
            s!"event {event} does not exist in {r.workflowId}/{r.runId}"⟩, s)
      | some position => do
          let kept ← slice? base.history 0 (position + 1)
          let failedId ← nextInt64? r.eventId
          let scheduledId ← nextInt64? failedId
          let run : Run := ⟨r.workflowId, s.nextRunId r.workflowId, true, [],
            kept ++ [.taskFailed failedId .resetWorkflow (some r.reason), .taskScheduled scheduledId]⟩
          some (.ok ⟨run.runId⟩, { s.insertRun run with resets := s.resets ++ [r] })

def serve? (s : Store) : (q : Request) → Option (Except ServiceError q.Response × Store)
  | .describe r => some (s.describe r, s)
  | .history r => (s.historyPage? r).map fun answer => (answer, s)
  | .scan r => (s.scanPage? r).map fun answer => (answer, s)
  | .reset r => s.reset? r

/-- Answers a call with all bounds checked: there is no answer if a number does not fit into its word or
a place lies outside of its list. -/
def call? (s : Store) (q : Request) : Option (Except ServiceError q.Response × Store) := do
  let counted ← s.count? q.method
  match s.failures q.method q.subject with
  | error :: later => some (.error error, counted.setFailures q.method q.subject later)
  | [] => counted.serve? q

end Store

/-- The events that a reset puts in have ids that fit into a signed word. -/
def Request.HasRoom : Request → Prop
  | .reset r => Int64.minValue.toInt ≤ r.eventId ∧ r.eventId + 2 ≤ Int64.maxValue.toInt
  | _ => True

namespace Store

variable {s : Store}

theorem historyThrough?_eq_findIdx? (eventId : Int) (events : List Event) :
    historyThrough? eventId events =
      (events.findIdx? fun event => event.eventId = eventId).map fun position =>
        events.take (position + 1) := by
  induction events with
  | nil => rfl
  | cons event events ih =>
      rw [historyThrough?, List.findIdx?_cons]
      by_cases hhere : event.eventId = eventId
      · simp [hhere]
      · simp only [hhere, if_false, decide_false, Bool.false_eq_true, ih, Option.map_map]
        rfl

theorem historyPage?_eq (hcap : 1 ≤ s.pageCap) (r : HistoryRequest) :
    s.historyPage? r = some (s.historyPage r) := by
  rw [historyPage?, historyPage]
  cases Paging.offsetOf? r.token with
  | error error => rfl
  | ok offset =>
      simp only [Except.bind]
      cases s.resolve r.workflowId (some r.runId) with
      | error error => rfl
      | ok run => simp [clamp?_eq hcap, Paging.page?_eq, Except.map]

theorem scanPage?_eq (hcap : 1 ≤ s.pageCap) (r : ScanRequest) :
    s.scanPage? r = some (s.scanPage r) := by
  rw [scanPage?, scanPage]
  cases Paging.offsetOf? r.token with
  | error error => rfl
  | ok offset => simp [clamp?_eq hcap, Paging.page?_eq, Except.map]

theorem reset?_eq {r : ResetRequest} (hroom : (Request.reset r).HasRoom) :
    s.reset? r = some (s.reset r) := by
  rw [reset?, reset]
  cases s.resolve r.workflowId (some r.runId) with
  | error error => rfl
  | ok base =>
      simp only [historyThrough?_eq_findIdx?]
      cases hposition : base.history.findIdx? fun event => event.eventId = r.eventId with
      | none => rfl
      | some position =>
          have hwithin : position + 1 ≤ base.history.length := by
            have hless := (List.findIdx?_eq_some_iff_findIdx_eq.mp hposition).1
            omega
          have hfailed : nextInt64? r.eventId = some (r.eventId + 1) :=
            nextInt64?_eq hroom.1 (by have hhigh := hroom.2; omega)
          have hscheduled : nextInt64? (r.eventId + 1) = some (r.eventId + 2) := by
            have hnext := nextInt64?_eq (n := r.eventId + 1) (by have hlow := hroom.1; omega)
              (by have hhigh := hroom.2; omega)
            rwa [Int.add_assoc] at hnext
          have hevents := resetEvents_of_room (r := r) hroom.2
          simp [slice?, hwithin, hfailed, hscheduled, resetRun, hevents]

theorem serve?_eq (hcap : 1 ≤ s.pageCap) {q : Request} (hroom : q.HasRoom) :
    s.serve? q = some (s.serve q) := by
  cases q with
  | describe r => rfl
  | history r => exact congrArg (Option.map _) (historyPage?_eq hcap r)
  | scan r => exact congrArg (Option.map _) (scanPage?_eq hcap r)
  | reset r => exact reset?_eq hroom

/-- No bound is ever missed. -/
theorem call?_eq (hcap : 1 ≤ s.pageCap) {q : Request} (hroom : q.HasRoom)
    (hcount : s.calls.of q.method + 1 < UInt64.size) : s.call? q = some (s.call q) := by
  rw [call?, count?, if_pos hcount, call]
  cases s.failures q.method q.subject with
  | cons error later => rfl
  | nil =>
      have hcap : 1 ≤ (s.count q.method).pageCap := hcap
      exact serve?_eq hcap hroom

/-! ### Effects of calls -/

/-- Two stores hold the same: runs, current runs, answers to queries, and accepted resets. -/
structure SameHoldings (s t : Store) : Prop where
  runs : t.runs = s.runs
  current : t.current = s.current
  visibility : t.visibility = s.visibility
  resets : t.resets = s.resets

theorem Step.sameHoldings {s' : Store} (h : Step s s' none) : s.SameHoldings s' := by
  cases h with
  | kept failures calls => exact ⟨rfl, rfl, rfl, rfl⟩

/-- What a call does to a store, whether it fails or not. -/
structure Atomic (s : Store) (q : Request) : Prop where
  counted : ∀ method,
    (s.call q).2.calls.of method = s.calls.of method + if q.method = method then 1 else 0
  scripted : ∀ error later, s.failures q.method q.subject = error :: later →
    (s.call q).1 = .error error ∧ ∀ method subject, (s.call q).2.failures method subject =
      if q.method = method ∧ q.subject = subject then later else s.failures method subject
  unscripted : s.failures q.method q.subject = [] → (s.call q).2.failures = s.failures
  failed : ∀ error, (s.call q).1 = .error error → s.SameHoldings (s.call q).2
  looked : q.method ≠ .reset → ∀ response, (s.call q).1 = .ok response →
    s.SameHoldings (s.call q).2 ∧ (s.call q).2.failures = s.failures
  /-- As pages may hold an entry and calls can be counted, nothing is out of range. -/
  inRange : 1 ≤ s.pageCap → s.calls.of q.method + 1 < UInt64.size → q.HasRoom →
    s.call? q = some (s.call q)

theorem call_of_scripted {q : Request} {error : ServiceError} {later : List ServiceError}
    (hfailures : s.failures q.method q.subject = error :: later) :
    s.call q = (.error error, (s.count q.method).setFailures q.method q.subject later) := by
  rw [call, hfailures]

/-- A call that takes no failure leaves all of them. -/
theorem failures_of_unscripted {q : Request} (hnone : s.failures q.method q.subject = []) :
    (s.call q).2.failures = s.failures := by
  funext method subject
  rw [failures_call]
  split
  · next hhere =>
      obtain ⟨rfl, rfl⟩ := Prod.mk.inj hhere
      rw [hnone, List.tail_nil]
  · rfl

theorem unscripted_of_ok {q : Request} {response : q.Response} (hok : (s.call q).1 = .ok response) :
    s.failures q.method q.subject = [] := by
  cases hfailures : s.failures q.method q.subject with
  | nil => rfl
  | cons error later =>
      rw [call_of_scripted hfailures] at hok
      exact absurd hok (by simp)

/-- Whatever is asked of a store in whatever state, a call that fails does no more than to be counted
and to use up the failure that is scripted for it. -/
theorem call_atomic (s : Store) (q : Request) : s.Atomic q := by
  have hstep := s.call_step q
  refine ⟨fun method => ?_, fun error later hfailures => ?_, failures_of_unscripted,
    fun error herror => ?_, fun hlook response hok => ?_, fun hcap hcount hroom => ?_⟩
  · rw [calls_call, CallCounts.of_increment]
  · rw [call_of_scripted hfailures]
    refine ⟨rfl, fun method subject => ?_⟩
    simp only [setFailures, count, eq_comm]
  · rw [herror, Request.accepted?_error] at hstep
    exact hstep.sameHoldings
  · rw [Request.accepted?_look hlook] at hstep
    exact ⟨hstep.sameHoldings, failures_of_unscripted (unscripted_of_ok hok)⟩
  · exact call?_eq hcap hroom hcount

/-- A request for a page with a token that no page has borne. -/
def forgedRequest : Request :=
  .history ⟨"default", "pay", "base", 5, some [0xff]⟩

theorem call_atomic_forged :
    ((sampleFixture.store sampleNaming).call forgedRequest).1 =
      .error ⟨.invalidArgument, "invalid next page token"⟩ ∧
    (sampleFixture.store sampleNaming).SameHoldings
      ((sampleFixture.store sampleNaming).call forgedRequest).2 ∧
    (sampleFixture.store sampleNaming).call? forgedRequest =
      some ((sampleFixture.store sampleNaming).call forgedRequest) := by
  have hatomic := call_atomic (sampleFixture.store sampleNaming) forgedRequest
  have hanswer : ((sampleFixture.store sampleNaming).call forgedRequest).1 =
      .error ⟨.invalidArgument, "invalid next page token"⟩ := rfl
  exact ⟨hanswer, hatomic.failed _ hanswer, hatomic.inRange (by decide) (by decide) trivial⟩

end Store

end Rewind
