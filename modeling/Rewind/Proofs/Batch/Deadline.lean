import Rewind.Proofs.Batch.Amid
import Rewind.Proofs.Batch.Exclusions
import Rewind.Proofs.Batch.Journal
import Rewind.Proofs.Batch.TargetFile
import Rewind.Proofs.Deadline

/-!
Batches whose calls miss their deadline.

If every call takes longer than it is given, a batch of targets from a file tries each target as often
as it may and has no reset accepted. A batch of targets from a query does not even get the first page.
If every call is in time, the deadline changes nothing.

Main statement: `deadline_missed_or_unnoticed`.
-/

namespace Rewind.Batch.Chronicle

variable {plan : Plan} {service : Service} {c c' : Chronicle} {span : Duration}

/-! ### The work on a target -/

/-- Every attempt fails at its first call, which asks for the current run. -/
theorem process_amid {final home s : Service} (hmissed : home.missed? = some span)
    (hlater : home.Later s) (target : WorkflowRef) (requestId : String) :
    Program.Amid final (Program.LastAttempt
        (· = .error (.service (Service.timeout .describe span))) (1 + plan.settings.retry.spare)) s
      (plan.process .checked target requestId) := by
  refine Program.attemptFrom_amid (fun t ht _ => ?_) 1 plan.settings.retry.spare
  have hmissed' {u : Service} (hu : t.Later u) : u.missed? = some span :=
    ((hlater.trans ht).trans hu).missed?_eq.trans hmissed
  have hcheck : Program.Amid final (· = .error (.service (Service.timeout .describe span))) t
      (ExceptT.run (plan.config.safetyFilter.check plan.config.domain target)) := by
    refine Program.callBind_amid ?_ ?_
    · intro u description hu _ hanswer
      rw [Service.call_of_missed (hmissed' hu)] at hanswer
      exact absurd hanswer (by simp)
    · intro u error hu _ hanswer
      rw [Service.call_of_missed (hmissed' hu)] at hanswer
      rw [← Except.error.inj hanswer]
      rfl
  refine hcheck.exceptBind ?_ ?_
  · intro u verdict _ _ hverdict
    exact absurd hverdict (by simp)
  · intro error herror
    rw [Except.error.inj herror]

/-! ### A source that asks a query -/

/-- The source of a query, before its first page. -/
def unasked (domain query : String) (exclusions : ExclusionSet) : Source :=
  ⟨.query ⟨domain, query, .start⟩, exclusions⟩

/-- The source has asked for its first page, each time in vain. -/
structure Stalled (plan : Plan) (span : Duration) (domain query : String)
    (exclusions : ExclusionSet) (c : Chronicle) : Prop where
  source : c.state.source = unasked domain query exclusions
  items : c.items = []
  scans : ∀ call ∈ c.scans, call.exchange =
    ⟨.scan ⟨domain, query, defaultPageSize, none⟩, some (Service.timeout .scan span)⟩
  producer : match c.state.producer with
    | .pulling attempt | .pausing attempt =>
        attempt = c.scans.length + 1 ∧ attempt ≤ max 1 plan.settings.retry.maxAttempts
    | .holding _ => False
    | .ended failure => failure = some (.service (Service.timeout .scan span)) ∧
        c.scans.length = max 1 plan.settings.retry.maxAttempts

theorem stalled_of_change {domain query : String} {exclusions : ExclusionSet}
    (hmissed : c.state.service.missed? = some span) (h : Change plan c c')
    (hc : c.Stalled plan span domain query exclusions) :
    c'.Stalled plan span domain query exclusions := by
  have hpoll' : c.state.source.poll =
      (.ask ⟨domain, query, defaultPageSize, none⟩, unasked domain query exclusions) := by
    rw [hc.source]
    rfl
  have hproducer' := hc.producer
  cases h with
  | closed attempt source hproducer hpoll | excluded attempt source target hproducer hpoll
  | offered attempt source target hproducer hpoll | failed attempt source error hproducer hpoll =>
      rw [hpoll'] at hpoll
      exact absurd (Prod.mk.inj hpoll).1 (by simp)
  | paged attempt source request page hproducer hpoll hanswer =>
      rw [Service.call_of_missed hmissed] at hanswer
      exact absurd hanswer (by simp)
  | pageFailed attempt source request error hproducer hpoll hanswer =>
      rw [hpoll'] at hpoll
      obtain ⟨hrequest, rfl⟩ := Prod.mk.inj hpoll
      obtain rfl := Poll.ask.inj hrequest
      rw [Service.call_of_missed hmissed] at hanswer
      obtain rfl := Except.error.inj hanswer
      rw [hproducer] at hproducer'
      obtain ⟨hattempt, hle⟩ := hproducer'
      refine ⟨by simp, ?_, ?_, ?_⟩
      · simpa [items, List.filterMap_cons] using hc.items
      · intro call hcall
        rcases List.mem_append.mp hcall with hold | hnew
        · exact hc.scans call hold
        · obtain rfl := List.mem_singleton.mp hnew
          simp [Call.exchange, ask, Service.call_of_missed hmissed, Service.failure?,
            Request.method]
      · -- There is another try unless this was the last one.
        by_cases hmore : attempt < max 1 plan.settings.retry.maxAttempts
        · have hretry : ((ResetError.service (Service.timeout .scan span)).isRetryable &&
              decide (attempt < max 1 plan.settings.retry.maxAttempts)) = true := by
            rw [decide_eq_true hmore, Bool.and_true]
            rfl
          simp only [State.sourceFailed, Request.method, hretry, ↓reduceIte, List.length_append,
            List.length_singleton]
          exact ⟨by omega, by omega⟩
        · have hlast : ((ResetError.service (Service.timeout .scan span)).isRetryable &&
              decide (attempt < max 1 plan.settings.retry.maxAttempts)) = false := by
            rw [decide_eq_false hmore, Bool.and_false]
          simp only [State.sourceFailed, Request.method, hlast, Bool.false_eq_true, ↓reduceIte,
            List.length_append, List.length_singleton]
          exact ⟨trivial, by omega⟩
  | resumed attempt hproducer =>
      rw [hproducer] at hproducer'
      exact ⟨hc.source, hc.items, hc.scans, hproducer'⟩
  | queued target hproducer hroom =>
      rw [hproducer] at hproducer'
      exact hproducer'.elim
  | taken | left | finished | called | rested | readied =>
      exact ⟨hc.source, hc.items, hc.scans, hproducer'⟩

/-! ### Batches -/

section

variable {metrics : Metrics} {started : Nat} {schedule : List Actor}

/-- A batch of the targets of a file tries each of them as often as it may, and does nothing else. -/
theorem file_of_missed {path separator : String} {content : List UInt8} {exclusions : ExclusionSet}
    (hmissed : service.missed? = some span) (hparallelism : 1 ≤ plan.config.parallelism)
    (hgood : ∀ raw ∈ Text.rawLines content, (TargetLine.held? separator raw).isSome)
    (hrun : (start plan service metrics ⟨.file (.start path separator (.bytes content)), exclusions⟩
      started).follow? plan schedule = some c) (hfinal : c.state.isFinal) :
    c.state.result = .ok c.state.outcomes ∧ c.state.service.store = service.store ∧
    c.items = ((Text.rawLines content).filterMap (TargetLine.ref? separator)).map
      (Source.mark exclusions) ∧
    c.state.excluded = c.exclusions.map (fun ref => .of ref .excluded 0 plan.stamp) ∧
    (c.state.processed.map Outcome.ref).Perm c.targets ∧
    ∀ outcome ∈ c.state.processed,
      outcome.status = .failed (ResetError.service (Service.timeout .describe span)).text ∧
        outcome.attempts = max 1 plan.settings.retry.maxAttempts := by
  have hc := accounted_of_follow? hrun
  have hclear := hc.cleared (by rw [size_workers hrun]; exact hparallelism) hfinal
  obtain ⟨hresult, hitems⟩ := of_good_lines hgood hrun hfinal
  refine ⟨hresult, (later_of_follow? hrun).store_eq hmissed, hitems, hc.exclusions,
    hc.processed_perm hfinal hclear, ?_⟩
  intro outcome houtcome
  obtain ⟨entry, hentry, rfl, -⟩ := hc.exists_finished hfinal houtcome
  obtain ⟨attempted, houtcome, hattempted⟩ := ends_of_follow? hrun
    (fun _ requestId hlater _ => process_amid hmissed hlater entry.1.target requestId) hentry rfl
  have hspare : 1 + plan.settings.retry.spare = max 1 plan.settings.retry.maxAttempts := by
    rw [RetryPolicy.spare]
    omega
  rw [houtcome]
  refine ⟨by simp [Plan.outcome, Outcome.of, hattempted.result], ?_⟩
  rcases hattempted.stops with hall | hpermanent
  · exact hall.trans hspare
  · exact absurd (hpermanent _ hattempted.result) (by simp [ResetError.isRetryable])

/-- A batch of the targets of a query asks for the first page as often as it may, and does nothing
else. -/
theorem query_of_missed {domain query : String} {exclusions : ExclusionSet}
    (hmissed : service.missed? = some span)
    (hrun : (start plan service metrics (unasked domain query exclusions) started).follow? plan
      schedule = some c) (hfinal : c.state.isFinal) :
    c.state.result = .error (.service (Service.timeout .scan span)) ∧
    c.state.service.store = service.store ∧
    c.state.service.journal = service.journal ++ List.replicate
      (max 1 plan.settings.retry.maxAttempts)
      ⟨.scan ⟨domain, query, defaultPageSize, none⟩, some (Service.timeout .scan span)⟩ := by
  have hc := accounted_of_follow? hrun
  obtain ⟨⟨failure, hended⟩, -⟩ := ended_of_isFinal hfinal
  obtain ⟨hlater, hstalled⟩ := of_follow?
    (fun c => service.Later c.state.service ∧ c.Stalled plan span domain query exclusions)
    (fun _ _ h hc => ⟨hc.1.trans (later_of_change h),
      stalled_of_change (hc.1.missed?_eq.trans hmissed) h hc.2⟩) hrun
    ⟨.same, rfl, rfl, by simp [start], rfl, Nat.le_max_left _ _⟩
  have hproducer := hstalled.producer
  rw [hended] at hproducer
  obtain ⟨rfl, hlength⟩ := hproducer
  refine ⟨by rw [State.result, hended], hlater.store_eq hmissed, ?_⟩
  obtain ⟨made, hmade⟩ := recorded_of_follow? hrun
  -- No target was given out, so only the producer has called.
  have hvisits : c.visits = [] := by
    refine List.eq_nil_iff_forall_not_mem.mpr fun visit hvisit => ?_
    have htarget := hc.target_mem hvisit
    simp [targets, hstalled.items] at htarget
  have hperm := hmade.perm
  rw [hvisits, List.flatMap_nil, List.append_nil] at hperm
  rw [hmade.journal]
  refine congrArg _ (List.eq_replicate_iff.mpr ⟨?_, ?_⟩)
  · rw [hperm.length_eq, List.length_map, hlength]
  · intro exchange hexchange
    obtain ⟨call, hcall, rfl⟩ := List.mem_map.mp (hperm.mem_iff.mp hexchange)
    exact hstalled.scans call hcall

end

/-- Where timers are punctual: if all calls take longer than they are given, then each fails in a way
that may pass and leaves the store as it is. So a batch of the targets of a file without bad lines tries
each target as often as it may and has no reset accepted, and a batch of the targets of a query ends with
that failure of its first page, asked for as often. If all calls take less than they are given, all
calls are answered as if there were no deadline. -/
theorem deadline_missed_or_unnoticed :
    (∀ (service : Service) (latency deadline : Nat), service.Punctual →
      service.latency = some (.ofMilliseconds latency) →
      service.deadline = some (.ofMilliseconds deadline) →
      deadline < latency →
      (∀ request : Request, ∃ error, (service.call request).1 = .error error ∧
        error.kind = .deadlineExceeded ∧ error.isRetryable ∧
        (service.call request).2.store = service.store) ∧
      (∀ (plan : Plan) (metrics : Metrics) (path separator : String) (content : List UInt8)
        (exclusions : ExclusionSet) (started : Nat) (schedule : List Actor) (c : Chronicle),
        1 ≤ plan.config.parallelism →
        (∀ raw ∈ Text.rawLines content, (TargetLine.held? separator raw).isSome) →
        (start plan service metrics ⟨.file (.start path separator (.bytes content)), exclusions⟩
          started).follow? plan schedule = some c → c.state.isFinal →
        c.state.result = .ok c.state.outcomes ∧ c.state.service.store = service.store ∧
        c.items = ((Text.rawLines content).filterMap (TargetLine.ref? separator)).map
          (Source.mark exclusions) ∧
        c.state.excluded = c.exclusions.map (fun ref => .of ref .excluded 0 plan.stamp) ∧
        (c.state.processed.map Outcome.ref).Perm c.targets ∧
        ∀ outcome ∈ c.state.processed,
          outcome.status = .failed
            (ResetError.service (Service.timeout .describe (.ofMilliseconds deadline))).text ∧
            outcome.attempts = max 1 plan.settings.retry.maxAttempts) ∧
      ∀ (plan : Plan) (metrics : Metrics) (domain query : String) (exclusions : ExclusionSet)
        (started : Nat) (schedule : List Actor) (c : Chronicle),
        (start plan service metrics ⟨.query ⟨domain, query, .start⟩, exclusions⟩ started).follow?
          plan schedule = some c → c.state.isFinal →
        c.state.result =
          .error (.service (Service.timeout .scan (.ofMilliseconds deadline))) ∧
        c.state.service.store = service.store ∧
        c.state.service.journal = service.journal ++ List.replicate
          (max 1 plan.settings.retry.maxAttempts)
          ⟨.scan ⟨domain, query, defaultPageSize, none⟩,
            some (Service.timeout .scan (.ofMilliseconds deadline))⟩) ∧
    ∀ (service : Service) (deadline : Nat), service.Punctual →
      service.deadline = some (.ofMilliseconds deadline) →
      (∀ span, service.latency = some span →
        ∃ latency, span = .ofMilliseconds latency ∧ latency < deadline) →
      ∀ requests : List Request,
        service.answers requests = service.unlimited.answers requests ∧
          (service.callAll requests).unlimited = service.unlimited.callAll requests := by
  refine ⟨fun service latency deadline hpunctual hlatency hdeadline hslow => ?_, ?_⟩
  · have hmissed := Service.missed?_of_slow hpunctual hlatency hdeadline hslow
    refine ⟨fun request => ?_, ?_, ?_⟩
    · rw [Service.call_of_missed hmissed]
      exact ⟨_, rfl, rfl, rfl, rfl⟩
    · intro plan metrics path separator content exclusions started schedule c hparallelism hgood hrun
      exact file_of_missed hmissed hparallelism hgood hrun
    · intro plan metrics domain query exclusions started schedule c hrun
      exact query_of_missed hmissed hrun
  · intro service deadline hpunctual hdeadline hfast requests
    exact Service.answers_of_inTime (Service.missed?_of_fast hpunctual hdeadline hfast) requests

/-- A service whose calls take ten milliseconds and are given as many as said. -/
def timedService (deadline : Nat) : Service :=
  { sampleService with
    latency := some (.ofMilliseconds 10), deadline := some (.ofMilliseconds deadline) }

/-- A line with one workflow, and one with a workflow that is excluded. -/
def sampleLines : List UInt8 :=
  "pay".toUTF8.toList ++ 0x0A :: ("audit".toUTF8.toList ++ [0x0A])

theorem deadline_missed_or_unnoticed_sample :
    (∃ c, (start samplePlan (timedService 5) .zero
        ⟨.file (.start "targets" "\t" (.bytes sampleLines)), .ofList ["audit"]⟩ 0).follow? samplePlan
        (List.replicate 4 .producer ++ List.replicate 9 (.worker 1) ++ [.worker 0]) = some c ∧
      c.state.isFinal ∧ c.items = [.target ⟨"pay", none⟩, .excluded ⟨"audit", none⟩] ∧
      c.state.service.store = (timedService 5).store ∧
      ∀ outcome ∈ c.state.processed, outcome.attempts = 3) ∧
    (∃ c, (start samplePlan (timedService 5) .zero (unasked "default" "all" .empty) 0).follow?
        samplePlan (List.replicate 5 .producer ++ [.worker 0, .worker 1]) = some c ∧
      c.state.result = .error (.service (Service.timeout .scan (.ofMilliseconds 5)))) ∧
    (timedService 20).answers [.describe ⟨"default", "pay", none⟩] =
      (timedService 20).unlimited.answers [.describe ⟨"default", "pay", none⟩] := by
  obtain ⟨-, hfile, hquery⟩ :=
    deadline_missed_or_unnoticed.1 (timedService 5) 10 5 (fun _ _ => rfl) rfl rfl (by decide)
  refine ⟨?_, ?_, ?_⟩
  · have hends : ((start samplePlan (timedService 5) .zero
        ⟨.file (.start "targets" "\t" (.bytes sampleLines)), .ofList ["audit"]⟩ 0).follow? samplePlan
        (List.replicate 4 .producer ++ List.replicate 9 (.worker 1) ++ [.worker 0])).map
          (fun c => c.state.isFinal) = some true := by
      decide +kernel
    obtain ⟨c, hrun, hfinal⟩ := Option.map_eq_some_iff.mp hends
    obtain ⟨-, hstore, hitems, -, -, houtcomes⟩ := hfile samplePlan .zero "targets" "\t" sampleLines
      (.ofList ["audit"]) 0 _ c (by decide) (by decide +kernel) hrun hfinal
    refine ⟨c, hrun, hfinal, hitems.trans (by decide +kernel), hstore, ?_⟩
    intro outcome houtcome
    exact (houtcomes outcome houtcome).2
  · have hends : ((start samplePlan (timedService 5) .zero (unasked "default" "all" .empty) 0).follow?
        samplePlan (List.replicate 5 .producer ++ [.worker 0, .worker 1])).map
          (fun c => c.state.isFinal) = some true := by
      decide +kernel
    obtain ⟨c, hrun, hfinal⟩ := Option.map_eq_some_iff.mp hends
    exact ⟨c, hrun, (hquery samplePlan .zero "default" "all" .empty 0 _ c hrun hfinal).1⟩
  · refine (deadline_missed_or_unnoticed.2 (timedService 20) 20 (fun _ _ => rfl) rfl ?_ _).1
    intro span hspan
    exact ⟨10, (Option.some.inj hspan).symm, by decide⟩

end Rewind.Batch.Chronicle
