import Rewind.Proofs.Batch.NextItem
import Rewind.Proofs.Reading

/-!
How many failures a query survives.

A service answers the scans for one page after the other, and fails some of them before it delivers
the page. The producer counts its attempts from one item to the next. So a page has all attempts to
itself only if the page before it had an entry; pages without entries share the attempts with the page
behind them.

Main statement: when the answers to a query are read to their end (`read_to_end_iff`).
-/

namespace Rewind

/-! ### Pages that arrive behind failures -/

/-- A page of answers, and the failures of the scans for it before it arrives. -/
structure Fetch where
  failures : List ServiceError
  page : Page WorkflowRef

namespace Fetch

/-- Each page but the last one names another one. -/
def Chained : List Fetch → Prop
  | [] => False
  | [fetch] => hasMore fetch.page.token = false
  | fetch :: later :: rest => hasMore fetch.page.token = true ∧ Chained (later :: rest)

/-- The failures in front of an entry, or in front of the end, are fewer than the attempts, those aside
that were spent before. -/
def Afforded (most : Nat) : (spent : Nat) → List Fetch → Prop
  | _, [] => True
  | spent, fetch :: rest =>
      spent + fetch.failures.length < most ∧
        Afforded most (if fetch.page.items = [] then spent + fetch.failures.length else 0) rest

/-- What all pages hold. -/
def found (fetches : List Fetch) : List WorkflowRef :=
  fetches.flatMap fun fetch => fetch.page.items

/-- With an entry on each page but the last one, each page has all attempts to itself. -/
theorem Afforded.of_entries {most : Nat} {fetches : List Fetch}
    (hentries : ∀ fetch ∈ fetches.dropLast, fetch.page.items ≠ [])
    (hfew : ∀ fetch ∈ fetches, fetch.failures.length < most) : Afforded most 0 fetches := by
  induction fetches with
  | nil => trivial
  | cons fetch rest ih =>
      refine ⟨by simpa using hfew fetch List.mem_cons_self, ?_⟩
      have hrest : ∀ fetch ∈ rest, fetch.failures.length < most := fun fetch hfetch =>
        hfew fetch (List.mem_cons_of_mem _ hfetch)
      cases rest with
      | nil => trivial
      | cons later rest =>
          rw [if_neg (hentries fetch (by simp))]
          exact ih (fun fetch hfetch => hentries fetch (by simp [hfetch])) hrest

end Fetch

/-- The page that a service awaits a scan for, and all that is still to come. -/
structure PageChain where
  next : Option Token
  fetches : List Fetch

/-- A service that answers the scans for such pages, and no others. -/
def Answering.chained (service : Service) : Answering PageChain where
  scan chain request :=
    if request.token = chain.next then
      match chain.fetches with
      | [] => (.ok ⟨[], none⟩, chain)
      | ⟨[], page⟩ :: rest => (.ok page, ⟨page.token, rest⟩)
      | ⟨error :: failures, page⟩ :: rest => (.error error, ⟨chain.next, ⟨failures, page⟩ :: rest⟩)
    else (.error ⟨.invalidArgument, "invalid next page token"⟩, chain)
  service _ := service

namespace Batch

namespace Pull

variable {Env : Type} {plan : Plan} {answering : Answering Env} {p q r : Pull Env}

/-- The items that the source has given out. -/
def items (p : Pull Env) : List SourceItem :=
  p.heard.filterMap itemOf

/-- The producer comes to a state, and on its way it is given these items. -/
def ComesTo (plan : Plan) (answering : Answering Env) (p q : Pull Env) (items : List SourceItem) :
    Prop :=
  ∃ n, (step plan answering)^[n] p = q ∧ q.items = p.items ++ items

namespace ComesTo

variable {items items' : List SourceItem}

theorem refl : p.ComesTo plan answering p [] := ⟨0, rfl, (List.append_nil _).symm⟩

theorem trans (h : p.ComesTo plan answering q items) (h' : q.ComesTo plan answering r items') :
    p.ComesTo plan answering r (items ++ items') := by
  obtain ⟨n, rfl, hitems⟩ := h
  obtain ⟨m, rfl, hitems'⟩ := h'
  refine ⟨m + n, Function.iterate_add_apply _ _ _ _, ?_⟩
  rw [hitems', hitems, List.append_assoc]

theorem single (hstep : p.step plan answering = q) (hitems : q.items = p.items ++ items) :
    p.ComesTo plan answering q items :=
  ⟨1, hstep, hitems⟩

end ComesTo

/-! ### Reading such pages -/

section

variable (plan) {home : Service} {domain query : String} {exclusions : ExclusionSet} {attempt : Nat}
  {fetches rest : List Fetch} {cursor : Cursor WorkflowRef} {page : Page WorkflowRef}
  {p q : Pull PageChain}

/-- The producer is about to ask its source, a query at some place, with these pages still to come. -/
structure Reads (home : Service) (domain query : String) (exclusions : ExclusionSet) (p : Pull PageChain)
    (attempt : Nat) (cursor : Cursor WorkflowRef) (fetches : List Fetch) : Prop where
  at_attempt : p.At (.chained home) attempt
  source : p.state.source = .ofQuery domain query exclusions cursor
  env : cursor.exhausted = false → p.env = ⟨cursor.token, fetches⟩

/-- What the producer holds it puts into the queue. -/
theorem comesTo_of_holding {Env : Type} {answering : Answering Env} {p : Pull Env}
    {target : WorkflowRef} (hholding : p.state.producer = .holding target) :
    p.ComesTo plan answering { p with state := { p.state with
      queue := p.state.queue ++ [target], producer := .pulling 1 } } [] := by
  refine .single ?_ (List.append_nil _).symm
  simp only [step, hholding, State.stepUnder, State.step, State.stepProducer]

/-- Behind a pause the producer asks again. -/
theorem comesTo_of_pausing {Env : Type} {answering : Answering Env} {p : Pull Env} {attempt : Nat}
    (hpausing : p.state.producer = .pausing attempt) :
    p.ComesTo plan answering { p with state := { p.state with producer := .pulling attempt } } [] :=
  .single (step_of_pausing hpausing) (List.append_nil _).symm

/-- Entries that are there are given out one by one. -/
theorem comesTo_of_buffered {buffered : List WorkflowRef} {token : Option Token} {exhausted : Bool}
    (h : p.Reads home domain query exclusions attempt ⟨buffered, token, exhausted⟩ fetches) :
    ∃ q, p.ComesTo plan (.chained home) q (buffered.map (Source.mark exclusions)) ∧
      q.Reads home domain query exclusions (if buffered = [] then attempt else 1) ⟨[], token, exhausted⟩
        fetches := by
  induction buffered generalizing p attempt with
  | nil => exact ⟨p, .refl, h⟩
  | cons ref buffered ih =>
      obtain ⟨next, hnext, hreads⟩ : ∃ next,
          p.ComesTo plan (.chained home) next [Source.mark exclusions ref] ∧
            next.Reads home domain query exclusions 1 ⟨buffered, token, exhausted⟩ fetches := by
        have hturn : p.state.source.turn (.chained home) p.env =
            .answered (.ok (some (Source.mark exclusions ref)))
              (.ofQuery domain query exclusions ⟨buffered, token, exhausted⟩) p.env := by
          rw [h.source]
          rfl
        have hasked : p.ComesTo plan (.chained home) _ [Source.mark exclusions ref] :=
          .single (step_of_answered plan h.at_attempt hturn) (by simp [read, items])
        cases hmark : Source.mark exclusions ref with
        | excluded target =>
            rw [hmark] at hasked
            exact ⟨_, hasked, ⟨rfl, rfl⟩, rfl, h.env⟩
        | target target =>
            rw [hmark] at hasked
            exact ⟨_, hasked.trans (comesTo_of_holding plan rfl), ⟨rfl, rfl⟩, rfl, h.env⟩
      obtain ⟨q, hcomes, hbehind⟩ := ih hreads
      refine ⟨q, hnext.trans hcomes, ?_⟩
      simpa using hbehind

/-- At the end the producer ends. -/
theorem comesTo_of_exhausted {token : Option Token}
    (h : p.Reads home domain query exclusions attempt ⟨[], token, true⟩ fetches) :
    ∃ q, p.ComesTo plan (.chained home) q [] ∧ q.state.producer = .ended none := by
  have hturn : p.state.source.turn (.chained home) p.env =
      .answered (.ok none) (.ofQuery domain query exclusions ⟨[], token, true⟩) p.env := by
    rw [h.source]
    rfl
  have hasked : p.ComesTo plan (.chained home) _ [] :=
    .single (step_of_answered plan h.at_attempt hturn) (by simp [read, items])
  exact ⟨_, hasked, rfl⟩

section

variable {token : Option Token} {error : ServiceError} {failures : List ServiceError}

theorem turn_of_page
    (h : p.Reads home domain query exclusions attempt ⟨[], token, false⟩ (⟨[], page⟩ :: rest)) :
    p.state.source.turn (.chained home) p.env =
      .paged (.ofQuery domain query exclusions (Cursor.receive ⟨[], token, false⟩ page))
        ⟨page.token, rest⟩ := by
  rw [h.source, h.env rfl]
  simp [Source.turn, Source.poll, Source.ofQuery, Cursor.take?, QueryTargets.request,
    Answering.chained, Source.receive]

theorem turn_of_failure
    (h : p.Reads home domain query exclusions attempt ⟨[], token, false⟩
      (⟨error :: failures, page⟩ :: rest)) :
    p.state.source.turn (.chained home) p.env =
      .answered (.error (.service error)) (.ofQuery domain query exclusions ⟨[], token, false⟩)
        ⟨token, ⟨failures, page⟩ :: rest⟩ := by
  rw [h.source, h.env rfl]
  simp [Source.turn, Source.poll, Source.ofQuery, Cursor.take?, QueryTargets.request,
    Answering.chained]

/-- A page that arrives is taken in. -/
theorem comesTo_of_page
    (h : p.Reads home domain query exclusions attempt ⟨[], token, false⟩ (⟨[], page⟩ :: rest)) :
    ∃ q, p.ComesTo plan (.chained home) q [] ∧
      q.Reads home domain query exclusions attempt (Cursor.receive ⟨[], token, false⟩ page) rest := by
  have hasked : p.ComesTo plan (.chained home) _ [] :=
    .single (step_of_paged plan h.at_attempt (turn_of_page h)) (List.append_nil _).symm
  refine ⟨_, hasked, ⟨h.at_attempt.producer, rfl⟩, rfl, ?_⟩
  intro hopen
  have hmore : hasMore page.token = true := by simpa [Cursor.receive] using hopen
  simp [read, Cursor.receive, hmore]

/-- While attempts are left, a failure that may pass takes one of them. -/
theorem comesTo_of_failure
    (h : p.Reads home domain query exclusions attempt ⟨[], token, false⟩
      (⟨error :: failures, page⟩ :: rest))
    (hpasses : error.isRetryable) (hmore : attempt < max 1 plan.settings.retry.maxAttempts) :
    ∃ q, p.ComesTo plan (.chained home) q [] ∧
      q.Reads home domain query exclusions (attempt + 1) ⟨[], token, false⟩
        (⟨failures, page⟩ :: rest) := by
  have hopen : isSettled ResetError.isRetryable
      (.error (.service error) : Except ResetError (Option SourceItem)) = false := by
    simpa [isSettled, ResetError.isRetryable] using hpasses
  have hasked : p.ComesTo plan (.chained home) _ [] :=
    .single (step_of_answered plan h.at_attempt (turn_of_failure h)) (by simp [read, items])
  simp only [State.sourceAnswered_of_open hopen hmore] at hasked
  exact ⟨_, hasked.trans (comesTo_of_pausing plan rfl), ⟨rfl, rfl⟩, rfl, fun _ => rfl⟩

/-- The last attempt ends the producer if it fails. -/
theorem comesTo_of_last_failure
    (h : p.Reads home domain query exclusions attempt ⟨[], token, false⟩
      (⟨error :: failures, page⟩ :: rest))
    (hlast : max 1 plan.settings.retry.maxAttempts ≤ attempt) :
    ∃ q, p.ComesTo plan (.chained home) q [] ∧
      q.state.producer = .ended (some (.service error)) := by
  have hasked : p.ComesTo plan (.chained home) _ [] :=
    .single (step_of_answered plan h.at_attempt (turn_of_failure h)) (by simp [read, items])
  refine ⟨_, hasked, ?_⟩
  simp [read, State.sourceAnswered, State.sourceFailed, Nat.not_lt.mpr hlast]

/-- A page whose failures fit into the attempts arrives. -/
theorem comesTo_of_few_failures
    (h : p.Reads home domain query exclusions attempt ⟨[], token, false⟩ (⟨failures, page⟩ :: rest))
    (hpass : ∀ error ∈ failures, error.isRetryable)
    (hfew : attempt + failures.length ≤ max 1 plan.settings.retry.maxAttempts) :
    ∃ q, p.ComesTo plan (.chained home) q [] ∧
      q.Reads home domain query exclusions (attempt + failures.length)
        (Cursor.receive ⟨[], token, false⟩ page) rest := by
  induction failures generalizing p attempt with
  | nil => exact comesTo_of_page plan h
  | cons error failures ih =>
      rw [List.length_cons] at hfew
      obtain ⟨next, hnext, hreads⟩ :=
        comesTo_of_failure plan h (hpass error List.mem_cons_self) (by omega)
      obtain ⟨q, hcomes, hbehind⟩ :=
        ih hreads (fun error herror => hpass error (List.mem_cons_of_mem _ herror)) (by omega)
      refine ⟨q, hnext.trans hcomes, ?_⟩
      rwa [List.length_cons, Nat.add_comm failures.length, ← Nat.add_assoc]

/-- A page whose failures do not fit into the attempts ends the producer. -/
theorem comesTo_of_many_failures
    (h : p.Reads home domain query exclusions attempt ⟨[], token, false⟩ (⟨failures, page⟩ :: rest))
    (hpass : ∀ error ∈ failures, error.isRetryable)
    (hin : attempt ≤ max 1 plan.settings.retry.maxAttempts)
    (hmany : max 1 plan.settings.retry.maxAttempts < attempt + failures.length) :
    ∃ q error, p.ComesTo plan (.chained home) q [] ∧ q.state.producer = .ended (some error) := by
  induction failures generalizing p attempt with
  | nil => exact absurd hmany (Nat.not_lt.mpr hin)
  | cons error failures ih =>
      rw [List.length_cons] at hmany
      by_cases hmore : attempt < max 1 plan.settings.retry.maxAttempts
      · obtain ⟨next, hnext, hreads⟩ :=
          comesTo_of_failure plan h (hpass error List.mem_cons_self) hmore
        obtain ⟨q, last, hcomes, hended⟩ :=
          ih hreads (fun error herror => hpass error (List.mem_cons_of_mem _ herror)) hmore (by omega)
        exact ⟨q, last, hnext.trans hcomes, hended⟩
      · obtain ⟨q, hcomes, hended⟩ := comesTo_of_last_failure plan h (by omega)
        exact ⟨q, _, hcomes, hended⟩

/-- A page that has arrived is given out, and then the next one is asked for. -/
theorem comesTo_of_fetch {spent : Nat}
    (h : p.Reads home domain query exclusions (spent + 1) ⟨[], token, false⟩
      (⟨failures, page⟩ :: rest))
    (hpass : ∀ error ∈ failures, error.isRetryable)
    (hfew : spent + failures.length < max 1 plan.settings.retry.maxAttempts) :
    ∃ q, p.ComesTo plan (.chained home) q (page.items.map (Source.mark exclusions)) ∧
      q.Reads home domain query exclusions
        ((if page.items = [] then spent + failures.length else 0) + 1)
        ⟨[], if hasMore page.token then page.token else token, !hasMore page.token⟩ rest := by
  obtain ⟨next, hnext, hreads⟩ := comesTo_of_few_failures plan h hpass (by omega)
  obtain ⟨q, hcomes, hbehind⟩ := comesTo_of_buffered plan hreads
  refine ⟨q, hnext.trans hcomes, ?_⟩
  have hattempt : (if page.items = [] then spent + 1 + failures.length else 1) =
      (if page.items = [] then spent + failures.length else 0) + 1 := by
    split <;> omega
  exact hattempt ▸ hbehind

end

variable {spent : Nat} {token : Option Token}

/-- The attempts suffice, and the producer reads to the end. -/
theorem comesTo_end (hchain : Fetch.Chained fetches)
    (hpass : ∀ fetch ∈ fetches, ∀ error ∈ fetch.failures, error.isRetryable)
    (hafforded : Fetch.Afforded (max 1 plan.settings.retry.maxAttempts) spent fetches)
    (h : p.Reads home domain query exclusions (spent + 1) ⟨[], token, false⟩ fetches) :
    ∃ q, p.ComesTo plan (.chained home) q ((Fetch.found fetches).map (Source.mark exclusions)) ∧
      q.state.producer = .ended none := by
  induction fetches generalizing p spent token with
  | nil => exact hchain.elim
  | cons fetch rest ih =>
      obtain ⟨hfew, hlater⟩ := hafforded
      obtain ⟨next, hnext, hreads⟩ :=
        comesTo_of_fetch plan h (hpass fetch List.mem_cons_self) hfew
      rw [Fetch.found, List.flatMap_cons, List.map_append]
      cases rest with
      | nil =>
          have hlast : hasMore fetch.page.token = false := hchain
          rw [hlast] at hreads
          obtain ⟨q, hcomes, hended⟩ := comesTo_of_exhausted plan hreads
          exact ⟨q, hnext.trans hcomes, hended⟩
      | cons later rest =>
          obtain ⟨hmore, hchained⟩ := hchain
          rw [hmore] at hreads
          obtain ⟨q, hcomes, hended⟩ := ih hchained
            (fun fetch hfetch => hpass fetch (List.mem_cons_of_mem _ hfetch)) hlater hreads
          exact ⟨q, hnext.trans hcomes, hended⟩

/-- The attempts do not suffice, and the producer fails. -/
theorem comesTo_failure (hchain : Fetch.Chained fetches)
    (hpass : ∀ fetch ∈ fetches, ∀ error ∈ fetch.failures, error.isRetryable)
    (hspent : spent < max 1 plan.settings.retry.maxAttempts)
    (hafforded : ¬Fetch.Afforded (max 1 plan.settings.retry.maxAttempts) spent fetches)
    (h : p.Reads home domain query exclusions (spent + 1) ⟨[], token, false⟩ fetches) :
    ∃ q items error, p.ComesTo plan (.chained home) q items ∧
      q.state.producer = .ended (some error) := by
  induction fetches generalizing p spent token with
  | nil => exact hchain.elim
  | cons fetch rest ih =>
      by_cases hfew : spent + fetch.failures.length < max 1 plan.settings.retry.maxAttempts
      · obtain ⟨next, hnext, hreads⟩ :=
          comesTo_of_fetch plan h (hpass fetch List.mem_cons_self) hfew
        have hlater := fun hlater => hafforded ⟨hfew, hlater⟩
        cases rest with
        | nil => exact (hlater trivial).elim
        | cons later rest =>
            obtain ⟨hmore, hchained⟩ := hchain
            rw [hmore] at hreads
            obtain ⟨q, items, error, hcomes, hended⟩ := ih hchained
              (fun fetch hfetch => hpass fetch (List.mem_cons_of_mem _ hfetch))
              (by split <;> omega) hlater hreads
            exact ⟨q, _, error, hnext.trans hcomes, hended⟩
      · obtain ⟨q, error, hcomes, hended⟩ :=
          comesTo_of_many_failures plan h (hpass fetch List.mem_cons_self) (by omega) (by omega)
        exact ⟨q, _, error, hcomes, hended⟩

end

/-! ### The end of a query -/

theorem iterate_of_ended {failure : Option ResetError} (hended : p.state.producer = .ended failure)
    (n : Nat) : (step plan answering)^[n] p = p := by
  have hstep : p.step plan answering = p := by
    simp only [step, hended, State.stepUnder, State.step, State.stepProducer]
  exact Function.iterate_fixed hstep n

/-- A producer ends in one way only. -/
theorem ComesTo.unique {items items' : List SourceItem} {failure failure' : Option ResetError}
    (h : p.ComesTo plan answering q items) (h' : p.ComesTo plan answering r items')
    (hended : q.state.producer = .ended failure) (hended' : r.state.producer = .ended failure') :
    q = r := by
  obtain ⟨n, rfl, -⟩ := h
  obtain ⟨m, rfl, -⟩ := h'
  rcases Nat.le_total n m with hle | hle
  · obtain ⟨k, rfl⟩ := Nat.exists_eq_add_of_le' hle
    rw [Function.iterate_add_apply, iterate_of_ended hended]
  · obtain ⟨k, rfl⟩ := Nat.exists_eq_add_of_le' hle
    rw [Function.iterate_add_apply, iterate_of_ended hended']

/-- The producer is given these items, and then hears that there are no others. -/
def ReadsAll (plan : Plan) (answering : Answering Env) (p : Pull Env) (items : List SourceItem) :
    Prop :=
  ∃ q, p.ComesTo plan answering q items ∧ q.state.producer = .ended none

/-- The start of a batch with a query whose answers come in such pages. -/
def startQuery (s : State) (domain query : String) (exclusions : ExclusionSet)
    (fetches : List Fetch) : Pull PageChain :=
  .start (.chained s.service)
    { s with source := .ofQuery domain query exclusions .start } ⟨none, fetches⟩

section

variable (s : State) (domain query : String) (exclusions : ExclusionSet) {fetches : List Fetch}

theorem reads_startQuery :
    (startQuery s domain query exclusions fetches).Reads s.service domain query exclusions 1 .start
      fetches :=
  ⟨⟨rfl, rfl⟩, rfl, fun _ => rfl⟩

variable (hchain : Fetch.Chained fetches)
  (hpass : ∀ fetch ∈ fetches, ∀ error ∈ fetch.failures, error.isRetryable)

include hchain hpass

theorem not_readsAll {items : List SourceItem}
    (hafforded : ¬Fetch.Afforded (max 1 plan.settings.retry.maxAttempts) 0 fetches) :
    ¬(startQuery s domain query exclusions fetches).ReadsAll plan (.chained s.service) items := by
  rintro ⟨q, hcomes, hended⟩
  obtain ⟨r, items', error, hfails, hfailed⟩ := comesTo_failure plan hchain hpass (by omega) hafforded
    (reads_startQuery s domain query exclusions)
  obtain rfl := hcomes.unique hfails hended hfailed
  rw [hended] at hfailed
  cases hfailed

/-- The answers to a query are given out one by one, up to the end, if and only if the failures in front
of each entry and in front of the end are fewer than the attempts. So each page has all attempts to
itself if none but the last one is without entries. -/
theorem read_to_end_iff (plan : Plan) :
    ((startQuery s domain query exclusions fetches).ReadsAll plan (.chained s.service)
        ((Fetch.found fetches).map (Source.mark exclusions)) ↔
      Fetch.Afforded (max 1 plan.settings.retry.maxAttempts) 0 fetches) ∧
    ((∀ fetch ∈ fetches.dropLast, fetch.page.items ≠ []) →
      (∀ fetch ∈ fetches, fetch.failures.length < max 1 plan.settings.retry.maxAttempts) →
      (startQuery s domain query exclusions fetches).ReadsAll plan (.chained s.service)
        ((Fetch.found fetches).map (Source.mark exclusions))) := by
  have hreads (hafforded : Fetch.Afforded (max 1 plan.settings.retry.maxAttempts) 0 fetches) :
      (startQuery s domain query exclusions fetches).ReadsAll plan (.chained s.service)
        ((Fetch.found fetches).map (Source.mark exclusions)) :=
    comesTo_end plan hchain hpass hafforded (reads_startQuery s domain query exclusions)
  refine ⟨⟨fun hall => ?_, hreads⟩, fun hentries hfew => hreads (.of_entries hentries hfew)⟩
  by_contra hafforded
  exact not_readsAll s domain query exclusions hchain hpass hafforded hall

end

/-- A failure that may pass. -/
def busy : ServiceError :=
  ⟨.unavailable, "busy"⟩

/-- Two pages with an entry each, which arrive at the third scan. -/
def fullPages : List Fetch :=
  [⟨[busy, busy], ⟨[⟨"pay", none⟩], some [49]⟩⟩, ⟨[busy, busy], ⟨[⟨"ship", none⟩], none⟩⟩]

theorem read_to_end_iff_full_pages :
    (startQuery sampleQuery "default" "all" .empty fullPages).ReadsAll Chronicle.samplePlan
      (.chained sampleQuery.service) [.target ⟨"pay", none⟩, .target ⟨"ship", none⟩] := by
  have hchain : Fetch.Chained fullPages := ⟨rfl, rfl⟩
  have hpass : ∀ fetch ∈ fullPages, ∀ error ∈ fetch.failures, error.isRetryable := by decide
  obtain ⟨-, hreads⟩ :=
    read_to_end_iff sampleQuery "default" "all" .empty hchain hpass Chronicle.samplePlan
  exact hreads (by decide) (by decide)

/-- A page without entries that arrives at the third scan, and one with an entry that arrives at the
second. -/
def emptyPage : List Fetch :=
  [⟨[busy, busy], ⟨[], some [49]⟩⟩, ⟨[busy], ⟨[⟨"pay", none⟩], none⟩⟩]

/-- Fewer failures of each page than attempts are not enough behind a page without entries. -/
theorem attempts_shared_with_empty_page :
    Fetch.Chained emptyPage ∧
    (∀ fetch ∈ emptyPage, (∀ error ∈ fetch.failures, error.isRetryable) ∧
      fetch.failures.length < Chronicle.samplePlan.settings.retry.maxAttempts) ∧
    ¬(startQuery sampleQuery "default" "all" .empty emptyPage).ReadsAll Chronicle.samplePlan
      (.chained sampleQuery.service) [.target ⟨"pay", none⟩] := by
  have hpass : ∀ fetch ∈ emptyPage, ∀ error ∈ fetch.failures, error.isRetryable := by decide
  have hafforded : ¬Fetch.Afforded 3 0 emptyPage := by
    simp [Fetch.Afforded, emptyPage]
  have hchain : Fetch.Chained emptyPage := ⟨rfl, rfl⟩
  refine ⟨hchain, by decide, ?_⟩
  exact not_readsAll sampleQuery "default" "all" .empty hchain hpass hafforded

end Pull

end Batch

end Rewind
