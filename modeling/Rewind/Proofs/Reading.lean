import Rewind.Proofs.Lineage
import Rewind.Proofs.Paging
import Rewind.Program
import Rewind.Target.Source

/-!
Reading lists while other things happen.

The history of a run and the answers to a query are read page by page. Between two items anything may
be done to the service: failures may be scripted, and calls may be made, so that the workflow that is
read gets new runs. None of it shows in what is read.

Main statement: the items given out are those of the list, in order, a failed call loses nothing, and
no more pages are fetched than the items fill (`paging_transparent`).
-/

namespace Rewind

namespace Store

theorem Step.pageCap_eq {s s' : Store} {entry : Option (ResetRequest × String)}
    (h : Step s s' entry) : s'.pageCap = s.pageCap := by
  cases h <;> rfl

theorem limit_eq {cap pageSize : Nat} (hcap : 1 ≤ cap) (hsize : 1 ≤ pageSize) :
    Paging.limit cap pageSize = min pageSize cap := by
  rw [Paging.limit]
  omega

/-- A run that is named is looked up by its name. -/
theorem resolve_named {s : Store} {workflowId runId : String} (hid : runId ≠ "") :
    s.resolve workflowId (some runId) = s.run? workflowId runId := by
  simp [resolve, Option.filter, hid]

/-- The page of the history of the run that is asked for. -/
theorem historyPage_of_resolve {s : Store} {r : HistoryRequest} {run : Run} {offset : Nat}
    (hrun : s.resolve r.workflowId (some r.runId) = .ok run)
    (hoffset : Paging.offsetOf? r.token = .ok offset) :
    s.historyPage r = .ok (Paging.page run.history offset (Paging.limit s.pageCap r.pageSize)) := by
  simp [historyPage, hoffset, Except.bind, hrun, Except.map]

/-- The page of the history of a run that is named. -/
theorem historyPage_eq {s : Store} {r : HistoryRequest} {run : Run} {offset : Nat}
    (hid : r.runId ≠ "") (hrun : s.runs r.workflowId r.runId = some run)
    (hoffset : Paging.offsetOf? r.token = .ok offset) :
    s.historyPage r = .ok (Paging.page run.history offset (Paging.limit s.pageCap r.pageSize)) := by
  have hresolved : s.resolve r.workflowId (some r.runId) = .ok run := by
    rw [resolve_named hid, run?, hrun]
  exact historyPage_of_resolve hresolved hoffset

/-- The page of what a query finds. -/
theorem scanPage_of_offset {s : Store} {r : ScanRequest} {offset : Nat}
    (hoffset : Paging.offsetOf? r.token = .ok offset) :
    s.scanPage r =
      .ok (Paging.page (s.visibility r.query) offset (Paging.limit s.pageCap r.pageSize)) := by
  rw [scanPage, hoffset, Except.map]

theorem runs_of_step {s s' : Store} {entry : Option (ResetRequest × String)} (h : Step s s' entry)
    (hfresh : s.Fresh) {workflowId runId : String} {run : Run}
    (hrun : s.runs workflowId runId = some run) :
    s'.Fresh ∧ s'.runs workflowId runId = some run :=
  ⟨(Logs.start.step h).fresh hfresh, (Logs.start.step h).runs_kept hfresh hrun⟩

end Store

namespace Service

/-- The service behind an operation on it. -/
def perform (s : Service) : Operation → Service
  | .call request => (s.call request).2
  | .failNext method subject error => { s with store := s.store.failNext method subject error }

theorem perform_step (s : Service) (operation : Operation) :
    ∃ entry, Store.Step s.store (s.perform operation).store entry := by
  cases operation with
  | call request => exact ⟨_, s.call_step request⟩
  | failNext method subject error => exact ⟨none, .kept _ _⟩

@[simp] theorem missed?_perform (s : Service) (operation : Operation) :
    (s.perform operation).missed? = s.missed? := by
  cases operation <;> rfl

/-- The pages that a service has answered with since it was as `before`. -/
def pagesSince (before after : Service) : Nat :=
  (after.journal.drop before.journal.length).countP fun exchange => exchange.failure.isNone

@[simp] theorem pagesSince_self (s : Service) : s.pagesSince s = 0 := by
  simp [pagesSince]

theorem pagesSince_call (s : Service) (request : Request) :
    s.pagesSince (s.call request).2 = if (s.call request).1.isOk then 1 else 0 := by
  have hjournal : (s.call request).2.journal.drop s.journal.length =
      [⟨request, failure? (s.call request).1⟩] := by
    simp [call]
  rw [pagesSince, hjournal, List.countP_singleton]
  cases (s.call request).1 <;> rfl

section

variable {s : Service} (htime : s.missed? = none)

include htime

/-- A call that is in time fails as the next scripted failure for it says, which is used up. -/
theorem call_scripted (request : Request) {error : ServiceError} {later : List ServiceError}
    (hfailures : s.store.failures request.method request.subject = error :: later) :
    (s.call request).1 = .error error ∧
      (s.call request).2.store.failures request.method request.subject = later := by
  simp [call, answer, htime, Store.call, hfailures, Store.setFailures]

theorem call_unscripted (request : Request)
    (hfailures : s.store.failures request.method request.subject = []) :
    (s.call request).1 = ((s.store.count request.method).serve request).1 := by
  simp [call, answer, htime, Store.call, hfailures]

/-- A call that only looks is counted, and changes nothing else. -/
theorem store_call_unscripted (request : Request)
    (hfailures : s.store.failures request.method request.subject = [])
    (hlook : request.method ≠ .reset) :
    (s.call request).2.store = s.store.count request.method := by
  simp only [call, answer, htime, Store.call, hfailures]
  cases request with
  | describe request | history request | scan request => rfl
  | reset request => exact absurd rfl hlook

end

end Service

/-! ### Lists that are answered in pages -/

/-- How the pages of a list are asked for. -/
structure Pages (β : Type) where
  method : Method
  subject : String
  ask : Service → Option Token → Except ServiceError (Page β) × Service

namespace Pages

variable {β : Type}

/-- The pages of the history of a run. -/
def ofHistory (domain workflowId runId : String) (pageSize : Nat) : Pages Event where
  method := .getHistory
  subject := workflowId
  ask service token := service.call (.history ⟨domain, workflowId, runId, pageSize, token⟩)

/-- The pages of the answers to a query. -/
def ofQuery (domain query : String) : Pages WorkflowRef where
  method := .scan
  subject := query
  ask service token := service.call (.scan ⟨domain, query, defaultPageSize, token⟩)

/-- The services of a kind answer with the pages of one list, each in one call, and stay of that kind
whatever is done to them. -/
structure Answered (pages : Pages β) (items : List β) (limit : Nat) (Holds : Service → Prop) :
    Prop where
  positive : 0 < limit
  short : items.length < UInt64.size
  keeps : ∀ service operation, Holds service → Holds (service.perform operation)
  asks : ∀ service token, ∃ operation, (pages.ask service token).2 = service.perform operation
  fetches : ∀ service token, service.pagesSince (pages.ask service token).2 =
    if (pages.ask service token).1.isOk then 1 else 0
  scripted : ∀ service token error later, Holds service →
    service.store.failures pages.method pages.subject = error :: later →
    (pages.ask service token).1 = .error error ∧
      (pages.ask service token).2.store.failures pages.method pages.subject = later
  page : ∀ service token offset, Holds service →
    service.store.failures pages.method pages.subject = [] →
    Paging.offsetOf? token = .ok offset →
    (pages.ask service token).1 = .ok (Paging.page items offset limit)

/-- The next item behind a cursor, with a call for a page before if none is there. -/
def next (pages : Pages β) (cursor : Cursor β) (service : Service) :
    Except ServiceError (Option β) × Cursor β × Service :=
  match cursor.take? with
  | some (item, rest) => (.ok (some item), rest, service)
  | none =>
      if cursor.exhausted then (.ok none, cursor, service)
      else
        match pages.ask service cursor.token with
        | (.error error, service) => (.error error, cursor, service)
        | (.ok page, service) =>
            match (cursor.receive page).take? with
            | some (item, rest) => (.ok (some item), rest, service)
            | none => (.ok none, cursor.receive page, service)

/-- What the next item behind a cursor is, and how the cursor stands then. -/
inductive Moves (pages : Pages β) (items : List β) (limit : Nat) (Holds : Service → Prop)
    (fetched taken : Nat) (cursor : Cursor β) (service : Service) :
    Except ServiceError (Option β) × Cursor β × Service → Prop
  | item {item : β} {cursor' : Cursor β} {service' : Service} :
      items[taken]? = some item → Holds service' →
      Cursor.At items limit (fetched + service.pagesSince service') (taken + 1) cursor' →
      Moves pages items limit Holds fetched taken cursor service (.ok (some item), cursor', service')
  | ended {cursor' : Cursor β} {service' : Service} :
      taken = items.length → cursor'.exhausted = true → Holds service' →
      Cursor.At items limit (fetched + service.pagesSince service') taken cursor' →
      Moves pages items limit Holds fetched taken cursor service (.ok none, cursor', service')
  | failed {error : ServiceError} {later : List ServiceError} {service' : Service} :
      service.store.failures pages.method pages.subject = error :: later →
      service'.store.failures pages.method pages.subject = later → Holds service' →
      service.pagesSince service' = 0 →
      Moves pages items limit Holds fetched taken cursor service (.error error, cursor, service')

variable {pages : Pages β} {items : List β} {limit : Nat} {Holds : Service → Prop}
  {fetched taken : Nat} {cursor : Cursor β} {service : Service}

/-- With the page that was asked for there is an item, or the list is over. -/
theorem Answered.moves_of_page (h : Answered pages items limit Holds)
    (hat : Cursor.At items limit fetched taken cursor) (hopen : cursor.exhausted = false)
    (htake : cursor.take? = none) {service' : Service} (hafter : Holds service')
    (hone : service.pagesSince service' = 1) :
    Moves pages items limit Holds fetched taken cursor service
      (match (cursor.receive (Paging.page items (fetched * limit) limit)).take? with
        | some (item, rest) => (.ok (some item), rest, service')
        | none => (.ok none, cursor.receive (Paging.page items (fetched * limit) limit), service')) := by
  have hreceived := hat.receive h.short hopen
  rw [← hone] at hreceived
  split
  · next item rest htake' =>
      obtain ⟨hitem, hrest⟩ := hreceived.take?_some htake'
      exact .item hitem hafter hrest
  · next htake' =>
      have hsettled := hat.receive_settled h.positive h.short hopen htake
      rw [Cursor.take?_eq_none.mp htake'] at hsettled
      have hover : (cursor.receive (Paging.page items (fetched * limit) limit)).exhausted = true := by
        simpa using hsettled
      have htaken' := hreceived.take?_none htake'
      have hall := (hreceived.exhausted.mp hover).2
      exact .ended (by omega) hover hafter hreceived

theorem Answered.next_moves (h : Answered pages items limit Holds) (hservice : Holds service)
    (hat : Cursor.At items limit fetched taken cursor) :
    Moves pages items limit Holds fetched taken cursor service (pages.next cursor service) := by
  rw [next]
  split
  · next item rest htake =>
      obtain ⟨hitem, hrest⟩ := hat.take?_some htake
      exact .item hitem hservice (by simpa using hrest)
  · next htake =>
      have htaken := hat.take?_none htake
      split
      · next hover =>
          have hall := (hat.exhausted.mp hover).2
          exact .ended (by omega) hover hservice (by simpa using hat)
      · next hopen =>
          rw [Bool.not_eq_true] at hopen
          obtain ⟨operation, hoperation⟩ := h.asks service cursor.token
          have hafter := h.keeps service operation hservice
          have hfetches := h.fetches service cursor.token
          rw [← hoperation] at hafter
          cases hfailures : service.store.failures pages.method pages.subject with
          | cons error later =>
              obtain ⟨hanswer, hlater⟩ := h.scripted service cursor.token error later hservice hfailures
              rw [hanswer] at hfetches
              generalize hask : pages.ask service cursor.token = asked at *
              obtain ⟨answer, service'⟩ := asked
              obtain rfl : answer = .error error := hanswer
              exact .failed hfailures hlater hafter hfetches
          | nil =>
              have hanswer := h.page service cursor.token _ hservice hfailures (hat.token hopen)
              rw [hanswer] at hfetches
              generalize hask : pages.ask service cursor.token = asked at *
              obtain ⟨answer, service'⟩ := asked
              obtain rfl : answer = .ok (Paging.page items (fetched * limit) limit) := hanswer
              exact h.moves_of_page hat hopen htake hafter hfetches

/-- Behind a page that was asked for when nothing was there, there is an item or the list is over. -/
theorem Answered.settled (h : Answered pages items limit Holds) (hservice : Holds service)
    (hat : Cursor.At items limit fetched taken cursor) (hopen : cursor.exhausted = false)
    (htake : cursor.take? = none) {page : Page β}
    (hpage : (pages.ask service cursor.token).1 = .ok page) :
    ((cursor.receive page).exhausted || !(cursor.receive page).buffered.isEmpty) = true := by
  cases hfailures : service.store.failures pages.method pages.subject with
  | cons error later =>
      have hanswer := (h.scripted service cursor.token error later hservice hfailures).1
      exact absurd (hanswer.symm.trans hpage) (by simp)
  | nil =>
      have hanswer := h.page service cursor.token _ hservice hfailures (hat.token hopen)
      obtain rfl := Except.ok.inj (hanswer.symm.trans hpage)
      exact hat.receive_settled h.positive h.short hopen htake

/-- A history is answered in pages while the run is there. -/
theorem ofHistory_answered (domain workflowId : String) (pageSize : Nat) {runId : String}
    {run : Run} {cap : Nat} (hid : runId ≠ "") (hcap : 1 ≤ cap)
    (hshort : run.history.length < UInt64.size) :
    Answered (ofHistory domain workflowId runId (max 1 pageSize)) run.history
      (min (max 1 pageSize) cap)
      (fun service => service.missed? = none ∧ service.store.pageCap = cap ∧ service.store.Fresh ∧
        service.store.runs workflowId runId = some run) := by
  refine ⟨by omega, hshort, ?_, fun service token => ⟨.call _, rfl⟩,
    fun service token => service.pagesSince_call _, ?_, ?_⟩
  · rintro service operation ⟨htime, hcap, hfresh, hrun⟩
    obtain ⟨entry, hstep⟩ := service.perform_step operation
    exact ⟨by rw [Service.missed?_perform, htime], hstep.pageCap_eq.trans hcap,
      Store.runs_of_step hstep hfresh hrun⟩
  · rintro service token error later ⟨htime, -⟩ hfailures
    exact Service.call_scripted htime _ hfailures
  · rintro service token offset ⟨htime, hcap', -, hrun⟩ hfailures hoffset
    have hpage : (service.store.count .getHistory).historyPage
        ⟨domain, workflowId, runId, max 1 pageSize, token⟩ =
          .ok (Paging.page run.history offset (min (max 1 pageSize) cap)) := by
      rw [Store.historyPage_eq hid hrun hoffset, ← Store.limit_eq hcap (by omega), ← hcap']
      rfl
    exact (Service.call_unscripted htime (.history ⟨domain, workflowId, runId, _, token⟩)
      hfailures).trans hpage

/-- The answers to a query come in pages. -/
theorem ofQuery_answered (domain query : String) {found : List WorkflowRef} {cap : Nat}
    (hcap : 1 ≤ cap) (hshort : found.length < UInt64.size) :
    Answered (ofQuery domain query) found (min defaultPageSize cap)
      (fun service => service.missed? = none ∧ service.store.pageCap = cap ∧
        service.store.visibility query = found) := by
  have hsize : 1 ≤ defaultPageSize := by decide
  refine ⟨by omega, hshort, ?_, fun service token => ⟨.call _, rfl⟩,
    fun service token => service.pagesSince_call _, ?_, ?_⟩
  · rintro service operation ⟨htime, hcap, hfound⟩
    obtain ⟨entry, hstep⟩ := service.perform_step operation
    have hkept := (Store.Logs.start.step hstep).visibility_eq
    exact ⟨by rw [Service.missed?_perform, htime], hstep.pageCap_eq.trans hcap, by rw [hkept, hfound]⟩
  · rintro service token error later ⟨htime, -⟩ hfailures
    exact Service.call_scripted htime _ hfailures
  · rintro service token offset ⟨htime, hcap', hfound⟩ hfailures hoffset
    have hpage : (service.store.count .scan).scanPage ⟨domain, query, defaultPageSize, token⟩ =
        .ok (Paging.page found offset (min defaultPageSize cap)) := by
      rw [← Store.limit_eq hcap hsize, ← hcap', ← hfound]
      exact Store.scanPage_of_offset hoffset
    exact (Service.call_unscripted htime (.scan ⟨domain, query, _, token⟩) hfailures).trans hpage

end Pages

/-! ### Reading on -/

/-- What happens while a list is read: it is read on, or something else is done to the service. -/
inductive ReadAction where
  | next
  | operation (operation : Operation)
deriving DecidableEq, Repr

/-- How far a list was read. -/
structure Reading (ρ α : Type) where
  reader : ρ
  service : Service
  /-- What the calls that did not fail have given out, in order. -/
  given : List (Option α)
  /-- The pages that were fetched for it. -/
  fetches : Nat

namespace Reading

variable {ρ α β : Type}

def start (reader : ρ) (service : Service) : Reading ρ α :=
  ⟨reader, service, [], 0⟩

/-- What follows an action; `next` reads on. -/
def act (next : ρ → Service → Except ResetError (Option α) × ρ × Service) (reading : Reading ρ α) :
    ReadAction → Reading ρ α
  | .next =>
      let (result, reader, service) := next reading.reader reading.service
      { reader, service
        given := reading.given ++ result.toOption.toList
        fetches := reading.fetches + reading.service.pagesSince service }
  | .operation operation => { reading with service := reading.service.perform operation }

def actAll (next : ρ → Service → Except ResetError (Option α) × ρ × Service)
    (reading : Reading ρ α) (actions : List ReadAction) : Reading ρ α :=
  actions.foldl (act next) reading

/-- What was given out are the items of a list, one after the other, and then nothing. Reading on goes
on with the list or fails as scripted, without a change of place. At the end of the list it makes no
call, and as many pages were fetched as the items fill, but at least one. -/
structure Faithful (next : ρ → Service → Except ResetError (Option α) × ρ × Service)
    (items : List α) (limit : Nat) (method : Method) (subject : String)
    (wrap : ServiceError → ResetError) (reading : Reading ρ α) : Prop where
  given_eq : reading.given = (List.range reading.given.length).map fun k => items[k]?
  succeeds : reading.service.store.failures method subject = [] →
    (next reading.reader reading.service).1 = .ok items[reading.given.length]?
  resumes : ∀ error, (next reading.reader reading.service).1 = .error error →
    ∃ scripted later, reading.service.store.failures method subject = scripted :: later ∧
      error = wrap scripted ∧ (next reading.reader reading.service).2.1 = reading.reader ∧
      (next reading.reader reading.service).2.2.store.failures method subject = later
  ends : max 1 items.length ≤ reading.given.length →
    next reading.reader reading.service = (.ok none, reading.reader, reading.service)
  fetches_eq : max 1 items.length ≤ reading.given.length →
    reading.fetches = max 1 ((items.length + limit - 1) / limit)

/-- A reader gives out the items behind a cursor, each in its own form. -/
def Follows (next : ρ → Service → Except ResetError (Option α) × ρ × Service) (pages : Pages β)
    (items : List β) (limit : Nat) (Holds : Service → Prop) (place : Cursor β → ρ) (form : β → α)
    (wrap : ServiceError → ResetError) : Prop :=
  ∀ cursor service fetched taken, Holds service → Cursor.At items limit fetched taken cursor →
    next (place cursor) service =
      (((pages.next cursor service).1.map (Option.map form)).mapError wrap,
        place (pages.next cursor service).2.1, (pages.next cursor service).2.2)

/-- What holds all the while a list is read. -/
structure Sound (items : List β) (limit : Nat) (Holds : Service → Prop) (place : Cursor β → ρ)
    (form : β → α) (reading : Reading ρ α) (cursor : Cursor β) : Prop where
  reader_eq : reading.reader = place cursor
  holds : Holds reading.service
  cursor_at : Cursor.At items limit reading.fetches (min reading.given.length items.length) cursor
  ended : items.length < reading.given.length → cursor.exhausted = true
  given_eq : reading.given = (List.range reading.given.length).map fun k => (items.map form)[k]?

section

variable {next : ρ → Service → Except ResetError (Option α) × ρ × Service} {pages : Pages β}
  {items : List β} {limit : Nat} {Holds : Service → Prop} {place : Cursor β → ρ} {form : β → α}
  {wrap : ServiceError → ResetError} {reading : Reading ρ α} {cursor : Cursor β}

/-- One more item was given out, or none at the end. -/
theorem Sound.succeeded (h : Sound items limit Holds place form reading cursor)
    {cursor' : Cursor β} {service' : Service} {fetches : Nat} (hholds : Holds service')
    (hat : Cursor.At items limit fetches (min (reading.given.length + 1) items.length) cursor')
    (hover : items.length ≤ reading.given.length → cursor'.exhausted = true) :
    Sound items limit Holds place form ⟨place cursor', service',
      reading.given ++ [items[reading.given.length]?.map form], fetches⟩ cursor' := by
  have hlength : (reading.given ++ [items[reading.given.length]?.map form]).length =
      reading.given.length + 1 := by simp
  refine ⟨rfl, hholds, ?_, ?_, ?_⟩
  · rw [hlength]
    exact hat
  · rw [hlength]
    intro hall
    exact hover (by omega)
  · rw [hlength, List.range_succ, List.map_append, ← h.given_eq, List.map_singleton,
      List.getElem?_map]

theorem sound_act (hanswered : pages.Answered items limit Holds)
    (hfollows : Follows next pages items limit Holds place form wrap)
    (h : Sound items limit Holds place form reading cursor) (action : ReadAction) :
    ∃ cursor', Sound items limit Holds place form (reading.act next action) cursor' := by
  cases action with
  | operation operation =>
      exact ⟨cursor, h.reader_eq, hanswered.keeps _ _ h.holds, h.cursor_at, h.ended, h.given_eq⟩
  | next =>
      have hmoves := hanswered.next_moves h.holds h.cursor_at
      have hnext := hfollows _ _ _ _ h.holds h.cursor_at
      rw [← h.reader_eq] at hnext
      rw [act, hnext]
      generalize pages.next cursor reading.service = answered at hmoves
      cases hmoves with
      | @item item cursor' service' hitem hholds hat =>
          have hbound := (List.getElem?_eq_some_iff.mp hitem).1
          rw [Nat.min_eq_left (by omega)] at hitem hat
          have hafter := h.succeeded hholds (by rwa [Nat.min_eq_left (by omega)])
            (fun hall => absurd hall (by omega))
          rw [hitem] at hafter
          exact ⟨cursor', hafter⟩
      | @ended cursor' service' htaken hover hholds hat =>
          have hafter := h.succeeded hholds (by rwa [Nat.min_eq_right (by omega), ← htaken])
            (fun _ => hover)
          rw [List.getElem?_eq_none (by omega)] at hafter
          exact ⟨cursor', hafter⟩
      | @failed error later service' hfailures hlater hholds hfetches =>
          refine ⟨cursor, ?_⟩
          change Sound items limit Holds place form ⟨place cursor, service', reading.given ++ [],
            reading.fetches + reading.service.pagesSince service'⟩ cursor
          rw [List.append_nil, hfetches]
          exact ⟨rfl, hholds, h.cursor_at, h.ended, h.given_eq⟩

theorem sound_actAll (hanswered : pages.Answered items limit Holds)
    (hfollows : Follows next pages items limit Holds place form wrap)
    (h : Sound items limit Holds place form reading cursor) (actions : List ReadAction) :
    ∃ cursor', Sound items limit Holds place form (reading.actAll next actions) cursor' := by
  induction actions generalizing reading cursor with
  | nil => exact ⟨cursor, h⟩
  | cons action actions ih =>
      obtain ⟨cursor', h'⟩ := sound_act hanswered hfollows h action
      exact ih h'

/-- Once all items were given out, the cursor has seen the end of the list. -/
theorem Sound.exhausted (h : Sound items limit Holds place form reading cursor)
    (hall : max 1 items.length ≤ reading.given.length) : cursor.exhausted = true := by
  have htaken := h.cursor_at.taken_le
  by_cases hmore : items.length < reading.given.length
  · exact h.ended hmore
  · have hsome : 0 < reading.fetches := by
      apply Nat.pos_of_ne_zero
      intro hzero
      rw [hzero] at htaken
      omega
    exact h.cursor_at.exhausted.mpr ⟨hsome, by omega⟩

theorem Sound.take?_eq_none (h : Sound items limit Holds place form reading cursor)
    (hall : items.length ≤ reading.given.length) : cursor.take? = none := by
  rw [Cursor.take?_eq_none, h.cursor_at.buffered, List.drop_eq_nil_iff, List.length_take]
  omega

theorem Sound.faithful (hanswered : pages.Answered items limit Holds)
    (hfollows : Follows next pages items limit Holds place form wrap)
    (h : Sound items limit Holds place form reading cursor) :
    reading.Faithful next (items.map form) limit pages.method pages.subject wrap := by
  have hmoves := hanswered.next_moves h.holds h.cursor_at
  have hnext := hfollows _ _ _ _ h.holds h.cursor_at
  rw [← h.reader_eq] at hnext
  refine ⟨h.given_eq, ?_, ?_, ?_, ?_⟩
  · intro hfailures
    rw [hnext]
    generalize pages.next cursor reading.service = answered at hmoves
    cases hmoves with
    | item hitem hholds hat =>
        have hbound := (List.getElem?_eq_some_iff.mp hitem).1
        rw [Nat.min_eq_left (by omega)] at hitem
        rw [List.getElem?_map, hitem]
        rfl
    | ended htaken hover hholds hat =>
        rw [List.getElem?_eq_none (by rw [List.length_map]; omega)]
        rfl
    | failed hscripted =>
        rw [hscripted] at hfailures
        exact absurd hfailures (by simp)
  · intro error herror
    rw [hnext] at herror ⊢
    generalize pages.next cursor reading.service = answered at hmoves herror
    cases hmoves with
    | @item item => exact nomatch (show Except.ok (some (form item)) = .error error from herror)
    | ended => exact nomatch (show Except.ok none = .error error from herror)
    | failed hscripted hlater =>
        exact ⟨_, _, hscripted, (Except.error.inj herror).symm, h.reader_eq.symm, hlater⟩
  · intro hall
    rw [List.length_map] at hall
    rw [hnext, Pages.next, h.take?_eq_none (by omega)]
    simp only [h.exhausted hall, if_true]
    rw [← h.reader_eq]
    rfl
  · intro hall
    rw [List.length_map] at hall ⊢
    exact h.cursor_at.fetched_eq hanswered.positive (h.exhausted hall)

theorem sound_start {service : Service} (hholds : Holds service) :
    Sound items limit Holds place form (Reading.start (place .start) service) .start :=
  ⟨rfl, hholds, by simpa [start] using Cursor.At.start items limit, by simp [start], by simp [start]⟩

/-- Whatever happens in between, a reader that starts in front of a list gives out the list. -/
theorem faithful_actAll {service : Service} (hanswered : pages.Answered items limit Holds)
    (hfollows : Follows next pages items limit Holds place form wrap) (hholds : Holds service)
    (actions : List ReadAction) :
    ((Reading.start (place .start) service).actAll next actions).Faithful next (items.map form) limit
      pages.method pages.subject wrap := by
  obtain ⟨cursor, hsound⟩ := sound_actAll hanswered hfollows (sound_start hholds) actions
  exact hsound.faithful hanswered hfollows

end

end Reading

/-! ### Histories and queries -/

theorem Program.fetch_of_isSatisfied {cursor : HistoryCursor} {enough : List Event → Bool}
    (h : isSatisfied cursor enough = true) (budget : Nat) (service : Service) :
    fetch enough budget cursor service = (none, cursor, service) := by
  cases budget with
  | zero => rfl
  | succ budget => rw [fetch, if_pos h]

namespace HistoryCursor

/-- The next event of a history, with the cursor and the service behind it. -/
def nextEvent (cursor : HistoryCursor) (service : Service) :
    Except ResetError (Option Event) × HistoryCursor × Service :=
  let ((result, cursor), service) := cursor.next.run service
  (result, cursor, service)

variable {cursor : HistoryCursor} {service : Service}

/-- No page is needed while there are events, and at the end. -/
theorem nextEvent_of_settled
    (h : (cursor.pages.exhausted || !cursor.pages.buffered.isEmpty) = true) :
    cursor.nextEvent service =
      match cursor.pages.take? with
      | some (event, pages) => (.ok (some event), { cursor with pages }, service)
      | none => (.ok none, cursor, service) := by
  have hsatisfied : Program.isSatisfied cursor (fun events => !events.isEmpty) = true := h
  simp only [nextEvent, next, Program.run, Program.fetch_of_isSatisfied hsatisfied]
  cases cursor.pages.take? <;> rfl

section

variable {service' : Service} (hopen : cursor.pages.exhausted = false)
  (htake : cursor.pages.take? = none)

include hopen htake

theorem nextEvent_of_error {error : ServiceError}
    (hcall : service.call (.history cursor.request) = (.error error, service')) :
    cursor.nextEvent service =
      (.error (.historyFetch cursor.workflowId cursor.runId error), cursor, service') := by
  have hneeds : Program.isSatisfied cursor (fun events => !events.isEmpty) = false := by
    simp [Program.isSatisfied, hopen, Cursor.take?_eq_none.mp htake]
  simp [nextEvent, next, Program.run, Program.pageBudget, Program.fetch, hneeds, hcall, htake,
    Procedure.fetchError]

/-- A page that settles the cursor is all that the next event takes. -/
theorem nextEvent_of_page {page : Page Event}
    (hcall : service.call (.history cursor.request) = (.ok page, service'))
    (hsettled : ((cursor.pages.receive page).exhausted ||
      !(cursor.pages.receive page).buffered.isEmpty) = true) :
    cursor.nextEvent service = (cursor.receive page).nextEvent service' := by
  have hneeds : Program.isSatisfied cursor (fun events => !events.isEmpty) = false := by
    simp [Program.isSatisfied, hopen, Cursor.take?_eq_none.mp htake]
  have hsatisfied :
      Program.isSatisfied (cursor.receive page) (fun events => !events.isEmpty) = true := hsettled
  simp [nextEvent, next, Program.run, Program.pageBudget, Program.fetch, hneeds, hcall,
    Program.fetch_of_isSatisfied hsatisfied]

end

theorem nextEvent_follows {events : List Event} {domain workflowId runId : String}
    {pageSize limit : Nat} {Holds : Service → Prop}
    (hanswered : (Pages.ofHistory domain workflowId runId pageSize).Answered events limit Holds) :
    Reading.Follows nextEvent (.ofHistory domain workflowId runId pageSize) events limit Holds
      (fun pages => ⟨domain, workflowId, runId, pageSize, pages⟩) id
      (.historyFetch workflowId runId) := by
  intro cursor service fetched taken hholds hat
  let reader : HistoryCursor := ⟨domain, workflowId, runId, pageSize, cursor⟩
  rw [Pages.next]
  cases htake : cursor.take? with
  | some found =>
      have hbuffered := (Cursor.take?_eq_some htake).1
      rw [nextEvent_of_settled (by simp [hbuffered])]
      simp only [htake]
      rfl
  | none =>
      cases hover : cursor.exhausted with
      | true =>
          rw [nextEvent_of_settled (by simp [hover])]
          simp only [htake, if_true]
          rfl
      | false =>
          rw [if_neg (by simp)]
          cases hask : (Pages.ofHistory domain workflowId runId pageSize).ask service cursor.token with
          | mk answer service' =>
              cases answer with
              | error error =>
                  have hcall : service.call (.history reader.request) = (.error error, service') := hask
                  rw [nextEvent_of_error hover htake hcall]
                  rfl
              | ok page =>
                  have hcall : service.call (.history reader.request) = (.ok page, service') := hask
                  have hsettled := hanswered.settled hholds hat hover htake (congrArg Prod.fst hask)
                  rw [nextEvent_of_page hover htake hcall hsettled, nextEvent_of_settled hsettled]
                  simp only [receive]
                  cases (cursor.receive page).take? <;> rfl

end HistoryCursor

namespace Source

/-- A source with a query, at a place in its answers. -/
def ofQuery (domain query : String) (exclusions : ExclusionSet) (pages : Cursor WorkflowRef) :
    Source :=
  ⟨.query ⟨domain, query, pages⟩, exclusions⟩

section

variable {domain query : String} {exclusions : ExclusionSet} {pages : Cursor WorkflowRef}

/-- No page is needed while there are answers, and at the end. -/
theorem nextWithin_of_settled (h : (pages.exhausted || !pages.buffered.isEmpty) = true)
    (budget : Nat) (service : Service) :
    nextWithin (budget + 1) (ofQuery domain query exclusions pages) service =
      match pages.take? with
      | some (ref, rest) =>
          (.ok (some (mark exclusions ref)), ofQuery domain query exclusions rest, service)
      | none => (.ok none, ofQuery domain query exclusions pages, service) := by
  cases htake : pages.take? with
  | some found => simp [nextWithin, poll, ofQuery, htake]
  | none =>
      rw [Cursor.take?_eq_none.mp htake] at h
      simp at h
      simp [nextWithin, poll, ofQuery, htake, h]

theorem next_follows {found : List WorkflowRef} {limit : Nat} {Holds : Service → Prop}
    (hanswered : (Pages.ofQuery domain query).Answered found limit Holds) :
    Reading.Follows next (.ofQuery domain query) found limit Holds (ofQuery domain query exclusions)
      (mark exclusions) .service := by
  intro cursor service fetched taken hholds hat
  obtain ⟨budget, hbudget⟩ : ∃ budget,
      pageBudget (ofQuery domain query exclusions cursor) service = budget + 2 := ⟨_, rfl⟩
  rw [Pages.next, next, hbudget]
  cases htake : cursor.take? with
  | some taken =>
      have hbuffered := (Cursor.take?_eq_some htake).1
      rw [nextWithin_of_settled (by simp [hbuffered])]
      simp only [htake]
      rfl
  | none =>
      cases hover : cursor.exhausted with
      | true =>
          rw [nextWithin_of_settled (by simp [hover])]
          simp only [htake, if_true]
          rfl
      | false =>
          rw [if_neg (by simp)]
          have hpoll : poll (ofQuery domain query exclusions cursor) =
              (.ask ⟨domain, query, defaultPageSize, cursor.token⟩,
                ofQuery domain query exclusions cursor) := by
            simp [poll, ofQuery, htake, hover, QueryTargets.request]
          rw [nextWithin, hpoll]
          cases hask : (Pages.ofQuery domain query).ask service cursor.token with
          | mk answer service' =>
              have hcall : service.call (.scan ⟨domain, query, defaultPageSize, cursor.token⟩) =
                  (answer, service') := hask
              simp only [hcall]
              cases answer with
              | error error => rfl
              | ok page =>
                  have hsettled := hanswered.settled hholds hat hover htake (congrArg Prod.fst hask)
                  have hreceive : (ofQuery domain query exclusions cursor).receive page =
                      ofQuery domain query exclusions (cursor.receive page) := rfl
                  simp only [hreceive]
                  rw [nextWithin_of_settled hsettled]
                  cases (cursor.receive page).take? <;> rfl

end

end Source

namespace Service

/-- Whatever is done to a service while the history of a run or the answers to a query are read, the
reader gives out these items and no others, each once and in order. A list in memory has fewer entries
than a machine word can count. -/
theorem paging_transparent (service : Service) (actions : List ReadAction)
    (hcap : 1 ≤ service.store.pageCap) (htime : service.missed? = none) :
    (∀ domain workflowId runId pageSize run, runId ≠ "" → service.store.Fresh →
      service.store.runs workflowId runId = some run → run.history.length < UInt64.size →
      ((Reading.start ((HistoryCursor.start domain workflowId runId).withPageSize pageSize)
        service).actAll HistoryCursor.nextEvent actions).Faithful HistoryCursor.nextEvent run.history
          (min (max 1 pageSize) service.store.pageCap) .getHistory workflowId
          (.historyFetch workflowId runId)) ∧
    ∀ domain query exclusions, (service.store.visibility query).length < UInt64.size →
      ((Reading.start (⟨.query ⟨domain, query, .start⟩, exclusions⟩ : Source) service).actAll
        Source.next actions).Faithful Source.next
          ((service.store.visibility query).map (Source.mark exclusions))
          (min defaultPageSize service.store.pageCap) .scan query .service := by
  constructor
  · intro domain workflowId runId pageSize run hid hfresh hrun hshort
    have hanswered := Pages.ofHistory_answered domain workflowId pageSize hid hcap hshort
    have hfaithful := Reading.faithful_actAll hanswered (HistoryCursor.nextEvent_follows hanswered)
      ⟨htime, rfl, hfresh, hrun⟩ actions
    rwa [List.map_id] at hfaithful
  · intro domain query exclusions hshort
    have hanswered := Pages.ofQuery_answered domain query hcap hshort
    exact Reading.faithful_actAll hanswered (Source.next_follows hanswered) ⟨htime, rfl, rfl⟩ actions

/-- A service whose pages hold two entries. -/
def samplePages : Service :=
  .ofStore { Store.sampleFixture.store Store.sampleNaming with pageCap := 2 }

/-- The second page fails at first, and then the workflow gets another run. -/
def sampleActions : List ReadAction :=
  [.next, .next, .operation (.failNext .getHistory "pay" ⟨.unavailable, "busy"⟩), .next,
    .operation (.call (.reset (Store.sampleReset 2))), .next, .next]

/-- The cursor that reads the run of the sample. -/
def sampleCursor : HistoryCursor :=
  (HistoryCursor.start "default" "pay" "base").withPageSize 1000

/-- The source that reads the answers to its query. -/
def sampleSource : Source :=
  ⟨.query ⟨"default", "all", .start⟩, .empty⟩

theorem paging_transparent_sample :
    ((Reading.start sampleCursor samplePages).actAll HistoryCursor.nextEvent sampleActions).given =
      [some (.started 1 none), some (.taskScheduled 2), some (.taskCompleted 3 2), none] ∧
    ((Reading.start sampleCursor samplePages).actAll HistoryCursor.nextEvent
      sampleActions).fetches = 2 ∧
    ((Reading.start sampleSource samplePages).actAll Source.next sampleActions).Faithful Source.next
      [.target ⟨"pay", none⟩] 2 .scan "all" .service := by
  obtain ⟨hhistory, hquery⟩ := paging_transparent samplePages sampleActions (by decide) rfl
  have hfresh : samplePages.store.Fresh :=
    ⟨Store.sampleFixture_fresh.distinct, Store.sampleFixture_fresh.unused⟩
  have hfaithful := hhistory "default" "pay" "base" 1000 _ (by decide) hfresh rfl (by decide)
  have hgiven : ((Reading.start sampleCursor samplePages).actAll HistoryCursor.nextEvent
      sampleActions).given =
        [some (.started 1 none), some (.taskScheduled 2), some (.taskCompleted 3 2), none] := by
    decide +kernel
  refine ⟨hgiven, ?_, hquery "default" "all" .empty (by decide)⟩
  have hall : ((Reading.start sampleCursor samplePages).actAll HistoryCursor.nextEvent
      sampleActions).given.length = 4 := by rw [hgiven]; rfl
  exact hfaithful.fetches_eq (hall.symm ▸ by decide)

end Service

end Rewind
