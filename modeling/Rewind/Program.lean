import Rewind.Error
import Rewind.History.Cursor
import Rewind.Service.Basic

/-!
Programs that call a workflow service.

A program is done with a value, or waits for the answer to one call, or makes a pause, or reads a
history page by page until it has seen enough of it. `Program.next` shows the one call or pause that
a program waits for, so several programs can be interleaved; `Program.run` makes all calls of one
program in a row.
-/

namespace Rewind

/-- A computation that calls a service. -/
inductive Program (α : Type) where
  | done (value : α)
  | call (request : Request) (resume : Except ServiceError request.Response → Program α)
  /-- Lets some time pass. -/
  | pause (resume : Unit → Program α)
  /-- Fetches pages until the events at hand are enough, the history ends, or a fetch fails. -/
  | read (cursor : HistoryCursor) (enough : List Event → Bool)
      (resume : Option ServiceError → HistoryCursor → Program α)

namespace Program

variable {α β : Type}

def bind : Program α → (α → Program β) → Program β
  | done value, f => f value
  | call request resume, f => call request fun answer => (resume answer).bind f
  | pause resume, f => pause fun rested => (resume rested).bind f
  | read cursor enough resume, f =>
      read cursor enough fun failure cursor => (resume failure cursor).bind f

instance : Monad Program where
  pure := done
  bind := bind

/-- Lets some time pass. -/
def rest : Program Unit :=
  pause done

/-- What a program does next: it ends, makes a call, or makes a pause. -/
inductive Next (α : Type) where
  | done (value : α)
  | ask (request : Request) (resume : Except ServiceError request.Response → Program α)
  | pause (resume : Program α)

/-- Whether a cursor needs no further page. -/
def isSatisfied (cursor : HistoryCursor) (enough : List Event → Bool) : Bool :=
  cursor.pages.exhausted || enough cursor.pages.buffered

/-- Goes on to the next call or pause. -/
def next : Program α → Next α
  | done value => .done value
  | call request resume => .ask request resume
  | pause resume => .pause (resume ())
  | read cursor enough resume =>
      if isSatisfied cursor enough then (resume none cursor).next
      else .ask (.history cursor.request) fun answer =>
        match answer with
        | .ok page => read (cursor.receive page) enough resume
        | .error error => resume (some error) cursor

/-- Fetches pages of a history, at most `budget` of them. -/
def fetch (enough : List Event → Bool) :
    Nat → HistoryCursor → Service → Option ServiceError × HistoryCursor × Service
  | 0, cursor, service => (none, cursor, service)
  | budget + 1, cursor, service =>
      if isSatisfied cursor enough then (none, cursor, service)
      else
        match service.call (.history cursor.request) with
        | (.ok page, service) => fetch enough budget (cursor.receive page) service
        | (.error error, service) => (some error, cursor, service)

/-- Enough pages for any history: each page but the last one has an event. -/
def pageBudget (service : Service) : Nat :=
  service.store.volume + 1

/-- Makes all calls of a program, one after the other. Pauses change nothing. -/
def run : Program α → Service → α × Service
  | done value, service => (value, service)
  | call request resume, service =>
      let (answer, service) := service.call request
      (resume answer).run service
  | pause resume, service => (resume ()).run service
  | read cursor enough resume, service =>
      let (failure, cursor, service) := fetch enough (pageBudget service) cursor service
      (resume failure cursor).run service

end Program

/-- A program that may fail. -/
abbrev Procedure (α : Type) := ExceptT ResetError Program α

namespace Procedure

/-- Makes a call whose failure is the program's failure. -/
def call (request : Request) : Procedure request.Response :=
  .mk (.call request fun answer => .done (answer.mapError .service))

/-- Asks what the service knows of a run. -/
def describe (request : DescribeRequest) : Procedure Description :=
  call (.describe request)

/-- Asks for a reset. -/
def reset (request : ResetRequest) : Procedure ResetResponse :=
  call (.reset request)

/-- The error of a failed fetch. -/
def fetchError (cursor : HistoryCursor) (error : ServiceError) : ResetError :=
  .historyFetch cursor.workflowId cursor.runId error

/-- Reads the events behind a cursor until they are enough. -/
def readUntil (enough : List Event → Bool) (cursor : HistoryCursor) : Procedure (List Event) :=
  .mk (.read cursor enough fun failure cursor => .done <|
    match failure with
    | some error => .error (fetchError cursor error)
    | none => .ok cursor.pages.buffered)

/-- Reads all events behind a cursor. -/
def readAll (cursor : HistoryCursor) : Procedure (List Event) :=
  readUntil (fun _ => false) cursor

/-- Runs a procedure against a service. -/
def run {α : Type} (procedure : Procedure α) (service : Service) :
    Except ResetError α × Service :=
  Program.run (ExceptT.run procedure) service

end Procedure

namespace HistoryCursor

/-- The next event of a history, or none at its end. The cursor keeps its place if a page can not
be fetched. -/
def next (cursor : HistoryCursor) :
    Program (Except ResetError (Option Event) × HistoryCursor) :=
  .read cursor (fun events => !events.isEmpty) fun failure cursor =>
    .done <|
      match cursor.pages.take? with
      | some (event, pages) => (.ok (some event), { cursor with pages })
      | none =>
          match failure with
          | some error => (.error (Procedure.fetchError cursor error), cursor)
          | none => (.ok none, cursor)

end HistoryCursor

end Rewind
