import Rewind.Service.Message

/-!
Cursors: places in a paged list.

A cursor holds the items that it has received and not yet given out, and the token of the next page.
The token moves on only when a page arrives, so a failed fetch loses nothing.
-/

namespace Rewind

/-- A place in a paged list. -/
structure Cursor (α : Type) where
  /-- The items received and not yet taken. -/
  buffered : List α
  /-- Where the next page starts. -/
  token : Option Token
  /-- Whether the last page was received. -/
  exhausted : Bool
deriving DecidableEq, Repr, Inhabited

namespace Cursor

variable {α : Type}

/-- The start of a list. -/
def start : Cursor α :=
  ⟨[], none, false⟩

/-- Takes in the next page. -/
def receive (cursor : Cursor α) (page : Page α) : Cursor α :=
  { buffered := cursor.buffered ++ page.items
    token := if hasMore page.token then page.token else cursor.token
    exhausted := !hasMore page.token }

/-- Gives out the first item that is there. -/
def take? (cursor : Cursor α) : Option (α × Cursor α) :=
  match cursor.buffered with
  | item :: rest => some (item, { cursor with buffered := rest })
  | [] => none

end Cursor

/-- A place in the history of one run. -/
structure HistoryCursor where
  domain : String
  workflowId : String
  runId : String
  pageSize : Nat
  pages : Cursor Event
deriving DecidableEq, Repr, Inhabited

namespace HistoryCursor

/-- The start of a run's history. -/
def start (domain workflowId runId : String) : HistoryCursor :=
  ⟨domain, workflowId, runId, defaultPageSize, .start⟩

/-- Asks for at least one event a page. -/
def withPageSize (cursor : HistoryCursor) (pageSize : Nat) : HistoryCursor :=
  { cursor with pageSize := max 1 pageSize }

/-- The request for the next page. -/
def request (cursor : HistoryCursor) : HistoryRequest :=
  ⟨cursor.domain, cursor.workflowId, cursor.runId, cursor.pageSize, cursor.pages.token⟩

def receive (cursor : HistoryCursor) (page : Page Event) : HistoryCursor :=
  { cursor with pages := cursor.pages.receive page }

end HistoryCursor

end Rewind
