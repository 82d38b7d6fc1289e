import Rewind.Config
import Rewind.History.Cursor
import Rewind.Service.Basic
import Rewind.Target.Exclusions

/-!
Sources of targets: a file, or the answers to a visibility query.

A source is asked for its next item by `poll`. A file answers at once. A query answers from the page
at hand, and else asks for the next page, which `receive` takes in; a page that can not be fetched
stays the next one. Items whose workflow is excluded are marked.
-/

namespace Rewind

/-- What a source gives out. -/
inductive SourceItem where
  | target (ref : WorkflowRef)
  | excluded (ref : WorkflowRef)
deriving DecidableEq, Repr, Inhabited

def SourceItem.ref : SourceItem → WorkflowRef
  | .target ref => ref
  | .excluded ref => ref

/-- A place in the answers to a query. -/
structure QueryTargets where
  domain : String
  query : String
  pages : Cursor WorkflowRef
deriving DecidableEq, Repr

/-- The request for the next page of answers. -/
def QueryTargets.request (targets : QueryTargets) : ScanRequest :=
  ⟨targets.domain, targets.query, defaultPageSize, targets.pages.token⟩

/-- Where targets are taken from. -/
inductive TargetFeed where
  | file (file : TargetFile)
  | query (targets : QueryTargets)
deriving DecidableEq, Repr

/-- A source at the place up to which it was read. -/
structure Source where
  feed : TargetFeed
  exclusions : ExclusionSet
deriving DecidableEq, Repr

/-- What a source answers when it is asked for an item. -/
inductive Poll where
  /-- The next item, or none at the end. -/
  | answer (result : Except ResetError (Option SourceItem))
  /-- A page has to be fetched first. -/
  | ask (request : ScanRequest)
deriving Repr

namespace Source

/-- Opens a source; `files` gives the content of a path. -/
def start (files : String → Except FileFault FileContent) (input : TargetInput)
    (domain : String) (exclusions : ExclusionSet) : Except ResetError Source :=
  match input with
  | .file path separator =>
      match files path with
      | .ok content => .ok ⟨.file (.start path separator content), exclusions⟩
      | .error fault => .error (.inputFile path fault)
  | .query query => .ok ⟨.query ⟨domain, query, .start⟩, exclusions⟩

/-- Marks a reference to an excluded workflow. -/
def mark (exclusions : ExclusionSet) (ref : WorkflowRef) : SourceItem :=
  if exclusions.contains ref.workflowId then .excluded ref else .target ref

/-- Asks for the next item. -/
def poll (source : Source) : Poll × Source :=
  match source.feed with
  | .file file =>
      let (result, file) := file.next
      (.answer (result.map fun ref => ref.map (mark source.exclusions)),
        { source with feed := .file file })
  | .query targets =>
      match targets.pages.take? with
      | some (ref, pages) =>
          (.answer (.ok (some (mark source.exclusions ref))),
            { source with feed := .query { targets with pages } })
      | none =>
          if targets.pages.exhausted then (.answer (.ok none), source)
          else (.ask targets.request, source)

/-- Whether the next item takes another page. -/
def needsPage (source : Source) : Bool :=
  match source.feed with
  | .file _ => false
  | .query targets => targets.pages.take?.isNone && !targets.pages.exhausted

/-- Whether items come from a file. -/
def isFile (source : Source) : Bool :=
  match source.feed with
  | .file _ => true
  | .query _ => false

/-- Takes in a page that was asked for. -/
def receive (source : Source) (page : Page WorkflowRef) : Source :=
  match source.feed with
  | .file _ => source
  | .query targets =>
      { source with feed := .query { targets with pages := targets.pages.receive page } }

/-- Asks until there is an answer, fetching at most `budget` pages. -/
def nextWithin : Nat → Source → Service → Except ResetError (Option SourceItem) × Source × Service
  | 0, source, service => (.ok none, source, service)
  | budget + 1, source, service =>
      match source.poll with
      | (.answer result, source) => (result, source, service)
      | (.ask request, source) =>
          match service.call (.scan request) with
          | (.ok page, service) => nextWithin budget (source.receive page) service
          | (.error error, service) => (.error (.service error), source, service)

/-- More pages than it takes to reach an answer: each page but the last has an entry. -/
def pageBudget (source : Source) (service : Service) : Nat :=
  match source.feed with
  | .file _ => 1
  | .query targets => (service.store.visibility targets.query).length + 2

/-- The next item of a source, or none at its end. -/
def next (source : Source) (service : Service) :
    Except ResetError (Option SourceItem) × Source × Service :=
  nextWithin (source.pageBudget service) source service

end Source

end Rewind
