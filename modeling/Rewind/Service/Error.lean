import Rewind.Json.Record

/-!
Failures that a workflow service reports.
-/

namespace Rewind

inductive ServiceErrorKind where
  | notFound
  | invalidArgument
  | deadlineExceeded
  | unavailable
  | internal
deriving DecidableEq, Repr, Inhabited

namespace ServiceErrorKind

def all : List ServiceErrorKind :=
  [.notFound, .invalidArgument, .deadlineExceeded, .unavailable, .internal]

def name : ServiceErrorKind → String
  | .notFound => "NotFound"
  | .invalidArgument => "InvalidArgument"
  | .deadlineExceeded => "DeadlineExceeded"
  | .unavailable => "Unavailable"
  | .internal => "Internal"

/-- The kind in words. -/
def text : ServiceErrorKind → String
  | .notFound => "not found"
  | .invalidArgument => "invalid argument"
  | .deadlineExceeded => "deadline exceeded"
  | .unavailable => "unavailable"
  | .internal => "internal"

def ofName? (name : String) : Option ServiceErrorKind :=
  all.find? (·.name = name)

def toJson (kind : ServiceErrorKind) : Json :=
  .str kind.name

def ofJson : Json.Decoder ServiceErrorKind :=
  Json.asUnitVariant ofName?

theorem ofName?_name (kind : ServiceErrorKind) : ofName? kind.name = some kind := by
  cases kind <;> rfl

end ServiceErrorKind

/-- A failed call. -/
structure ServiceError where
  kind : ServiceErrorKind
  message : String
deriving DecidableEq, Repr, Inhabited

namespace ServiceError

def text (error : ServiceError) : String :=
  s!"{error.kind.text}: {error.message}"

/-- Whether the same call may succeed later: not if what it names is missing or wrong. -/
def isRetryable (error : ServiceError) : Bool :=
  error.kind ≠ .notFound && error.kind ≠ .invalidArgument

end ServiceError

end Rewind
