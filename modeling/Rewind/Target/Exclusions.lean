import Rewind.Target.Lines

/-!
Workflows that are never reset.

An exclude file has the form of a file of targets; only its first column counts.
-/

namespace Rewind

/-- A set of workflow ids. -/
structure ExclusionSet where
  /-- The ids, each once. -/
  ids : List String
deriving DecidableEq, Repr, Inhabited

namespace ExclusionSet

def empty : ExclusionSet :=
  ⟨[]⟩

def contains (set : ExclusionSet) (workflowId : String) : Bool :=
  set.ids.contains workflowId

def insert (set : ExclusionSet) (workflowId : String) : ExclusionSet :=
  if set.contains workflowId then set else ⟨set.ids ++ [workflowId]⟩

def ofList (ids : List String) : ExclusionSet :=
  ids.foldl insert empty

def size (set : ExclusionSet) : Nat :=
  set.ids.length

/-- Adds the workflows that lines name, the first of which has number `line + 1`. -/
def readLines (path separator : String) (line : Nat) (set : ExclusionSet) :
    List (List UInt8) → Except ResetError ExclusionSet
  | [] => .ok set
  | raw :: rest =>
      match Text.lineText raw with
      | .error fault => .error (.inputFile path (.badLine fault))
      | .ok text =>
          match TargetLine.parse text separator (line + 1) with
          | .ok (.target ref) =>
              readLines path separator (line + 1) (set.insert ref.workflowId) rest
          | .ok _ => readLines path separator (line + 1) set rest
          | .error error => .error error

/-- Reads an exclude file. One line that can not be read makes the whole file unreadable. -/
def read (path separator : String) (content : FileContent) : Except ResetError ExclusionSet :=
  match LineFeed.ofContent content with
  | .lines rest => readLines path separator 0 empty rest
  | .broken fault => .error (.inputFile path fault)

/-- Opens and reads an exclude file; `files` gives the content of a path. -/
def load (files : String → Except FileFault FileContent) (path separator : String) :
    Except ResetError ExclusionSet :=
  match files path with
  | .ok content => read path separator content
  | .error fault => .error (.inputFile path fault)

end ExclusionSet

end Rewind
