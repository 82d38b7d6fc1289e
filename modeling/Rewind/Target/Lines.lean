import Rewind.Files
import Rewind.Target.Line
import Rewind.Text.Lines

/-!
Files of targets, read line by line.

A line that is not UTF-8 is an error of its own and is not counted; reading can go on behind it.
-/

namespace Rewind

/-- The lines of a file that are still to be read. -/
inductive LineFeed where
  | lines (rest : List (List UInt8))
  /-- Every attempt to read fails. -/
  | broken (fault : FileFault)
deriving DecidableEq, Repr

namespace LineFeed

/-- A directory can be opened like a file, and then not be read. -/
def ofContent : FileContent → LineFeed
  | .bytes content => .lines (Text.rawLines content)
  | .directory => .broken .isADirectory

/-- An upper bound of the lines that are left. -/
def size : LineFeed → Nat
  | .lines rest => rest.length
  | .broken _ => 0

end LineFeed

/-- A file of targets at the place up to which it was read. -/
structure TargetFile where
  path : String
  separator : String
  /-- The number of lines read so far. -/
  line : Nat
  feed : LineFeed
deriving DecidableEq, Repr

namespace TargetFile

/-- The start of a file. -/
def start (path separator : String) (content : FileContent) : TargetFile :=
  ⟨path, separator, 0, .ofContent content⟩

/-- Skips blank lines and comments up to the next target, or to an error. -/
def nextFrom (path separator : String) (line : Nat) :
    List (List UInt8) → Except ResetError (Option WorkflowRef) × TargetFile
  | [] => (.ok none, ⟨path, separator, line, .lines []⟩)
  | raw :: rest =>
      match Text.lineText raw with
      | .error fault =>
          (.error (.inputFile path (.badLine fault)), ⟨path, separator, line, .lines rest⟩)
      | .ok text =>
          match TargetLine.parse text separator (line + 1) with
          | .ok (.target ref) => (.ok (some ref), ⟨path, separator, line + 1, .lines rest⟩)
          | .ok _ => nextFrom path separator (line + 1) rest
          | .error error => (.error error, ⟨path, separator, line + 1, .lines rest⟩)

/-- The next target, or none at the end of the file. -/
def next (file : TargetFile) : Except ResetError (Option WorkflowRef) × TargetFile :=
  match file.feed with
  | .lines rest => nextFrom file.path file.separator file.line rest
  | .broken fault => (.error (.inputFile file.path fault), file)

end TargetFile

end Rewind
