import Rewind.Error

/-!
Files and directories around one working directory.

Paths are made of names with slashes between them. A name that stands before another one has to be a
directory, and a file can only be written where its directory is there. What lies outside of the
working directory is not known; only that the directories above it exist.
-/

namespace Rewind

/-- What a path leads to. -/
inductive FileContent where
  | bytes (content : List UInt8)
  | directory
deriving DecidableEq, Repr, Inhabited

/-- The entries below a directory, by the names that lead to them. -/
structure Files where
  entries : List (List String × FileContent)
deriving DecidableEq, Repr, Inhabited

namespace Files

def empty : Files :=
  ⟨[]⟩

/-- The directory above a place. -/
def above (place : List String) : List String :=
  if place.all (· = "..") then ".." :: place else place.dropLast

/-- The entry at a place; the working directory and those above it are always there. -/
def at? (files : Files) (place : List String) : Option FileContent :=
  if place.all (· = "..") then some .directory
  else (files.entries.find? (·.1 = place)).map Prod.snd

/-- Puts an entry in place of what was there. -/
def set (files : Files) (place : List String) (content : FileContent) : Files :=
  ⟨files.entries.filter (·.1 ≠ place) ++ [(place, content)]⟩

/-- The parts between the slashes. -/
def splitNames : List Char → List (List Char)
  | [] => [[]]
  | '/' :: rest => [] :: splitNames rest
  | c :: rest =>
      match splitNames rest with
      | [] => [[c]]
      | name :: names => (c :: name) :: names

/-- The names of a path, also the ones that mean the same or the directory above. -/
def parts (path : String) : List String :=
  ((splitNames path.toList).map String.ofList).filter (· ≠ "")

/-- The names of a path that lead somewhere. -/
def names (path : String) : List String :=
  (parts path).filter (· ≠ ".")

/-- Where the last name of a path stands. -/
inductive Location where
  /-- A name, which may mean nothing yet, in a directory. -/
  | entry (directory : List String) (name : String)
  /-- A directory that the path does not name: the last part is a dot or two, or there is none. -/
  | directory
deriving DecidableEq, Repr

/-- Goes into the directory of that name. -/
def enter (files : Files) (place : List String) (name : String) :
    Except FileFault (List String) :=
  if name = "." then .ok place
  else if name = ".." then .ok (above place)
  else if name.utf8ByteSize > 255 then .error .nameTooLong
  else
    match files.at? (place ++ [name]) with
    | some .directory => .ok (place ++ [name])
    | some (.bytes _) => .error .notADirectory
    | none => .error .notFound

/-- Goes through all names but the last, which have to be directories. -/
def locate (files : Files) (path : String) : Except FileFault Location :=
  if path.toList.contains (Char.ofNat 0) then .error .nulInName
  else if path = "" then .error .notFound
  else if path.utf8ByteSize > 4095 then .error .nameTooLong
  else if path.startsWith "/" && !(names path).isEmpty then .error .notFound
  else
    ((parts path).dropLast.foldlM files.enter []).map fun place =>
      match (parts path).getLast? with
      | none | some "." | some ".." => .directory
      | some name => .entry place name

/-- What stands under a name, if anything does. -/
def lookUp (files : Files) (place : List String) (name : String) :
    Except FileFault (Option FileContent) :=
  if name.utf8ByteSize > 255 then .error .nameTooLong else .ok (files.at? (place ++ [name]))

/-- What a path leads to. A slash behind a name asks for a directory. -/
def read (files : Files) (path : String) : Except FileFault FileContent := do
  match ← files.locate path with
  | .directory => .ok .directory
  | .entry place name =>
      match ← files.lookUp place name with
      | none => .error .notFound
      | some .directory => .ok .directory
      | some content => if path.endsWith "/" then .error .notADirectory else .ok content

/-- Makes one directory. -/
def makeDirectory (files : Files) (path : String) : Except FileFault Files := do
  match ← files.locate path with
  | .directory => .error .alreadyThere
  | .entry place name =>
      match ← files.lookUp place name with
      | some _ => .error .alreadyThere
      | none => .ok (files.set (place ++ [name]) .directory)

/-- Makes a directory, unless it is there. -/
def ensureDirectory (files : Files) (path : String) : Except FileFault Files :=
  match files.makeDirectory path with
  | .ok files => .ok files
  | .error fault =>
      match files.read path with
      | .ok .directory => .ok files
      | _ => .error fault

/-- Makes a directory, and those above it that are missing. The directories are given by their
names, the innermost first. -/
def makeDirectories (files : Files) : List String → Except FileFault Files
  | [] => .ok files
  | name :: outer =>
      let path := "/".intercalate (name :: outer).reverse
      match files.ensureDirectory path with
      | .ok files => .ok files
      | .error .notFound =>
          (files.makeDirectories outer).bind fun files => files.ensureDirectory path
      | .error fault => .error fault

/-- Writes a file whose directory is there. A slash behind its name asks for a directory. -/
def write (files : Files) (path : String) (content : List UInt8) : Except FileFault Files := do
  match ← files.locate path with
  | .directory => .error .isADirectory
  | .entry place name =>
      if path.endsWith "/" then .error .isADirectory
      else
        match ← files.lookUp place name with
        | some .directory => .error .isADirectory
        | _ => .ok (files.set (place ++ [name]) (.bytes content))

/-- The directories above the last name of a path, the innermost first. -/
def parents (path : String) : List String :=
  (names path).reverse.drop 1

/-- Writes a file, and makes the directories above it first. -/
def writeWithParents (files : Files) (path : String) (content : List UInt8) :
    Except FileFault Files :=
  let outer := if path.startsWith "/" then [] else parents path
  (files.makeDirectories outer).bind fun files => files.write path content

/-- Puts an entry where a path leads, with all directories above it. -/
def add (files : Files) (path : String) (content : FileContent) : Files :=
  (addAbove files (parents path)).set (names path) content
where
  addAbove (files : Files) : List String → Files
    | [] => files
    | name :: above =>
        let place := (name :: above).reverse
        match files.at? place with
        | some _ => addAbove files above
        | none => (addAbove files above).set place .directory

end Files

end Rewind
