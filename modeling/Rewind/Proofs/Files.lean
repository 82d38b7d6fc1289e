import Rewind.Files

/-!
What was written to a file is what is read from it.

A file is written where nothing or another file was, never over a directory. So all directories that
a path goes through are still there afterwards, and the same path leads to the same place.

Main statements: `Files.read_of_write` and `Files.read_of_writeWithParents`.
-/

namespace Rewind.Files

variable {files files' : Files} {place : List String} {path : String} {content : FileContent}

/-- A place that is not above the working directory holds what was put there. -/
theorem at?_set_self (h : place.all (· = "..") = false) :
    (files.set place content).at? place = some content := by
  have hnone : (files.entries.filter (·.1 ≠ place)).find? (·.1 = place) = none := by
    simp [List.find?_eq_none]
  simp only [at?, set, h, List.find?_append, hnone]
  simp

/-- Nothing changes anywhere else. -/
theorem at?_set_of_ne {other : List String} (h : other ≠ place) :
    (files.set place content).at? other = files.at? other := by
  have hkept : (files.entries.filter (·.1 ≠ place)).find? (·.1 = other)
      = files.entries.find? (·.1 = other) := by
    rw [List.find?_filter]
    congr 1
    funext entry
    by_cases hentry : entry.1 = other
    · simp [hentry, h]
    · simp [hentry]
  simp only [at?, set, List.find?_append, hkept]
  simp [h.symm]

/-- Directories that are entered stay where they are when something else is put somewhere. -/
theorem enter_set (hplace : files.at? place ≠ some .directory) {start target : List String}
    {name : String} (h : files.enter start name = .ok target) :
    (files.set place content).enter start name = .ok target := by
  unfold enter at h ⊢
  split
  · next hdot => rwa [if_pos hdot] at h
  next hdot =>
  rw [if_neg hdot] at h
  split
  · next hup => rwa [if_pos hup] at h
  next hup =>
  rw [if_neg hup] at h
  split
  · next hlong => rw [if_pos hlong] at h; cases h
  next hlong =>
  rw [if_neg hlong] at h
  cases hat : files.at? (start ++ [name]) with
  | none => rw [hat] at h; cases h
  | some found =>
      cases found with
      | bytes _ => rw [hat] at h; cases h
      | directory =>
          rw [hat] at h
          rw [at?_set_of_ne (by rintro rfl; exact hplace hat), hat]
          exact h

theorem foldlM_enter_set (hplace : files.at? place ≠ some .directory) (names : List String)
    {start target : List String} (h : names.foldlM files.enter start = .ok target) :
    names.foldlM (files.set place content).enter start = .ok target := by
  induction names generalizing start with
  | nil => exact h
  | cons name names ih =>
      rw [List.foldlM_cons] at h ⊢
      cases hfirst : files.enter start name with
      | error fault => rw [hfirst] at h; cases h
      | ok next =>
          rw [hfirst] at h
          rw [enter_set hplace hfirst]
          exact ih h

/-- A path that leads somewhere goes through directories, and nothing else decides where to. -/
theorem exists_of_locate {location : Location} (h : files.locate path = .ok location) :
    ∃ directory, (parts path).dropLast.foldlM files.enter [] = .ok directory
      ∧ ∀ others : Files, (parts path).dropLast.foldlM others.enter [] = .ok directory →
          others.locate path = .ok location := by
  cases hdirectory : (parts path).dropLast.foldlM files.enter [] with
  | error fault =>
      unfold locate at h
      rw [hdirectory] at h
      repeat' split at h
      all_goals cases h
  | ok directory =>
      refine ⟨directory, rfl, fun others hothers => ?_⟩
      rw [← h]
      unfold locate
      rw [hdirectory, hothers]

/-- A path leads where it did. -/
theorem locate_set (hplace : files.at? place ≠ some .directory) {location : Location}
    (h : files.locate path = .ok location) :
    (files.set place content).locate path = .ok location := by
  obtain ⟨directory, hdirectory, hlocate⟩ := exists_of_locate h
  exact hlocate _ (foldlM_enter_set hplace _ hdirectory)

/-- The name of an entry is no way upwards. -/
theorem ne_up_of_locate {name : String} (h : files.locate path = .ok (.entry place name)) :
    name ≠ ".." := by
  obtain ⟨directory, hdirectory, -⟩ := exists_of_locate h
  unfold locate at h
  rw [hdirectory] at h
  repeat' split at h
  all_goals simp only [Except.map, Except.ok.injEq, reduceCtorEq] at h
  next hup _ =>
    obtain ⟨-, rfl⟩ := Location.entry.inj h
    exact hup

/-- What was written is read. -/
theorem read_of_write {bytes : List UInt8} (h : files.write path bytes = .ok files') :
    files'.read path = .ok (.bytes bytes) := by
  simp only [write, bind, Except.bind] at h
  cases hlocate : files.locate path with
  | error fault => rw [hlocate] at h; cases h
  | ok location =>
      cases location with
      | directory => rw [hlocate] at h; cases h
      | entry place name =>
          simp only [hlocate] at h
          split at h
          · cases h
          next hslash =>
          by_cases hlong : name.utf8ByteSize > 255
          · simp only [lookUp, if_pos hlong, reduceCtorEq] at h
          have hentry : (place ++ [name]).all (· = "..") = false := by
            simp [ne_up_of_locate hlocate]
          simp only [lookUp, if_neg hlong] at h
          split at h
          · cases h
          · next hdirectory =>
              obtain rfl := Except.ok.inj h
              simp only [read, bind, Except.bind, locate_set hdirectory hlocate, lookUp,
                if_neg hlong, at?_set_self hentry]
              rw [if_neg hslash]

/-- What was written is read, also when directories were made before. -/
theorem read_of_writeWithParents {bytes : List UInt8}
    (h : files.writeWithParents path bytes = .ok files') :
    files'.read path = .ok (.bytes bytes) := by
  unfold writeWithParents at h
  dsimp only at h
  cases hmade : files.makeDirectories (if path.startsWith "/" then [] else parents path) with
  | error fault => rw [hmade] at h; cases h
  | ok made =>
      rw [hmade] at h
      exact read_of_write h

end Rewind.Files
