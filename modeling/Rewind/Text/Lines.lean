import Rewind.Text.Utf8

/-!
The lines of a file.

A line ends with a line feed, or with the file. A carriage return in front of the line feed belongs
to the line's end, and only what stands in front of that end has to be well formed.
-/

namespace Rewind.Text

/-- Cuts bytes behind every line feed. -/
def rawLines : List UInt8 → List (List UInt8)
  | [] => []
  | b :: rest =>
      if b = 0x0A then [b] :: rawLines rest
      else
        match rawLines rest with
        | [] => [[b]]
        | line :: lines => (b :: line) :: lines

/-- Takes off the line end: a line feed with at most one carriage return in front. -/
def withoutLineEnd (raw : List UInt8) : List UInt8 :=
  match raw.reverse with
  | 0x0A :: 0x0D :: rest => rest.reverse
  | 0x0A :: rest => rest.reverse
  | _ => raw

/-- The text of a line without its line end, if it is well formed. -/
def lineText (raw : List UInt8) : Except Utf8.Fault String :=
  Utf8.decode (withoutLineEnd raw)

/-- Every byte of a file is in one of its lines, in order. -/
theorem flatten_rawLines (bytes : List UInt8) : (rawLines bytes).flatten = bytes := by
  induction bytes with
  | nil => rfl
  | cons b rest ih =>
      simp only [rawLines]
      split
      · simp [ih]
      · cases h : rawLines rest with
        | nil => simp_all
        | cons line lines => simp_all

end Rewind.Text
