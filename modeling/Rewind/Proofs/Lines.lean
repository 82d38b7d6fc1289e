import Rewind.Text.Lines

/-!
How files are laid out in lines.

Every line but the last ends with a line feed, which a carriage return may stand in front of. Only the
last line may do without a line end, and then it is not empty.

Main statements: every file is laid out in lines (`Text.exists_laidOut`), in one way, which is the one
that reading it finds (`Text.laidOut_iff`).
-/

namespace Rewind.Text

variable {body content : List UInt8} {bodies : List (List UInt8)}

/-- The lines of a file, without their line ends. -/
inductive LaidOut : List UInt8 → List (List UInt8) → Prop where
  | empty : LaidOut [] []
  | unended {body : List UInt8} (hne : body ≠ []) (hfeed : 0x0A ∉ body) : LaidOut body [body]
  | lineFeed {body content : List UInt8} {bodies : List (List UInt8)} (hfeed : 0x0A ∉ body)
      (hreturn : body.getLast? ≠ some 0x0D) (later : LaidOut content bodies) :
      LaidOut (body ++ 0x0A :: content) (body :: bodies)
  | carriageReturn {body content : List UInt8} {bodies : List (List UInt8)} (hfeed : 0x0A ∉ body)
      (later : LaidOut content bodies) :
      LaidOut (body ++ 0x0D :: 0x0A :: content) (body :: bodies)

/-- A line ends at the first line feed. -/
theorem rawLines_append (hfeed : 0x0A ∉ body) (content : List UInt8) :
    rawLines (body ++ 0x0A :: content) = (body ++ [0x0A]) :: rawLines content := by
  induction body with
  | nil => rfl
  | cons b body ih =>
      obtain ⟨hb, hbody⟩ := not_or.mp (mt List.mem_cons.mpr hfeed)
      rw [List.cons_append, rawLines, if_neg (Ne.symm hb), ih hbody]
      rfl

theorem rawLines_of_not_mem (hne : body ≠ []) (hfeed : 0x0A ∉ body) : rawLines body = [body] := by
  induction body with
  | nil => exact absurd rfl hne
  | cons b body ih =>
      obtain ⟨hb, hbody⟩ := not_or.mp (mt List.mem_cons.mpr hfeed)
      rw [rawLines, if_neg (Ne.symm hb)]
      cases body with
      | nil => rfl
      | cons b' body => rw [ih (List.cons_ne_nil b' body) hbody]

theorem withoutLineEnd_of_not_mem (hfeed : 0x0A ∉ body) : withoutLineEnd body = body := by
  unfold withoutLineEnd
  split
  · next h => exact absurd (List.mem_reverse.mp (h ▸ List.mem_cons_self)) hfeed
  · next h => exact absurd (List.mem_reverse.mp (h ▸ List.mem_cons_self)) hfeed
  · rfl

theorem withoutLineEnd_lineFeed (hreturn : body.getLast? ≠ some 0x0D) :
    withoutLineEnd (body ++ [0x0A]) = body := by
  rw [← List.head?_reverse] at hreturn
  unfold withoutLineEnd
  rw [List.reverse_append, List.reverse_singleton, List.singleton_append]
  split
  · next h =>
      rw [List.cons.injEq] at h
      exact absurd (by rw [h.2]; rfl) hreturn
  · next h =>
      rw [List.cons.injEq] at h
      rw [← h.2, List.reverse_reverse]
  · next hother => exact absurd rfl (hother _)

theorem withoutLineEnd_carriageReturn (body : List UInt8) :
    withoutLineEnd (body ++ [0x0D, 0x0A]) = body := by
  unfold withoutLineEnd
  rw [List.reverse_append]
  exact List.reverse_reverse body

/-- The lines that reading finds are those that the file is laid out in. -/
theorem LaidOut.eq_rawLines (h : LaidOut content bodies) :
    bodies = (rawLines content).map withoutLineEnd := by
  induction h with
  | empty => rfl
  | unended hne hfeed =>
      rw [rawLines_of_not_mem hne hfeed, List.map_singleton, withoutLineEnd_of_not_mem hfeed]
  | lineFeed hfeed hreturn _ ih =>
      rw [rawLines_append hfeed, List.map_cons, withoutLineEnd_lineFeed hreturn, ih]
  | @carriageReturn body content bodies hfeed _ ih =>
      have hbody : 0x0A ∉ body ++ [0x0D] := by simpa using hfeed
      rw [List.append_cons, rawLines_append hbody, List.map_cons, List.append_assoc,
        List.singleton_append, withoutLineEnd_carriageReturn, ih]

/-- Every file is laid out in lines. -/
theorem exists_laidOut (content : List UInt8) : ∃ bodies, LaidOut content bodies := by
  induction hlength : content.length using Nat.strongRecOn generalizing content with
  | ind length ih =>
      by_cases hmem : (0x0A : UInt8) ∈ content
      · obtain ⟨front, later, rfl, hfeed⟩ := List.eq_append_cons_of_mem hmem
        obtain ⟨bodies, hbodies⟩ := ih later.length (by simp at hlength; omega) later rfl
        by_cases hreturn : front.getLast? = some 0x0D
        · obtain ⟨body, rfl⟩ := List.getLast?_eq_some_iff.mp hreturn
          rw [List.append_assoc]
          exact ⟨_, .carriageReturn (fun hbody => hfeed (List.mem_append_left _ hbody)) hbodies⟩
        · exact ⟨_, .lineFeed hfeed hreturn hbodies⟩
      · by_cases hne : content = []
        · exact ⟨[], hne ▸ .empty⟩
        · exact ⟨[content], .unended hne hmem⟩

theorem laidOut_iff : LaidOut content bodies ↔ bodies = (rawLines content).map withoutLineEnd := by
  constructor
  · exact LaidOut.eq_rawLines
  · rintro rfl
    obtain ⟨bodies, h⟩ := exists_laidOut content
    rwa [← h.eq_rawLines]

end Rewind.Text
