import Mathlib.Data.List.DropRight
import Rewind.Proofs.Split
import Rewind.Target.Line

/-!
Which lines are refused.

A line is trimmed as a whole before it is cut into columns, so blanks in front of its first column are
lost, and so are separators that are blank. A line is refused if it still begins with the separator
then.

Main statements: `parse_eq_malformedLine_iff`, `exists_ref_of_kept`, and `prefix_trim_iff` for lines
whose first column is blank.
-/

namespace Rewind

namespace Text

variable {text front back sep : List Char}

/-! ### Trimming -/

theorem trimEnd_eq_rdropWhile (text : List Char) : trimEnd text = text.rdropWhile isBlank :=
  rfl

theorem trim_eq_nil_iff : trim text = [] ↔ ∀ c ∈ text, isBlank c = true := by
  rw [trim, trimEnd_eq_rdropWhile, List.rdropWhile_eq_nil_iff, trimStart]
  constructor
  · intro hrest c hc
    rw [← List.takeWhile_append_dropWhile (p := isBlank) (l := text), List.mem_append] at hc
    exact hc.elim List.mem_takeWhile_imp (hrest c)
  · intro hall c hc
    exact hall c ((List.dropWhile_sublist isBlank).mem hc)

/-- A trimmed text begins with a character that is not blank. -/
theorem isBlank_of_trim_eq_cons {c : Char} {rest : List Char} (h : trim text = c :: rest) :
    isBlank c = false := by
  obtain ⟨behind, hbehind⟩ : trim text <+: trimStart text := List.rdropWhile_prefix isBlank _
  rw [h, List.cons_append] at hbehind
  have hhead := List.head?_dropWhile_not isBlank text
  rw [show text.dropWhile isBlank = c :: (rest ++ behind) from hbehind.symm] at hhead
  simpa using hhead

/-- Blanks in front do not matter. -/
theorem trim_append_of_blank (hfront : ∀ c ∈ front, isBlank c = true) (back : List Char) :
    trim (front ++ back) = trim back := by
  rw [trim, trim, trimStart, trimStart, List.dropWhile_append_of_pos hfront]

theorem trimEnd_append (front : List Char) (hback : trimEnd back ≠ []) :
    trimEnd (front ++ back) = front ++ trimEnd back := by
  have hreverse : back.reverse.dropWhile isBlank ≠ [] := by
    simpa [trimEnd] using hback
  rw [trimEnd, List.reverse_append, List.dropWhile_append,
    if_neg (by simpa [List.isEmpty_iff] using hreverse), List.reverse_append, List.reverse_reverse]
  rfl

theorem trimEnd_append_of_blank (front : List Char) (hback : ∀ c ∈ back, isBlank c = true) :
    trimEnd (front ++ back) = trimEnd front := by
  rw [trimEnd, List.reverse_append, List.dropWhile_append_of_pos (by simpa using hback)]
  rfl

/-! ### Separators behind blanks -/

/-- If a text begins with a separator, all of the separator is left when the text is trimmed. -/
structure Survives (sep back : List Char) : Prop where
  first : ∃ c ∈ sep.head?, isBlank c = false
  last : (∃ c ∈ sep.getLast?, isBlank c = false) ∨ ∃ c ∈ back, isBlank c = false

theorem prefix_trimEnd_iff (hsep : sep ≠ []) :
    sep <+: trimEnd sep ↔ ∃ c ∈ sep.getLast?, isBlank c = false := by
  rw [trimEnd_eq_rdropWhile]
  have hsame : sep <+: sep.rdropWhile isBlank ↔ sep.rdropWhile isBlank = sep :=
    ⟨fun hleads => (List.rdropWhile_prefix isBlank sep).eq_of_length_le hleads.length_le,
      fun heq => heq.symm ▸ List.prefix_rfl⟩
  rw [hsame, List.rdropWhile_eq_self_iff, List.getLast?_eq_some_getLast hsep]
  simp [hsep]

/-- Where a separator stands behind nothing but blanks, trimming leaves it in front or takes away some
of it. -/
theorem prefix_trim_iff (hsep : sep ≠ []) (hfront : ∀ c ∈ front, isBlank c = true)
    (back : List Char) : sep <+: trim (front ++ sep ++ back) ↔ Survives sep back := by
  rw [List.append_assoc, trim_append_of_blank hfront]
  cases sep with
  | nil => exact absurd rfl hsep
  | cons c rest =>
      cases hfirst : isBlank c with
      | true =>
          refine iff_of_false ?_ fun hsurvives => ?_
          · rintro ⟨behind, hbehind⟩
            exact absurd (isBlank_of_trim_eq_cons hbehind.symm) (by simp [hfirst])
          · obtain ⟨c', hc', hblank⟩ := hsurvives.first
            obtain rfl := Option.some.inj hc'
            exact absurd hblank (by simp [hfirst])
      | false =>
          have hstart : trim (c :: rest ++ back) = trimEnd (c :: rest ++ back) := by
            rw [trim, trimStart, List.cons_append, List.dropWhile_cons_of_neg (by simp [hfirst])]
          rw [hstart]
          by_cases hback : ∀ b ∈ back, isBlank b = true
          · rw [trimEnd_append_of_blank _ hback, prefix_trimEnd_iff hsep]
            refine ⟨fun hlast => ⟨⟨c, rfl, hfirst⟩, .inl hlast⟩, fun hsurvives => ?_⟩
            refine hsurvives.last.resolve_right ?_
            rintro ⟨b, hb, hblank⟩
            exact absurd hblank (by simp [hback b hb])
          · have hrest : trimEnd back ≠ [] := by
              rwa [trimEnd_eq_rdropWhile, ne_eq, List.rdropWhile_eq_nil_iff]
            rw [trimEnd_append _ hrest]
            refine iff_of_true (List.prefix_append _ _) ⟨⟨c, rfl, hfirst⟩, .inr ?_⟩
            simpa using hback

end Text

namespace TargetLine

open Text

variable {text separator : String} {line : Nat}

/-- A line that is neither blank nor a comment. -/
structure HasColumns (text : String) : Prop where
  notBlank : trim text.toList ≠ []
  notComment : (trim text.toList).head? ≠ some '#'

/-- The first column is empty if the line, once trimmed, begins with the separator. -/
theorem columns_fst_eq_nil_iff {sep : List Char} {c : Char} {rest : List Char}
    (hblank : isBlank c = false) : (columns sep (c :: rest)).1 = [] ↔ sep <+: c :: rest := by
  have hkept {front : List Char} (hc : c ∈ front) : trim front ≠ [] := by
    rw [ne_eq, trim_eq_nil_iff]
    exact fun hall => absurd (hall c hc) (by simp [hblank])
  simp only [columns, before]
  cases hcut : cut? sep (c :: rest) with
  | none =>
      refine iff_of_false (hkept List.mem_cons_self) fun hleads => ?_
      exact cut?_eq_none_iff.mp hcut hleads.isInfix
  | some parts =>
      obtain ⟨front, back⟩ := parts
      have hfirst := cut?_eq_some_iff.mp hcut
      cases front with
      | nil =>
          refine iff_of_true rfl ⟨back, ?_⟩
          rw [hfirst.eq_append, List.nil_append]
      | cons c' front =>
          obtain rfl : c = c' := (List.cons.inj hfirst.eq_append).1
          refine iff_of_false (hkept List.mem_cons_self) ?_
          rintro ⟨behind, hbehind⟩
          exact absurd (hfirst.first [] behind hbehind.symm) (by simp)

/-- What becomes of a line with columns. -/
theorem parse_of_hasColumns (h : HasColumns text) (separator : String) (line : Nat) :
    parse text separator line =
      match columns separator.toList (trim text.toList) with
      | ([], _) => .error (.malformedLine line)
      | (workflowId, runId) =>
          .ok (.target (.of (String.ofList workflowId) (runId.map String.ofList))) := by
  rw [parse]
  split
  · next hnil => exact absurd hnil h.notBlank
  · next rest hcomment => exact absurd (by rw [hcomment]; rfl) h.notComment
  · rfl

theorem parse_of_leads (h : HasColumns text) (hleads : separator.toList <+: trim text.toList)
    (line : Nat) : parse text separator line = .error (.malformedLine line) := by
  obtain ⟨c, rest, htrim⟩ := List.exists_cons_of_ne_nil h.notBlank
  rw [parse_of_hasColumns h]
  rw [htrim] at hleads ⊢
  have hempty := (columns_fst_eq_nil_iff (isBlank_of_trim_eq_cons htrim)).mpr hleads
  generalize columns separator.toList (c :: rest) = cut at hempty
  obtain ⟨workflowId, runId⟩ := cut
  obtain rfl : workflowId = [] := hempty
  rfl

/-- A line that is not refused names a workflow. -/
theorem exists_ref_of_not_leads (h : HasColumns text)
    (hnot : ¬ separator.toList <+: trim text.toList) (line : Nat) :
    ∃ ref, parse text separator line = .ok (.target ref) ∧ ref.workflowId ≠ "" := by
  obtain ⟨c, rest, htrim⟩ := List.exists_cons_of_ne_nil h.notBlank
  rw [parse_of_hasColumns h]
  rw [htrim] at hnot ⊢
  have hnamed := mt (columns_fst_eq_nil_iff (isBlank_of_trim_eq_cons htrim)).mp hnot
  generalize columns separator.toList (c :: rest) = cut at hnamed
  obtain ⟨workflowId, runId⟩ := cut
  cases workflowId with
  | nil => exact absurd rfl hnamed
  | cons first others =>
      refine ⟨_, rfl, fun hempty => ?_⟩
      have hchars := congrArg String.toList hempty
      simp [WorkflowRef.of] at hchars

/-- A line is refused if, once trimmed, it begins with the separator. -/
theorem parse_eq_malformedLine_iff (h : HasColumns text) :
    parse text separator line = .error (.malformedLine line) ↔
      separator.toList <+: trim text.toList := by
  refine ⟨fun hrefused => ?_, fun hleads => parse_of_leads h hleads line⟩
  apply Decidable.byContradiction
  intro hnot
  obtain ⟨ref, hparse, -⟩ := exists_ref_of_not_leads h hnot line
  rw [hparse] at hrefused
  exact absurd hrefused (by simp)

/-- A line is read by what is left of it when it is trimmed. -/
theorem parse_congr {other : String} (h : trim text.toList = trim other.toList) (separator : String)
    (line : Nat) : parse text separator line = parse other separator line := by
  rw [parse, parse, h]

end TargetLine

end Rewind
