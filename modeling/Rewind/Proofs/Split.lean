import Rewind.Text.Split

/-!
Where a separator stands first.

Main statements: a text is cut at the first place where the separator stands (`cut?_eq_some_iff`),
and not at all if it stands nowhere (`cut?_eq_none_iff`).
-/

namespace Rewind.Text

variable {sep text front back : List Char}

/-- The separator stands between these two parts of a text, and nowhere before. -/
structure FirstAt (sep text front back : List Char) : Prop where
  eq_append : text = front ++ sep ++ back
  first : ∀ front' back', text = front' ++ sep ++ back' → front.length ≤ front'.length

theorem ne_append_of_strip? (hnone : strip? sep text = none) (back : List Char) :
    text ≠ sep ++ back := by
  intro htext
  rw [strip?_eq_some_iff.mpr htext] at hnone
  exact absurd hnone (by simp)

/-- No place where the separator stands comes before the cut. -/
theorem length_le_of_cut? (hcut : cut? sep text = some (front, back)) {front' back' : List Char}
    (htext : text = front' ++ sep ++ back') : front.length ≤ front'.length := by
  induction text generalizing front front' with
  | nil =>
      obtain ⟨rest, -, hparts⟩ := Option.map_eq_some_iff.mp hcut
      obtain ⟨rfl, rfl⟩ := Prod.mk.inj hparts
      exact Nat.zero_le _
  | cons c text ih =>
      rw [cut?] at hcut
      split at hcut
      · obtain ⟨rfl, rfl⟩ := Prod.mk.inj (Option.some.inj hcut)
        exact Nat.zero_le _
      · next hstrip =>
        obtain ⟨⟨front, back⟩, hparts, heq⟩ := Option.map_eq_some_iff.mp hcut
        obtain ⟨rfl, rfl⟩ := Prod.mk.inj heq
        cases front' with
        | nil => exact absurd htext (ne_append_of_strip? hstrip back')
        | cons c' front' => exact Nat.succ_le_succ (ih hparts (List.cons.inj htext).2)

theorem exists_cut? (hinside : sep <:+: text) : ∃ parts, cut? sep text = some parts := by
  obtain ⟨front, back, htext⟩ := hinside
  induction text generalizing front with
  | nil =>
      have hsep : sep = [] := by simp_all
      exact ⟨([], []), by simp [cut?, hsep, strip?]⟩
  | cons c text ih =>
      rw [cut?]
      split
      · exact ⟨_, rfl⟩
      · next hstrip =>
        cases front with
        | nil => exact absurd htext.symm (ne_append_of_strip? hstrip back)
        | cons c' front =>
            obtain ⟨parts, hparts⟩ := ih front (List.cons.inj htext).2
            exact ⟨(c :: parts.1, parts.2), by simp [hparts]⟩

/-- A text is cut where the separator stands first. -/
theorem cut?_eq_some_iff : cut? sep text = some (front, back) ↔ FirstAt sep text front back := by
  constructor
  · intro hcut
    exact ⟨eq_append_of_cut? hcut, fun _ _ => length_le_of_cut? hcut⟩
  · intro hfirst
    obtain ⟨⟨front', back'⟩, hcut⟩ := exists_cut? ⟨front, back, hfirst.eq_append.symm⟩
    have htext := eq_append_of_cut? hcut
    have hlength : front'.length = front.length :=
      Nat.le_antisymm (length_le_of_cut? hcut hfirst.eq_append) (hfirst.first _ _ htext)
    rw [hfirst.eq_append, List.append_assoc, List.append_assoc] at htext
    obtain ⟨rfl, hrest⟩ := List.append_inj htext hlength.symm
    obtain rfl := List.append_cancel_left hrest
    exact hcut

theorem cut?_eq_none_iff : cut? sep text = none ↔ ¬ sep <:+: text := by
  constructor
  · intro hnone hinside
    obtain ⟨parts, hparts⟩ := exists_cut? hinside
    simp [hnone] at hparts
  · intro hnot
    cases hcut : cut? sep text with
    | none => rfl
    | some parts => exact absurd ⟨_, _, (eq_append_of_cut? hcut).symm⟩ hnot

theorem contains_iff {text part : String} :
    contains text part = true ↔ part.toList <:+: text.toList := by
  constructor
  · intro hcontains
    obtain ⟨parts, hcut⟩ := Option.isSome_iff_exists.mp hcontains
    exact ⟨_, _, (eq_append_of_cut? hcut).symm⟩
  · intro hinside
    obtain ⟨parts, hcut⟩ := exists_cut? hinside
    rw [contains, hcut, Option.isSome_some]

end Rewind.Text
