/-!
Cutting a text at a separator.

Everything rests on the first place where the separator stands. An empty separator stands at the
very start of every text, so the part before it is empty.
-/

namespace Rewind.Text

/-- What is left of a text behind `sep`, if the text begins with it. -/
def strip? : List Char → List Char → Option (List Char)
  | [], text => some text
  | _ :: _, [] => none
  | s :: sep, c :: text => if s = c then strip? sep text else none

/-- The parts before and after the first occurrence of `sep`, if there is one. -/
def cut? (sep : List Char) : List Char → Option (List Char × List Char)
  | [] => (strip? sep []).map fun back => ([], back)
  | c :: text =>
      match strip? sep (c :: text) with
      | some back => some ([], back)
      | none => (cut? sep text).map fun (front, back) => (c :: front, back)

/-- The part in front of the first `sep`, or the whole text if there is none. -/
def before (sep text : List Char) : List Char :=
  match cut? sep text with
  | some (front, _) => front
  | none => text

/-- The text behind the first `sep`, if there is one. -/
def after? (sep text : List Char) : Option (List Char) :=
  (cut? sep text).map Prod.snd

/-- Whether `part` stands somewhere in `text`. -/
def contains (text part : String) : Bool :=
  (cut? part.toList text.toList).isSome

theorem strip?_eq_some_iff {sep text back : List Char} :
    strip? sep text = some back ↔ text = sep ++ back := by
  induction sep generalizing text with
  | nil => simp [strip?]
  | cons s sep ih =>
      cases text with
      | nil => simp [strip?]
      | cons c text =>
          by_cases h : s = c
          · simp [strip?, h, ih]
          · simp [strip?, h, Ne.symm h]

/-- A cut puts the text back together around the separator. -/
theorem eq_append_of_cut? {sep text front back : List Char}
    (h : cut? sep text = some (front, back)) : text = front ++ sep ++ back := by
  induction text generalizing front with
  | nil =>
      obtain ⟨rest, hrest, heq⟩ := Option.map_eq_some_iff.mp h
      obtain ⟨rfl, rfl⟩ := Prod.mk.inj heq
      exact strip?_eq_some_iff.mp hrest
  | cons c text ih =>
      rw [cut?] at h
      split at h
      · next rest hrest =>
        obtain ⟨rfl, rfl⟩ := Prod.mk.inj (Option.some.inj h)
        exact strip?_eq_some_iff.mp hrest
      · obtain ⟨parts, hparts, heq⟩ := Option.map_eq_some_iff.mp h
        obtain ⟨rfl, rfl⟩ := Prod.mk.inj heq
        simp [ih hparts]

end Rewind.Text
