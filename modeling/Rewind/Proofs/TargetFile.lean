import Rewind.Proofs.Exclusions

/-!
Files of targets and their bad lines.

A file gives out the targets that its lines name, one after the other, up to its first bad line. There
it fails.

Main statements: `Source.poll_of_feeds` for files without bad lines, and `Source.poll_of_breaks` for
those with a line that is refused.
-/

namespace Rewind

namespace TargetLine

/-- What a line of a file holds, unless it is a bad one. -/
def held? (separator : String) (raw : List UInt8) : Option TargetLine :=
  (Text.lineText raw).toOption.bind fun text => (parse text separator 1).toOption

/-- The target that a line of a file names. -/
def ref? (separator : String) (raw : List UInt8) : Option WorkflowRef :=
  match held? separator raw with
  | some (.target ref) => some ref
  | _ => none

/-- A line that is not a bad one can be read in its place. -/
theorem parse_of_held? {separator : String} {raw : List UInt8} {held : TargetLine}
    (h : held? separator raw = some held) (line : Nat) :
    ∃ text, Text.lineText raw = .ok text ∧ parse text separator line = .ok held := by
  obtain ⟨text, htext, hparse⟩ := Option.bind_eq_some_iff.mp h
  cases hraw : Text.lineText raw with
  | error fault => simp [hraw, Except.toOption] at htext
  | ok text' =>
      obtain rfl : text' = text := by simpa [hraw, Except.toOption] using htext
      cases hone : parse text' separator 1 with
      | error error => simp [hone, Except.toOption] at hparse
      | ok held' =>
          obtain rfl : held' = held := by simpa [hone, Except.toOption] using hparse
          exact ⟨text', rfl, parse_line hone line⟩

end TargetLine

open TargetLine

/-- The next target of a file is the first one that its lines name. -/
theorem TargetFile.nextFrom_of_good {separator : String} {raws : List (List UInt8)}
    (path : String) (line : Nat) (hgood : ∀ raw ∈ raws, (held? separator raw).isSome) :
    ∃ line' rest, (∀ raw ∈ rest, (held? separator raw).isSome) ∧
      rest.filterMap (ref? separator) = (raws.filterMap (ref? separator)).tail ∧
      nextFrom path separator line raws =
        (.ok (raws.filterMap (ref? separator)).head?, ⟨path, separator, line', .lines rest⟩) := by
  induction raws generalizing line with
  | nil => exact ⟨line, [], by simp, rfl, rfl⟩
  | cons raw raws ih =>
      obtain ⟨hraw, hraws⟩ := List.forall_mem_cons.mp hgood
      obtain ⟨held, hheld⟩ := Option.isSome_iff_exists.mp hraw
      obtain ⟨text, htext, hparse⟩ := parse_of_held? hheld (line + 1)
      rw [nextFrom, htext]
      simp only [hparse]
      cases held with
      | target ref =>
          have href : ref? separator raw = some ref := by rw [ref?, hheld]
          exact ⟨line + 1, raws, hraws, by simp [href], by simp [href]⟩
      | blank | comment =>
          have hnone : ref? separator raw = none := by rw [ref?, hheld]
          rw [List.filterMap_cons_none hnone]
          exact ih (line + 1) hraws

/-- In front of a line that is refused a file gives out the targets that are named there. -/
theorem TargetFile.nextFrom_of_refused {separator text : String} {raws : List (List UInt8)}
    {raw : List UInt8} {error : ResetError} (path : String) (rest : List (List UInt8))
    (htext : Text.lineText raw = .ok text) (hgood : ∀ raw ∈ raws, (held? separator raw).isSome)
    {line : Nat} (hrefused : parse text separator (line + raws.length + 1) = .error error) :
    (raws.filterMap (ref? separator) = [] ∧
      (nextFrom path separator line (raws ++ raw :: rest)).1 = .error error) ∨
    ∃ ref line' raws', raws.filterMap (ref? separator) = ref :: raws'.filterMap (ref? separator) ∧
      (∀ raw ∈ raws', (held? separator raw).isSome) ∧
      line' + raws'.length = line + raws.length ∧
      nextFrom path separator line (raws ++ raw :: rest) =
        (.ok (some ref), ⟨path, separator, line', .lines (raws' ++ raw :: rest)⟩) := by
  induction raws generalizing line with
  | nil =>
      have hrefused : parse text separator (line + 1) = .error error := hrefused
      exact .inl ⟨rfl, by rw [List.nil_append, nextFrom, htext]; simp only [hrefused]⟩
  | cons good raws ih =>
      obtain ⟨hfirst, hgoods⟩ := List.forall_mem_cons.mp hgood
      obtain ⟨held, hheld⟩ := Option.isSome_iff_exists.mp hfirst
      obtain ⟨text', htext', hparse⟩ := parse_of_held? hheld (line + 1)
      have hnumber : line + (good :: raws).length = line + 1 + raws.length := by
        rw [List.length_cons]
        omega
      rw [hnumber] at hrefused ⊢
      rw [List.cons_append, nextFrom, htext']
      simp only [hparse]
      cases held with
      | target ref =>
          have href : ref? separator good = some ref := by rw [ref?, hheld]
          exact .inr ⟨ref, line + 1, raws, List.filterMap_cons_some href, hgoods, rfl, rfl⟩
      | blank | comment =>
          have hnone : ref? separator good = none := by rw [ref?, hheld]
          rw [List.filterMap_cons_none hnone]
          exact ih hgoods hrefused

namespace Source

/-- The source reads a file without bad lines, which is still to name these targets. -/
def Feeds (exclusions : ExclusionSet) (left : List WorkflowRef) (source : Source) : Prop :=
  ∃ path separator line raws, source = ⟨.file ⟨path, separator, line, .lines raws⟩, exclusions⟩ ∧
    (∀ raw ∈ raws, (held? separator raw).isSome) ∧ raws.filterMap (ref? separator) = left

theorem feeds_start {content : List UInt8} {separator : String}
    (hgood : ∀ raw ∈ Text.rawLines content, (held? separator raw).isSome) (path : String)
    (exclusions : ExclusionSet) :
    Feeds exclusions ((Text.rawLines content).filterMap (ref? separator))
      ⟨.file (.start path separator (.bytes content)), exclusions⟩ :=
  ⟨path, separator, 0, Text.rawLines content, rfl, hgood, rfl⟩

/-- Such a source gives out the first target that is left, and then the others. -/
theorem poll_of_feeds {exclusions : ExclusionSet} {left : List WorkflowRef} {source : Source}
    (h : source.Feeds exclusions left) :
    ∃ source', source.poll = (.answer (.ok (left.head?.map (mark exclusions))), source') ∧
      source'.Feeds exclusions left.tail := by
  obtain ⟨path, separator, line, raws, rfl, hgood, rfl⟩ := h
  obtain ⟨line', rest, hrest, htail, hnext⟩ :=
    TargetFile.nextFrom_of_good path line hgood
  refine ⟨⟨.file ⟨path, separator, line', .lines rest⟩, exclusions⟩, ?_, path, separator, line', rest,
    rfl, hrest, htail⟩
  simp only [poll, TargetFile.next, hnext]
  rfl

/-- The source reads a file that is still to name these targets, and then has a line that is refused. -/
def Breaks (exclusions : ExclusionSet) (left : List WorkflowRef) (number : Nat) (source : Source) :
    Prop :=
  ∃ path separator line raws raw text rest,
    source = ⟨.file ⟨path, separator, line, .lines (raws ++ raw :: rest)⟩, exclusions⟩ ∧
    (∀ raw ∈ raws, (held? separator raw).isSome) ∧ raws.filterMap (ref? separator) = left ∧
    line + raws.length + 1 = number ∧ Text.lineText raw = .ok text ∧
    parse text separator number = .error (.malformedLine number)

/-- Such a source gives out the targets that are left, and then fails. -/
theorem poll_of_breaks {exclusions : ExclusionSet} {left : List WorkflowRef} {number : Nat}
    {source : Source} (h : source.Breaks exclusions left number) :
    (left = [] ∧ ∃ source', source.poll = (.answer (.error (.malformedLine number)), source')) ∨
    ∃ ref later source', left = ref :: later ∧
      source.poll = (.answer (.ok (some (mark exclusions ref))), source') ∧
      source'.Breaks exclusions later number := by
  obtain ⟨path, separator, line, raws, raw, text, rest, rfl, hgood, rfl, rfl, htext, hrefused⟩ := h
  rcases TargetFile.nextFrom_of_refused path rest htext hgood hrefused with
    ⟨hnone, hnext⟩ | ⟨ref, line', raws', hleft, hgood', hline, hnext⟩
  · refine .inl ⟨hnone,
      ⟨.file (TargetFile.nextFrom path separator line (raws ++ raw :: rest)).2, exclusions⟩, ?_⟩
    simp only [poll, TargetFile.next, hnext]
    rfl
  · refine .inr ⟨ref, _, ⟨.file ⟨path, separator, line', .lines (raws' ++ raw :: rest)⟩, exclusions⟩,
      hleft, ?_, path, separator, line', raws', raw, text, rest, rfl, hgood', rfl, ?_, htext, hrefused⟩
    · simp only [poll, TargetFile.next, hnext]
      rfl
    · rw [hline]

end Source

end Rewind
