import Rewind.Target.Source

/-!
What an exclude file excludes, and what a source does with it.

A file that can be read excludes the workflows that its lines name, all of them and no others. A
source never loses its exclusions, and every item that it gives out bears the mark that they put on it.

Main statements: `ExclusionSet.contains_iff_of_load`, and `Source.mark_of_poll` for items.
-/

namespace Rewind

/-- A line of a file names a workflow. -/
def TargetLine.Names (separator workflowId : String) (raw : List UInt8) : Prop :=
  ∃ text line ref, Text.lineText raw = .ok text ∧
    TargetLine.parse text separator line = .ok (.target ref) ∧ ref.workflowId = workflowId

/-- What a line holds does not depend on its place in the file. -/
theorem TargetLine.parse_line {text separator : String} {line : Nat} {held : TargetLine}
    (hparse : TargetLine.parse text separator line = .ok held) (line' : Nat) :
    TargetLine.parse text separator line' = .ok held := by
  unfold TargetLine.parse at *
  split at hparse
  · exact hparse
  · exact hparse
  · split at hparse
    · exact absurd hparse (by simp)
    · exact hparse

/-- A line that holds a target names its workflow and no other one. -/
theorem TargetLine.names_iff {separator text : String} {line : Nat} {ref : WorkflowRef}
    {raw : List UInt8} (htext : Text.lineText raw = .ok text)
    (hparse : TargetLine.parse text separator line = .ok (.target ref)) (workflowId : String) :
    TargetLine.Names separator workflowId raw ↔ ref.workflowId = workflowId := by
  constructor
  · rintro ⟨text', line', ref', htext', hparse', rfl⟩
    obtain rfl : text = text' := Except.ok.inj (htext.symm.trans htext')
    have hsame := (TargetLine.parse_line hparse line').symm.trans hparse'
    rw [TargetLine.target.inj (Except.ok.inj hsame)]
  · intro hworkflow
    exact ⟨text, line, ref, htext, hparse, hworkflow⟩

/-- A line that holds no target names no workflow. -/
theorem TargetLine.not_names {separator text : String} {line : Nat} {held : TargetLine}
    {raw : List UInt8} (htext : Text.lineText raw = .ok text)
    (hparse : TargetLine.parse text separator line = .ok held)
    (hheld : ∀ ref, held ≠ .target ref) (workflowId : String) :
    ¬ TargetLine.Names separator workflowId raw := by
  rintro ⟨text', line', ref, htext', hparse', -⟩
  obtain rfl : text = text' := Except.ok.inj (htext.symm.trans htext')
  have hsame := (TargetLine.parse_line hparse line').symm.trans hparse'
  exact hheld ref (Except.ok.inj hsame)

namespace ExclusionSet

variable {separator path workflowId : String}

theorem contains_insert_iff (set : ExclusionSet) (added : String) :
    (set.insert added).contains workflowId ↔ set.contains workflowId ∨ added = workflowId := by
  unfold insert
  split
  · rename_i hthere
    constructor
    · exact .inl
    · rintro (hold | rfl)
      · exact hold
      · exact hthere
  · rw [contains, contains, List.contains_iff_mem, List.contains_iff_mem, List.mem_append,
      List.mem_singleton, eq_comm (a := workflowId)]

/-- Reading lines adds the workflows that they name. -/
theorem contains_iff_of_readLines {line : Nat} {set read : ExclusionSet}
    {raws : List (List UInt8)} (hread : readLines path separator line set raws = .ok read) :
    read.contains workflowId ↔
      set.contains workflowId ∨ ∃ raw ∈ raws, TargetLine.Names separator workflowId raw := by
  induction raws generalizing line set with
  | nil =>
      obtain rfl := Except.ok.inj hread
      simp
  | cons raw raws ih =>
      rw [readLines] at hread
      simp only [List.mem_cons, exists_eq_or_imp]
      split at hread
      · exact absurd hread (by simp)
      · rename_i text htext
        split at hread
        · rename_i ref hparse
          rw [ih hread, contains_insert_iff, TargetLine.names_iff htext hparse, or_assoc]
        · rename_i held hother hparse
          have hnone := TargetLine.not_names htext hparse hother workflowId
          rw [ih hread]
          simp [hnone]
        · exact absurd hread (by simp)

/-- A file that can be read excludes exactly the workflows that its lines name. -/
theorem contains_iff_of_load {files : String → Except FileFault FileContent}
    {content : List UInt8} {exclusions : ExclusionSet} (hfile : files path = .ok (.bytes content))
    (hload : load files path separator = .ok exclusions) :
    exclusions.contains workflowId ↔
      ∃ raw ∈ Text.rawLines content, TargetLine.Names separator workflowId raw := by
  rw [load, hfile] at hload
  rw [contains_iff_of_readLines hload]
  simp [contains, empty]

end ExclusionSet

namespace Source

theorem mark_of_contains {exclusions : ExclusionSet} {ref : WorkflowRef}
    (hcontains : exclusions.contains ref.workflowId) : mark exclusions ref = .excluded ref := by
  rw [mark, if_pos hcontains]

@[simp] theorem ref_mark (exclusions : ExclusionSet) (ref : WorkflowRef) :
    (mark exclusions ref).ref = ref := by
  unfold mark
  split <;> rfl

variable {source source' : Source}

theorem exclusions_of_poll {poll : Poll} (hpoll : source.poll = (poll, source')) :
    source'.exclusions = source.exclusions := by
  unfold Source.poll at hpoll
  split at hpoll
  · rw [← (Prod.mk.inj hpoll).2]
  · split at hpoll
    · rw [← (Prod.mk.inj hpoll).2]
    · split at hpoll <;> rw [← (Prod.mk.inj hpoll).2]

@[simp] theorem exclusions_receive (source : Source) (page : Page WorkflowRef) :
    (source.receive page).exclusions = source.exclusions := by
  unfold receive
  split <;> rfl

/-- An item bears the mark that the exclusions put on its reference. -/
theorem mark_of_poll {item : SourceItem}
    (hpoll : source.poll = (.answer (.ok (some item)), source')) :
    item = mark source.exclusions item.ref := by
  unfold Source.poll at hpoll
  split at hpoll
  · rename_i file _
    have hanswer : (file.next.1.map fun ref => ref.map (mark source.exclusions)) =
        .ok (some item) := Poll.answer.inj (Prod.mk.inj hpoll).1
    cases hnext : file.next.1 with
    | error error => simp [hnext, Except.map] at hanswer
    | ok ref =>
        cases ref with
        | none => simp [hnext, Except.map] at hanswer
        | some ref =>
            obtain rfl : mark source.exclusions ref = item := by
              simpa [hnext, Except.map] using hanswer
            rw [ref_mark]
  · split at hpoll
    · rename_i ref pages _
      obtain rfl : mark source.exclusions ref = item := by
        simpa using (Prod.mk.inj hpoll).1
      rw [ref_mark]
    · split at hpoll <;> exact absurd (Prod.mk.inj hpoll).1 (by simp)

end Source

end Rewind
