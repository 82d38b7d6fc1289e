import Mathlib.Data.Finset.Card
import Mathlib.Data.List.Forall2
import Rewind.Proofs.Exclusions
import Rewind.Proofs.Lines
import Rewind.Proofs.Utf8

/-!
What a file is read as, by the two that read it.

A file is read line by line up to the first one that is not text or has no workflow id. A source
gives out the targets that are named up to there, one at a time, and then fails if such a line is
there. An exclude file is read by a loop of its own, which either fails in the same way or knows the
workflows of just these targets.

Main statement: `Rewind.readers_agree`.
-/

namespace Rewind

variable {path separator : String}

namespace TargetLine

/-- The target that a line names, if it names one. -/
def target? : TargetLine → Option WorkflowRef
  | .target ref => some ref
  | .blank | .comment => none

/-- The bytes of a line are those of a text that holds this, wherever the line stands. -/
def Spells (separator : String) (body : List UInt8) (held : TargetLine) : Prop :=
  ∃ text, Utf8.encode text = body ∧ ∀ number, parse text separator number = .ok held

/-- The only lines that are refused are those without a workflow id. -/
theorem error_of_parse {text : String} {number : Nat} {error : ResetError}
    (h : parse text separator number = .error error) : error = .malformedLine number := by
  unfold parse at h
  split at h
  · exact absurd h (by simp)
  · exact absurd h (by simp)
  · split at h
    · exact (Except.error.inj h).symm
    · exact absurd h (by simp)

/-- Why reading ends in front of these lines, the first of which has that number: there are none, or
the first one is refused. -/
inductive StopsAt (path separator : String) (number : Nat) :
    List (List UInt8) → Option ResetError → Prop where
  | ended : StopsAt path separator number [] none
  | malformed {text : String} {later : List (List UInt8)}
      (hparse : parse text separator number = .error (.malformedLine number)) :
      StopsAt path separator number (Utf8.encode text :: later) (some (.malformedLine number))
  | undecodable {body : List UInt8} {later : List (List UInt8)} {fault : Utf8.Fault}
      (hbody : ∀ text, Utf8.encode text ≠ body) (hfault : Utf8.decode body = .error fault) :
      StopsAt path separator number (body :: later) (some (.inputFile path (.badLine fault)))

/-- Lines can be read up to a place where reading ends. -/
theorem exists_stopsAt (path separator : String) (bodies : List (List UInt8)) (line : Nat) :
    ∃ front back held failure, bodies = front ++ back ∧ List.Forall₂ (Spells separator) front held ∧
      StopsAt path separator (line + front.length + 1) back failure := by
  induction bodies generalizing line with
  | nil => exact ⟨[], [], [], none, rfl, .nil, .ended⟩
  | cons body bodies ih =>
      cases hdecode : Utf8.decode body with
      | error fault =>
          refine ⟨[], body :: bodies, [], _, rfl, .nil, .undecodable ?_ hdecode⟩
          intro text htext
          rw [Utf8.decode_eq_ok_iff.mpr htext] at hdecode
          exact absurd hdecode (by simp)
      | ok text =>
          obtain rfl := Utf8.decode_eq_ok_iff.mp hdecode
          cases hparse : parse text separator (line + 1) with
          | error error =>
              obtain rfl := error_of_parse hparse
              exact ⟨[], _, [], _, rfl, .nil, .malformed hparse⟩
          | ok held =>
              obtain ⟨front, back, helds, failure, rfl, hfront, hstop⟩ := ih (line + 1)
              refine ⟨Utf8.encode text :: front, back, held :: helds, failure, rfl,
                .cons ⟨text, rfl, parse_line hparse⟩ hfront, ?_⟩
              rwa [List.length_cons, Nat.add_comm front.length, ← Nat.add_assoc]

end TargetLine

open TargetLine

/-- A file is read as lines that hold this, up to its end or to a line that is refused. -/
def ReadsAs (path separator : String) (content : List UInt8) (held : List TargetLine)
    (failure : Option ResetError) : Prop :=
  ∃ front back, Text.LaidOut content (front ++ back) ∧ List.Forall₂ (Spells separator) front held ∧
    StopsAt path separator (front.length + 1) back failure

theorem exists_readsAs (path separator : String) (content : List UInt8) :
    ∃ held failure, ReadsAs path separator content held failure := by
  obtain ⟨bodies, hlines⟩ := Text.exists_laidOut content
  obtain ⟨front, back, held, failure, rfl, hfront, hstop⟩ :=
    exists_stopsAt path separator bodies 0
  rw [Nat.zero_add] at hstop
  exact ⟨held, failure, front, back, hlines, hfront, hstop⟩

/-! ### Through a source -/

namespace Source

/-- Asked for one item after the other, the source gives out these, and then there is no more, or it
fails. -/
inductive Yields : Source → Service → List SourceItem → Option ResetError → Prop where
  | ended {source source' : Source} {service service' : Service}
      (hnext : source.next service = (.ok none, source', service')) :
      Yields source service [] none
  | failed {source source' : Source} {service service' : Service} {error : ResetError}
      (hnext : source.next service = (.error error, source', service')) :
      Yields source service [] (some error)
  | item {source source' : Source} {service service' : Service} {item : SourceItem}
      {items : List SourceItem} {failure : Option ResetError}
      (hnext : source.next service = (.ok (some item), source', service'))
      (later : Yields source' service' items failure) :
      Yields source service (item :: items) failure

/-- Only what the source answers counts. -/
theorem Yields.congr {source source' : Source} {service : Service} {items : List SourceItem}
    {failure : Option ResetError} (h : source'.Yields service items failure)
    (hnext : source.next service = source'.next service) : source.Yields service items failure := by
  cases h with
  | ended hended => exact .ended (hnext.trans hended)
  | failed hfailed => exact .failed (hnext.trans hfailed)
  | item hitem later => exact .item (hnext.trans hitem) later

variable {exclusions : ExclusionSet} {line : Nat}

theorem next_file (file : TargetFile) (exclusions : ExclusionSet) (service : Service) :
    next ⟨.file file, exclusions⟩ service =
      (file.next.1.map fun ref => ref.map (mark exclusions), ⟨.file file.next.2, exclusions⟩,
        service) :=
  rfl

/-- Where reading ends, the source has no more items. -/
theorem yields_of_stopsAt {raws : List (List UInt8)} {failure : Option ResetError}
    (hstop : StopsAt path separator (line + 1) (raws.map Text.withoutLineEnd) failure)
    (service : Service) :
    Yields ⟨.file ⟨path, separator, line, .lines raws⟩, exclusions⟩ service [] failure := by
  generalize hbodies : raws.map Text.withoutLineEnd = bodies at hstop
  cases hstop with
  | ended =>
      obtain rfl := List.map_eq_nil_iff.mp hbodies
      exact .ended (next_file _ _ _)
  | malformed hparse =>
      obtain ⟨raw, rest, rfl, hraw, -⟩ := List.map_eq_cons_iff.mp hbodies
      refine .failed ((next_file _ _ _).trans (Prod.ext ?_ rfl))
      simp [TargetFile.next, TargetFile.nextFrom, Text.lineText, hraw, Utf8.decode_encode, hparse,
        Except.map]
  | undecodable _ hfault =>
      obtain ⟨raw, rest, rfl, hraw, -⟩ := List.map_eq_cons_iff.mp hbodies
      refine .failed ((next_file _ _ _).trans (Prod.ext ?_ rfl))
      simp [TargetFile.next, TargetFile.nextFrom, Text.lineText, hraw, hfault, Except.map]

/-- The source gives out the targets that lines name up to where reading ends. -/
theorem yields_of_spells {front back : List (List UInt8)} {held : List TargetLine}
    {failure : Option ResetError} (hfront : List.Forall₂ (Spells separator) front held)
    (hstop : StopsAt path separator (line + front.length + 1) back failure)
    {raws : List (List UInt8)} (hraws : raws.map Text.withoutLineEnd = front ++ back)
    (service : Service) :
    Yields ⟨.file ⟨path, separator, line, .lines raws⟩, exclusions⟩ service
      ((held.filterMap target?).map (mark exclusions)) failure := by
  induction hfront generalizing line raws with
  | nil => exact yields_of_stopsAt (hraws ▸ hstop) service
  | @cons body held front helds hbody hfront ih =>
      obtain ⟨raw, rest, rfl, hraw, hrest⟩ := List.map_eq_cons_iff.mp hraws
      obtain ⟨text, rfl, hparse⟩ := hbody
      have htext : Text.lineText raw = .ok text := by
        rw [Text.lineText, hraw, Utf8.decode_encode]
      rw [List.length_cons, Nat.add_comm front.length, ← Nat.add_assoc] at hstop
      have hlater := ih hstop hrest
      cases held with
      | target ref =>
          refine .item ((next_file _ _ _).trans ?_) hlater
          simp only [TargetFile.next, TargetFile.nextFrom, htext, hparse]
          rfl
      | blank | comment =>
          refine hlater.congr ?_
          rw [next_file, next_file]
          simp only [TargetFile.next, TargetFile.nextFrom, htext, hparse]

end Source

/-! ### Into a set -/

namespace ExclusionSet

theorem contains_iff_mem {set : ExclusionSet} {workflowId : String} :
    set.contains workflowId ↔ workflowId ∈ set.ids := by
  rw [contains, List.contains_iff_mem]

theorem nodup_insert {set : ExclusionSet} (h : set.ids.Nodup) (workflowId : String) :
    (set.insert workflowId).ids.Nodup := by
  unfold insert
  split
  · exact h
  · next hnew =>
      rw [contains_iff_mem] at hnew
      exact h.append (List.nodup_singleton workflowId) (by simpa using hnew)

theorem nodup_foldl_insert {set : ExclusionSet} (h : set.ids.Nodup) (ids : List String) :
    (ids.foldl insert set).ids.Nodup := by
  induction ids generalizing set with
  | nil => exact h
  | cons id ids ih => exact ih (nodup_insert h id)

theorem contains_foldl_insert (set : ExclusionSet) (ids : List String) (workflowId : String) :
    (ids.foldl insert set).contains workflowId ↔ set.contains workflowId ∨ workflowId ∈ ids := by
  induction ids generalizing set with
  | nil => simp
  | cons id ids ih =>
      rw [List.foldl_cons, ih, contains_insert_iff, List.mem_cons, or_assoc, eq_comm (a := id)]

/-- The set of a list has the members of the list. -/
theorem contains_ofList (ids : List String) (workflowId : String) :
    (ofList ids).contains workflowId ↔ workflowId ∈ ids := by
  rw [ofList, contains_foldl_insert]
  simp [empty, contains]

/-- The set of a list is as large as the list has distinct members. -/
theorem size_ofList (ids : List String) : (ofList ids).size = ids.toFinset.card := by
  have hnodup : (ofList ids).ids.Nodup := nodup_foldl_insert List.nodup_nil ids
  have hsame : (ofList ids).ids.toFinset = ids.toFinset := by
    ext workflowId
    rw [List.mem_toFinset, List.mem_toFinset, ← contains_iff_mem, contains_ofList]
  rw [size, ← List.toFinset_card_of_nodup hnodup, hsame]

/-- Where reading ends, the set is complete, or there is none. -/
theorem readLines_of_stopsAt {raws : List (List UInt8)} {failure : Option ResetError} {line : Nat}
    (hstop : StopsAt path separator (line + 1) (raws.map Text.withoutLineEnd) failure)
    (set : ExclusionSet) :
    readLines path separator line set raws = failure.elim (.ok set) .error := by
  generalize hbodies : raws.map Text.withoutLineEnd = bodies at hstop
  cases hstop with
  | ended =>
      obtain rfl := List.map_eq_nil_iff.mp hbodies
      rfl
  | malformed hparse =>
      obtain ⟨raw, rest, rfl, hraw, -⟩ := List.map_eq_cons_iff.mp hbodies
      simp [readLines, Text.lineText, hraw, Utf8.decode_encode, hparse]
  | undecodable _ hfault =>
      obtain ⟨raw, rest, rfl, hraw, -⟩ := List.map_eq_cons_iff.mp hbodies
      simp [readLines, Text.lineText, hraw, hfault]

/-- The workflows that lines name up to where reading ends are added, or reading fails there. -/
theorem readLines_of_spells {front back : List (List UInt8)} {held : List TargetLine}
    {failure : Option ResetError} (hfront : List.Forall₂ (Spells separator) front held) {line : Nat}
    (hstop : StopsAt path separator (line + front.length + 1) back failure)
    {raws : List (List UInt8)} (hraws : raws.map Text.withoutLineEnd = front ++ back)
    (set : ExclusionSet) :
    readLines path separator line set raws =
      failure.elim
        (.ok (((held.filterMap target?).map WorkflowRef.workflowId).foldl insert set)) .error := by
  induction hfront generalizing line raws set with
  | nil => exact readLines_of_stopsAt (hraws ▸ hstop) set
  | @cons body held front helds hbody hfront ih =>
      obtain ⟨raw, rest, rfl, hraw, hrest⟩ := List.map_eq_cons_iff.mp hraws
      obtain ⟨text, rfl, hparse⟩ := hbody
      have htext : Text.lineText raw = .ok text := by
        rw [Text.lineText, hraw, Utf8.decode_encode]
      rw [List.length_cons, Nat.add_comm front.length, ← Nat.add_assoc] at hstop
      simp only [readLines, htext, hparse]
      cases held with
      | target ref => exact ih hstop hrest _
      | blank | comment => exact ih hstop hrest set

/-- An exclude file is read as the set of the workflows that its lines name, unless a line is
refused. -/
theorem load_of_readsAs {files : String → Except FileFault FileContent} {content : List UInt8}
    (hfile : files path = .ok (.bytes content)) {held : List TargetLine}
    {failure : Option ResetError} (hreads : ReadsAs path separator content held failure) :
    load files path separator =
      failure.elim (.ok (.ofList ((held.filterMap target?).map WorkflowRef.workflowId))) .error := by
  obtain ⟨front, back, hlines, hfront, hstop⟩ := hreads
  rw [← Nat.zero_add front.length] at hstop
  rw [load, hfile]
  exact readLines_of_spells hfront hstop (Text.laidOut_iff.mp hlines).symm .empty

end ExclusionSet

/-- Every file is read as something, and then a source that reads it gives out the named targets and
an exclude file of the same content excludes their workflows, unless both fail alike. -/
theorem readers_agree {files : String → Except FileFault FileContent} {content : List UInt8}
    (hfile : files path = .ok (.bytes content)) (separator domain : String)
    (exclusions : ExclusionSet) (service : Service) :
    (∃ held failure, ReadsAs path separator content held failure) ∧
    ∀ held failure, ReadsAs path separator content held failure →
      (∃ source, Source.start files (.file path separator) domain exclusions = .ok source ∧
        source.Yields service ((held.filterMap target?).map (Source.mark exclusions)) failure) ∧
      match failure with
      | some error => ExclusionSet.load files path separator = .error error
      | none =>
          ∃ set, ExclusionSet.load files path separator = .ok set ∧
            (∀ workflowId, set.contains workflowId ↔
              ∃ ref ∈ held.filterMap target?, ref.workflowId = workflowId) ∧
            set.size = ((held.filterMap target?).map WorkflowRef.workflowId).toFinset.card := by
  refine ⟨exists_readsAs path separator content, ?_⟩
  intro held failure hreads
  constructor
  · obtain ⟨front, back, hlines, hfront, hstop⟩ := hreads
    rw [← Nat.zero_add front.length] at hstop
    refine ⟨⟨.file (.start path separator (.bytes content)), exclusions⟩, ?_,
      Source.yields_of_spells hfront hstop (Text.laidOut_iff.mp hlines).symm service⟩
    rw [Source.start, hfile]
  · have hload := ExclusionSet.load_of_readsAs hfile hreads
    cases failure with
    | some error => exact hload
    | none =>
        refine ⟨_, hload, ?_, ExclusionSet.size_ofList _⟩
        intro workflowId
        rw [ExclusionSet.contains_ofList, List.mem_map]

/-- A comment, a row with a run, a blank line, a row without one, and a row without a workflow. -/
def sampleRows : List UInt8 :=
  Utf8.encode "# paid\r\npay,r1\r\n\r\naudit\n,r2"

theorem readers_agree_sampleRows :
    let files : String → Except FileFault FileContent := fun _ => .ok (.bytes sampleRows)
    ∃ source, Source.start files (.file "rows" ",") "shop" (.ofList ["audit"]) = .ok source ∧
      source.Yields (.ofStore (.empty fun _ n => Decimal.text n))
        [.target ⟨"pay", some "r1"⟩, .excluded ⟨"audit", none⟩] (some (.malformedLine 5)) ∧
      ExclusionSet.load files "rows" "," = .error (.malformedLine 5) := by
  intro files
  have hfile : files "rows" = .ok (.bytes sampleRows) := rfl
  have hreads : ReadsAs "rows" "," sampleRows
      [.comment, .target ⟨"pay", some "r1"⟩, .blank, .target ⟨"audit", none⟩]
      (some (.malformedLine 5)) := by
    refine ⟨["# paid", "pay,r1", "", "audit"].map Utf8.encode, [Utf8.encode ",r2"],
      Text.laidOut_iff.mpr (by decide +kernel), ?_, .malformed (by decide +kernel)⟩
    have hspells (text : String) (held : TargetLine) (h : parse text "," 1 = .ok held) :
        Spells "," (Utf8.encode text) held := ⟨text, rfl, parse_line h⟩
    exact .cons (hspells _ _ (by decide +kernel)) (.cons (hspells _ _ (by decide +kernel))
      (.cons (hspells _ _ (by decide +kernel)) (.cons (hspells _ _ (by decide +kernel)) .nil)))
  obtain ⟨⟨source, hstart, hyields⟩, hload⟩ :=
    (readers_agree hfile "," "shop" (.ofList ["audit"])
      (.ofStore (.empty fun _ n => Decimal.text n))).2 _ _ hreads
  exact ⟨source, hstart, hyields, hload⟩

end Rewind
