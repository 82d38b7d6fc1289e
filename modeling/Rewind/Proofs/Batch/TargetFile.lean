import Rewind.Proofs.Batch.Accounting
import Rewind.Proofs.TargetFile
import Rewind.Proofs.TargetLine

/-!
Batches of the targets of a file.

All targets of a file without bad lines are given out, and the batch returns its outcomes. A line that
is refused ends the batch with that failure, and nothing behind it is given out.

Main statements: `of_good_lines` and `of_refused_line`, and `blank_column_refused_iff` for the lines
whose first column is blank.
-/

namespace Rewind.Batch.Chronicle

variable {plan : Plan} {service : Service} {metrics : Metrics} {path separator : String}
  {content : List UInt8} {exclusions : ExclusionSet} {started : Nat} {schedule : List Actor}
  {c c' : Chronicle}

/-! ### Files without bad lines -/

/-- The source has given out some of the targets of its file, and has not failed. -/
def Feeding (exclusions : ExclusionSet) (refs : List WorkflowRef) (c : Chronicle) : Prop :=
  ∃ given left, refs = given ++ left ∧ c.state.source.Feeds exclusions left ∧
    c.items = given.map (Source.mark exclusions) ∧ (∀ error, .error error ∉ c.answers) ∧
    (.ok none ∈ c.answers → left = [])

theorem feeding_of_change {exclusions : ExclusionSet} {refs : List WorkflowRef}
    (h : Change plan c c') (hc : c.Feeding exclusions refs) : c'.Feeding exclusions refs := by
  obtain ⟨given, left, hrefs, hfeeds, hitems, hnofail, hend⟩ := hc
  obtain ⟨source', hpoll', hfeeds'⟩ := Source.poll_of_feeds hfeeds
  have hgiven {item : SourceItem} {source : Source}
      (hpoll : c.state.source.poll = (.answer (.ok (some item)), source)) (c' : Chronicle)
      (hsource : c'.state.source = source)
      (hanswers : c'.answers = c.answers ++ [.ok (some item)]) : c'.Feeding exclusions refs := by
    rw [hpoll'] at hpoll
    obtain ⟨hanswer, rfl⟩ := Prod.mk.inj hpoll
    cases left with
    | nil => simp at hanswer
    | cons ref rest =>
        obtain rfl : Source.mark exclusions ref = item := by simpa using hanswer
        refine ⟨given ++ [ref], rest, by simp [hrefs], hsource ▸ hfeeds', ?_, ?_, ?_⟩
        · rw [items, hanswers, List.filterMap_append, List.map_append, ← hitems]
          rfl
        · simpa [hanswers] using hnofail
        · intro hnone
          have hbefore : .ok none ∈ c.answers := by simpa [hanswers] using hnone
          exact absurd (hend hbefore) (by simp)
  cases h with
  | closed attempt source hproducer hpoll =>
      rw [hpoll'] at hpoll
      obtain ⟨hanswer, rfl⟩ := Prod.mk.inj hpoll
      obtain rfl : left = [] := by simpa using hanswer
      refine ⟨given, [], hrefs, hfeeds', ?_, ?_, fun _ => rfl⟩
      · simpa [items, List.filterMap_cons] using hitems
      · simpa using hnofail
  | excluded attempt source target hproducer hpoll => exact hgiven hpoll _ rfl rfl
  | offered attempt source target hproducer hpoll => exact hgiven hpoll _ rfl rfl
  | failed attempt source error hproducer hpoll =>
      rw [hpoll'] at hpoll
      exact absurd (Prod.mk.inj hpoll).1 (by simp)
  | paged attempt source request page hproducer hpoll
  | pageFailed attempt source request error hproducer hpoll =>
      rw [hpoll'] at hpoll
      exact absurd (Prod.mk.inj hpoll).1 (by simp)
  | resumed | queued | taken | left | finished | called | rested | readied =>
      exact ⟨given, left, hrefs, hfeeds, hitems, hnofail, hend⟩

/-- A batch of the targets of a file without bad lines gives out all of them. -/
theorem of_good_lines
    (hgood : ∀ raw ∈ Text.rawLines content, (TargetLine.held? separator raw).isSome)
    (hrun : (start plan service metrics ⟨.file (.start path separator (.bytes content)), exclusions⟩
      started).follow? plan schedule = some c) (hfinal : c.state.isFinal) :
    c.state.result = .ok c.state.outcomes ∧
    c.items = ((Text.rawLines content).filterMap (TargetLine.ref? separator)).map
      (Source.mark exclusions) := by
  have hc := accounted_of_follow? hrun
  obtain ⟨⟨failure, hended⟩, -⟩ := ended_of_isFinal hfinal
  obtain ⟨earlier, last, hanswers, -, hreturns⟩ := hc.heard.returns hended
  obtain ⟨given, left, hrefs, -, hitems, hnofail, hend⟩ := of_follow? _
    (fun _ _ => feeding_of_change) hrun
    (⟨[], _, rfl, Source.feeds_start hgood path exclusions, rfl, by simp [start], by simp [start]⟩ :
      Feeding exclusions ((Text.rawLines content).filterMap (TargetLine.ref? separator)) _)
  have hlast : last ∈ c.answers := by simp [hanswers]
  cases last with
  | error error => exact absurd hlast (hnofail error)
  | ok item =>
      obtain ⟨rfl, hresult⟩ := hreturns
      rw [hend hlast, List.append_nil] at hrefs
      exact ⟨hresult, by rw [hrefs, hitems]⟩

/-! ### Files with a line that is refused -/

/-- The source has given out some of the targets in front of the line that is refused, or all of them,
and then the batch takes no more. -/
def Breaking (exclusions : ExclusionSet) (refs : List WorkflowRef) (number : Nat) (c : Chronicle) :
    Prop :=
  ∃ given left, refs = given ++ left ∧ c.items = given.map (Source.mark exclusions) ∧
    ((c.state.source.Breaks exclusions left number ∧
        ∀ answer ∈ c.answers, ∃ item, answer = .ok (some item)) ∨
      left = [] ∧ c.state.producer = .ended (some (.malformedLine number)))

theorem breaking_of_change {refs : List WorkflowRef} {number : Nat} (h : Change plan c c')
    (hc : c.Breaking exclusions refs number) : c'.Breaking exclusions refs number := by
  obtain ⟨given, left, hrefs, hitems, ⟨hbreaks, hanswers⟩ | ⟨rfl, hended⟩⟩ := hc
  · have hpolled := Source.poll_of_breaks hbreaks
    have hgiven {item : SourceItem} {source : Source}
        (hpoll : c.state.source.poll = (.answer (.ok (some item)), source)) (c' : Chronicle)
        (hsource : c'.state.source = source)
        (hanswers' : c'.answers = c.answers ++ [.ok (some item)]) :
        c'.Breaking exclusions refs number := by
      rw [hpoll] at hpolled
      rcases hpolled with ⟨-, source', hpolled⟩ | ⟨ref, later, source', rfl, hpolled, hlater⟩
      · exact absurd (Prod.mk.inj hpolled).1 (by simp)
      · obtain ⟨hanswer, rfl⟩ := Prod.mk.inj hpolled
        obtain rfl : item = Source.mark exclusions ref := by simpa using hanswer
        refine ⟨given ++ [ref], later, by simp [hrefs], ?_, .inl ⟨hsource ▸ hlater, ?_⟩⟩
        · rw [items, hanswers', List.filterMap_append, List.map_append, ← hitems]
          rfl
        · rw [hanswers', List.forall_mem_append]
          exact ⟨hanswers, by simp⟩
    cases h with
    | closed attempt source hproducer hpoll =>
        rw [hpoll] at hpolled
        rcases hpolled with ⟨-, source', hpolled⟩ | ⟨ref, later, source', -, hpolled, -⟩ <;>
          exact absurd (Prod.mk.inj hpolled).1 (by simp)
    | excluded attempt source target hproducer hpoll => exact hgiven hpoll _ rfl rfl
    | offered attempt source target hproducer hpoll => exact hgiven hpoll _ rfl rfl
    | failed attempt source error hproducer hpoll =>
        rw [hpoll] at hpolled
        rcases hpolled with ⟨rfl, source', hpolled⟩ | ⟨ref, later, source', -, hpolled, -⟩
        · obtain ⟨hanswer, rfl⟩ := Prod.mk.inj hpolled
          obtain rfl : error = .malformedLine number := by simpa using hanswer
          refine ⟨given, [], hrefs, ?_, .inr ⟨rfl, ?_⟩⟩
          · simpa [items, List.filterMap_cons] using hitems
          · have hbehind := State.sourceFailed_producer plan { c.state with source } attempt
              (.malformedLine number)
            exact hbehind.resolve_left fun hretry => by simp [ResetError.isRetryable] at hretry
        · exact absurd (Prod.mk.inj hpolled).1 (by simp)
    | paged attempt source request page hproducer hpoll
    | pageFailed attempt source request error hproducer hpoll =>
        rw [hpoll] at hpolled
        rcases hpolled with ⟨-, source', hpolled⟩ | ⟨ref, later, source', -, hpolled, -⟩ <;>
          exact absurd (Prod.mk.inj hpolled).1 (by simp)
    | resumed | queued | taken | left | finished | called | rested | readied =>
        exact ⟨given, left, hrefs, hitems, .inl ⟨hbreaks, hanswers⟩⟩
  · cases h with
    | closed attempt source hproducer | excluded attempt source target hproducer
    | offered attempt source target hproducer | failed attempt source error hproducer
    | paged attempt source request page hproducer
    | pageFailed attempt source request error hproducer | resumed attempt hproducer
    | queued target hproducer =>
        rw [hended] at hproducer
        exact absurd hproducer (by simp)
    | taken | left | finished | called | rested | readied =>
        exact ⟨given, [], hrefs, hitems, .inr ⟨rfl, hended⟩⟩

/-- A batch of the targets of a file ends with the failure of the first line that is refused. The targets
in front of that line are given out, and no others. -/
theorem of_refused_line {raws rest : List (List UInt8)} {raw : List UInt8} {text : String}
    (hlines : Text.rawLines content = raws ++ raw :: rest)
    (hgood : ∀ raw ∈ raws, (TargetLine.held? separator raw).isSome)
    (htext : Text.lineText raw = .ok text)
    (hrefused : TargetLine.parse text separator (raws.length + 1) =
      .error (.malformedLine (raws.length + 1)))
    (hrun : (start plan service metrics ⟨.file (.start path separator (.bytes content)), exclusions⟩
      started).follow? plan schedule = some c) (hfinal : c.state.isFinal) :
    c.state.result = .error (.malformedLine (raws.length + 1)) ∧
    c.items = (raws.filterMap (TargetLine.ref? separator)).map (Source.mark exclusions) := by
  have hbreaks : Source.Breaks exclusions (raws.filterMap (TargetLine.ref? separator))
      (raws.length + 1) ⟨.file (.start path separator (.bytes content)), exclusions⟩ :=
    ⟨path, separator, 0, raws, raw, text, rest, by rw [TargetFile.start, LineFeed.ofContent, hlines],
      hgood, rfl, by rw [Nat.zero_add], htext, hrefused⟩
  obtain ⟨given, left, hrefs, hitems, hstate⟩ := of_follow? _ (fun _ _ => breaking_of_change) hrun
    (⟨[], _, rfl, rfl, .inl ⟨hbreaks, by simp [start]⟩⟩ :
      Breaking exclusions (raws.filterMap (TargetLine.ref? separator)) (raws.length + 1) _)
  rcases hstate with ⟨-, hanswers⟩ | ⟨rfl, hended⟩
  · -- The source has not failed yet, so the batch has not ended.
    obtain ⟨⟨failure, hended⟩, -⟩ := ended_of_isFinal hfinal
    obtain ⟨earlier, last, hall, -, hreturns⟩ := (accounted_of_follow? hrun).heard.returns hended
    obtain ⟨item, rfl⟩ := hanswers last (by simp [hall])
    exact absurd hreturns.1 (by simp)
  · rw [List.append_nil] at hrefs
    exact ⟨by rw [State.result, hended], by rw [hrefs, hitems]⟩

/-- A line whose first column is blank is refused if trimming leaves the separator in front of it, and
then it ends a batch. If trimming takes away some of the separator, the line names a workflow instead:
by its second column, if the separator is blank. -/
theorem blank_column_refused_iff {text separator : String} {front back : List Char}
    (hseparator : separator ≠ "") (hcolumns : TargetLine.HasColumns text)
    (hcut : text.toList = front ++ separator.toList ++ back)
    (hblank : ∀ c ∈ front, Text.isBlank c = true) :
    (∀ line, TargetLine.parse text separator line = .error (.malformedLine line) ↔
      Text.Survives separator.toList back) ∧
    (¬ Text.Survives separator.toList back → ∀ line,
      ∃ ref, TargetLine.parse text separator line = .ok (.target ref) ∧ ref.workflowId ≠ "") ∧
    ((∀ c ∈ separator.toList, Text.isBlank c = true) → ∀ line,
      TargetLine.parse text separator line =
        TargetLine.parse (String.ofList back) separator line) ∧
    (Text.Survives separator.toList back →
      ∀ (plan : Plan) (service : Service) (metrics : Metrics) (path : String) (content : List UInt8)
        (exclusions : ExclusionSet) (started : Nat) (schedule : List Actor) (c : Chronicle)
        (raws rest : List (List UInt8)) (raw : List UInt8),
        Text.rawLines content = raws ++ raw :: rest →
        (∀ raw ∈ raws, (TargetLine.held? separator raw).isSome) → Text.lineText raw = .ok text →
        (start plan service metrics
          ⟨.file (.start path separator (.bytes content)), exclusions⟩ started).follow? plan
            schedule = some c → c.state.isFinal →
        c.state.result = .error (.malformedLine (raws.length + 1)) ∧
        c.items = (raws.filterMap (TargetLine.ref? separator)).map (Source.mark exclusions)) := by
  have hnonempty : separator.toList ≠ [] := by simpa using hseparator
  have hleads : separator.toList <+: Text.trim text.toList ↔ Text.Survives separator.toList back := by
    rw [hcut]
    exact Text.prefix_trim_iff hnonempty hblank back
  have hrefused (line : Nat) : TargetLine.parse text separator line = .error (.malformedLine line) ↔
      Text.Survives separator.toList back :=
    (TargetLine.parse_eq_malformedLine_iff hcolumns).trans hleads
  refine ⟨hrefused, fun hlost line => ?_, fun hall line => ?_, ?_⟩
  · exact TargetLine.exists_ref_of_not_leads hcolumns (mt hleads.mp hlost) line
  · apply TargetLine.parse_congr
    have hlead : ∀ c ∈ front ++ separator.toList, Text.isBlank c = true := by
      rw [List.forall_mem_append]
      exact ⟨hblank, hall⟩
    rw [hcut, Text.trim_append_of_blank hlead, String.toList_ofList]
  · intro hsurvives plan service metrics path content exclusions started schedule c raws rest raw
      hlines hgood htext hrun hfinal
    exact of_refused_line hlines hgood htext ((hrefused _).mpr hsurvives) hrun hfinal

/-- A line with one workflow, and one without a workflow id. -/
def columnLines : List UInt8 :=
  "pay".toUTF8.toList ++ 0x0A :: (",run-A".toUTF8.toList ++ [0x0A])

/-- With commas the line without a workflow id ends the batch. With tabs it names a workflow by its run
id. -/
theorem blank_column_refused_iff_sample :
    (∃ c, (start samplePlan sampleService .zero
        ⟨.file (.start "targets" "," (.bytes columnLines)), .empty⟩ 0).follow? samplePlan
        (List.replicate 3 .producer ++ List.replicate 7 (.worker 0) ++ [.worker 1]) = some c ∧
      c.state.result = .error (.malformedLine 2) ∧ c.items = [.target ⟨"pay", none⟩]) ∧
    TargetLine.parse "\trun-A" "\t" 1 = TargetLine.parse "run-A" "\t" 1 ∧
    TargetLine.parse "run-A" "\t" 1 = .ok (.target ⟨"run-A", none⟩) := by
  refine ⟨?_, ?_, rfl⟩
  · have hends : ((start samplePlan sampleService .zero
        ⟨.file (.start "targets" "," (.bytes columnLines)), .empty⟩ 0).follow? samplePlan
        (List.replicate 3 .producer ++ List.replicate 7 (.worker 0) ++ [.worker 1])).map
          (fun c => c.state.isFinal) = some true := by
      decide +kernel
    obtain ⟨c, hrun, hfinal⟩ := Option.map_eq_some_iff.mp hends
    have hcolumns : TargetLine.HasColumns ",run-A" := ⟨by decide +kernel, by decide +kernel⟩
    have hsurvives : Text.Survives ",".toList "run-A".toList :=
      ⟨⟨',', rfl, rfl⟩, .inl ⟨',', rfl, rfl⟩⟩
    have hseparator : "," ≠ "" := by decide
    have hcut : ",run-A".toList = [] ++ ",".toList ++ "run-A".toList := by decide +kernel
    obtain ⟨-, -, -, hbatch⟩ := blank_column_refused_iff hseparator hcolumns hcut nofun
    obtain ⟨hresult, hitems⟩ := hbatch hsurvives samplePlan sampleService .zero "targets" columnLines
      .empty 0 _ c ["pay".toUTF8.toList ++ [0x0A]] [] (",run-A".toUTF8.toList ++ [0x0A])
      (by decide +kernel) (by decide +kernel) (by decide +kernel) hrun hfinal
    exact ⟨c, hrun, hresult, hitems.trans (by decide +kernel)⟩
  · have hcolumns : TargetLine.HasColumns "\trun-A" := ⟨by decide +kernel, by decide +kernel⟩
    have hseparator : "\t" ≠ "" := by decide
    have hcut : "\trun-A".toList = [] ++ "\t".toList ++ "run-A".toList := by decide +kernel
    obtain ⟨-, -, hblank, -⟩ := blank_column_refused_iff hseparator hcolumns hcut nofun
    exact hblank (List.forall_mem_singleton.mpr rfl : ∀ c ∈ ['\t'], Text.isBlank c = true) 1

end Rewind.Batch.Chronicle
