import Rewind.Proofs.Batch.Journal
import Rewind.Proofs.Batch.Resets
import Rewind.Proofs.Exclusions

/-!
Batches with exclusions.

The producer reports every item of an excluded workflow itself, so no worker ever sees one, and the
service is never called about it.

Main statement: `excluded_untouched`.
-/

namespace Rewind.Batch.Chronicle

variable {plan : Plan} {exclusions : ExclusionSet} {c c' : Chronicle} {workflowId : String}

/-- The source has these exclusions, and has marked its items by them. -/
structure Marked (exclusions : ExclusionSet) (c : Chronicle) : Prop where
  source : c.state.source.exclusions = exclusions
  items : ∀ item ∈ c.items, item = Source.mark exclusions item.ref

theorem marked_of_change (h : Change plan c c') (hc : c.Marked exclusions) :
    c'.Marked exclusions := by
  obtain ⟨hsource, hitems⟩ := hc
  -- An answer of the source gives out a marked item or none.
  have hmore {source : Source} {answer : Except ResetError (Option SourceItem)}
      (hpoll : c.state.source.poll = (.answer answer, source)) :
      source.exclusions = exclusions ∧
        ∀ item ∈ (c.answers ++ [answer]).filterMap itemOf, item = Source.mark exclusions item.ref := by
    refine ⟨(Source.exclusions_of_poll hpoll).trans hsource, ?_⟩
    intro item hitem
    rw [List.filterMap_append, List.mem_append] at hitem
    rcases hitem with hold | hnew
    · exact hitems item hold
    · obtain ⟨answer', hanswer, hitem⟩ := List.mem_filterMap.mp hnew
      obtain rfl := List.mem_singleton.mp hanswer
      cases answer' with
      | error error => exact absurd hitem (by simp)
      | ok given =>
          obtain rfl : given = some item := hitem
          rw [← hsource]
          exact Source.mark_of_poll hpoll
  cases h with
  | closed attempt source hproducer hpoll | excluded attempt source target hproducer hpoll
  | offered attempt source target hproducer hpoll =>
      exact ⟨(hmore hpoll).1, (hmore hpoll).2⟩
  | failed attempt source error hproducer hpoll =>
      exact ⟨by simpa using (hmore hpoll).1, (hmore hpoll).2⟩
  | paged attempt source request page hproducer hpoll hcall =>
      exact ⟨by simpa using (Source.exclusions_of_poll hpoll).trans hsource, hitems⟩
  | pageFailed attempt source request error hproducer hpoll hcall =>
      refine ⟨by simpa using (Source.exclusions_of_poll hpoll).trans hsource, ?_⟩
      simpa [Chronicle.items, List.filterMap_append, List.filterMap_cons] using hitems
  | resumed | queued | taken | left | finished | called | rested | readied =>
      exact ⟨hsource, hitems⟩

theorem marked_of_follow? {service : Service} {metrics : Metrics} {source : Source}
    {started : Nat} {schedule : List Actor}
    (hrun : (start plan service metrics source started).follow? plan schedule = some c) :
    c.Marked source.exclusions :=
  of_follow? _ (fun _ _ => marked_of_change) hrun ⟨rfl, by simp [items, start]⟩

namespace Marked

/-- Targets are of workflows that are not excluded. -/
theorem not_contains (h : c.Marked exclusions) {target : WorkflowRef} (htarget : target ∈ c.targets) :
    ¬ exclusions.contains target.workflowId := by
  intro hcontains
  obtain ⟨item, hitem, hgiven⟩ := List.mem_filterMap.mp htarget
  cases item with
  | excluded ref => exact absurd hgiven (by simp)
  | target ref =>
      obtain rfl := Option.some.inj hgiven
      have hmark := h.items _ hitem
      rw [SourceItem.ref, Source.mark_of_contains hcontains] at hmark
      exact SourceItem.noConfusion hmark

/-- The items of an excluded workflow are those that the producer has reported. -/
theorem exclusions_eq (h : c.Marked exclusions) (hcontains : exclusions.contains workflowId) :
    (c.exclusions.filter fun ref => ref.workflowId = workflowId) =
      (c.items.filter fun item => item.ref.workflowId = workflowId).map SourceItem.ref := by
  have hitems := h.items
  rw [Chronicle.exclusions]
  generalize c.items = items at hitems
  induction items with
  | nil => rfl
  | cons item items ih =>
      have htail := ih fun item hitem => hitems item (List.mem_cons_of_mem _ hitem)
      cases item with
      | excluded ref =>
          by_cases hsame : ref.workflowId = workflowId
          · simp [SourceItem.ref, hsame, htail]
          · simp [SourceItem.ref, hsame, htail]
      | target ref =>
          have hother : ref.workflowId ≠ workflowId := by
            rintro rfl
            have hmark := hitems _ List.mem_cons_self
            rw [SourceItem.ref, Source.mark_of_contains hcontains] at hmark
            exact SourceItem.noConfusion hmark
          simp [List.filterMap_cons, SourceItem.ref, hother, htail]

end Marked

/-- What was visited was given out as a target. -/
theorem Accounted.target_mem (hc : c.Accounted plan) {visit : Visit} (hvisit : visit ∈ c.visits) :
    visit.target ∈ c.targets := by
  obtain ⟨desk, hdesk, hmem⟩ := List.mem_flatMap.mp hvisit
  refine hc.targets.mem_iff.mpr (List.mem_append_left _ ?_)
  exact List.mem_flatMap.mpr ⟨desk, hdesk, List.mem_map_of_mem hmem⟩

theorem Accounted.processed_mem (hc : c.Accounted plan) {outcome : Outcome}
    (houtcome : outcome ∈ c.state.processed) : outcome.ref ∈ c.targets := by
  obtain ⟨desk, hdesk, hmem⟩ :=
    List.mem_flatMap.mp (hc.outcomes.mem_iff.mp (List.mem_append_left _ houtcome))
  obtain ⟨entry, hentry, rfl⟩ := List.mem_map.mp hmem
  rw [(hc.lawful.closed hdesk hentry).ref_eq]
  apply hc.target_mem
  refine List.mem_flatMap.mpr ⟨desk, hdesk, ?_⟩
  exact List.mem_append_left _ (List.mem_map_of_mem hentry)

/-- However the actors take turns, a workflow that a line of the exclude file names is left alone: no
call is made about it, all its items are reported as excluded and never attempted, and its runs stay
as they are. -/
theorem excluded_untouched {plan : Plan} {service : Service} {metrics : Metrics} {source : Source}
    {started : Nat} {schedule : List Actor} {c : Chronicle}
    {files : String → Except FileFault FileContent} {path separator workflowId : String}
    {content : List UInt8} {exclusions : ExclusionSet} (hfile : files path = .ok (.bytes content))
    (hload : ExclusionSet.load files path separator = .ok exclusions)
    (hnamed : ∃ raw ∈ Text.rawLines content, TargetLine.Names separator workflowId raw)
    (hsource : source.exclusions = exclusions)
    (hrun : (start plan service metrics source started).follow? plan schedule = some c) :
    (∃ made, c.state.service.journal = service.journal ++ made ∧
      ∀ exchange ∈ made, exchange.request.method ≠ .scan →
        exchange.request.subject ≠ workflowId) ∧
    (c.state.outcomes.filter fun outcome => outcome.workflowId = workflowId) =
      (c.items.filter fun item => item.ref.workflowId = workflowId).map
        (fun item => .of item.ref .excluded 0 plan.stamp) ∧
    (∀ runId, c.state.service.store.runs workflowId runId =
      service.store.runs workflowId runId) ∧
    c.state.service.store.current workflowId = service.store.current workflowId := by
  have hc := accounted_of_follow? hrun
  have hmarked := hsource ▸ marked_of_follow? hrun
  have hcontains : exclusions.contains workflowId :=
    (ExclusionSet.contains_iff_of_load hfile hload).mpr hnamed
  have hother {target : WorkflowRef} (htarget : target ∈ c.targets) :
      target.workflowId ≠ workflowId := by
    rintro rfl
    exact hmarked.not_contains htarget hcontains
  obtain ⟨made, hrecorded⟩ := recorded_of_follow? hrun
  obtain ⟨log, hlog, hperm⟩ := logged_of_follow? hrun
  have hunreset : workflowId ∉ log.map (·.1.workflowId) := by
    intro hmem
    obtain ⟨entry, hentry, hworkflow⟩ := List.mem_map.mp hmem
    obtain ⟨call, hcall, haccepted⟩ := List.mem_filterMap.mp (hperm.mem_iff.mp hentry)
    rw [calls_eq_visits] at hcall
    have hexchange : call.exchange ∈ made := by
      rw [hrecorded.perm.mem_iff, List.map_append]
      exact List.mem_append_right _ (List.mem_map_of_mem hcall)
    have hreset := (Call.of_accepted? haccepted).1
    obtain ⟨visit, hvisit, hsubject⟩ := hrecorded.exists_visit hc hexchange
      (by simp [Call.exchange, hreset, Request.method])
    apply hother (hc.target_mem hvisit)
    rw [hsubject, ← hworkflow]
    simp [Call.exchange, hreset, Request.subject]
  obtain ⟨hruns, hcurrent, -⟩ := hlog.unreset hunreset
  refine ⟨⟨made, hrecorded.journal, ?_⟩, ?_, hruns, hcurrent⟩
  · rintro exchange hexchange hscan rfl
    obtain ⟨visit, hvisit, hsubject⟩ := hrecorded.exists_visit hc hexchange hscan
    exact hother (hc.target_mem hvisit) hsubject
  · have hprocessed : (c.state.processed.filter
        fun outcome => outcome.workflowId = workflowId) = [] := by
      rw [List.filter_eq_nil_iff]
      intro outcome houtcome
      have hne : outcome.workflowId ≠ workflowId := hother (hc.processed_mem houtcome)
      simpa using hne
    rw [State.outcomes, List.filter_append, hprocessed, List.append_nil, hc.exclusions,
      List.filter_map]
    have hexcluded := congrArg (List.map fun ref => Outcome.excluded ref plan.stamp)
      (hmarked.exclusions_eq hcontains)
    rw [List.map_map] at hexcluded
    exact hexcluded

/-- A comment, and a line with one workflow. -/
def sampleExclusions : List UInt8 :=
  "# audits".toUTF8.toList ++ 0x0A :: ("audit".toUTF8.toList ++ [0x0A])

theorem excluded_untouched_sample :
    ∃ c made, (sampleStart ["pay", "audit"]).follow? samplePlan sampleSchedule = some c ∧
      c.state.service.journal = sampleService.journal ++ made ∧
      (∀ exchange ∈ made, exchange.request.method ≠ .scan →
        exchange.request.subject ≠ "audit") ∧
      (c.state.outcomes.filter fun outcome => outcome.workflowId = "audit") =
        [.of ⟨"audit", none⟩ .excluded 0 samplePlan.stamp] := by
  have hload : ExclusionSet.load (fun _ => .ok (.bytes sampleExclusions)) "never" "\t" =
      .ok (.ofList ["audit"]) := by
    decide +kernel
  have hraw : "audit".toUTF8.toList ++ [0x0A] ∈ Text.rawLines sampleExclusions := by
    decide +kernel
  have hnamed : TargetLine.Names "\t" "audit" ("audit".toUTF8.toList ++ [0x0A]) :=
    ⟨"audit", 2, ⟨"audit", none⟩, by decide +kernel, by decide +kernel, rfl⟩
  have hitems : ((sampleStart ["pay", "audit"]).follow? samplePlan sampleSchedule).map
      (fun c => c.items.map SourceItem.ref) = some [⟨"pay", none⟩, ⟨"audit", none⟩] := by
    decide +kernel
  obtain ⟨c, hrun, hitems⟩ := Option.map_eq_some_iff.mp hitems
  obtain ⟨⟨made, hjournal, hmade⟩, houtcomes, -, -⟩ :=
    excluded_untouched rfl hload ⟨_, hraw, hnamed⟩ rfl hrun
  refine ⟨c, made, hrun, hjournal, hmade, ?_⟩
  have hlist : (c.items.filter fun item => item.ref.workflowId = "audit").map
      (fun item => Outcome.of item.ref .excluded 0 samplePlan.stamp) =
      ((c.items.map SourceItem.ref).filter fun ref => ref.workflowId = "audit").map
        fun ref => .of ref .excluded 0 samplePlan.stamp := by
    rw [List.filter_map, List.map_map]
    rfl
  rw [houtcomes, hlist, hitems]
  rfl

end Rewind.Batch.Chronicle
