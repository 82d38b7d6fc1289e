import Rewind.Proofs.Batch.Accounting
import Rewind.Proofs.Batch.Solo

/-!
Batches of targets with distinct workflows.

If no two targets of a batch are of one workflow, then each worker has the part of the service that
belongs to its target to itself. So whatever the others do in between, every visit goes the way that
the work on its target takes alone, with the service as it was before the batch.

Main statements: `isolated_of_follow?` and `isolated_of_start`, and for visits that have ended `Isolated.finished`.
-/

namespace Rewind.Batch.Chronicle

variable {plan plan₀ : Plan} {service₀ : Service} {c c' : Chronicle}

/-- The workflows that workers have taken up. -/
def visited (c : Chronicle) : List String :=
  (c.desks.flatMap Desk.targets).map WorkflowRef.workflowId

/-- The workflows of all targets that the source has given out. -/
def workflows (c : Chronicle) : List String :=
  c.targets.map WorkflowRef.workflowId

/-- Targets that were given out are not taken back. -/
theorem workflows_of_change (h : Change plan c c') : ∃ more, c'.workflows = c.workflows ++ more := by
  have hanswers : ∃ more, c'.answers = c.answers ++ more := by
    cases h with
    | closed | excluded | offered | failed | pageFailed => exact ⟨_, rfl⟩
    | paged | resumed | queued | taken | left | finished | called | rested | readied =>
        exact ⟨[], (List.append_nil _).symm⟩
  obtain ⟨more, hanswers⟩ := hanswers
  refine ⟨((more.filterMap itemOf).filterMap SourceItem.target?).map WorkflowRef.workflowId, ?_⟩
  simp only [workflows, targets, items, hanswers, List.filterMap_append, List.map_append]

theorem visited_nodup (hc : c.TargetsPlaced) (hdistinct : c.workflows.Nodup) : c.visited.Nodup := by
  have hperm := hc.map WorkflowRef.workflowId
  rw [List.map_append] at hperm
  exact (List.nodup_append.mp (hperm.nodup_iff.mp hdistinct)).1

/-- Targets at different desks are of different workflows. -/
theorem workflowId_ne (hvisited : c.visited.Nodup) {i j : Nat} {desk desk' : Desk} (hne : i ≠ j)
    (hi : c.desks[i]? = some desk) (hj : c.desks[j]? = some desk') {target target' : WorkflowRef}
    (htarget : target ∈ desk.targets) (htarget' : target' ∈ desk'.targets) :
    target.workflowId ≠ target'.workflowId := by
  rw [visited, List.map_flatMap, List.Nodup, List.pairwise_flatMap] at hvisited
  have hpairs := List.pairwise_iff_getElem.mp hvisited.2
  obtain ⟨hi', rfl⟩ := List.getElem?_eq_some_iff.mp hi
  obtain ⟨hj', rfl⟩ := List.getElem?_eq_some_iff.mp hj
  have hmem := List.mem_map_of_mem (f := WorkflowRef.workflowId) htarget
  have hmem' := List.mem_map_of_mem (f := WorkflowRef.workflowId) htarget'
  rcases Nat.lt_or_gt_of_ne hne with hlt | hlt
  · exact hpairs i j hi' hj' hlt _ hmem _ hmem'
  · exact (hpairs j i hj' hi' hlt _ hmem' _ hmem).symm

/-- A worker's visits go the way that they take alone. -/
structure Alone (plan plan₀ : Plan) (service₀ service : Service) (worker : Worker) (desk : Desk) :
    Prop where
  current : ∀ target work visit, worker.task = .busy target work → desk.current = some visit →
    ∃ n, Tracks target.workflowId visit work service
      (Solo.advance^[n] (.begin plan₀ service₀ target))
  finished : ∀ entry ∈ desk.finished, ∃ attempted attempted',
    entry.2 = plan.outcome entry.1.target attempted ∧
      Verdict plan₀ service₀ entry.1.target attempted' entry.1.outline ∧
      (attempted = attempted' ∨ Plan.BothAttempted attempted attempted')

theorem Alone.frame {service service' : Service} {worker : Worker} {desk : Desk}
    (h : Alone plan plan₀ service₀ service worker desk)
    (hmissed : service'.missed? = service.missed?)
    (hpart : ∀ target work, worker.task = .busy target work →
      service'.store.SamePart target.workflowId service.store) :
    Alone plan plan₀ service₀ service' worker desk := by
  refine ⟨?_, h.finished⟩
  intro target work visit hbusy hvisit
  obtain ⟨n, htracks⟩ := h.current target work visit hbusy hvisit
  exact ⟨n, htracks.frame hmissed (hpart target work hbusy)⟩

/-- What the workers have not taken up is untouched, and what they have they treat alone. -/
structure Isolated (plan plan₀ : Plan) (service₀ : Service) (c : Chronicle) : Prop where
  missed : c.state.service.missed? = service₀.missed?
  untouched : ∀ workflowId, workflowId ∉ c.visited →
    c.state.service.store.SamePart workflowId service₀.store
  alone : List.Forall₂ (Alone plan plan₀ service₀ c.state.service) c.state.workers.toList c.desks

/-- A step of a worker at its own place. The call that it makes is about its target. -/
theorem alone_of_move (hlike : plan.Like plan₀) {worker worker' : Worker} {f : Desk → Desk}
    {service : Service} {desk : Desk} (h : Move plan c worker worker' f service)
    (hseat : Seated worker desk) (hworking : Working plan worker desk)
    (hmissed : c.state.service.missed? = service₀.missed?)
    (hfree : ∀ target rest, worker.task = .idle → c.state.queue = target :: rest →
      c.state.service.store.SamePart target.workflowId service₀.store)
    (hdesk : Alone plan plan₀ service₀ c.state.service worker desk) :
    Alone plan plan₀ service₀ service worker' (f desk) := by
  cases h with
  | taken target rest htask hqueue =>
      refine ⟨?_, hdesk.finished⟩
      intro target' work visit hbusy hvisit
      obtain ⟨rfl, rfl⟩ := Task.busy.inj hbusy
      obtain rfl := Option.some.inj hvisit
      exact ⟨0, .begin hlike target _ hmissed (hfree target rest htask hqueue)⟩
  | left htask hqueue => exact ⟨by simp, hdesk.finished⟩
  | finished target work attempted htask hnext =>
      refine ⟨by simp, ?_⟩
      obtain ⟨visit, hvisit, rfl⟩ := hseat.busy target work htask
      obtain ⟨n, htracks⟩ := hdesk.current _ work visit htask hvisit
      obtain ⟨attempted', hdone, hsame⟩ := htracks.next_done hnext
      simp only [Desk.close, hvisit, Option.map_some, Option.toList_some, List.mem_append,
        List.mem_singleton]
      rintro entry (hentry | rfl)
      · exact hdesk.finished entry hentry
      · exact ⟨attempted, attempted', rfl, ⟨n, hdone, htracks.outline.symm⟩, hsame⟩
  | called target work request resume htask hnext =>
      refine ⟨?_, hdesk.finished⟩
      intro target' work' visit' hbusy hvisit'
      obtain ⟨rfl, rfl⟩ := Task.busy.inj hbusy
      obtain ⟨visit, hvisit, rfl, hsubject, hscan⟩ := hworking.exists_visit hseat htask hnext
      obtain rfl : visit.after (c.ask request) = visit' := by
        simpa [Desk.note, hvisit] using hvisit'
      obtain ⟨n, htracks⟩ := hdesk.current _ work visit htask hvisit
      refine ⟨n + 1, ?_⟩
      rw [Function.iterate_succ_apply']
      exact htracks.ask hnext hsubject hscan _
  | rested target work resume htask hnext =>
      refine ⟨?_, hdesk.finished⟩
      intro target' work' visit hbusy hvisit
      obtain ⟨rfl, rfl⟩ := Task.busy.inj hbusy
      obtain ⟨n, htracks⟩ := hdesk.current _ work visit htask hvisit
      refine ⟨n + 1, ?_⟩
      rw [Function.iterate_succ_apply']
      exact htracks.pause hnext
  | readied htask => exact ⟨by simp, hdesk.finished⟩

/-- The service behind a move: as it was, or called about the target at hand. -/
theorem service_of_move {worker worker' : Worker} {f : Desk → Desk} {service : Service} {desk : Desk}
    (h : Move plan c worker worker' f service) (hseat : Seated worker desk)
    (hworking : Working plan worker desk) :
    service = c.state.service ∨ ∃ target ∈ desk.targets, ∃ request : Request,
      service = (c.state.service.call request).2 ∧ request.subject = target.workflowId ∧
        request.method ≠ .scan := by
  cases h with
  | taken | left | finished | rested | readied => exact .inl rfl
  | called target work request resume htask hnext =>
      obtain ⟨visit, hvisit, rfl, hsubject, hscan⟩ := hworking.exists_visit hseat htask hnext
      have hmem : visit.target ∈ desk.targets := by simp [Desk.targets, Desk.visits, hvisit]
      exact .inr ⟨visit.target, hmem, request, rfl, hsubject, hscan⟩

/-- A move leaves all other workflows alone. -/
theorem samePart_of_move {worker worker' : Worker} {f : Desk → Desk} {service : Service}
    {desk : Desk} (h : Move plan c worker worker' f service) (hseat : Seated worker desk)
    (hworking : Working plan worker desk) :
    service.missed? = c.state.service.missed? ∧ ∀ workflowId,
      (∀ target ∈ desk.targets, target.workflowId ≠ workflowId) →
        service.store.SamePart workflowId c.state.service.store := by
  rcases service_of_move h hseat hworking with rfl | ⟨target, htarget, request, rfl, hsubject, hscan⟩
  · exact ⟨rfl, fun workflowId _ => .refl workflowId _⟩
  · refine ⟨rfl, ?_⟩
    intro workflowId hothers
    exact c.state.service.samePart_call (.inr (hsubject ▸ hothers target htarget))

/-- An idle worker takes up the target in front of the queue. -/
theorem targets_of_move {worker worker' : Worker} {f : Desk → Desk} {service : Service} {desk : Desk}
    (h : Move plan c worker worker' f service) (hseat : Seated worker desk) :
    ∃ more, (f desk).targets = desk.targets ++ more ∧
      ∀ target rest, worker.task = .idle → c.state.queue = target :: rest → more = [target] := by
  cases h with
  | taken target rest htask hqueue =>
      have hfree : desk.current = none := hseat.free (by simp [htask])
      refine ⟨[target], by simp [Desk.targets, Desk.visits_take hfree], ?_⟩
      intro target' rest' _ hqueue'
      rw [hqueue] at hqueue'
      rw [(List.cons.inj hqueue').1]
  | left htask hqueue => exact ⟨[], by simp, by simp [hqueue]⟩
  | finished target work attempted htask hnext =>
      exact ⟨[], by simp [Desk.targets], by simp [htask]⟩
  | called target work request resume htask hnext => exact ⟨[], by simp, by simp [htask]⟩
  | rested target work resume htask hnext => exact ⟨[], by simp, by simp [htask]⟩
  | readied htask => exact ⟨[], by simp, by simp [htask]⟩

theorem isolated_of_change (hlike : plan.Like plan₀) (h : Change plan c c')
    (hc : c.Accounted plan) (hdistinct : c'.visited.Nodup)
    (hisolated : c.Isolated plan plan₀ service₀) : c'.Isolated plan plan₀ service₀ := by
  rcases bench_of_change h with ⟨hworkers, hdesks, hcall⟩ | ⟨index, worker, worker', f, hworker,
    hmoved, hworkers, hdesks, -⟩
  · -- A scan of the producer is about no workflow.
    have hservice : c'.state.service.missed? = c.state.service.missed? ∧
        ∀ workflowId, c'.state.service.store.SamePart workflowId c.state.service.store := by
      rcases hcall with ⟨hservice, -⟩ | ⟨request, hservice, -⟩
      · rw [hservice]
        exact ⟨rfl, fun workflowId => .refl workflowId _⟩
      · rw [hservice]
        exact ⟨rfl, fun workflowId => c.state.service.samePart_call (.inl rfl)⟩
    refine ⟨hservice.1.trans hisolated.missed, ?_, ?_⟩
    · intro workflowId hnot
      rw [visited, hdesks] at hnot
      exact (hservice.2 workflowId).trans (hisolated.untouched workflowId hnot)
    · rw [hworkers, hdesks]
      apply hisolated.alone.imp
      intro worker desk hdesk
      exact hdesk.frame hservice.1 fun target _ _ => hservice.2 target.workflowId
  · obtain ⟨desk, hdesk, ⟨hseat, hworking⟩, halone⟩ := exists_partner
      (forall₂_and (forall₂_and hc.seats hc.lawful) hisolated.alone) hworker
    obtain ⟨more, hmore, hfront⟩ := targets_of_move hmoved hseat
    have hvisited : c'.visited.Perm (c.visited ++ more.map WorkflowRef.workflowId) := by
      have hperm := perm_flatMap_modify (f := f) (g := Desk.targets) hdesk [] more (by simp [hmore])
      rw [List.append_nil] at hperm
      rw [visited, hdesks, visited, ← List.map_append]
      exact hperm.map _
    have hnodup := hvisited.nodup_iff.mp hdistinct
    have hhere {target : WorkflowRef} (htarget : target ∈ desk.targets) :
        target.workflowId ∈ c.visited :=
      List.mem_map_of_mem (List.mem_flatMap.mpr ⟨desk, List.mem_of_getElem? hdesk, htarget⟩)
    have hservice := samePart_of_move hmoved hseat hworking
    refine ⟨hservice.1.trans hisolated.missed, ?_, ?_⟩
    · intro workflowId hnot
      have hbefore : workflowId ∉ c.visited := fun hmem =>
        hnot (hvisited.mem_iff.mpr (List.mem_append_left _ hmem))
      have hothers (target : WorkflowRef) (htarget : target ∈ desk.targets) :
          target.workflowId ≠ workflowId := by
        rintro rfl
        exact hbefore (hhere htarget)
      exact (hservice.2 workflowId hothers).trans (hisolated.untouched workflowId hbefore)
    · rw [hworkers, hdesks]
      refine forall₂_modify (forall₂_and (forall₂_and hc.seats hc.lawful) hisolated.alone) hworker
        ?_ ?_
      · intro desk' hdesk' hall
        refine alone_of_move hlike hmoved hall.1.1 hall.1.2 hisolated.missed ?_ hall.2
        intro target rest hidle hqueue
        apply hisolated.untouched
        rw [hfront target rest hidle hqueue] at hnodup
        exact fun hmem => (List.nodup_append.mp hnodup).2.2 _ hmem _ (by simp) rfl
      · rintro i other desk' hne hdesk' ⟨⟨hseat', -⟩, halone'⟩
        apply halone'.frame hservice.1
        intro target' work' hbusy
        apply hservice.2
        intro target htarget
        obtain ⟨visit', hvisit', rfl⟩ := hseat'.busy target' work' hbusy
        have htarget' : visit'.target ∈ desk'.targets := by
          simp [Desk.targets, Desk.visits, hvisit']
        exact workflowId_ne (List.nodup_append.mp hnodup).1 hne.symm hdesk hdesk' htarget htarget'

theorem isolated_of_follow? (hlike : plan.Like plan₀) {service : Service} {metrics : Metrics}
    {source : Source} {started : Nat} {schedule : List Actor}
    (hmissed : service.missed? = service₀.missed?)
    (hpart : ∀ workflowId, service.store.SamePart workflowId service₀.store)
    (hrun : (start plan service metrics source started).follow? plan schedule = some c)
    (hdistinct : c.workflows.Nodup) : c.Isolated plan plan₀ service₀ := by
  refine of_schedule (fun c => c.workflows.Nodup → c.Isolated plan plan₀ service₀) ?_ ?_ hrun
    hdistinct
  · intro c c' h hc hisolated hdistinct'
    obtain ⟨more, hmore⟩ := workflows_of_change h
    have hbefore : c.workflows.Nodup := (List.nodup_append.mp (hmore ▸ hdistinct')).1
    have hplaced := (accounted_of_change c c' h hc).targets
    exact isolated_of_change hlike h hc (visited_nodup hplaced hdistinct') (hisolated hbefore)
  · intro _
    exact ⟨hmissed, fun workflowId _ => hpart workflowId,
      forall₂_start ⟨by simp, by simp [Desk.empty]⟩ plan service metrics source started⟩

/-- A batch works on its targets as if each were alone with the service that the batch began with. -/
theorem isolated_of_start (hlike : plan.Like plan₀) {service : Service} {metrics : Metrics}
    {source : Source} {started : Nat} {schedule : List Actor}
    (hrun : (start plan service metrics source started).follow? plan schedule = some c)
    (hdistinct : c.workflows.Nodup) : c.Isolated plan plan₀ service :=
  isolated_of_follow? hlike rfl (fun workflowId => .refl workflowId _) hrun hdistinct

theorem Isolated.finished (h : c.Isolated plan plan₀ service₀) {entry : Visit × Outcome}
    (hentry : entry ∈ c.desks.flatMap Desk.finished) : ∃ attempted attempted',
      entry.2 = plan.outcome entry.1.target attempted ∧
        Verdict plan₀ service₀ entry.1.target attempted' entry.1.outline ∧
        (attempted = attempted' ∨ Plan.BothAttempted attempted attempted') := by
  obtain ⟨desk, hdesk, hmem⟩ := List.mem_flatMap.mp hentry
  obtain ⟨worker, -, halone⟩ := exists_left h.alone hdesk
  exact halone.finished entry hmem

end Rewind.Batch.Chronicle
