import Mathlib.Data.List.Perm.Basic
import Mathlib.Logic.Equiv.Basic
import Rewind.Proofs.Part

/-!
Renaming what is generated.

Stores that are alike but for the run ids that they give out come to the same, up to these ids, when
the same resets are accepted once for each workflow. Resets are the same if they are alike but for
their request ids.

Main statements: `Logs.runs_renamed`, `Logs.current_renamed` and `exists_requestIds`.
-/

namespace Rewind

/-! ### Lists with the same keys -/

section

variable {α β γ δ : Type} {f : α → γ} {g : β → γ} {f' : α → δ} {g' : β → δ}

theorem map_eq_of_keys {as : List α} {bs : List β} (hkeys : as.map f = bs.map g)
    (h : ∀ a ∈ as, ∀ b ∈ bs, f a = g b → f' a = g' b) : as.map f' = bs.map g' := by
  induction as generalizing bs with
  | nil =>
      obtain rfl : bs = [] := by simpa using hkeys.symm
      rfl
  | cons a as ih =>
      cases bs with
      | nil => simp at hkeys
      | cons b bs =>
          obtain ⟨hkey, hkeys⟩ := List.cons.inj hkeys
          rw [List.map_cons, List.map_cons, h a (by simp) b (by simp) hkey]
          congr 1
          apply ih hkeys
          intro a' ha' b' hb'
          exact h a' (List.mem_cons_of_mem a ha') b' (List.mem_cons_of_mem b hb')

/-- Lists with the same keys can be brought into one order. -/
theorem exists_order {as : List α} {bs : List β} (hkeys : (as.map f).Perm (bs.map g)) :
    ∃ bs' : List β, as.map f = bs'.map g ∧ bs'.Perm bs := by
  have hcomp : Relation.Comp (fun keys bs => keys = List.map g bs) List.Perm (as.map f) bs := by
    rw [List.eq_map_comp_perm]
    exact hkeys
  exact hcomp

/-- What items with the same keys agree on is the same in lists with the same keys. -/
theorem perm_of_keys {as : List α} {bs : List β} (hkeys : (as.map f).Perm (bs.map g))
    (h : ∀ a ∈ as, ∀ b ∈ bs, f a = g b → f' a = g' b) : (as.map f').Perm (bs.map g') := by
  obtain ⟨bs', hkeys', hperm⟩ := exists_order hkeys
  have hsame : as.map f' = bs'.map g' := by
    apply map_eq_of_keys hkeys'
    intro a ha b hb
    exact h a ha b (hperm.mem_iff.mp hb)
  rw [hsame]
  exact hperm.map g'

end

/-! ### Request ids -/

/-- The request under another id. -/
def ResetRequest.withId (request : ResetRequest) (requestId : String) : ResetRequest :=
  { request with requestId }

theorem ResetRequest.withId_eq {request request' : ResetRequest}
    (hsame : request.anonymous = request'.anonymous) :
    request.withId request'.requestId = request' := by
  calc request.withId request'.requestId
    _ = request.anonymous.withId request'.requestId := rfl
    _ = request'.anonymous.withId request'.requestId := by rw [hsame]
    _ = request' := rfl

theorem exists_requestIds_of_eq {resets resets' : List ResetRequest}
    (hsame : resets.map ResetRequest.anonymous = resets'.map ResetRequest.anonymous)
    (hnodup : (resets.map ResetRequest.requestId).Nodup) :
    ∃ renameId : String → String,
      resets.map (fun reset => reset.withId (renameId reset.requestId)) = resets' := by
  induction resets generalizing resets' with
  | nil =>
      obtain rfl : resets' = [] := by simpa using hsame.symm
      exact ⟨id, rfl⟩
  | cons reset resets ih =>
      cases resets' with
      | nil => simp at hsame
      | cons reset' resets' =>
          obtain ⟨hhead, htail⟩ := List.cons.inj hsame
          rw [List.map_cons, List.nodup_cons] at hnodup
          obtain ⟨hnew, hnodup⟩ := hnodup
          obtain ⟨renameId, hresets⟩ := ih htail hnodup
          refine ⟨fun id => if id = reset.requestId then reset'.requestId else renameId id, ?_⟩
          simp only [List.map_cons, if_true, ResetRequest.withId_eq hhead, List.cons.injEq, true_and]
          rw [← hresets]
          apply List.map_congr_left
          intro other hother
          have hne : other.requestId ≠ reset.requestId := by
            intro heq
            exact hnew (List.mem_map.mpr ⟨other, hother, heq⟩)
          rw [if_neg hne]

/-- Resets that are alike but for their request ids are the same up to a renaming of these. -/
theorem exists_requestIds {resets resets' : List ResetRequest}
    (hsame : (resets.map ResetRequest.anonymous).Perm (resets'.map ResetRequest.anonymous))
    (hnodup : (resets.map ResetRequest.requestId).Nodup) :
    ∃ renameId : String → String,
      (resets.map fun reset => reset.withId (renameId reset.requestId)).Perm resets' := by
  obtain ⟨ordered, hordered, hperm⟩ := exists_order hsame
  obtain ⟨renameId, hresets⟩ := exists_requestIds_of_eq hordered hnodup
  exact ⟨renameId, hresets ▸ hperm⟩

/-! ### Run ids -/

/-- The run under another id. -/
def Run.withId (run : Run) (runId : String) : Run :=
  { run with runId }

namespace Store

/-- The run ids that come next are not in use. -/
structure NextFresh (s : Store) : Prop where
  runs : ∀ workflowId, s.runs workflowId (s.nextRunId workflowId) = none
  current : ∀ workflowId, s.current workflowId ≠ some (s.nextRunId workflowId)

/-- Exchanges the run ids that come next in two stores. -/
def renameRun (s t : Store) (workflowId : String) : Equiv.Perm String :=
  Equiv.swap (s.nextRunId workflowId) (t.nextRunId workflowId)

@[simp] theorem renameRun_next (s t : Store) (workflowId : String) :
    s.renameRun t workflowId (s.nextRunId workflowId) = t.nextRunId workflowId :=
  Equiv.swap_apply_left _ _

/-- A run id is next in one of the stores, or keeps its name. -/
theorem renameRun_cases (s t : Store) (workflowId runId : String) :
    runId = s.nextRunId workflowId ∨
    (runId ≠ s.nextRunId workflowId ∧ runId = t.nextRunId workflowId ∧
      s.renameRun t workflowId runId = s.nextRunId workflowId) ∨
    runId ≠ s.nextRunId workflowId ∧ runId ≠ t.nextRunId workflowId ∧
      s.renameRun t workflowId runId = runId := by
  by_cases hs : runId = s.nextRunId workflowId
  · exact .inl hs
  · by_cases ht : runId = t.nextRunId workflowId
    · subst ht
      exact .inr (.inl ⟨hs, rfl, Equiv.swap_apply_right _ _⟩)
    · exact .inr (.inr ⟨hs, ht, Equiv.swap_apply_of_ne_of_ne hs ht⟩)

/-- Stores that are alike but for the run ids that they give out. -/
structure SameRuns (s t : Store) : Prop where
  runs : s.runs = t.runs
  current : s.current = t.current

/-- Behind such stores, resets that are the same but for their request ids were accepted, and no
workflow was reset twice. -/
structure SameLogs (s t s' t' : Store) (log log' : List (ResetRequest × String)) : Prop where
  logs : Logs s s' log
  logs' : Logs t t' log'
  nodup : (log.map (·.1.workflowId)).Nodup
  nodup' : (log'.map (·.1.workflowId)).Nodup
  same : (log.map (·.1.anonymous)).Perm (log'.map (·.1.anonymous))

namespace SameLogs

variable {s t s' t' : Store} {log log' : List (ResetRequest × String)}

theorem workflows (h : SameLogs s t s' t' log log') :
    (log.map (·.1.workflowId)).Perm (log'.map (·.1.workflowId)) := by
  have hperm := h.same.map ResetRequest.workflowId
  rw [List.map_map, List.map_map] at hperm
  exact hperm

/-- Either workflow is as it was, or it has one more run in both stores, which is the current one. -/
theorem made_or_kept (h : SameLogs s t s' t' log log') (hsame : SameRuns s t) (workflowId : String) :
    ((∀ runId, s'.runs workflowId runId = s.runs workflowId runId) ∧
      s'.current workflowId = s.current workflowId ∧
      (∀ runId, t'.runs workflowId runId = s.runs workflowId runId) ∧
      t'.current workflowId = s.current workflowId) ∨
    ∃ run : Run,
      (∀ runId, s'.runs workflowId runId =
        if runId = s.nextRunId workflowId then some (run.withId (s.nextRunId workflowId))
        else s.runs workflowId runId) ∧
      s'.current workflowId = some (s.nextRunId workflowId) ∧
      (∀ runId, t'.runs workflowId runId =
        if runId = t.nextRunId workflowId then some (run.withId (t.nextRunId workflowId))
        else s.runs workflowId runId) ∧
      t'.current workflowId = some (t.nextRunId workflowId) := by
  by_cases hmem : workflowId ∈ log.map (·.1.workflowId)
  · right
    obtain ⟨entry, hentry, rfl⟩ := List.mem_map.mp hmem
    have hanonymous : entry.1.anonymous ∈ log'.map (·.1.anonymous) :=
      h.same.mem_iff.mp (List.mem_map.mpr ⟨entry, hentry, rfl⟩)
    obtain ⟨entry', hentry', hequal⟩ := List.mem_map.mp hanonymous
    obtain ⟨kept, hkept, hname, hcurrent, hruns⟩ := h.logs.once h.nodup hentry
    obtain ⟨kept', hkept', hname', hcurrent', hruns'⟩ := h.logs'.once h.nodup' hentry'
    have hevents : t.keptEvents entry'.1 = s.keptEvents entry.1 := by
      apply keptEvents_congr
      · intro runId
        rw [hsame.runs]
      · rw [hsame.current]
      · exact hequal
    obtain rfl : kept = kept' := by
      rw [hkept, hkept'] at hevents
      exact (Except.ok.inj hevents).symm
    obtain ⟨-, hworkflow, -, hevent, hreason, -, -⟩ := ResetRequest.mk.inj hequal
    rw [hworkflow] at hname' hcurrent' hruns'
    rw [hname] at hcurrent hruns
    rw [hname'] at hcurrent' hruns'
    refine ⟨s.resetRun entry.1 kept, hruns, hcurrent, ?_, hcurrent'⟩
    intro runId
    rw [hruns', hsame.runs]
    simp only [resetRun, resetEvents, Run.withId, hworkflow, hevent, hreason]
  · left
    have hmem' : workflowId ∉ log'.map (·.1.workflowId) := fun hin =>
      hmem (h.workflows.mem_iff.mpr hin)
    obtain ⟨hruns, hcurrent, -⟩ := h.logs.unreset hmem
    obtain ⟨hruns', hcurrent', -⟩ := h.logs'.unreset hmem'
    refine ⟨hruns, hcurrent, ?_, ?_⟩
    · intro runId
      rw [hruns', hsame.runs]
    · rw [hcurrent', hsame.current]

/-- The runs are the same, but those that resets have made bear the ids of their own store. -/
theorem runs_renamed (h : SameLogs s t s' t' log log') (hsame : SameRuns s t) (hs : s.NextFresh)
    (ht : t.NextFresh) (workflowId runId : String) :
    t'.runs workflowId (s.renameRun t workflowId runId) =
      (s'.runs workflowId runId).map fun run =>
        if s.renameRun t workflowId runId = runId then run
        else run.withId (s.renameRun t workflowId runId) := by
  have hnext := hs.runs workflowId
  have hnext' : s.runs workflowId (t.nextRunId workflowId) = none := by
    rw [hsame.runs]
    exact ht.runs workflowId
  rcases h.made_or_kept hsame workflowId with ⟨hruns, -, hruns', -⟩ | ⟨run, hruns, -, hruns', -⟩
  · rw [hruns, hruns']
    rcases renameRun_cases s t workflowId runId with rfl | ⟨-, rfl, hname⟩ | ⟨-, -, hname⟩
    · rw [renameRun_next, hnext, hnext']
      rfl
    · rw [hname, hnext, hnext']
      rfl
    · simp only [hname, if_true, Option.map_id']
  · rw [hruns, hruns']
    rcases renameRun_cases s t workflowId runId with rfl | ⟨hne, rfl, hname⟩ | ⟨hne, hne', hname⟩
    · rw [renameRun_next, if_pos rfl, if_pos rfl, Option.map_some]
      split
      · rename_i heq
        rw [heq]
      · rfl
    · rw [hname, if_neg hne.symm, if_neg hne, hnext, hnext']
      rfl
    · rw [hname, if_neg hne', if_neg hne]
      simp only [if_true, Option.map_id']

theorem current_renamed (h : SameLogs s t s' t' log log') (hsame : SameRuns s t) (hs : s.NextFresh)
    (ht : t.NextFresh) (workflowId : String) :
    t'.current workflowId = (s'.current workflowId).map (s.renameRun t workflowId) := by
  rcases h.made_or_kept hsame workflowId with ⟨-, hcurrent, -, hcurrent'⟩ |
    ⟨run, -, hcurrent, -, hcurrent'⟩
  · rw [hcurrent, hcurrent']
    have hfresh := hs.current workflowId
    have hfresh' : s.current workflowId ≠ some (t.nextRunId workflowId) := by
      rw [hsame.current]
      exact ht.current workflowId
    cases hrun : s.current workflowId with
    | none => rfl
    | some runId =>
        rw [hrun, Ne, Option.some.injEq] at hfresh hfresh'
        rcases renameRun_cases s t workflowId runId with heq | ⟨-, heq, -⟩ | ⟨-, -, hname⟩
        · exact absurd heq hfresh
        · exact absurd heq hfresh'
        · rw [Option.map_some, hname]
  · rw [hcurrent, hcurrent', Option.map_some, renameRun_next]

end SameLogs

end Store

end Rewind
