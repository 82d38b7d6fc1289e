import Rewind.Proofs.TargetLine

/-!
Targets that are written as rows of columns.

A column that neither begins nor ends with a blank survives the trimming of its row. Where a row is cut
depends only on what stands up to the end of the first separator, so the columns behind it do not matter.

Main statement: a target is read back from its row (`TargetLine.parse_row`).
-/

namespace Rewind

namespace Text

variable {sep text front back : List Char}

/-- The last character is there and not blank. -/
def EndsTight (text : List Char) : Prop :=
  ∃ c ∈ text.getLast?, isBlank c = false

/-- A text that begins and ends with characters that are not blank. -/
structure Tight (text : List Char) : Prop where
  first : ∃ c ∈ text.head?, isBlank c = false
  last : EndsTight text

theorem Tight.ne_nil (h : Tight text) : text ≠ [] := by
  rintro rfl
  obtain ⟨c, hc, -⟩ := h.first
  exact absurd hc (by simp)

/-- Columns at both ends make a row tight, whatever stands between them. -/
theorem Tight.append (h : Tight front) (middle : List Char) (hback : EndsTight back) :
    Tight (front ++ middle ++ back) := by
  constructor
  · obtain ⟨c, hc, hblank⟩ := h.first
    exact ⟨c, by simp [List.head?_append, Option.mem_def.mp hc], hblank⟩
  · obtain ⟨c, hc, hblank⟩ := hback
    exact ⟨c, by simp [List.getLast?_append, Option.mem_def.mp hc], hblank⟩

theorem Tight.trimStart_append (h : Tight text) (back : List Char) :
    trimStart (text ++ back) = text ++ back := by
  obtain ⟨c, hc, hblank⟩ := h.first
  obtain ⟨rest, rfl⟩ := List.head?_eq_some_iff.mp hc
  exact List.dropWhile_cons_of_neg (by simp [hblank])

theorem Tight.trimEnd_eq (h : Tight text) : trimEnd text = text := by
  obtain ⟨c, hc, hblank⟩ := h.last
  rw [trimEnd_eq_rdropWhile, List.rdropWhile_eq_self_iff]
  intro hne
  rw [List.getLast?_eq_some_getLast hne] at hc
  rw [Option.some.inj hc, hblank]
  exact Bool.false_ne_true

/-- Blanks around a tight text are trimmed away, and nothing else. -/
theorem Tight.trim_surrounded (h : Tight text) (hfront : ∀ c ∈ front, isBlank c = true)
    (hback : ∀ c ∈ back, isBlank c = true) : trim (front ++ text ++ back) = text := by
  rw [List.append_assoc, trim_append_of_blank hfront, trim, h.trimStart_append,
    trimEnd_append_of_blank _ hback, h.trimEnd_eq]

theorem Tight.trim_eq (h : Tight text) : trim text = text := by
  rw [trim, ← List.append_nil text, h.trimStart_append, List.append_nil, h.trimEnd_eq]

/-! ### Cutting rows -/

/-- Where a separator stands first does not depend on what follows it. -/
theorem FirstAt.with_back (h : FirstAt sep text front back) (back' : List Char) :
    FirstAt sep (front ++ sep ++ back') front back' := by
  refine ⟨rfl, fun front' rest htext => ?_⟩
  apply Nat.le_of_not_lt
  intro hshort
  -- The earlier separator would stand within `front ++ sep`, and so in the other text too.
  have hwithin : front' ++ sep <+: front ++ sep :=
    List.prefix_of_prefix_length_le ⟨rest, htext.symm⟩ (List.prefix_append _ back')
      (by simpa using Nat.le_of_lt hshort)
  obtain ⟨between, hbetween⟩ := hwithin
  have hearlier : text = front' ++ sep ++ (between ++ back) := by
    rw [h.eq_append, ← hbetween, List.append_assoc]
  exact absurd (h.first front' _ hearlier) (Nat.not_le_of_lt hshort)

theorem before_of_firstAt (h : FirstAt sep text front back) : before sep text = front := by
  rw [before, cut?_eq_some_iff.mpr h]

theorem after?_of_firstAt (h : FirstAt sep text front back) : after? sep text = some back := by
  rw [after?, cut?_eq_some_iff.mpr h, Option.map_some]

theorem before_of_absent (h : ¬ sep <:+: text) : before sep text = text := by
  rw [before, cut?_eq_none_iff.mpr h]

theorem after?_of_absent (h : ¬ sep <:+: text) : after? sep text = none := by
  rw [after?, cut?_eq_none_iff.mpr h, Option.map_none]

end Text

namespace TargetLine

open Text

variable {separator workflowId front back : String}

/-- A line whose columns are a workflow and maybe a run names them. -/
theorem parse_of_columns {text : String} {row : List Char} {runId : Option String}
    (htrim : trim text.toList = row) (hcomment : row.head? ≠ some '#')
    (hworkflow : workflowId.toList ≠ [])
    (hcolumns : columns separator.toList row = (workflowId.toList, runId.map String.toList))
    (line : Nat) : parse text separator line = .ok (.target (.of workflowId runId)) := by
  have hrow : row ≠ [] := by
    rintro rfl
    have hempty : (columns separator.toList []).1 = [] := by
      have hbefore : before separator.toList [] = [] := by
        cases hsep : separator.toList <;> rfl
      rw [columns, hbefore]
      rfl
    rw [hcolumns] at hempty
    exact hworkflow hempty
  have hline : HasColumns text := ⟨htrim ▸ hrow, htrim ▸ hcomment⟩
  rw [parse_of_hasColumns hline, htrim, hcolumns]
  obtain ⟨c, rest, hcons⟩ := List.exists_cons_of_ne_nil hworkflow
  rw [hcons]
  simp only
  rw [← hcons, String.ofList_toList]
  cases runId <;> simp

/-- The first column of a tight row, and the second one cut off at the next separator. -/
theorem columns_of_firstAt {sep row workflowId rest runId : List Char}
    (hfirst : FirstAt sep row workflowId rest) (hworkflow : Tight workflowId)
    (hrun : Tight runId) (hrest : before sep rest = runId) :
    columns sep row = (workflowId, some runId) := by
  rw [columns, before_of_firstAt hfirst, after?_of_firstAt hfirst, Option.map_some, hrest,
    hworkflow.trim_eq, hrun.trim_eq]

/-- A target is read back from the row that it is written as: the workflow, a separator and the run,
perhaps with further columns, or the workflow alone. Blanks around the row do not matter. The first
separators of the row have to be those that the columns are joined with. -/
theorem parse_row (hworkflow : Tight workflowId.toList)
    (hcomment : workflowId.toList.head? ≠ some '#') (hfront : ∀ c ∈ front.toList, isBlank c = true)
    (hback : ∀ c ∈ back.toList, isBlank c = true) (line : Nat) :
    (∀ runId : String, Tight runId.toList → ¬ separator.toList <:+: runId.toList →
      FirstAt separator.toList (workflowId ++ separator ++ runId).toList workflowId.toList
        runId.toList →
      parse (front ++ workflowId ++ separator ++ runId ++ back) separator line =
        .ok (.target ⟨workflowId, some runId⟩) ∧
      ∀ further : String, EndsTight further.toList →
        FirstAt separator.toList (runId ++ separator ++ further).toList runId.toList
          further.toList →
        parse (front ++ workflowId ++ separator ++ runId ++ separator ++ further ++ back) separator
          line = .ok (.target ⟨workflowId, some runId⟩)) ∧
    (¬ separator.toList <:+: workflowId.toList →
      parse (front ++ workflowId ++ back) separator line = .ok (.target ⟨workflowId, none⟩)) := by
  have hfirst {rest : List Char} (row : List Char) (hrow : row = workflowId.toList ++ rest) :
      row.head? ≠ some '#' := by
    rw [hrow, List.head?_append_of_ne_nil _ hworkflow.ne_nil]
    exact hcomment
  refine ⟨fun runId hrun hinside hcut => ?_, fun hinside => ?_⟩
  · have hnamed : WorkflowRef.of workflowId (some runId) = ⟨workflowId, some runId⟩ := by
      have hsome : runId ≠ "" := fun hempty => hrun.ne_nil (by simp [hempty])
      simp [WorkflowRef.of, Option.filter, hsome]
    rw [← hnamed]
    -- A row is tight from its first column to its last one, whatever that is.
    have hread (text : String) (rest : List Char)
        (htext : text.toList = front.toList ++ (workflowId.toList ++ separator.toList ++ rest) ++
          back.toList)
        (hends : EndsTight rest) (hrest : before separator.toList rest = runId.toList) :
        parse text separator line = .ok (.target (.of workflowId (some runId))) := by
      refine parse_of_columns (htext ▸ (hworkflow.append _ hends).trim_surrounded hfront hback)
        (hfirst _ (List.append_assoc _ _ _)) hworkflow.ne_nil ?_ line
      exact columns_of_firstAt (hcut.with_back rest) hworkflow hrun hrest
    refine ⟨hread _ runId.toList (by simp) hrun.last (before_of_absent hinside), ?_⟩
    intro further hends hnext
    refine hread _ (runId ++ separator ++ further).toList (by simp) ?_ (before_of_firstAt hnext)
    rw [String.toList_append, String.toList_append]
    exact (hrun.append separator.toList hends).last
  · have hnamed : WorkflowRef.of workflowId none = ⟨workflowId, none⟩ := rfl
    have htrim : trim (front ++ workflowId ++ back).toList = workflowId.toList := by
      simpa using hworkflow.trim_surrounded hfront hback
    rw [← hnamed]
    refine parse_of_columns htrim hcomment hworkflow.ne_nil ?_ line
    rw [columns, before_of_absent hinside, after?_of_absent hinside, hworkflow.trim_eq]
    rfl

/-- A colon in front of a run id stands behind the separator and is not taken for a part of it. -/
theorem parse_row_colons :
    parse "\t pay:::first \r" "::" 3 = .ok (.target ⟨"pay", some ":first"⟩) ∧
    parse "\t pay:::first::old, not used \r" "::" 3 = .ok (.target ⟨"pay", some ":first"⟩) ∧
    parse "\t pay \r" "::" 3 = .ok (.target ⟨"pay", none⟩) := by
  have hworkflow : Tight "pay".toList := ⟨⟨'p', rfl, rfl⟩, ⟨'y', rfl, rfl⟩⟩
  have hrun : Tight ":first".toList := ⟨⟨':', rfl, rfl⟩, ⟨'t', rfl, rfl⟩⟩
  have hcut : FirstAt "::".toList ("pay" ++ "::" ++ ":first").toList "pay".toList
      ":first".toList := cut?_eq_some_iff.mp (by decide +kernel)
  have hnext : FirstAt "::".toList (":first" ++ "::" ++ "old, not used").toList ":first".toList
      "old, not used".toList := cut?_eq_some_iff.mp (by decide +kernel)
  have hinside {text : String} (hnone : cut? "::".toList text.toList = none) :
      ¬ "::".toList <:+: text.toList := cut?_eq_none_iff.mp hnone
  have hblank {text : String} (hall : text.toList.all isBlank = true) :
      ∀ c ∈ text.toList, isBlank c = true := List.all_eq_true.mp hall
  obtain ⟨hrow, halone⟩ := @parse_row "::" "pay" "\t " " \r" hworkflow (by decide +kernel)
    (hblank (by decide +kernel)) (hblank (by decide +kernel)) 3
  obtain ⟨htwo, hmore⟩ := hrow ":first" hrun (hinside (by decide +kernel)) hcut
  exact ⟨htwo, hmore "old, not used" ⟨'d', rfl, rfl⟩ hnext, halone (hinside (by decide +kernel))⟩

end TargetLine

end Rewind
