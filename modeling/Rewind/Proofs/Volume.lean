import Rewind.Proofs.Lineage

/-!
How long histories get.

A store counts the events of all runs that were ever put in, so no history is longer than that count.
It holds at first, and whatever is done to a store keeps it.
-/

namespace Rewind

namespace Store

/-- No history is longer than the number of events that were put in. -/
def Bounded (s : Store) : Prop :=
  ∀ workflowId runId run, s.runs workflowId runId = some run → run.history.length ≤ s.volume

theorem bounded_empty (naming : String → Nat → String) : (empty naming).Bounded :=
  fun _ _ _ hnone => nomatch hnone

theorem Bounded.insertRun {s : Store} (h : s.Bounded) (run : Run) : (s.insertRun run).Bounded := by
  intro workflowId runId found hfound
  simp only [Store.insertRun, setRun, setCurrent] at hfound ⊢
  split at hfound
  · obtain rfl := Option.some.inj hfound
    exact Nat.le_add_left _ _
  · exact Nat.le_add_right_of_le (h _ _ _ hfound)

theorem Step.bounded {s s' : Store} {entry : Option (ResetRequest × String)} (h : Step s s' entry)
    (hbounded : s.Bounded) : s'.Bounded := by
  cases h with
  | kept failures calls => exact hbounded
  | accepted calls r kept hkept => exact hbounded.insertRun _

theorem Logs.bounded {before after : Store} {log : List (ResetRequest × String)}
    (h : Logs before after log) (hbounded : before.Bounded) : after.Bounded := by
  induction h with
  | start => exact hbounded
  | step _ hstep ih => exact hstep.bounded ih

end Store

/-- The store of a fixture is bounded. -/
theorem Fixture.bounded_store (fixture : Fixture) (naming : String → Nat → String) :
    (fixture.store naming).Bounded :=
  fixture.store_keeps naming Store.Bounded (Store.bounded_empty naming)
    (fun _ hs run _ => hs.insertRun run) (fun _ hs _ _ => hs) (fun _ hs _ _ => hs)

end Rewind
