import FaultConsole.Listing.Summary
import FaultConsole.Proofs.Listing.Tables

/-!
# The counts and the table

The counts are kept while the experiments are gone through in the order in which they come. The full
table lists them in another order, and asks for their statuses in two ways of its own, for the badge
of a row and for its actions. That all three see the same is what
`summary_agrees_with_full_table` says.

Neither side is taken for the other. `ofExperiments_eq` says what is counted, without rows, and
`countP_rows` counts rows without the summary; both come down to the statuses in the list, where the
order does not matter.
-/

namespace FaultConsole

/-! ## The counts -/

namespace Summary

/-- Counting goes on from what has been counted already. -/
theorem foldl_add (s : Summary) (es : List Experiment) :
    es.foldl (fun s e => s.add e.status) s =
      { total := s.total + es.length
        completed := s.completed + es.countP (·.status = .completed)
        failed := s.failed + es.countP (·.status = .failed)
        running := s.running + es.countP (·.status = .running) } := by
  induction es generalizing s with
  | nil => rfl
  | cons e es ih =>
      rw [List.foldl_cons, ih, List.length_cons, List.countP_cons, List.countP_cons,
        List.countP_cons]
      -- the experiment in front is counted once in all, and once more for its status
      cases e.status with
      | pending => simp [add]; omega
      | running => simp [add]; omega
      | completed => simp [add]; omega
      | failed => simp [add]; omega
      | other name => simp [add]; omega

theorem ofExperiments_eq (es : List Experiment) :
    ofExperiments es =
      { total := es.length
        completed := es.countP (·.status = .completed)
        failed := es.countP (·.status = .failed)
        running := es.countP (·.status = .running) } := by
  rw [ofExperiments, foldl_add]
  simp only [Nat.zero_add]

/-- The counts do not depend on the order. -/
theorem ofExperiments_congr {es es' : List Experiment} (same : es'.Perm es) :
    ofExperiments es' = ofExperiments es := by
  rw [ofExperiments_eq, ofExperiments_eq, same.length_eq, same.countP_eq, same.countP_eq,
    same.countP_eq]

end Summary

/-! ## The rows -/

theorem TableBody.recordRows_ofRows {Row : Type} (message : String) (colspan : Nat)
    (rs : List Row) : (ofRows message colspan rs).recordRows = rs := by
  cases rs <;> rfl

theorem TableBody.ofRows_eq_placeholder_iff {Row : Type} {message : String} {colspan : Nat}
    {rs : List Row} : ofRows message colspan rs = placeholder message colspan ↔ rs = [] := by
  cases rs <;> simp [ofRows]

namespace ExperimentTable

theorem recordRows_body (zone : Time.Zone) (table : ExperimentTable) (es : List Experiment) :
    (table.body zone es).recordRows = (table.select es).map (·.row zone table) :=
  TableBody.recordRows_ofRows _ _ _

/-- The rows of the full table are counted like the experiments, since it has one for each. -/
theorem countP_rows (zone : Time.Zone) (es : List Experiment) (p : ExperimentRow → Bool) :
    (full.body zone es).recordRows.countP p = es.countP fun e => p (e.row zone .full) := by
  rw [recordRows_body, List.countP_map]
  exact (newestFirst_perm (·.createdAt) es).countP_eq _

theorem body_eq_placeholder_iff {zone : Time.Zone} {table : ExperimentTable} {es : List Experiment} :
    table.body zone es = .placeholder noExperiments table.headers.length ↔
      (table.body zone es).recordRows = [] := by
  rw [recordRows_body]
  exact TableBody.ofRows_eq_placeholder_iff

theorem length_rows (zone : Time.Zone) (es : List Experiment) :
    (full.body zone es).recordRows.length = es.length := by
  rw [recordRows_body, List.length_map]
  exact (newestFirst_perm (·.createdAt) es).length_eq

end ExperimentTable

/-- Every row has one badge of the four. -/
theorem ExperimentRow.countP_badges (rows : List ExperimentRow) :
    rows.length = rows.countP (·.badge = .success) + rows.countP (·.badge = .danger) +
      rows.countP (·.badge = .primary) + rows.countP (·.badge = .secondary) := by
  induction rows with
  | nil => rfl
  | cons row rows ih =>
      rw [List.length_cons, List.countP_cons, List.countP_cons, List.countP_cons,
        List.countP_cons, ih]
      cases row.badge with
      | secondary => simp; omega
      | primary => simp; omega
      | success => simp; omega
      | danger => simp; omega

/-- A badge that only one status has is as frequent as the status. -/
theorem ExperimentTable.countP_badge {badge : Badge} {status : Status}
    (only : ∀ st, Badge.ofStatus st = badge ↔ st = status) (zone : Time.Zone) (es : List Experiment) :
    (full.body zone es).recordRows.countP (·.badge = badge) = es.countP (·.status = status) := by
  rw [countP_rows]
  refine List.countP_congr fun e _ => ?_
  rw [decide_eq_true_eq, decide_eq_true_eq, Experiment.row]
  exact only e.status

theorem ExperimentTable.countP_stop (zone : Time.Zone) (es : List Experiment) :
    (full.body zone es).recordRows.countP (.stop ∈ ·.actions) =
      es.countP (·.status = .running) := by
  rw [countP_rows]
  refine List.countP_congr fun e _ => ?_
  simp only [Experiment.row, decide_eq_true_eq, mem_actions_iff, RowAction.IsOffered]

/-- **The summary and the full table agree.** What the summary counts as completed, failed and
running are the rows with the badge of that status, and the running ones are those that can be
stopped. It counts every row and no placeholder. What is left once the three are taken away, each of
them from no less, are the rows with the quiet badge. The order of the experiments does not matter.
-/
theorem summary_agrees_with_full_table (zone : Time.Zone) (es : List Experiment) :
    let s := Summary.ofExperiments es
    let body := ExperimentTable.full.body zone es
    let rows := body.recordRows
    (s.completed = rows.countP (·.badge = .success) ∧
      s.failed = rows.countP (·.badge = .danger) ∧
      s.running = rows.countP (·.badge = .primary) ∧
      s.running = rows.countP (.stop ∈ ·.actions)) ∧
    (s.total = rows.length ∧
      (s.total = 0 ↔
        body = .placeholder "No experiments found" ExperimentTable.full.headers.length)) ∧
    (s.other = rows.countP (·.badge = .secondary) ∧
      s.completed ≤ s.total ∧ s.failed ≤ s.total - s.completed ∧
      s.running ≤ s.total - s.completed - s.failed) ∧
    ∀ es' : List Experiment, es'.Perm es → Summary.ofExperiments es' = s := by
  intro s body rows
  have counts : s = _ := Summary.ofExperiments_eq es
  have completed : s.completed = rows.countP (·.badge = .success) := by
    have only : ∀ st, Badge.ofStatus st = .success ↔ st = .completed := by
      intro st
      cases st <;> simp [Badge.ofStatus]
    rw [counts]
    exact (ExperimentTable.countP_badge only zone es).symm
  have failed : s.failed = rows.countP (·.badge = .danger) := by
    have only : ∀ st, Badge.ofStatus st = .danger ↔ st = .failed := by
      intro st
      cases st <;> simp [Badge.ofStatus]
    rw [counts]
    exact (ExperimentTable.countP_badge only zone es).symm
  have running : s.running = rows.countP (·.badge = .primary) := by
    have only : ∀ st, Badge.ofStatus st = .primary ↔ st = .running := by
      intro st
      cases st <;> simp [Badge.ofStatus]
    rw [counts]
    exact (ExperimentTable.countP_badge only zone es).symm
  have stoppable : s.running = rows.countP (.stop ∈ ·.actions) := by
    rw [counts]
    exact (ExperimentTable.countP_stop zone es).symm
  have total : s.total = rows.length := by
    rw [counts]
    exact (ExperimentTable.length_rows zone es).symm
  have parts := ExperimentRow.countP_badges rows
  refine ⟨⟨completed, failed, running, stoppable⟩, ⟨total, ?_⟩,
    ⟨?_, by omega, by omega, by omega⟩, fun es' same => Summary.ofExperiments_congr same⟩
  · rw [total, List.length_eq_zero_iff]
    exact ExperimentTable.body_eq_placeholder_iff.symm
  · rw [Summary.other]
    omega

/-- Experiments of all statuses, one of them unknown. -/
def mixedExperiments : List Experiment :=
  [experimentAt "a" 3 .running, experimentAt "b" 5 (.other "paused"), experimentAt "c" 4 .completed,
    experimentAt "d" 6 .pending, experimentAt "e" 5 .failed, experimentAt "f" 7 .completed]

/-- The one that is pending and the one whose status is unknown are the quiet rows, from whichever
end the experiments are counted. -/
theorem mixed_experiments_are_counted :
    mixedExperiments.reverse.Perm mixedExperiments ∧
      Summary.ofExperiments mixedExperiments.reverse = Summary.ofExperiments mixedExperiments ∧
      Summary.ofExperiments mixedExperiments =
        { total := 6, completed := 2, failed := 1, running := 1 } ∧
      (ExperimentTable.full.body .utc mixedExperiments).recordRows.countP (·.badge = .secondary) =
        2 := by
  have counted : Summary.ofExperiments mixedExperiments =
      { total := 6, completed := 2, failed := 1, running := 1 } := by
    decide
  obtain ⟨-, -, ⟨other, -⟩, congr⟩ := summary_agrees_with_full_table .utc mixedExperiments
  have turned := mixedExperiments.reverse_perm
  refine ⟨turned, congr _ turned, counted, ?_⟩
  rw [← other, counted]
  rfl

end FaultConsole
