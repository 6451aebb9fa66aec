import ZubotIngestion.Services.BatchStatus
import ZubotIngestion.System.ErrorMessages
import ZubotIngestion.System.Submissions

/-!
# The progress of a batch

The progress of a batch has counters for done, queued, failed and running jobs. The worker also
sends jobs to the reviewers, and no counter asks for their status. So the progress of a batch is
complete as long as no job of it is in status `REVIEW`.

## Main definitions

* `ProgressComplete`: the counters of every batch add up to its total.

## Main results

* `uncounted_iff`: the only status a row can have that no counter asks for is `REVIEW`.
* `progressComplete_iff`: the progress is complete in a state iff no row has such a status.
* `progressComplete_iff_neverReview`: it is in all states of a run iff the run never writes
  `REVIEW`.
-/

namespace ZubotIngestion

open Effects Store

/-! ### One state -/

/-- The counters that `get_batch` reports add up to the total, for every batch. -/
def ProgressComplete (w : World) : Prop :=
  ∀ batchId view, JobService.getBatch w batchId = .ok view →
    view.progress.completed + view.progress.queued + view.progress.failed +
      view.progress.inProgress = view.progress.total

/-- A poll that succeeds is of a batch that exists. -/
theorem exists_batch_of_getBatch {w : World} {batchId : BatchId} {view : BatchWithJobs}
    (h : JobService.getBatch w batchId = .ok view) :
    ∃ batch, (w.batches.find? fun b => decide (b.batchId = batchId)) = some batch := by
  rw [JobService.getBatch, getBatchWithJobs] at h
  cases hfound : w.batches.find? fun b => decide (b.batchId = batchId) with
  | none =>
    rw [hfound] at h
    cases h
  | some batch => exact ⟨batch, rfl⟩

/-- The batch of a row exists. -/
theorem Filed.find? {w : World} (hw : Filed w) {row : JobRow} (hrow : row ∈ w.jobs.table.rows) :
    ∃ batch, (w.batches.find? fun b => decide (b.batchId = row.batchId)) = some batch := by
  obtain ⟨batch, hbatch, hid⟩ := hw row.identity (List.mem_map_of_mem hrow)
  exact Option.isSome_iff_exists.mp
    (List.find?_isSome.mpr ⟨batch, hbatch, decide_eq_true hid⟩)

/-- The progress is complete iff every row has a status that some counter asks for. -/
theorem progressComplete_iff {w : World} (hw : Filed w) :
    ProgressComplete w ↔ ∀ row ∈ w.jobs.table.rows, ¬ Uncounted row.status := by
  constructor
  · intro hcomplete row hrow
    obtain ⟨batch, hbatch⟩ := hw.find? hrow
    obtain ⟨view, hview, -, hprogress, -⟩ := JobService.getBatch_of_find? hbatch
    have hcounted := hcomplete row.batchId view hview
    rw [hprogress] at hcounted
    refine (counted_eq_total_iff _).mp hcounted row.status (List.mem_map_of_mem ?_)
    exact List.mem_filter.mpr ⟨hrow, decide_eq_true rfl⟩
  · intro hrows batchId view hview
    obtain ⟨batch, hbatch⟩ := exists_batch_of_getBatch hview
    obtain ⟨view', hview', -, hprogress, -⟩ := JobService.getBatch_of_find? hbatch
    obtain rfl := Except.ok.inj (hview.symm.trans hview')
    rw [hprogress]
    refine (counted_eq_total_iff _).mpr fun s hs => ?_
    obtain ⟨row, hrow, rfl⟩ := List.mem_map.mp hs
    exact hrows row (List.mem_filter.mp hrow).1

/-! ### Runs -/

/-- No update of the history writes `REVIEW`. -/
def NeverReview (h : JobHistory) : Prop := ∀ u ∈ h.writes, JobUpdate.newStatus u ≠ .review

namespace ServiceHistory

variable {h : JobHistory}

/-- The only status of a row that no counter asks for is `REVIEW`. -/
theorem uncounted_iff (hh : ServiceHistory h) :
    Uncounted (h.row : JobRow).status ↔ (h.row : JobRow).status = .review := by
  refine ⟨fun huncounted => ?_, fun hreview => Or.inr (Or.inl hreview)⟩
  rcases huncounted with hstatus | hstatus | hstatus
  · rw [status_row] at hstatus
    cases hlast : h.writes.getLast? with
    | none =>
      rw [hlast, Option.map_none, Option.getD_none, hh.origin.status] at hstatus
      cases hstatus
    | some u =>
      rw [hlast, Option.map_some, Option.getD_some] at hstatus
      cases hh.writes u (List.mem_of_getLast? hlast) <;> cases hstatus
  · exact hstatus
  · exact absurd hstatus hh.status_ne_rejected

/-- A row without such an update is counted. -/
theorem not_uncounted (hh : ServiceHistory h) (hnever : NeverReview h) :
    ¬ Uncounted (h.row : JobRow).status := by
  rw [hh.uncounted_iff, hh.status_eq_review_iff]
  rintro ⟨now, hlast⟩
  exact hnever _ (List.mem_of_getLast? hlast) rfl

end ServiceHistory

section Runs

variable {settings : Settings} {sha256 : Bytes → FileHash}

/-- The rows that are in review are those the progress misses, in every reachable state. -/
theorem progressComplete_reached_iff (moves : List SystemMove) :
    ProgressComplete (reached settings sha256 moves).state ↔
      ∀ row ∈ (reached settings sha256 moves).state.jobs.table.rows, row.status ≠ .review := by
  rw [progressComplete_iff (filed_reached moves)]
  refine forall₂_congr fun row hrow => not_congr ?_
  obtain ⟨jobId, h, hh, rfl⟩ := (JournaledTable.mem_rows_iff (D := jobSchema) _ row).mp hrow
  exact (serviceHistory_reached hh).uncounted_iff

/-- The progress of every batch is complete at every point of a run iff the run never writes
`REVIEW` to a job. -/
theorem progressComplete_iff_neverReview (settings : Settings) (sha256 : Bytes → FileHash)
    (moves : List SystemMove) :
    (∀ pre, pre <+: moves → ProgressComplete (reached settings sha256 pre).state) ↔
      ∀ jobId h, (reached settings sha256 moves).state.jobs.history? jobId = some h →
        NeverReview h := by
  constructor
  · induction moves using List.reverseRecOn with
    | nil =>
      intro _ jobId h hh
      cases hh
    | append_singleton moves m ih =>
      intro hcomplete jobId h hh u hu
      have hbefore := ih fun pre hpre => hcomplete pre (hpre.trans (List.prefix_append moves [m]))
      rcases history?_of_move hh with hnil | ⟨h', hh', rfl | ⟨v, rfl⟩⟩
      · rw [hnil] at hu
        cases hu
      · exact hbefore jobId h hh' u hu
      · rcases List.mem_append.mp hu with hu | hu
        · exact hbefore jobId h' hh' u hu
        · -- the update that has just been written is the status of its row
          obtain rfl := List.mem_singleton.mp hu
          have hrow := (JournaledTable.mem_rows_iff (D := jobSchema) _ _).mpr ⟨jobId, _, hh, rfl⟩
          have hstatus := (progressComplete_reached_iff (moves ++ [m])).mp
            (hcomplete _ (List.prefix_refl _)) _ hrow
          rw [History.row_add] at hstatus
          exact fun hreview => hstatus ((JobUpdate.status_apply u _).trans hreview)
  · intro hnever pre hpre
    rw [progressComplete_iff (filed_reached pre)]
    intro row hrow
    obtain ⟨jobId, h, hh, rfl⟩ := (JournaledTable.mem_rows_iff (D := jobSchema) _ row).mp hrow
    obtain ⟨later, hlater⟩ := extends_reached hpre jobId h hh
    exact (serviceHistory_reached hh).not_uncounted fun u hu =>
      hnever jobId _ hlater u (List.mem_append_left later hu)

end Runs

/-- A batch whose only job is in review reports one job and counts none. -/
theorem not_progressComplete_extractedPlan :
    ¬ ∀ pre, pre <+: extractedPlan →
      ProgressComplete (reached plainSettings oneDigest pre).state := by
  intro hcomplete
  have hpoll : ∃ view, JobService.getBatch
      (reached plainSettings oneDigest extractedPlan).state 1 = .ok view ∧
        view.progress.completed + view.progress.queued + view.progress.failed +
          view.progress.inProgress = 0 ∧ view.progress.total = 1 :=
    ⟨_, rfl, rfl, rfl⟩
  obtain ⟨view, hview, hcounted, htotal⟩ := hpoll
  have hsum := hcomplete extractedPlan (List.prefix_refl _) 1 view hview
  rw [hcounted, htotal] at hsum
  cases hsum

end ZubotIngestion
