import ZubotIngestion.Api.PendingReviews
import ZubotIngestion.System.Requests

/-!
# The pending-review queue

The queue should list the jobs that await a decision: review tier and status `REVIEW`. The query
selects the review-tier rows that are not `REJECTED`, and nothing writes `REJECTED`: a decision
writes `COMPLETED` or `FAILED`, and neither changes the tier. So a job stays in the queue once its
last result has the review tier, whatever happens to it afterwards. Besides, every page is a query
of its own, which orders jobs of one `created_at` as it likes, so that pages whose border lies
between such jobs may leave out one of them.

## Main definitions

* `AwaitsReview`, `QueueExact`.

## Main results

* `queueExact_iff`: the queue of a table, in terms of its rows.
* `queueExact_iff_overridden`: the queue of a reachable state is exact iff the last update of every
  job with a review-tier result is the worker's `REVIEW` override and no page border separates jobs
  of one `created_at`.
-/

namespace ZubotIngestion

open Effects Store

/-- The rows that await a reviewer's decision. -/
def AwaitsReview (row : JobRow) : Prop := row.confidenceTier = some .review ∧ row.status = .review

instance (row : JobRow) : Decidable (AwaitsReview row) :=
  inferInstanceAs (Decidable (_ ∧ _))

/-- The rows that await a decision, as jobs. -/
def awaitingJobs (table : JobTable) : List Job :=
  (table.rows.filter fun row => decide (AwaitsReview row)).map toJob

/-- The pages of the queue list exactly the jobs that await a decision, in whatever order the
database reads each of them, and `total` counts these jobs. -/
def QueueExact (table : JobTable) (perPage : ℤ) : Prop :=
  ∀ order : ℕ → List JobRow, (∀ k, IsPendingOrder table (order k)) →
    (pagedJobs table order perPage).Perm (awaitingJobs table) ∧
      ∀ k (page : ℤ), (pendingPage table (order k) page perPage).total =
        (awaitingJobs table).length

theorem AwaitsReview.isPending {row : JobRow} (h : AwaitsReview row) : IsPending row :=
  ⟨h.1, by rw [h.2]; exact JobStatus.noConfusion⟩

/-- The rows that await a decision are among the selected ones. -/
theorem awaitingJobs_eq (table : JobTable) : awaitingJobs table =
    ((selectedRows table).filter fun row => decide (AwaitsReview row)).map toJob := by
  rw [awaitingJobs, selectedRows, List.filter_filter]
  congr 1
  refine List.filter_congr fun row _ => ?_
  by_cases h : AwaitsReview row
  · rw [decide_eq_true h, decide_eq_true h.isPending]
    rfl
  · rw [decide_eq_false h, Bool.false_and]

/-- If all selected rows await a decision, the queue is as exact as its pages are. -/
theorem queueExact_iff_of_awaits {table : JobTable}
    (h : ∀ row ∈ selectedRows table, AwaitsReview row) (perPage : ℤ) :
    QueueExact table perPage ↔ ¬ TieStraddles table perPage := by
  have hall : awaitingJobs table = (selectedRows table).map toJob := by
    rw [awaitingJobs_eq, List.filter_eq_self.mpr fun row hrow => decide_eq_true (h row hrow)]
  rw [QueueExact, hall]
  constructor
  · exact fun hexact => not_tieStraddles_of_perm fun order horder => (hexact order horder).1
  · intro hborders order horder
    exact ⟨pagedJobs_perm hborders horder, fun k page => (List.length_map toJob).symm⟩

/-- The queue of a table is exact iff it selects no row that does not await a decision, and no
page border separates jobs of one `created_at`. -/
theorem queueExact_iff (table : JobTable) (perPage : ℤ) :
    QueueExact table perPage ↔
      (∀ row ∈ table.rows, IsPending row → AwaitsReview row) ∧ ¬ TieStraddles table perPage := by
  have hselected : (∀ row ∈ selectedRows table, AwaitsReview row) ↔
      ∀ row ∈ table.rows, IsPending row → AwaitsReview row := by
    simp only [selectedRows, List.mem_filter, decide_eq_true_eq, and_imp]
  rw [← hselected]
  constructor
  · intro hexact
    have htotal := (hexact (fun _ => pendingRows table)
      fun _ => isPendingOrder_pendingRows table).2 0 1
    have hlength : ((selectedRows table).filter fun row => decide (AwaitsReview row)).length =
        (selectedRows table).length := by
      rw [awaitingJobs_eq, List.length_map] at htotal
      exact htotal.symm
    have hawaits : ∀ row ∈ selectedRows table, AwaitsReview row := fun row hrow =>
      of_decide_eq_true (List.length_filter_eq_length_iff.mp hlength row hrow)
    exact ⟨hawaits, (queueExact_iff_of_awaits hawaits perPage).mp hexact⟩
  · rintro ⟨hawaits, hties⟩
    exact (queueExact_iff_of_awaits hawaits perPage).mpr hties

/-- The queue of a reachable state is exact iff, for every job whose last result has the review
tier, the last update is the worker's `REVIEW` override, and no pending jobs of one `created_at` lie
on both sides of a page border. -/
theorem queueExact_iff_overridden (settings : Settings) (sha256 : Bytes → FileHash)
    (moves : List SystemMove) (perPage : ℤ) :
    QueueExact (reached settings sha256 moves).state.jobs.table perPage ↔
      (∀ jobId h, (reached settings sha256 moves).state.jobs.history? jobId = some h →
        lastTier? h = some .review →
          ∃ now, h.writes.getLast? = some (.updateStatus .review none none now)) ∧
      ¬ TieStraddles (reached settings sha256 moves).state.jobs.table perPage := by
  rw [queueExact_iff]
  refine and_congr_left fun _ => ?_
  constructor
  · intro hrows jobId h hh htier
    have hservice := serviceHistory_reached hh
    have hmem : (h.row : JobRow) ∈ (reached settings sha256 moves).state.jobs.table.rows :=
      ((reached settings sha256 moves).state.jobs.mem_rows_iff _).mpr ⟨jobId, h, hh, rfl⟩
    have hpending : IsPending h.row :=
      ⟨hservice.tier_row.trans htier, hservice.status_ne_rejected⟩
    exact hservice.status_eq_review_iff.mp (hrows h.row hmem hpending).2
  · intro hhistories row hrow hpending
    obtain ⟨jobId, h, hh, rfl⟩ :=
      ((reached settings sha256 moves).state.jobs.mem_rows_iff row).mp hrow
    have hservice := serviceHistory_reached hh
    refine ⟨hpending.1, hservice.status_eq_review_iff.mpr (hhistories jobId h hh ?_)⟩
    exact hservice.tier_row.symm.trans hpending.1

/-- The approved job is still in the queue. -/
theorem not_queueExact_approvedPlan :
    ¬ QueueExact (reached plainSettings oneDigest approvedPlan).state.jobs.table 20 := by
  intro hexact
  have htotal := (hexact (fun _ => pendingRows _) fun _ => isPendingOrder_pendingRows _).2 0 1
  have hone : (selectedRows
      (reached plainSettings oneDigest approvedPlan).state.jobs.table).length = 1 := by
    decide
  have hnone : (awaitingJobs
      (reached plainSettings oneDigest approvedPlan).state.jobs.table).length = 0 := by
    decide
  rw [hnone] at htotal
  exact absurd (hone.symm.trans htotal) Nat.one_ne_zero

end ZubotIngestion
