import ZubotIngestion.System.Requests

/-!
# What is published

A job counts as done when its row is `COMPLETED`: the deduplication query then hands its result
out to later submissions. A review-tier result should get there only by an approval. It also gets
there between the two commits with which a worker persists it, since the first one marks the row
`COMPLETED` and only the second one sets `REVIEW`, and it stays there if the worker crashes in
between or its second commit fails.

## Main definitions

* `PublishesReviewed`, `HandsOutReviewed`: the review gate, for a state and for the replies.
* `Settled`: no row is between the two commits.

## Main results

* `publishesReviewed_iff_settled`: the gate holds exactly in the settled states, and in all states
  of a run and all its replies exactly if all states are settled.
-/

namespace ZubotIngestion

open Effects Store

/-- No row is unreviewed, and no deduplication lookup returns an unreviewed job. -/
structure PublishesReviewed (w : World) : Prop where
  rows : ∀ row ∈ w.jobs.table.rows, ¬ Unreviewed (toJob row)
  lookups : ∀ fileHash job, getJobByFileHash w.jobs.table fileHash = some job → ¬ Unreviewed job

/-- No history ends with a review-tier result. -/
def Settled (w : World) : Prop :=
  ∀ jobId h, w.jobs.history? jobId = some h → ¬ EndsUnreviewed h

/-- The rows are unreviewed exactly where their histories end with a review-tier result. -/
theorem publishesReviewed_iff {w : World} (hw : Journaled w) :
    PublishesReviewed w ↔ Settled w := by
  constructor
  · intro hpublishes jobId h hh hends
    refine hpublishes.rows h.row ((w.jobs.mem_rows_iff _).mpr ⟨jobId, h, hh, rfl⟩) ?_
    exact (hw.serviceHistory hh).unreviewed_iff.mpr hends
  · intro hsettled
    have hrows : ∀ row ∈ w.jobs.table.rows, ¬ Unreviewed (toJob row) := by
      intro row hrow hunreviewed
      obtain ⟨jobId, h, hh, rfl⟩ := (w.jobs.mem_rows_iff row).mp hrow
      exact hsettled jobId h hh ((hw.serviceHistory hh).unreviewed_iff.mp hunreviewed)
    refine ⟨hrows, fun fileHash job hjob => ?_⟩
    obtain ⟨row, hrow, -, -, rfl⟩ := getJobByFileHash_some hjob
    exact hrows row hrow

section Runs

variable (settings : Settings) (sha256 : Bytes → FileHash)

/-- A job that some committed state of the run contains and that is not unreviewed. -/
def CommittedReviewed (moves : List SystemMove) (job : Job) : Prop :=
  ¬ Unreviewed job ∧ ∃ pre, pre <+: moves ∧
    ∃ row ∈ (reached settings sha256 pre).state.jobs.table.rows, job = toJob row

/-- Every `CACHED` summary that was handed out stands for a committed job that is not
unreviewed. -/
def HandsOutReviewed (moves : List SystemMove) : Prop :=
  ∀ th ∈ (reached settings sha256 moves).threads, ∀ result,
    th.outcome? = some (.ok (.submitted result)) → ∀ summary ∈ result.jobs,
      SummaryOf (CommittedReviewed settings sha256 moves) summary

/-- The review gate over a whole run. -/
def ReviewGate (moves : List SystemMove) : Prop :=
  ∀ pre, pre <+: moves → PublishesReviewed (reached settings sha256 pre).state ∧
    HandsOutReviewed settings sha256 pre

end Runs

variable {settings : Settings} {sha256 : Bytes → FileHash}

/-- In a run all of whose states are settled, the summaries handed out are reviewed ones. -/
theorem handsOutReviewed_of_settled {moves : List SystemMove}
    (h : ∀ pre, pre <+: moves → Settled (reached settings sha256 pre).state) :
    HandsOutReviewed settings sha256 moves := by
  have hsound : (reached settings sha256 moves).Sound Journaled
      (Trusted (CommittedReviewed settings sha256 moves)) Guarantee
      (Outcome settings (CommittedReviewed settings sha256 moves)) := by
    have hempty : Pool.Sound Journaled
        (Trusted (CommittedReviewed settings sha256 moves)) Guarantee
        (Outcome settings (CommittedReviewed settings sha256 moves))
        (⟨.empty, []⟩ : System) :=
      ⟨fun _ h => (nomatch h), fun _ h => (nomatch h), fun _ h => (nomatch h)⟩
    refine hempty.exec_while
      (J := fun P _ => ∃ pre, pre <+: moves ∧ P = reached settings sha256 pre) ?_
      (fun _ _ env _ _ _ hP _ _ _ hop => journaled_answer hop env hP.state)
      (launch_safe settings sha256 _) moves
      fun pre m post hsplit => ⟨pre, ⟨m :: post, hsplit.symm⟩, rfl⟩
    -- a job is loaded from a settled state of the run
    rintro P m env op hP ⟨pre, hpre, rfl⟩
    have hrows := ((publishesReviewed_iff hP).mpr (h pre hpre)).rows
    exact ⟨sensible_answer env op _,
      loads_answer (fun row hrow => ⟨hrows row hrow, pre, hpre, row, hrow, rfl⟩) env op⟩
  intro th hth result hresult
  exact (hsound.outcome hth hresult).submitted result rfl

/-- The review gate holds exactly in the settled states; it holds in all states of a run and for
all its replies exactly if all states of the run are settled. -/
theorem publishesReviewed_iff_settled (settings : Settings) (sha256 : Bytes → FileHash)
    (moves : List SystemMove) :
    (PublishesReviewed (reached settings sha256 moves).state ↔
      Settled (reached settings sha256 moves).state) ∧
    (ReviewGate settings sha256 moves ↔
      ∀ pre, pre <+: moves → Settled (reached settings sha256 pre).state) := by
  have hstate : ∀ pre, PublishesReviewed (reached settings sha256 pre).state ↔
      Settled (reached settings sha256 pre).state :=
    fun pre => publishesReviewed_iff (reached_sound settings sha256 pre).state
  refine ⟨hstate moves, fun hgate pre hpre => (hstate pre).mp (hgate pre hpre).1, ?_⟩
  intro hsettled pre hpre
  refine ⟨(hstate pre).mpr (hsettled pre hpre), ?_⟩
  exact handsOutReviewed_of_settled fun pre' hpre' => hsettled pre' (hpre'.trans hpre)

/-- The gate fails once a worker has written a review-tier result and not yet set `REVIEW`: the
row is `COMPLETED` without an approval, and a lookup by its hash returns it. -/
theorem not_reviewGate_persistedPlan :
    ¬ ReviewGate plainSettings oneDigest persistedPlan ∧
      ∃ job, Unreviewed job ∧ getJobByFileHash
        (reached plainSettings oneDigest persistedPlan).state.jobs.table "9f86d081" = some job := by
  have hlookup : ∃ job ∈ getJobByFileHash
      (reached plainSettings oneDigest persistedPlan).state.jobs.table "9f86d081",
        Unreviewed job := by
    decide
  obtain ⟨job, hjob, hunreviewed⟩ := hlookup
  refine ⟨fun hgate => ?_, job, hunreviewed, hjob⟩
  exact (hgate persistedPlan (List.prefix_refl _)).1.lookups _ job hjob hunreviewed

end ZubotIngestion
