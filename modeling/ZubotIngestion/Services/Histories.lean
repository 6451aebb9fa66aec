import ZubotIngestion.Api.Review
import ZubotIngestion.Services.CeleryApp
import ZubotIngestion.Services.Journaling

/-!
# Histories of job rows

The services insert a job row once, as a queued job, and then make five kinds of updates. What a
row shows follows from the last updates of its history: its status is that of the last update, its
tier that of the last result, and an approval record or an error message stays until it is
replaced.

## Main definitions

* `ServiceUpdate`, `FreshRow`, `ServiceHistory`: the histories the services produce.
* `lastTier?`, `EndsUnreviewed`: the last result of a history.
* `Unreviewed`: a review-tier job that is `COMPLETED` without an approval record.

## Main results

* `unreviewed_iff`: a row is unreviewed iff its last update is a review-tier result.
* `approved_append`, `errorMessage_append`: what later updates keep.
-/

namespace ZubotIngestion

open Store

/-! ### The updates of the services -/

/-- The updates the services make. -/
inductive ServiceUpdate : JobUpdate → Prop
  /-- The worker starts. -/
  | processing (now : Timestamp) : ServiceUpdate (.updateStatus .processing none none now)
  /-- The worker routes a job to the reviewers. -/
  | review (now : Timestamp) : ServiceUpdate (.updateStatus .review none none now)
  /-- The worker gives up, or a reviewer rejects the job. -/
  | failed (message : String) (now : Timestamp) :
      ServiceUpdate (.updateStatus .failed none (some message) now)
  /-- A reviewer approves the job. -/
  | approved (result : Option Dict) (body : ApproveRequest) (reviewedAt : String)
      (now : Timestamp) :
      ServiceUpdate
        (.updateStatus .completed (some (approvedResult result body reviewedAt)) none now)
  /-- The worker writes a result. -/
  | result (run : PipelineResult) (processingTimeMs : ℤ) (now : Timestamp) :
      ServiceUpdate (.updateResult (resultPayload run) run.confidenceAssessment.tier
        run.confidenceAssessment.overallConfidence processingTimeMs (some run.otelTraceId)
        (some run.pipelineTrace) now)

/-- A row as a submission inserts it. -/
structure FreshRow (row : JobRow) : Prop where
  status : row.status = .queued
  result : row.result = none
  errorMessage : row.errorMessage = none
  confidenceTier : row.confidenceTier = none
  confidenceScore : row.confidenceScore = none

/-- A history the services can produce. -/
structure ServiceHistory (h : JobHistory) : Prop where
  origin : FreshRow h.origin
  writes : ∀ u ∈ h.writes, ServiceUpdate u

/-- The worker's result blob has no `review` key. -/
theorem get?_review_resultPayload (run : PipelineResult) :
    Dict.get? (resultPayload run) "review" = none := rfl

theorem isApproved_resultPayload (run : PipelineResult) :
    isApproved (some (resultPayload run)) = false :=
  not_isApproved_of_get? (get?_review_resultPayload run)

namespace ServiceUpdate

variable {u : JobUpdate}

/-- `REJECTED` is never written. -/
theorem newStatus_ne_rejected (hu : ServiceUpdate u) : u.newStatus ≠ .rejected := by
  cases hu <;> exact JobStatus.noConfusion

/-- An update that writes no result keeps an approval record. -/
theorem isApproved_or (hu : ServiceUpdate u) (hnew : u.newConfidence = none) {result : Option Dict}
    (h : isApproved result = true) : isApproved (u.newResult.or result) = true := by
  cases hu with
  | approved result' body reviewedAt now => exact isApproved_approvedResult result' body reviewedAt
  | result run processingTimeMs now => cases hnew
  | _ => exact h

end ServiceUpdate

/-! ### What a row shows -/

/-- The tier of the last result. -/
def lastTier? (h : JobHistory) : Option ConfidenceTier :=
  (h.writes.filterMap fun u : JobUpdate => u.newConfidence.map Prod.fst).getLast?

/-- The last update is a review-tier result. -/
def EndsUnreviewed (h : JobHistory) : Prop :=
  ∃ u : JobUpdate, h.writes.getLast? = some u ∧ u.newConfidence.map Prod.fst = some .review

/-- A review-tier job that is done although nobody approved it. -/
def Unreviewed (job : Job) : Prop :=
  job.confidenceTier = some .review ∧ job.status = .completed ∧ isApproved job.result = false

instance (job : Job) : Decidable (Unreviewed job) :=
  inferInstanceAs (Decidable (_ ∧ _ ∧ _))

/-- The status of a row is that of its last update. -/
theorem status_row (h : JobHistory) :
    (h.row : JobRow).status =
      (h.writes.getLast?.map JobUpdate.newStatus).getD (h.origin : JobRow).status := by
  cases hlast : h.writes.getLast? with
  | none =>
    have hnil : h.writes = [] := List.getLast?_eq_none_iff.mp hlast
    rw [History.row, hnil]
    rfl
  | some u =>
    obtain ⟨h', rfl⟩ := History.row_eq_of_getLast? hlast
    rw [History.row_add]
    exact JobUpdate.status_apply u h'.row

/-- After more updates the status is that of the last of them. -/
theorem status_append (origin : JobRow) (before after : List JobUpdate) :
    ((⟨origin, before ++ after⟩ : JobHistory).row : JobRow).status =
      (after.getLast?.map JobUpdate.newStatus).getD
        ((⟨origin, before⟩ : JobHistory).row : JobRow).status := by
  rw [status_row ⟨origin, before ++ after⟩, status_row ⟨origin, before⟩]
  cases hlast : after.getLast? with
  | none =>
    obtain rfl : after = [] := List.getLast?_eq_none_iff.mp hlast
    rw [List.append_nil]
    rfl
  | some u =>
    have happend : (before ++ after).getLast? = some u := by
      rw [List.getLast?_append, hlast, Option.some_or]
    show ((before ++ after).getLast?.map JobUpdate.newStatus).getD _ = _
    rw [happend]
    rfl

namespace ServiceHistory

variable {h : JobHistory}

/-- The history before some of its updates. -/
theorem left {origin : JobRow} {writes writes' : List JobUpdate}
    (h : ServiceHistory ⟨origin, writes ++ writes'⟩) : ServiceHistory ⟨origin, writes⟩ :=
  ⟨h.origin, fun u hu => h.writes u (List.mem_append_left _ hu)⟩

/-- The tier of a row is that of its last result. -/
theorem tier_row (hh : ServiceHistory h) : (h.row : JobRow).confidenceTier = lastTier? h := by
  have hcolumn := History.column_row (D := jobSchema) JobUpdate.confidenceTier_apply h
  rw [hcolumn, hh.origin.confidenceTier, Option.or_none]
  rfl

/-- A row is in status `REVIEW` iff the last update is the worker's. -/
theorem status_eq_review_iff (hh : ServiceHistory h) : (h.row : JobRow).status = .review ↔
    ∃ now, h.writes.getLast? = some (.updateStatus .review none none now) := by
  rw [status_row]
  cases hlast : h.writes.getLast? with
  | none =>
    rw [Option.map_none, Option.getD_none, hh.origin.status]
    exact iff_of_false JobStatus.noConfusion fun ⟨_, h⟩ => nomatch h
  | some u =>
    rw [Option.map_some, Option.getD_some]
    refine ⟨fun hstatus => ?_, fun ⟨now, h⟩ => by rw [Option.some.inj h]; rfl⟩
    cases hh.writes u (List.mem_of_getLast? hlast) with
    | review now => exact ⟨now, rfl⟩
    | _ => cases hstatus

/-- A row has a status other than `REJECTED`. -/
theorem status_ne_rejected (hh : ServiceHistory h) : (h.row : JobRow).status ≠ .rejected := by
  rw [status_row]
  cases hlast : h.writes.getLast? with
  | none =>
    rw [Option.map_none, Option.getD_none, hh.origin.status]
    exact JobStatus.noConfusion
  | some u =>
    exact (hh.writes u (List.mem_of_getLast? hlast)).newStatus_ne_rejected

/-- A row is unreviewed iff its last update is a review-tier result: such an update leaves a
`COMPLETED` row whose blob has no approval record, and `COMPLETED` is otherwise written with one. -/
theorem unreviewed_iff (hh : ServiceHistory h) :
    Unreviewed (toJob h.row) ↔ EndsUnreviewed h := by
  cases hlast : h.writes.getLast? with
  | none =>
    have hstatus : (toJob h.row).status = .queued := by
      have hrow := status_row h
      rw [hlast, Option.map_none, Option.getD_none, hh.origin.status] at hrow
      exact hrow
    constructor
    · rintro ⟨-, hdone, -⟩
      rw [hstatus] at hdone
      cases hdone
    · rintro ⟨u, hu, -⟩
      rw [hlast] at hu
      cases hu
  | some u =>
    have hends : EndsUnreviewed h ↔ u.newConfidence.map Prod.fst = some .review := by
      refine ⟨?_, fun hu => ⟨u, hlast, hu⟩⟩
      rintro ⟨u', hu', htier⟩
      rw [hlast] at hu'
      obtain rfl := Option.some.inj hu'
      exact htier
    have hu := hh.writes u (List.mem_of_getLast? hlast)
    obtain ⟨h', rfl⟩ := History.row_eq_of_getLast? hlast
    rw [hends, History.row_add]
    have hother : u.newStatus ≠ .completed → u.newConfidence = none →
        (Unreviewed (toJob (u.apply h'.row)) ↔ u.newConfidence.map Prod.fst = some .review) := by
      intro hstatus hnone
      have hdone : ¬ Unreviewed (toJob (u.apply h'.row)) := fun h =>
        hstatus ((JobUpdate.status_apply u h'.row).symm.trans h.2.1)
      rw [hnone]
      exact iff_of_false hdone (Option.some_ne_none _).symm
    cases hu with
    | processing now => exact hother JobStatus.noConfusion rfl
    | review now => exact hother JobStatus.noConfusion rfl
    | failed message now => exact hother JobStatus.noConfusion rfl
    | approved result body reviewedAt now =>
      refine iff_of_false (fun h => ?_) (Option.some_ne_none _).symm
      have happroved := isApproved_approvedResult result body reviewedAt
      exact absurd (happroved.symm.trans h.2.2) Bool.true_eq_false_eq_False
    | result run processingTimeMs now =>
      exact ⟨fun h => h.1, fun h => ⟨h, rfl, isApproved_resultPayload run⟩⟩

/-- What a row shows after more updates, if every one of them keeps it. -/
theorem append_induction {motive : JobRow → Prop} {origin : JobRow}
    {writes writes' : List JobUpdate} (hh : ServiceHistory ⟨origin, writes ++ writes'⟩)
    (hrow : motive (⟨origin, writes⟩ : JobHistory).row)
    (hwrite : ∀ u ∈ writes', ServiceUpdate u → ∀ row, motive row → motive (u.apply row)) :
    motive (⟨origin, writes ++ writes'⟩ : JobHistory).row := by
  have happend : (⟨origin, writes ++ writes'⟩ : JobHistory).row =
      (⟨(⟨origin, writes⟩ : JobHistory).row, writes'⟩ : JobHistory).row :=
    List.foldl_append
  rw [happend]
  exact History.row_induction (D := jobSchema) ⟨(⟨origin, writes⟩ : JobHistory).row, writes'⟩ hrow
    fun u hu row => hwrite u hu (hh.writes u (List.mem_append_right _ hu)) row

/-- An approval record stays until the next result. -/
theorem approved_append {origin : JobRow} {writes writes' : List JobUpdate}
    (hh : ServiceHistory ⟨origin, writes ++ writes'⟩)
    (h : isApproved ((⟨origin, writes⟩ : JobHistory).row : JobRow).result = true)
    (hwrites : ∀ u ∈ writes', u.newConfidence = none) :
    isApproved ((⟨origin, writes ++ writes'⟩ : JobHistory).row : JobRow).result = true := by
  refine hh.append_induction (motive := fun row => isApproved row.result = true) h ?_
  intro u hu hservice row hrow
  rw [JobUpdate.result_apply]
  exact hservice.isApproved_or (hwrites u hu) hrow

/-- An error message stays until the next failure. -/
theorem errorMessage_append {origin : JobRow} {writes writes' : List JobUpdate}
    (hh : ServiceHistory ⟨origin, writes ++ writes'⟩)
    (hwrites : ∀ u ∈ writes', u.newStatus ≠ .failed) :
    ((⟨origin, writes ++ writes'⟩ : JobHistory).row : JobRow).errorMessage =
      ((⟨origin, writes⟩ : JobHistory).row : JobRow).errorMessage := by
  refine hh.append_induction (motive := fun row =>
    row.errorMessage = ((⟨origin, writes⟩ : JobHistory).row : JobRow).errorMessage) rfl ?_
  intro u hu hservice row hrow
  rw [JobUpdate.errorMessage_apply, hrow]
  cases hservice with
  | failed message now => exact absurd rfl (hwrites _ hu)
  | _ => rfl

/-- An error message is never removed. -/
theorem isSome_errorMessage_append {origin : JobRow} {writes writes' : List JobUpdate}
    (hh : ServiceHistory ⟨origin, writes ++ writes'⟩)
    (h : ((⟨origin, writes⟩ : JobHistory).row : JobRow).errorMessage.isSome) :
    ((⟨origin, writes ++ writes'⟩ : JobHistory).row : JobRow).errorMessage.isSome := by
  refine hh.append_induction (motive := fun row => row.errorMessage.isSome) h ?_
  intro u _ _ row hrow
  rw [JobUpdate.errorMessage_apply, Option.isSome_or, hrow, Bool.or_true]

end ServiceHistory

end ZubotIngestion
