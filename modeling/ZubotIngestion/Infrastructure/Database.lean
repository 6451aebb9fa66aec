import Mathlib.Algebra.Order.Floor.Ring
import Mathlib.Data.List.MinMax
import Mathlib.Data.List.Sort
import Mathlib.Data.Rat.Floor
import ZubotIngestion.Domain.Entities
import ZubotIngestion.Store.Journal
import ZubotIngestion.Store.Windows

/-!
# The job repository

The `jobs` table of `infrastructure/database/models.py` and the methods of `JobRepository` on it.
A mutating method loads the row, sets some of its columns and commits; it is one atomic
`JobUpdate`. Queries read the committed table. Columns that store an enumeration are kept as its
members, whose strings are pairwise different.

## Main definitions

* `JobRow`, `JobTable`, `toJob`, `jobToOrm`.
* `JobUpdate`, `JobUpdate.apply`: `update_job_status` and `update_job_result` on one row.
* `getJob`, `getJobByFileHash`.
* `IsPending`: the filter of `get_pending_reviews`.

## Main results

* `getJobByFileHash_some`: what the deduplication query can return.
-/

namespace ZubotIngestion

/-- A row of the `jobs` table. -/
structure JobRow where
  id : JobId
  batchId : BatchId
  filename : String
  fileHash : FileHash
  filePath : Option String
  status : JobStatus
  result : Option Dict
  confidenceTier : Option ConfidenceTier
  confidenceScore : Option PyFloat
  processingTimeMs : Option ℤ
  otelTraceId : Option String
  errorMessage : Option String
  pipelineTrace : Option Dict
  createdAt : Timestamp
  updatedAt : Timestamp

/-- The `jobs` table. -/
abbrev JobTable : Type := Store.Table JobRow.id

/-! ### Mapping between rows and entities -/

/-- `round` of the column type `NUMERIC(4, 3)`: to the nearest integer, ties away from zero. -/
def roundHalfAway (q : ℚ) : ℤ := if 0 ≤ q then ⌊q + 1 / 2⌋ else -⌊-q + 1 / 2⌋

/-- What a `NUMERIC(4, 3)` column stores of a float: three decimals. That the database refuses a
number too large for the column is a failure of the call, not a value. -/
def numeric43 : PyFloat → PyFloat
  | .fin q => .fin (roundHalfAway (q * 1000) / 1000)
  | f => f

/-- `_to_job`. -/
def toJob (row : JobRow) : Job where
  jobId := row.id
  batchId := row.batchId
  filename := row.filename
  fileHash := row.fileHash
  filePath := row.filePath.getD ""
  status := row.status
  result := row.result
  errorMessage := row.errorMessage
  pipelineTrace := row.pipelineTrace
  otelTraceId := row.otelTraceId
  processingTimeMs := row.processingTimeMs
  createdAt := row.createdAt
  updatedAt := row.updatedAt
  confidenceTier := row.confidenceTier
  overallConfidence := row.confidenceScore

/-- `_job_to_orm`, as it is stored. -/
def jobToOrm (job : Job) : JobRow where
  id := job.jobId
  batchId := job.batchId
  filename := job.filename
  fileHash := job.fileHash
  filePath := if job.filePath = "" then none else some job.filePath
  status := job.status
  result := job.result
  confidenceTier := job.confidenceTier
  confidenceScore :=
    match job.overallConfidence with
    | none => none
    | some .nan => none
    | some f => some (numeric43 f)
  processingTimeMs := job.processingTimeMs
  otelTraceId := job.otelTraceId
  errorMessage := job.errorMessage
  pipelineTrace := job.pipelineTrace
  createdAt := job.createdAt
  updatedAt := job.updatedAt

/-! ### Updates -/

/-- One committed update of a job row. -/
inductive JobUpdate : Type where
  /-- `update_job_status`, committed at `now`. -/
  | updateStatus (status : JobStatus) (result : Option Dict) (errorMessage : Option String)
      (now : Timestamp)
  /-- `update_job_result`, committed at `now`. -/
  | updateResult (result : Dict) (confidenceTier : ConfidenceTier) (confidenceScore : PyFloat)
      (processingTimeMs : ℤ) (otelTraceId : Option String) (pipelineTrace : Option Dict)
      (now : Timestamp)

namespace JobUpdate

/-- The row after the update. A status update leaves `result` and `error_message` alone where the
caller passes `None`; a result update marks the row `COMPLETED`, whatever the tier, and leaves
`error_message` alone. -/
def apply : JobUpdate → JobRow → JobRow
  | .updateStatus status result errorMessage now, row =>
    { row with
      status := status
      updatedAt := now
      errorMessage := errorMessage.or row.errorMessage
      result := result.or row.result }
  | .updateResult result tier score processingTimeMs otelTraceId pipelineTrace now, row =>
    { row with
      result := some result
      confidenceTier := some tier
      confidenceScore := some (numeric43 score)
      processingTimeMs := some processingTimeMs
      otelTraceId := otelTraceId
      pipelineTrace := pipelineTrace
      status := .completed
      updatedAt := now }

@[simp] theorem id_apply (u : JobUpdate) (row : JobRow) : (u.apply row).id = row.id := by
  cases u <;> rfl

/-- The status an update writes. -/
def newStatus : JobUpdate → JobStatus
  | .updateStatus status _ _ _ => status
  | .updateResult .. => .completed

/-- The result blob an update writes. -/
def newResult : JobUpdate → Option Dict
  | .updateStatus _ result _ _ => result
  | .updateResult result .. => some result

/-- The error message an update writes. -/
def newErrorMessage : JobUpdate → Option String
  | .updateStatus _ _ errorMessage _ => errorMessage
  | .updateResult .. => none

/-- The tier and the score an update writes. -/
def newConfidence : JobUpdate → Option (ConfidenceTier × PyFloat)
  | .updateStatus .. => none
  | .updateResult _ tier score _ _ _ _ => some (tier, numeric43 score)

@[simp] theorem status_apply (u : JobUpdate) (row : JobRow) :
    (u.apply row).status = u.newStatus := by
  cases u <;> rfl

@[simp] theorem result_apply (u : JobUpdate) (row : JobRow) :
    (u.apply row).result = u.newResult.or row.result := by
  cases u <;> rfl

@[simp] theorem errorMessage_apply (u : JobUpdate) (row : JobRow) :
    (u.apply row).errorMessage = u.newErrorMessage.or row.errorMessage := by
  cases u <;> rfl

@[simp] theorem confidenceTier_apply (u : JobUpdate) (row : JobRow) :
    (u.apply row).confidenceTier = (u.newConfidence.map Prod.fst).or row.confidenceTier := by
  cases u <;> rfl

@[simp] theorem confidenceScore_apply (u : JobUpdate) (row : JobRow) :
    (u.apply row).confidenceScore = (u.newConfidence.map Prod.snd).or row.confidenceScore := by
  cases u <;> rfl

end JobUpdate

/-! ### Queries -/

/-- `get_job`. -/
def getJob (table : JobTable) (jobId : JobId) : Option Job := (table.find? jobId).map toJob

/-- `get_job_by_file_hash`: among the `COMPLETED` rows with this hash, one updated last. -/
def getJobByFileHash (table : JobTable) (fileHash : FileHash) : Option Job :=
  ((table.rows.filter fun row =>
    decide (row.fileHash = fileHash ∧ row.status = .completed)).argmax JobRow.updatedAt).map toJob

/-- The deduplication query returns a `COMPLETED` row with the hash it was asked for. -/
theorem getJobByFileHash_some {table : JobTable} {fileHash : FileHash} {job : Job}
    (h : getJobByFileHash table fileHash = some job) :
    ∃ row ∈ table.rows, row.fileHash = fileHash ∧ row.status = .completed ∧ job = toJob row := by
  obtain ⟨row, hrow, rfl⟩ := Option.map_eq_some_iff.mp h
  have hmem := List.argmax_mem hrow
  rw [List.mem_filter, decide_eq_true_eq] at hmem
  exact ⟨row, hmem.1, hmem.2.1, hmem.2.2, rfl⟩

/-- One page of a paginated query. -/
structure PaginatedResult (α : Type) where
  items : List α
  total : ℕ
  page : ℕ
  perPage : ℕ
  totalPages : ℕ

/-- The filter of the pending-review query: review tier and not `REJECTED`. -/
def IsPending (row : JobRow) : Prop :=
  row.confidenceTier = some .review ∧ row.status ≠ .rejected

instance (row : JobRow) : Decidable (IsPending row) :=
  inferInstanceAs (Decidable (_ ∧ _))

/-- The pending rows, newest first, those of one `created_at` in the order of the table. -/
def pendingRows (table : JobTable) : List JobRow :=
  (table.rows.filter fun row => decide (IsPending row)).insertionSort
    fun row row' => row'.createdAt ≤ row.createdAt

theorem perm_pendingRows (table : JobTable) :
    (pendingRows table).Perm (table.rows.filter fun row => decide (IsPending row)) :=
  List.perm_insertionSort _ _

end ZubotIngestion
