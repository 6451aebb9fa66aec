import ZubotIngestion.Services.SubmissionScript
import ZubotIngestion.Store.Insert

/-!
# The deployed schema

The tables that migration `0001_initial` creates, the columns that `BatchORM` and `JobORM` map, and
the attributes that `_batch_to_orm` and `_job_to_orm` set. The mapping inserts every mapped column,
with `NULL` for an unset one without a default.

`JobORM` maps a column `file_path` that the migration does not create, and the mapper sets neither
`file_size` nor `mode`, which the migration declares `NOT NULL`. The `batches` table agrees.

## Main definitions

* `batchesTable`, `jobsTable`, `batchColumns`, `jobColumns`, `batchToOrm`, `JobRow.attributes`.
* `CreateBatchAccepted`: the deployed tables accept all rows of `create_batch`.

## Main results

* `not_accepts_jobRow`: no job row is ever accepted.
* `createBatchAccepted_iff`: the rows of a submission are accepted exactly when every file was
  answered by a completed job.
-/

namespace ZubotIngestion

open Effects Store

/-- A value of a column. -/
inductive SqlValue : Type where
  | uuid (n : ℕ)
  | text (s : String)
  | integer (i : ℤ)
  | numeric (f : PyFloat)
  | json (d : Dict)
  | timestamp (t : Timestamp)

/-! ### The tables of the migration -/

/-- `batches`. -/
def batchesTable : List Column :=
  [⟨"id", false, true⟩, ⟨"deployment_id", true, false⟩, ⟨"node_id", true, false⟩,
    ⟨"callback_url", true, false⟩, ⟨"mode", false, false⟩, ⟨"created_by", false, false⟩,
    ⟨"total_jobs", false, true⟩, ⟨"status", false, true⟩, ⟨"created_at", false, true⟩,
    ⟨"updated_at", false, true⟩]

/-- `jobs`. -/
def jobsTable : List Column :=
  [⟨"id", false, true⟩, ⟨"batch_id", false, false⟩, ⟨"filename", false, false⟩,
    ⟨"file_hash", false, false⟩, ⟨"file_size", false, false⟩, ⟨"status", false, true⟩,
    ⟨"mode", false, false⟩, ⟨"result", true, false⟩, ⟨"confidence_tier", true, false⟩,
    ⟨"confidence_score", true, false⟩, ⟨"processing_time_ms", true, false⟩,
    ⟨"otel_trace_id", true, false⟩, ⟨"error_message", true, false⟩,
    ⟨"pipeline_trace", true, false⟩, ⟨"created_at", false, true⟩, ⟨"updated_at", false, true⟩,
    ⟨"completed_at", true, false⟩]

/-! ### The mapped columns -/

/-- The columns of `BatchORM`. -/
def batchColumns : List (MappedColumn SqlValue) :=
  [⟨"id", none, false⟩, ⟨"deployment_id", none, false⟩, ⟨"node_id", none, false⟩,
    ⟨"callback_url", none, false⟩, ⟨"mode", none, false⟩, ⟨"created_by", none, false⟩,
    ⟨"total_jobs", some (.integer 0), false⟩, ⟨"status", some (.text "queued"), false⟩,
    ⟨"created_at", none, true⟩, ⟨"updated_at", none, true⟩]

/-- The columns of `JobORM`. -/
def jobColumns : List (MappedColumn SqlValue) :=
  [⟨"id", none, false⟩, ⟨"batch_id", none, false⟩, ⟨"filename", none, false⟩,
    ⟨"file_hash", none, false⟩, ⟨"file_path", none, false⟩, ⟨"file_size", none, false⟩,
    ⟨"status", some (.text "queued"), false⟩, ⟨"mode", none, false⟩, ⟨"result", none, false⟩,
    ⟨"confidence_tier", none, false⟩, ⟨"confidence_score", none, false⟩,
    ⟨"processing_time_ms", none, false⟩, ⟨"otel_trace_id", none, false⟩,
    ⟨"error_message", none, false⟩, ⟨"pipeline_trace", none, false⟩, ⟨"created_at", none, true⟩,
    ⟨"updated_at", none, true⟩, ⟨"completed_at", none, false⟩]

/-! ### The mappers -/

/-- `_str_or_none`. -/
def strOrNone (value : Option ℤ) : Option SqlValue := value.map fun i => .text (toString i)

/-- `_batch_to_orm`. -/
def batchToOrm (batch : Batch) : Items SqlValue :=
  [("id", some (.uuid batch.batchId)), ("deployment_id", strOrNone batch.deploymentId),
    ("node_id", strOrNone batch.nodeId), ("callback_url", batch.callbackUrl.map .text),
    ("mode", some (.text batch.mode.value)), ("created_by", some (.text batch.createdBy)),
    ("total_jobs", some (.integer batch.totalJobs)), ("status", some (.text batch.status.value)),
    ("created_at", some (.timestamp batch.createdAt)),
    ("updated_at", some (.timestamp batch.updatedAt))]

/-- The attributes of a `JobORM` object that `_job_to_orm` sets. -/
def JobRow.attributes (row : JobRow) : Items SqlValue :=
  [("id", some (.uuid row.id)), ("batch_id", some (.uuid row.batchId)),
    ("filename", some (.text row.filename)), ("file_hash", some (.text row.fileHash)),
    ("file_path", row.filePath.map .text), ("status", some (.text row.status.value)),
    ("result", row.result.map .json),
    ("confidence_tier", row.confidenceTier.map fun tier => .text tier.value),
    ("confidence_score", row.confidenceScore.map .numeric),
    ("processing_time_ms", row.processingTimeMs.map .integer),
    ("otel_trace_id", row.otelTraceId.map .text), ("error_message", row.errorMessage.map .text),
    ("pipeline_trace", row.pipelineTrace.map .json),
    ("created_at", some (.timestamp row.createdAt)),
    ("updated_at", some (.timestamp row.updatedAt))]

/-- The deployed tables accept all rows that `create_batch` inserts. -/
def CreateBatchAccepted (batch : Batch) (jobs : List Job) : Prop :=
  Accepts batchesTable (emit batchColumns (batchToOrm batch)) ∧
    ∀ job ∈ jobs, Accepts jobsTable (emit jobColumns (newRow batch job).attributes)

/-- The row of a batch is always accepted. -/
theorem accepts_batchRow (batch : Batch) :
    Accepts batchesTable (emit batchColumns (batchToOrm batch)) := by
  have hemit : emit batchColumns (batchToOrm batch) = batchToOrm batch := rfl
  rw [hemit]
  constructor
  · simp [batchToOrm, batchesTable]
  · simp [batchToOrm, batchesTable, Column.Served]

/-- No job row is ever accepted: it names `file_path`, which the table does not have. -/
theorem not_accepts_jobRow (row : JobRow) :
    ¬Accepts jobsTable (emit jobColumns row.attributes) := by
  have hcolumn : ⟨"file_path", none, false⟩ ∈ jobColumns := by simp [jobColumns]
  exact not_accepts_of_unknown hcolumn rfl (by decide) row.attributes

/-- Without that column no job row would be accepted either: `mode` is never set. -/
theorem not_accepts_jobRow_mode (row : JobRow) (table : List Column)
    (htable : ⟨"mode", false, false⟩ ∈ table) : ¬Accepts table (emit jobColumns row.attributes) :=
  not_accepts_of_unset htable rfl rfl rfl (by simp [jobColumns])

/-- The rows of a batch are accepted exactly when it has no job. -/
theorem createBatchAccepted_iff_nil (batch : Batch) (jobs : List Job) :
    CreateBatchAccepted batch jobs ↔ jobs = [] := by
  constructor
  · rintro ⟨-, hjobs⟩
    by_contra hne
    obtain ⟨job, hjob⟩ := List.exists_mem_of_ne_nil jobs hne
    exact not_accepts_jobRow _ (hjobs job hjob)
  · rintro rfl
    exact ⟨accepts_batchRow batch, fun _ h => nomatch h⟩

/-- The rows of a submission are accepted exactly when every file was answered by a completed job,
so that no job is inserted. -/
theorem createBatchAccepted_iff {settings : Settings} {sha256 : Bytes → FileHash}
    {files : List UploadedFile} {params : SubmissionParams} {userId : String} {t : List Call}
    {r : Except PyException BatchSubmissionResult}
    (h : (submitBatch settings sha256 files params userId).Runs t r) {batch : Batch}
    {jobs : List Job} {created : Except PyException Batch}
    (hmem : ⟨.createBatch batch jobs, created⟩ ∈ t) :
    CreateBatchAccepted batch jobs ↔ AllCached t := by
  obtain ⟨k, -, -, rfl, rest, rfl, hrest⟩ := exists_of_createBatch h hmem
  rw [createBatchAccepted_iff_nil, jobs_eq_nil, allCached_iff rfl hrest]

/-- The row of one new PDF is accepted exactly if its query hits the cache. -/
theorem createBatchAccepted_iff_plan :
    CreateBatchAccepted (planAnswers.batch (fun _ => "9f86d081") planParams "reviewer")
        (planAnswers.jobs fun _ => "9f86d081") ↔
      AllCached (planAnswers.calls (fun _ => "9f86d081") planParams "reviewer") :=
  createBatchAccepted_iff runs_plan (planAnswers.createCall_mem _ _ _)

/-- A submission of one new PDF inserts a row that the deployed table refuses. -/
theorem not_createBatchAccepted_plan :
    ¬∀ (settings : Settings) (sha256 : Bytes → FileHash) (files : List UploadedFile)
      (params : SubmissionParams) (userId : String) (t : List Call)
      (r : Except PyException BatchSubmissionResult) (batch : Batch) (jobs : List Job)
      (created : Except PyException Batch),
      (submitBatch settings sha256 files params userId).Runs t r →
        ⟨.createBatch batch jobs, created⟩ ∈ t → CreateBatchAccepted batch jobs := by
  intro h
  have hplan := h _ _ _ _ _ _ _ _ _ _ runs_plan (planAnswers.createCall_mem _ _ _)
  have hnil := (createBatchAccepted_iff_nil _ _).mp hplan
  cases hnil

end ZubotIngestion
