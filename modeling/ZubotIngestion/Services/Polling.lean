import ZubotIngestion.Services.Environment

/-!
# Batch polling

`JobService.get_batch`: load the batch with its jobs, and recompute the progress counters and the
status of the batch from the statuses of the jobs. Nothing is written. The jobs are loaded in one
statement, after the batch row, whose columns are never updated.

## Main definitions

* `BatchProgress`, `BatchWithJobs`: the response.
* `getBatchWithJobs`: the repository.
* `computeProgress`, `aggregateBatchStatus`, `JobService.getBatch`: the service.

## Main results

* `aggregateBatchStatus_eq_completed_iff`: when a batch is reported `COMPLETED`.
-/

namespace ZubotIngestion

/-- Progress counters of a batch. -/
structure BatchProgress where
  completed : ℕ
  queued : ℕ
  failed : ℕ
  total : ℕ
  inProgress : ℕ := 0

/-- A batch together with its jobs. -/
structure BatchWithJobs where
  batchId : BatchId
  status : JobStatus
  progress : BatchProgress
  jobs : List JobSummary
  callbackUrl : Option String
  deploymentId : Option ℤ
  nodeId : Option ℤ
  createdAt : Timestamp
  updatedAt : Timestamp

/-! ### The repository -/

/-- `_job_to_summary`. -/
def jobToSummary (job : Job) : JobSummary where
  jobId := job.jobId
  filename := job.filename
  status := job.status
  fileHash := job.fileHash
  result := job.result

/-- `_build_progress`. -/
def buildProgress (jobs : List Job) : BatchProgress where
  completed := jobs.countP fun job => decide (job.status = .completed)
  queued := jobs.countP fun job => decide (job.status = .queued)
  failed := jobs.countP fun job => decide (job.status = .failed)
  total := jobs.length

/-- The rows whose foreign key is the batch. -/
def World.rowsOf (w : World) (batchId : BatchId) : List JobRow :=
  w.jobs.table.rows.filter fun row => decide (row.batchId = batchId)

/-- `get_batch_with_jobs`. -/
def getBatchWithJobs (w : World) (batchId : BatchId) : Option BatchWithJobs :=
  (w.batches.find? fun b => decide (b.batchId = batchId)).map fun batch =>
    let jobEntities := (w.rowsOf batch.batchId).map toJob
    { batchId := batch.batchId
      status := batch.status
      progress := buildProgress jobEntities
      jobs := jobEntities.map jobToSummary
      callbackUrl := batch.callbackUrl
      deploymentId := batch.deploymentId
      nodeId := batch.nodeId
      createdAt := batch.createdAt
      updatedAt := batch.updatedAt }

/-! ### The service -/

/-- `_compute_progress`. -/
def computeProgress (jobStatuses : List JobStatus) : BatchProgress where
  completed := jobStatuses.countP fun s => decide (s = .completed ∨ s = .cached)
  queued := jobStatuses.countP fun s => decide (s = .queued)
  failed := jobStatuses.countP fun s => decide (s = .failed)
  inProgress := jobStatuses.countP fun s => decide (s = .processing)
  total := jobStatuses.length

/-- `_aggregate_batch_status`. -/
def aggregateBatchStatus (jobStatuses : List JobStatus) : JobStatus :=
  if jobStatuses = [] then .queued
  else if ∃ s ∈ jobStatuses, s = .processing then .processing
  else if ∀ s ∈ jobStatuses, s = .queued then .queued
  else if ∃ s ∈ jobStatuses, s = .queued then .processing
  else if ∃ s ∈ jobStatuses, s = .failed then .failed
  else if ∀ s ∈ jobStatuses, s = .completed ∨ s = .cached then .completed
  else .processing

/-- `JobService.get_batch`. -/
def JobService.getBatch (w : World) (batchId : BatchId) : Except PyException BatchWithJobs :=
  match getBatchWithJobs w batchId with
  | none => .error (.error "NotFoundError" s!"Batch {batchId} not found")
  | some existing =>
    let jobStatuses := existing.jobs.map JobSummary.status
    .ok
      { existing with
        status := aggregateBatchStatus jobStatuses
        progress := computeProgress jobStatuses }

/-! ### What is reported -/

/-- A batch is reported `COMPLETED` exactly if it has jobs and all of them are done. -/
theorem aggregateBatchStatus_eq_completed_iff (jobStatuses : List JobStatus) :
    aggregateBatchStatus jobStatuses = .completed ↔
      jobStatuses ≠ [] ∧ ∀ s ∈ jobStatuses, s = .completed ∨ s = .cached := by
  constructor
  · intro h
    rw [aggregateBatchStatus] at h
    split_ifs at h with hnone _ _ _ _ hdone
    exact ⟨hnone, hdone⟩
  · rintro ⟨hnone, hdone⟩
    have hother : ∀ status : JobStatus, status ≠ .completed → status ≠ .cached →
        ¬∃ s ∈ jobStatuses, s = status := by
      rintro status hcompleted hcached ⟨s, hs, rfl⟩
      exact (hdone s hs).elim hcompleted hcached
    have hqueued : ¬∀ s ∈ jobStatuses, s = .queued := by
      intro hall
      obtain ⟨s, hs⟩ := List.exists_mem_of_ne_nil jobStatuses hnone
      exact hother .queued JobStatus.noConfusion JobStatus.noConfusion ⟨s, hs, hall s hs⟩
    rw [aggregateBatchStatus, if_neg hnone,
      if_neg (hother .processing JobStatus.noConfusion JobStatus.noConfusion), if_neg hqueued,
      if_neg (hother .queued JobStatus.noConfusion JobStatus.noConfusion),
      if_neg (hother .failed JobStatus.noConfusion JobStatus.noConfusion), if_pos hdone]

/-- The statuses of the rows of a batch. -/
theorem statuses_map_jobToSummary (rows : List JobRow) :
    ((rows.map toJob).map jobToSummary).map JobSummary.status = rows.map JobRow.status := by
  rw [List.map_map, List.map_map]
  rfl

/-- What a poll of a batch that exists shows. -/
theorem JobService.getBatch_of_find? {w : World} {batchId : BatchId} {batch : Batch}
    (h : (w.batches.find? fun b => decide (b.batchId = batchId)) = some batch) :
    ∃ view, JobService.getBatch w batchId = .ok view ∧
      view.jobs = ((w.rowsOf batchId).map toJob).map jobToSummary ∧
      view.progress = computeProgress ((w.rowsOf batchId).map JobRow.status) ∧
      view.status = aggregateBatchStatus ((w.rowsOf batchId).map JobRow.status) := by
  have hid : batch.batchId = batchId := of_decide_eq_true (List.find?_some h :)
  rw [← statuses_map_jobToSummary, JobService.getBatch, getBatchWithJobs, h, Option.map_some, hid]
  exact ⟨_, rfl, rfl, rfl, rfl⟩

end ZubotIngestion
