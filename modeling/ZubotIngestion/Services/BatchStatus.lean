import ZubotIngestion.Services.Polling

/-!
# The status of a batch

The counters and the status of a batch are computed from the statuses of its jobs apart from each
other, the counters by filters and the status by a cascade of tests. The status is a function of
the counters all the same. The filters do not overlap, but a status that none of them asks for is
missing from the counters. The repository may answer with a shaped response or with the batch and
its jobs, and the service makes the same response of both.

## Main definitions

* `Uncounted`: the statuses in no counter but the total.
* `BatchProgress.Yields`: the status that goes with the counters.
* `RepositoryAnswer`, `JobService.shapeBatch`: the two answers of a repository.

## Main results

* `counted_add_uncounted`, `counted_eq_total_iff`: what the counters add up to.
* `batchStatus_coherent`: the counters determine the status, the order of the jobs does not matter,
  and neither does the answer of the repository.
-/

namespace ZubotIngestion

/-! ### The counters -/

/-- A status in no counter but the total. -/
def Uncounted (s : JobStatus) : Prop := s = .inProgress ∨ s = .review ∨ s = .rejected

instance (s : JobStatus) : Decidable (Uncounted s) := inferInstanceAs (Decidable (_ ∨ _))

/-- The jobs in a counter other than the total. -/
def BatchProgress.counted (progress : BatchProgress) : ℕ :=
  progress.completed + progress.queued + progress.failed + progress.inProgress

/-- The counters do not overlap, and miss the jobs in a status of no counter. -/
theorem counted_add_uncounted (jobStatuses : List JobStatus) :
    (computeProgress jobStatuses).counted + jobStatuses.countP (fun s => decide (Uncounted s)) =
      (computeProgress jobStatuses).total := by
  induction jobStatuses with
  | nil => rfl
  | cons s jobStatuses ih =>
    simp only [BatchProgress.counted, computeProgress, List.countP_cons, List.length_cons] at ih ⊢
    cases s <;> simp [Uncounted] at ih ⊢ <;> omega

/-- The counters add up to the total iff every job has a status of some counter. -/
theorem counted_eq_total_iff (jobStatuses : List JobStatus) :
    (computeProgress jobStatuses).counted = (computeProgress jobStatuses).total ↔
      ∀ s ∈ jobStatuses, ¬ Uncounted s := by
  have hmissed : jobStatuses.countP (fun s => decide (Uncounted s)) = 0 ↔
      ∀ s ∈ jobStatuses, ¬ Uncounted s := by
    simp only [List.countP_eq_zero, decide_eq_true_eq]
  rw [← hmissed, ← counted_add_uncounted]
  omega

/-- The counters do not depend on the order of the jobs. -/
theorem computeProgress_perm {jobStatuses jobStatuses' : List JobStatus}
    (h : jobStatuses.Perm jobStatuses') :
    computeProgress jobStatuses = computeProgress jobStatuses' := by
  simp only [computeProgress, h.countP_eq, h.length_eq]

/-! ### The status -/

/-- The status that goes with the counters of a batch. -/
structure BatchProgress.Yields (progress : BatchProgress) (status : JobStatus) : Prop where
  completed : status = .completed ↔ 0 < progress.total ∧ progress.completed = progress.total
  queued : status = .queued ↔ progress.queued = progress.total
  failed : status = .failed ↔ 0 < progress.failed ∧ progress.queued = 0 ∧ progress.inProgress = 0
  processing : status = .processing ↔
    ¬ (0 < progress.total ∧ progress.completed = progress.total) ∧
      progress.queued ≠ progress.total ∧
      ¬ (0 < progress.failed ∧ progress.queued = 0 ∧ progress.inProgress = 0)

/-- The cascade of `_aggregate_batch_status`, with the tests made on the counters. -/
theorem aggregateBatchStatus_eq (jobStatuses : List JobStatus) :
    aggregateBatchStatus jobStatuses =
      if (computeProgress jobStatuses).total = 0 then .queued
      else if 0 < (computeProgress jobStatuses).inProgress then .processing
      else if (computeProgress jobStatuses).queued = (computeProgress jobStatuses).total then
        .queued
      else if 0 < (computeProgress jobStatuses).queued then .processing
      else if 0 < (computeProgress jobStatuses).failed then .failed
      else if (computeProgress jobStatuses).completed = (computeProgress jobStatuses).total
        then .completed
      else .processing := by
  simp only [aggregateBatchStatus, computeProgress, List.length_eq_zero_iff, List.countP_pos_iff,
    List.countP_eq_length, decide_eq_true_eq]

/-- The status of a batch is the one that goes with its counters. -/
theorem yields_aggregateBatchStatus (jobStatuses : List JobStatus) :
    (computeProgress jobStatuses).Yields (aggregateBatchStatus jobStatuses) := by
  have hcounted := counted_add_uncounted jobStatuses
  rw [BatchProgress.counted] at hcounted
  rw [aggregateBatchStatus_eq]
  generalize computeProgress jobStatuses = progress at hcounted
  constructor <;> split_ifs <;> simp only [true_iff, false_iff] <;> omega

/-- The counters determine the status. -/
theorem aggregateBatchStatus_congr {jobStatuses jobStatuses' : List JobStatus}
    (h : computeProgress jobStatuses = computeProgress jobStatuses') :
    aggregateBatchStatus jobStatuses = aggregateBatchStatus jobStatuses' := by
  rw [aggregateBatchStatus_eq, aggregateBatchStatus_eq, h]

/-! ### The answer of the repository -/

/-- What `get_batch_with_jobs` may return for a batch that exists. -/
inductive RepositoryAnswer : Type where
  /-- The response of the adapter. -/
  | shaped (existing : BatchWithJobs)
  /-- The pair of the protocol. -/
  | canonical (batch : Batch) (jobs : List Job)

/-- `JobService.get_batch`, behind the call of the repository. -/
def JobService.shapeBatch (batchId : BatchId) :
    Option RepositoryAnswer → Except PyException BatchWithJobs
  | none => .error (.error "NotFoundError" s!"Batch {batchId} not found")
  | some (.shaped existing) =>
    let jobSummaries := existing.jobs
    let jobStatuses := jobSummaries.map JobSummary.status
    .ok
      { batchId := existing.batchId
        status := aggregateBatchStatus jobStatuses
        progress := computeProgress jobStatuses
        jobs := jobSummaries
        callbackUrl := existing.callbackUrl
        deploymentId := existing.deploymentId
        nodeId := existing.nodeId
        createdAt := existing.createdAt
        updatedAt := existing.updatedAt }
  | some (.canonical batch jobs) =>
    let jobStatuses := jobs.map Job.status
    .ok
      { batchId := batch.batchId
        status := aggregateBatchStatus jobStatuses
        progress := computeProgress jobStatuses
        jobs := jobs.map fun j =>
          { jobId := j.jobId
            filename := j.filename
            status := j.status
            fileHash := j.fileHash
            result := j.result }
        callbackUrl := batch.callbackUrl
        deploymentId := batch.deploymentId
        nodeId := batch.nodeId
        createdAt := batch.createdAt
        updatedAt := batch.updatedAt }

/-- The adapter of the model gives the shaped answer. -/
theorem JobService.getBatch_eq_shapeBatch (w : World) (batchId : BatchId) :
    JobService.getBatch w batchId =
      JobService.shapeBatch batchId ((getBatchWithJobs w batchId).map .shaped) := by
  rw [JobService.getBatch]
  cases getBatchWithJobs w batchId <;> rfl

/-- A shaped answer is about the same rows as a pair, whatever status and progress it gives. -/
structure BatchWithJobs.Describes (existing : BatchWithJobs) (batch : Batch) (jobs : List Job) :
    Prop where
  batchId : existing.batchId = batch.batchId
  jobs : existing.jobs = jobs.map jobToSummary
  callbackUrl : existing.callbackUrl = batch.callbackUrl
  deploymentId : existing.deploymentId = batch.deploymentId
  nodeId : existing.nodeId = batch.nodeId
  createdAt : existing.createdAt = batch.createdAt
  updatedAt : existing.updatedAt = batch.updatedAt

/-- The answer of the adapter describes the batch and the jobs it has loaded. -/
theorem describes_of_getBatchWithJobs {w : World} {batchId : BatchId} {existing : BatchWithJobs}
    (h : getBatchWithJobs w batchId = some existing) :
    ∃ batch ∈ w.batches,
      existing.Describes batch ((w.rowsOf batch.batchId).map toJob) := by
  obtain ⟨batch, hbatch, rfl⟩ := Option.map_eq_some_iff.mp h
  exact ⟨batch, List.mem_of_find?_eq_some hbatch, rfl, rfl, rfl, rfl, rfl, rfl, rfl⟩

/-- The service makes the same response of both answers. -/
theorem shapeBatch_eq_of_describes (batchId : BatchId) {existing : BatchWithJobs} {batch : Batch}
    {jobs : List Job} (h : existing.Describes batch jobs) :
    JobService.shapeBatch batchId (some (.shaped existing)) =
      JobService.shapeBatch batchId (some (.canonical batch jobs)) := by
  obtain ⟨batchId', status, progress, jobs', callbackUrl, deploymentId, nodeId, createdAt,
    updatedAt⟩ := existing
  obtain ⟨rfl, rfl, rfl, rfl, rfl, rfl, rfl⟩ := h
  have hstatuses : (jobs.map jobToSummary).map JobSummary.status = jobs.map Job.status := by
    rw [List.map_map]
    rfl
  simp only [JobService.shapeBatch, hstatuses]
  rfl

/-- The response gives the status and the counters of the jobs, and one summary a job. -/
theorem exists_shapeBatch_eq (batchId : BatchId) (batch : Batch) (jobs : List Job) :
    ∃ response, JobService.shapeBatch batchId (some (.canonical batch jobs)) = .ok response ∧
      response.status = aggregateBatchStatus (jobs.map Job.status) ∧
      response.progress = computeProgress (jobs.map Job.status) ∧
      response.jobs = jobs.map jobToSummary :=
  ⟨_, rfl, rfl, rfl, rfl⟩

/-- For every list of jobs the counters determine the status by four rules that leave no case open,
the order of the jobs changes neither, and the response of `get_batch` has this status, these
counters and the summaries of the jobs, whichever kind of answer the repository gives about the
rows. -/
theorem batchStatus_coherent :
    (∀ jobStatuses : List JobStatus,
        (computeProgress jobStatuses).Yields (aggregateBatchStatus jobStatuses)) ∧
      (∀ jobStatuses jobStatuses' : List JobStatus,
        computeProgress jobStatuses = computeProgress jobStatuses' →
          aggregateBatchStatus jobStatuses = aggregateBatchStatus jobStatuses') ∧
      (∀ jobStatuses jobStatuses' : List JobStatus, jobStatuses.Perm jobStatuses' →
        computeProgress jobStatuses = computeProgress jobStatuses' ∧
          aggregateBatchStatus jobStatuses = aggregateBatchStatus jobStatuses') ∧
      ∀ (batchId : BatchId) (existing : BatchWithJobs) (batch : Batch) (jobs : List Job),
        existing.Describes batch jobs →
          JobService.shapeBatch batchId (some (.shaped existing)) =
              JobService.shapeBatch batchId (some (.canonical batch jobs)) ∧
            ∃ response, JobService.shapeBatch batchId (some (.canonical batch jobs)) =
                .ok response ∧
              response.status = aggregateBatchStatus (jobs.map Job.status) ∧
              response.progress = computeProgress (jobs.map Job.status) ∧
              response.jobs = jobs.map jobToSummary := by
  refine ⟨yields_aggregateBatchStatus, fun _ _ h => aggregateBatchStatus_congr h,
    fun _ _ h => ?_, fun batchId _ batch jobs h =>
      ⟨shapeBatch_eq_of_describes batchId h, exists_shapeBatch_eq batchId batch jobs⟩⟩
  have hprogress := computeProgress_perm h
  exact ⟨hprogress, aggregateBatchStatus_congr hprogress⟩

/-- Two jobs in either order, and an empty batch that the repository reports as `COMPLETED`. -/
theorem batchStatus_coherent_two :
    aggregateBatchStatus [.queued, .completed] = aggregateBatchStatus [.completed, .queued] ∧
      JobService.shapeBatch 1 (some (.shaped
        ⟨1, .completed, ⟨1, 0, 0, 1, 0⟩, [], none, none, none, 0, 0⟩)) =
      JobService.shapeBatch 1 (some (.canonical
        ⟨1, .queued, 0, none, none, none, "reviewer", 0, 0, .auto⟩ [])) :=
  ⟨(batchStatus_coherent.2.2.1 _ _ (List.Perm.swap _ _ _)).2,
    (batchStatus_coherent.2.2.2 _ _ _ _ ⟨rfl, rfl, rfl, rfl, rfl, rfl, rfl⟩).1⟩

end ZubotIngestion
