import ZubotIngestion.Api.Extract
import ZubotIngestion.Api.Review
import ZubotIngestion.Services.Polling

/-!
# The lookup routes

`GET /jobs/{job_id}` and `GET /batches/{batch_id}`. Both read the identifier from the path, answer
400 to a text that is none and 404 to an identifier without a row, and otherwise write the record
with its identifiers as texts. The texts of times are a parameter.

## Main definitions

* `JobService.getJob`, `JobDetail`.
* `getJobEndpoint`, `getBatchEndpoint`: the routes.

## Main results

* `getJobEndpoint_uuidStr`, `getBatchEndpoint_uuidStr`: what the text of an identifier is answered.
-/

namespace ZubotIngestion

open Effects

/-! ### Jobs -/

/-- The record of a job that `get_job` returns. -/
structure JobDetail where
  jobId : JobId
  batchId : BatchId
  filename : String
  fileHash : FileHash
  status : JobStatus
  result : Option Dict
  errorMessage : Option String
  pipelineTrace : Option Dict
  otelTraceId : Option String
  processingTimeMs : Option ℤ
  createdAt : Timestamp
  updatedAt : Timestamp

/-- `JobService.get_job`. -/
def JobService.getJob (w : World) (jobId : JobId) : Except PyException JobDetail :=
  match ZubotIngestion.getJob w.jobs.table jobId with
  | none => .error (.error "NotFoundError" s!"Job {uuidStr jobId} not found")
  | some job => .ok
    { jobId := job.jobId
      batchId := job.batchId
      filename := job.filename
      fileHash := job.fileHash
      status := job.status
      result := job.result
      errorMessage := job.errorMessage
      pipelineTrace := job.pipelineTrace
      otelTraceId := job.otelTraceId
      processingTimeMs := job.processingTimeMs
      createdAt := job.createdAt
      updatedAt := job.updatedAt }

/-- The body of the response about a job. -/
structure JobBody where
  jobId : String
  batchId : String
  filename : String
  fileHash : FileHash
  status : String
  result : Option Dict
  errorMessage : Option String
  pipelineTrace : Option Dict
  otelTraceId : Option String
  processingTimeMs : Option ℤ
  createdAt : String
  updatedAt : String

/-- `_serialize_job`. -/
def serializeJob (isoformat : Timestamp → String) (job : JobDetail) : JobBody where
  jobId := uuidStr job.jobId
  batchId := uuidStr job.batchId
  filename := job.filename
  fileHash := job.fileHash
  status := job.status.value
  result := job.result
  errorMessage := job.errorMessage
  pipelineTrace := job.pipelineTrace
  otelTraceId := job.otelTraceId
  processingTimeMs := job.processingTimeMs
  createdAt := isoformat job.createdAt
  updatedAt := isoformat job.updatedAt

/-! ### Batches -/

/-- The body of the response about a batch. -/
structure BatchBody where
  batchId : String
  status : String
  progress : BatchProgress
  callbackUrl : Option String
  deploymentId : Option ℤ
  nodeId : Option ℤ
  createdAt : String
  updatedAt : String
  jobs : List SummaryBody

/-- `_serialize_batch`. -/
def serializeBatch (isoformat : Timestamp → String) (batch : BatchWithJobs) : BatchBody where
  batchId := uuidStr batch.batchId
  status := batch.status.value
  progress := batch.progress
  callbackUrl := batch.callbackUrl
  deploymentId := batch.deploymentId
  nodeId := batch.nodeId
  createdAt := isoformat batch.createdAt
  updatedAt := isoformat batch.updatedAt
  jobs := batch.jobs.map serializeSummary

/-! ### The routes -/

/-- How a missing record is answered; `missing` is the text for an exception without one. -/
def translateNotFound (missing : String) (exc : PyException) : PyException :=
  if exc.typeName = "NotFoundError" then
    .http 404 (if exc.message = "" then missing else exc.message)
  else exc

section Routes

variable (repr : String → String) (otherDigit? : Char → Option ℕ)
  (isoformat : Timestamp → String) (w : World)

/-- The path parameter `name`, read as an identifier. -/
def parsePathId (name text : String) : Except PyException ℕ :=
  match uuidOfStr repr otherDigit? text with
  | .ok id => .ok id
  | .error _ => .error (.http 400 s!"Invalid {name}: {repr text}")

/-- `_parse_job_id` of the jobs route. -/
def parseJobText (jobId : String) : Except PyException JobId :=
  parsePathId repr otherDigit? "job_id" jobId

/-- `_parse_batch_id`. -/
def parseBatchText (batchId : String) : Except PyException BatchId :=
  parsePathId repr otherDigit? "batch_id" batchId

/-- The path parameter of the review routes, for a text. -/
def PathJobId.ofText (text : String) : PathJobId where
  text := text
  repr := repr text
  uuid? := (uuidOfStr repr otherDigit? text).toOption

/-- `get_job_endpoint`. -/
def getJobEndpoint (jobId : String) : Except PyException JobBody := do
  let parsedId ← parseJobText repr otherDigit? jobId
  match JobService.getJob w parsedId with
  | .error exc => .error (translateNotFound s!"Job {jobId} not found" exc)
  | .ok result => .ok (serializeJob isoformat result)

/-- `get_batch_endpoint`. -/
def getBatchEndpoint (batchId : String) : Except PyException BatchBody := do
  let parsedId ← parseBatchText repr otherDigit? batchId
  match JobService.getBatch w parsedId with
  | .error exc => .error (translateNotFound s!"Batch {batchId} not found" exc)
  | .ok result => .ok (serializeBatch isoformat result)

variable {repr otherDigit? isoformat w}

theorem parsePathId_uuidStr {id : ℕ} (h : id < uuidBound) (name : String) :
    parsePathId repr otherDigit? name (uuidStr id) = .ok id := by
  rw [parsePathId, uuidOfStr_uuidStr repr otherDigit? h]

/-- A job that is found is answered with its record. -/
theorem getJobEndpoint_of_ok {id : JobId} (hid : id < uuidBound) {detail : JobDetail}
    (h : JobService.getJob w id = .ok detail) :
    getJobEndpoint repr otherDigit? isoformat w (uuidStr id) =
      .ok (serializeJob isoformat detail) := by
  simp only [getJobEndpoint, parseJobText, parsePathId_uuidStr hid, bind, Except.bind, h]

/-- A batch that is found is answered with its record. -/
theorem getBatchEndpoint_of_ok {id : BatchId} (hid : id < uuidBound) {view : BatchWithJobs}
    (h : JobService.getBatch w id = .ok view) :
    getBatchEndpoint repr otherDigit? isoformat w (uuidStr id) =
      .ok (serializeBatch isoformat view) := by
  simp only [getBatchEndpoint, parseBatchText, parsePathId_uuidStr hid, bind, Except.bind, h]

variable (repr otherDigit? isoformat) in
/-- The text of a job identifier is answered with the row of the job. -/
theorem getJobEndpoint_uuidStr {row : JobRow} (hid : row.id < uuidBound)
    (hrow : w.jobs.table.find? row.id = some row) :
    ∃ detail, getJobEndpoint repr otherDigit? isoformat w (uuidStr row.id) = .ok detail ∧
      detail.jobId = uuidStr row.id ∧ detail.batchId = uuidStr row.batchId ∧
        detail.filename = row.filename ∧ detail.fileHash = row.fileHash ∧
          detail.status = row.status.value ∧ detail.result = row.result := by
  have hjob : getJob w.jobs.table row.id = some (toJob row) := by rw [getJob, hrow, Option.map_some]
  have hfound : ∃ detail, JobService.getJob w row.id = .ok detail ∧ detail.jobId = row.id ∧
      detail.batchId = row.batchId ∧ detail.filename = row.filename ∧
        detail.fileHash = row.fileHash ∧ detail.status = row.status ∧
          detail.result = row.result := by
    simp only [JobService.getJob, hjob]
    exact ⟨_, rfl, rfl, rfl, rfl, rfl, rfl, rfl⟩
  obtain ⟨detail, hdetail, hjobId, hbatchId, hfilename, hhash, hstatus, hresult⟩ := hfound
  exact ⟨_, getJobEndpoint_of_ok hid hdetail, congrArg uuidStr hjobId, congrArg uuidStr hbatchId,
    hfilename, hhash, congrArg JobStatus.value hstatus, hresult⟩

variable (repr otherDigit? isoformat) in
/-- The text of a batch identifier is answered with the fields of the batch and its rows. -/
theorem getBatchEndpoint_uuidStr {batch : Batch} (hid : batch.batchId < uuidBound)
    (hbatch : (w.batches.find? fun b => decide (b.batchId = batch.batchId)) = some batch) :
    ∃ view, getBatchEndpoint repr otherDigit? isoformat w (uuidStr batch.batchId) = .ok view ∧
      view.batchId = uuidStr batch.batchId ∧ view.callbackUrl = batch.callbackUrl ∧
        view.deploymentId = batch.deploymentId ∧ view.nodeId = batch.nodeId ∧
          view.progress = computeProgress ((w.rowsOf batch.batchId).map JobRow.status) ∧
            view.jobs = (w.rowsOf batch.batchId).map fun row =>
              serializeSummary (jobToSummary (toJob row)) := by
  have hview : ∃ view, JobService.getBatch w batch.batchId = .ok view ∧
      view.batchId = batch.batchId ∧ view.callbackUrl = batch.callbackUrl ∧
        view.deploymentId = batch.deploymentId ∧ view.nodeId = batch.nodeId ∧
          view.progress = computeProgress ((w.rowsOf batch.batchId).map JobRow.status) ∧
            view.jobs = ((w.rowsOf batch.batchId).map toJob).map jobToSummary := by
    rw [← statuses_map_jobToSummary, JobService.getBatch, getBatchWithJobs, hbatch, Option.map_some]
    exact ⟨_, rfl, rfl, rfl, rfl, rfl, rfl, rfl⟩
  obtain ⟨view, hfound, hbatchId, hcallback, hdeployment, hnode, hprogress, hjobs⟩ := hview
  refine ⟨_, getBatchEndpoint_of_ok hid hfound, congrArg uuidStr hbatchId, hcallback, hdeployment,
    hnode, hprogress, ?_⟩
  rw [serializeBatch, hjobs, List.map_map, List.map_map]
  rfl

end Routes

end ZubotIngestion
