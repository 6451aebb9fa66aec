import ZubotIngestion.Services.Orchestrator

/-!
# The extraction task

`extract_document_task` of `services/celery_app.py`. One attempt loads the job, marks it
`PROCESSING`, runs the pipeline, and persists the outcome in two commits: `update_job_result`
marks the row `COMPLETED`, and for the review tier a second update sets `REVIEW`. An attempt that
raises is retried by Celery; the last one writes `FAILED`.

## Main definitions

* `runExtractDocumentTask`, `extractDocumentTask`: one attempt.
* `autoretry`, `deliverTask`: all attempts of one delivery.
-/

namespace ZubotIngestion

open Effects

/-- The settings the services read. -/
structure Settings where
  /-- `ZUBOT_INGESTION_API_KEY`, empty if it is not set. -/
  apiKey : String
  /-- The largest upload that is accepted, in bytes. -/
  maxPdfBytes : ℕ

/-- What a finished task leaves in the result backend. -/
structure TaskReply where
  jobId : JobId
  status : JobStatus
  confidenceScore : PyFloat
  confidenceTier : ConfidenceTier

/-- `max_retries` of the task. -/
def maxRetries : ℕ := 3

/-- Where the outcome of a job is delivered to. -/
structure Routing where
  deploymentId : Option ℤ
  nodeId : Option ℤ
  callbackUrl : Option String

/-- The routing of a job's batch; a missing batch, or one that cannot be loaded, is tolerated. -/
def routingOf (batch : Except PyException (Option Batch)) : Routing :=
  match batch with
  | .ok (some batch) => ⟨batch.deploymentId, batch.nodeId, batch.callbackUrl⟩
  | _ => ⟨none, none, none⟩

/-- The result blob of a pipeline run. -/
def resultPayload (result : PipelineResult) : Dict :=
  [("drawing_number", .ofOptionStr result.extractionResult.drawingNumber),
    ("title", .ofOptionStr result.extractionResult.title),
    ("document_type", .ofOptionStr (result.extractionResult.documentType.map DocumentType.value)),
    ("confidence_score", .float result.confidenceAssessment.overallConfidence),
    ("confidence_tier", .str result.confidenceAssessment.tier.value),
    ("sidecar", .dict result.sidecar.metadataAttributes),
    ("pipeline_trace", .dict result.pipelineTrace)]

/-- The status a job gets for its tier. -/
def statusForTier (tier : ConfidenceTier) : JobStatus :=
  if tier = .review then .review else .completed

theorem statusForTier_eq_review {tier : ConfidenceTier} :
    statusForTier tier = .review ↔ tier = .review := by
  cases tier <;> decide

/-- Persist the outcome of a run: the result, and for the review tier the status again. -/
def persistOutcome (jobId : JobId) (result : PipelineResult) (processingTimeMs : ℤ) :
    Prog TaskReply := do
  let tier := result.confidenceAssessment.tier
  let score := result.confidenceAssessment.overallConfidence
  let _ ← perform (.updateJobResult jobId (resultPayload result) tier score processingTimeMs
    (some result.otelTraceId) (some result.pipelineTrace))
  -- `update_job_result` has marked the row `COMPLETED`.
  if statusForTier tier = .review then
    perform (.updateJobStatus jobId .review none none)
  return ⟨jobId, statusForTier tier, score, tier⟩

/-- The part of `_run_extract_document_task` behind the job lookup. -/
def extractJob (settings : Settings) (job : Job) : Prog TaskReply := do
  let batch ← (perform (.getBatch job.batchId)).attempt
  let routing := routingOf batch
  let pdfBytes ← perform (.readBytes ⟨tempPdfRoot, job.batchId, job.jobId⟩)
  let wiring ← perform .buildOrchestrator
  perform (.updateJobStatus job.jobId .processing none none)
  let result ← runPipeline wiring job pdfBytes routing.deploymentId routing.nodeId
    routing.callbackUrl settings.apiKey
  let processingTimeMs ← perform .elapsedMs
  persistOutcome job.jobId result processingTimeMs

/-- The job that was looked up, or the exception of a missing one. -/
def extractFound (settings : Settings) (jobId : JobId) : Option Job → Prog TaskReply
  | some job => extractJob settings job
  | none => .raise (.error "LookupError" s!"job {jobId} not found in repository")

/-- `_run_extract_document_task`. -/
def runExtractDocumentTask (settings : Settings) (jobId : JobId) : Prog TaskReply :=
  withSession do
    let found ← perform (.getJob jobId)
    extractFound settings jobId found

/-- `_mark_job_failed`, in a session of its own. -/
def markJobFailed (jobId : JobId) (exc : PyException) : Prog Unit :=
  withSession (perform (.updateJobStatus jobId .failed none (some (formatError exc))))

/-- `extract_document_task`: one attempt, with the number of attempts before it. `FAILED` is
written on the terminal attempt only, and a failure to write it does not mask the exception. -/
def extractDocumentTask (settings : Settings) (jobId : JobId) (retries : ℕ) : Prog TaskReply := do
  match ← (runExtractDocumentTask settings jobId).attempt with
  | .ok reply => return reply
  | .error exc =>
    if maxRetries ≤ retries then
      let _ ← (markJobFailed jobId exc).attempt
    .raise exc

/-- Celery's autoretry: attempt `retries + 1` runs iff attempt `retries` raised and retries are
left. The result lists the outcomes of the attempts made. -/
def autoretry {α : Type} (attempt : ℕ → Prog α) (retries : ℕ) :
    ℕ → Prog (List (Except PyException α))
  | 0 => do
    let outcome ← (attempt retries).attempt
    return [outcome]
  | left + 1 => do
    match ← (attempt retries).attempt with
    | .ok value => return [.ok value]
    | .error exc => do
      let outcomes ← autoretry attempt (retries + 1) left
      return .error exc :: outcomes

/-- One delivery of the task with all its attempts. -/
def deliverTask (settings : Settings) (jobId : JobId) :
    Prog (List (Except PyException TaskReply)) :=
  autoretry (extractDocumentTask settings jobId) 0 maxRetries

end ZubotIngestion
