import ZubotIngestion.Domain.Entities

/-!
# The webhook payload

What the callback client posts for a job: `_job_to_payload` of `infrastructure/callback/client.py`,
before it is serialised to JSON.

## Main definitions

* `WebhookPayload`, `jobToPayload`.
-/

namespace ZubotIngestion

/-- The payload of a webhook. -/
structure WebhookPayload where
  jobId : JobId
  batchId : BatchId
  filename : String
  fileHash : FileHash
  status : String
  confidenceTier : Option String
  overallConfidence : Option PyFloat
  result : Option Dict
  errorMessage : Option String
  processingTimeMs : Option ℤ
  otelTraceId : Option String
  createdAt : Timestamp
  updatedAt : Timestamp

/-- `_job_to_payload`. -/
def jobToPayload (job : Job) : WebhookPayload where
  jobId := job.jobId
  batchId := job.batchId
  filename := job.filename
  fileHash := job.fileHash
  status := job.status.value
  confidenceTier := job.confidenceTier.map ConfidenceTier.value
  overallConfidence := job.overallConfidence
  result := job.result
  errorMessage := job.errorMessage
  processingTimeMs := job.processingTimeMs
  otelTraceId := job.otelTraceId
  createdAt := job.createdAt
  updatedAt := job.updatedAt

end ZubotIngestion
