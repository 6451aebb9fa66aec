import ZubotIngestion.Domain.Enums
import ZubotIngestion.Python.Value

/-!
# Entities

The frozen dataclasses of `domain/entities.py` and the transfer objects of `shared/types.py` that
the modelled functions read or build. Identifiers are UUIDs in the source and plain numbers here;
a time is a number of clock ticks.
-/

namespace ZubotIngestion

/-- A job identifier. -/
abbrev JobId : Type := ℕ

/-- A batch identifier. -/
abbrev BatchId : Type := ℕ

/-- The SHA-256 hex digest of a file. -/
abbrev FileHash : Type := String

/-- A point in time. -/
abbrev Timestamp : Type := ℕ

/-- File contents. -/
abbrev Bytes : Type := List UInt8

/-! ### Rows of the job repository -/

/-- A batch of jobs submitted together. -/
structure Batch where
  batchId : BatchId
  status : JobStatus
  totalJobs : ℤ
  callbackUrl : Option String
  deploymentId : Option ℤ
  nodeId : Option ℤ
  createdBy : String
  createdAt : Timestamp
  updatedAt : Timestamp
  mode : ExtractionMode

/-- A single-file extraction job. -/
structure Job where
  jobId : JobId
  batchId : BatchId
  filename : String
  fileHash : FileHash
  filePath : String
  status : JobStatus
  result : Option Dict
  errorMessage : Option String
  pipelineTrace : Option Dict
  otelTraceId : Option String
  processingTimeMs : Option ℤ
  createdAt : Timestamp
  updatedAt : Timestamp
  confidenceTier : Option ConfidenceTier
  overallConfidence : Option PyFloat

/-- A new job for the file `plan.pdf`. -/
def planJob : Job where
  jobId := 0
  batchId := 0
  filename := "plan.pdf"
  fileHash := ""
  filePath := ""
  status := .processing
  result := none
  errorMessage := none
  pipelineTrace := none
  otelTraceId := none
  processingTimeMs := none
  createdAt := 0
  updatedAt := 0
  confidenceTier := none
  overallConfidence := none

/-! ### Values that flow through the pipeline -/

/-- Basic data of a loaded PDF. -/
structure PDFData where
  pageCount : ℕ
  fileHash : FileHash

/-- A rendered page. -/
structure RenderedPage where
  pageNumber : ℤ
  base64Jpeg : String

/-- Result of Stage 1, complete or for one field. -/
structure ExtractionResult where
  drawingNumber : Option String
  drawingNumberConfidence : PyFloat
  title : Option String
  titleConfidence : PyFloat
  documentType : Option DocumentType
  documentTypeConfidence : PyFloat
  discipline : Option Discipline := none
  revision : Option String := none
  buildingZone : Option String := none
  project : Option String := none
  sourcesUsed : List String := []
  rawVisionResponse : Option String := none
  rawTextResponse : Option String := none
  confidenceScore : Option PyFloat := none
  confidenceTier : Option ConfidenceTier := none

/-- Result of Stage 2. -/
structure CompanionResult where
  companionText : String
  pagesDescribed : ℕ
  companionGenerated : Bool
  validationPassed : Bool
  qualityScore : Option PyFloat := none

/-- Result of cross-checking a companion against the extraction. -/
structure ValidationResult where
  passed : Bool
  issues : List String := []
  qualityScore : PyFloat := 1

/-- The sidecar document of Stage 3. -/
structure SidecarDocument where
  metadataAttributes : Dict
  companionText : Option String
  sourceFilename : String
  fileHash : FileHash
  schemaVersion : String := "1.0"

/-- Overall confidence and tier of an extraction. -/
structure ConfidenceAssessment where
  overallConfidence : PyFloat
  tier : ConfidenceTier
  breakdown : List (String × PyFloat) := []
  validationAdjustment : PyFloat := 0

/-- The shared context the stages of one run read. -/
structure PipelineContext where
  job : Job
  pdfBytes : Bytes
  pdfData : Option PDFData

/-- An error of a pipeline stage. -/
structure PipelineError where
  stage : String
  errorType : String
  message : String
  recoverable : Bool

/-! ### Transfer objects of the submission route -/

/-- Parameters of a batch submission. -/
structure SubmissionParams where
  mode : ExtractionMode
  callbackUrl : Option String
  deploymentId : Option ℤ
  nodeId : Option ℤ

/-- An uploaded file. -/
structure UploadedFile where
  filename : String
  content : Bytes

/-- Summary of one job in a submission response. -/
structure JobSummary where
  jobId : JobId
  filename : String
  status : JobStatus
  fileHash : FileHash
  result : Option Dict

/-- Response of `submit_batch`. -/
structure BatchSubmissionResult where
  batchId : BatchId
  jobs : List JobSummary
  total : ℕ
  pollUrl : String

end ZubotIngestion
