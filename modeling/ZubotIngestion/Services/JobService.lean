import ZubotIngestion.Services.CeleryApp

/-!
# Batch submission

`JobService.submit_batch`: validate the uploads, answer each file from a completed job with the
same hash or store it as a new job, persist the batch, and enqueue the new jobs.

## Main definitions

* `submitFile`, `submitFiles`, `submitBatch`.

The digest `sha256` of the standard library is a parameter.
-/

namespace ZubotIngestion

open Effects

/-- `_PDF_MAGIC`. -/
def pdfMagic : Bytes := [0x25, 0x50, 0x44, 0x46]

/-- `_is_valid_pdf`. No character outside ASCII has `.`, `p`, `d` or `f` as its lower case, so
lowering ASCII letters decides the suffix. -/
def isValidPdf (file : UploadedFile) : Bool :=
  ".pdf".toList.isSuffixOf (file.filename.toList.map Char.toLower) &&
    pdfMagic.isPrefixOf file.content

/-- The exception the validation pass raises for a file. -/
def uploadError? (settings : Settings) (file : UploadedFile) : Option PyException :=
  if settings.maxPdfBytes < file.content.length then
    some (.error "OversizeFileError"
      s!"{file.filename} exceeds max size of {settings.maxPdfBytes} bytes")
  else if !isValidPdf file then
    some (.error "InvalidPDFError" s!"{file.filename} is not a valid PDF")
  else none

/-- `_build_poll_url`. -/
def buildPollUrl (batchId : BatchId) : String := s!"/batches/{batchId}"

/-- The summary of a file that a completed job answers. -/
def cachedSummary (file : UploadedFile) (fileHash : FileHash) (existing : Job) : JobSummary where
  jobId := existing.jobId
  filename := file.filename
  status := .cached
  fileHash := fileHash
  result := existing.result

/-- The entity of a new job. -/
def newJob (path : PdfPath) (file : UploadedFile) (fileHash : FileHash) (now : Timestamp) :
    Job where
  jobId := path.jobId
  batchId := path.batchId
  filename := file.filename
  fileHash := fileHash
  filePath := path.toString
  status := .queued
  result := none
  errorMessage := none
  pipelineTrace := none
  otelTraceId := none
  processingTimeMs := none
  createdAt := now
  updatedAt := now
  confidenceTier := none
  overallConfidence := none

/-- The summary of a new job. -/
def queuedSummary (file : UploadedFile) (fileHash : FileHash) (jobId : JobId) : JobSummary where
  jobId := jobId
  filename := file.filename
  status := .queued
  fileHash := fileHash
  result := none

/-- One file of the deduplication pass: its summary, and its job if it is new. -/
def submitFile (fileHash : FileHash) (batchId : BatchId) (now : Timestamp) (file : UploadedFile) :
    Prog (JobSummary × Option Job) := do
  let existing ← perform (.getJobByFileHash fileHash)
  match existing.filter fun job => decide (job.status = .completed) with
  | some job => return (cachedSummary file fileHash job, none)
  | none => do
    let jobId ← perform .uuid4
    let path : PdfPath := ⟨tempPdfRoot, batchId, jobId⟩
    perform (.writeBytes path file.content)
    return (queuedSummary file fileHash jobId, some (newJob path file fileHash now))

/-- The deduplication pass over all files. -/
def submitFiles (sha256 : Bytes → FileHash) (batchId : BatchId) (now : Timestamp) :
    List UploadedFile → Prog (List JobSummary × List Job)
  | [] => return ([], [])
  | file :: files => do
    let (summary, job) ← submitFile (sha256 file.content) batchId now file
    let (summaries, jobs) ← submitFiles sha256 batchId now files
    return (summary :: summaries, job.toList ++ jobs)

/-- Enqueue the new jobs in order. -/
def enqueueAll : List Job → Prog Unit
  | [] => return ()
  | job :: jobs => do
    perform (.enqueueExtraction job.jobId)
    enqueueAll jobs

/-- The entity of a new batch. -/
def newBatch (batchId : BatchId) (jobs : List Job) (params : SubmissionParams) (userId : String)
    (now : Timestamp) : Batch where
  batchId := batchId
  status := .queued
  totalJobs := jobs.length
  callbackUrl := params.callbackUrl
  deploymentId := params.deploymentId
  nodeId := params.nodeId
  createdBy := userId
  createdAt := now
  updatedAt := now
  mode := params.mode

/-- `JobService.submit_batch`. -/
def submitBatch (settings : Settings) (sha256 : Bytes → FileHash) (files : List UploadedFile)
    (params : SubmissionParams) (userId : String) : Prog BatchSubmissionResult := do
  if files = [] then
    .raise (.error "InvalidPDFError" "No files provided")
  else
    match files.findSome? (uploadError? settings) with
    | some exc => .raise exc
    | none => do
      let now ← perform .now
      let batchId ← perform .uuid4
      perform (.mkdir tempPdfRoot batchId)
      let (summaries, jobs) ← submitFiles sha256 batchId now files
      let _ ← perform (.createBatch (newBatch batchId jobs params userId now) jobs)
      enqueueAll jobs
      return ⟨batchId, summaries, summaries.length, buildPollUrl batchId⟩

end ZubotIngestion
