import ZubotIngestion.Effects.Pool
import ZubotIngestion.Infrastructure.Callback
import ZubotIngestion.Infrastructure.Database

/-!
# The environment of the services

Everything the services call: the job repository, the temporary file store, the task queue, the
collaborators of the pipeline and the clocks. A call is answered by an environment `Env`, which
says what the collaborators return and which calls fail. A failing call raises before or after
its effect took place; the second kind is a commit whose confirmation is lost. One `Env` answers
one call, so a run that picks a new one for each call meets every outcome at every point.

The state `World` holds what outlives a process: the batches, the `jobs` table, and the files.
The `jobs` table is kept with its journal, which also notes what is sent to other systems.

## Main definitions

* `Op`, `Op.Res`, `services`: the calls and their answers.
* `World`, `Note`, `Env`, `effect`, `answer`.
* `withSession`: the session scope of `get_job_repository`.
-/

namespace ZubotIngestion

open Effects

/-- The three extractors of Stage 1. -/
inductive ExtractorLabel : Type where
  | drawingNumber
  | title
  | documentType
  deriving DecidableEq

/-- The label of an extractor. -/
def ExtractorLabel.value : ExtractorLabel → String
  | drawingNumber => "drawing_number"
  | title => "title"
  | documentType => "document_type"

/-- Which optional collaborators `build_orchestrator` wires. -/
structure Wiring where
  companionValidator : Bool
  searchIndexer : Bool
  callbackClient : Bool

/-- `{root}/{batch_id}/{job_id}.pdf`. -/
structure PdfPath where
  root : String
  batchId : BatchId
  jobId : JobId
  deriving DecidableEq

/-- `DEFAULT_TEMP_STORAGE_ROOT` and `TEMP_PDF_ROOT`. -/
def tempPdfRoot : String := "/tmp/zubot-ingestion"

/-- The string of a path. -/
def PdfPath.toString (path : PdfPath) : String := s!"{path.root}/{path.batchId}/{path.jobId}.pdf"

/-! ### Calls and answers -/

/-- The calls of the services on their environment. -/
inductive Op : Type where
  | getJob (jobId : JobId)
  | getBatch (batchId : BatchId)
  | getJobByFileHash (fileHash : FileHash)
  | createBatch (batch : Batch) (jobs : List Job)
  | updateJobStatus (jobId : JobId) (status : JobStatus) (result : Option Dict)
      (errorMessage : Option String)
  | updateJobResult (jobId : JobId) (result : Dict) (confidenceTier : ConfidenceTier)
      (confidenceScore : PyFloat) (processingTimeMs : ℤ) (otelTraceId : Option String)
      (pipelineTrace : Option Dict)
  /-- The commit at the end of a session scope. -/
  | sessionCommit
  | mkdir (root : String) (batchId : BatchId)
  | writeBytes (path : PdfPath) (content : Bytes)
  | readBytes (path : PdfPath)
  | enqueueExtraction (jobId : JobId)
  | buildOrchestrator
  /-- `pdf_processor.load`. -/
  | load (pdfBytes : Bytes)
  /-- `extractor.extract`. -/
  | extract (label : ExtractorLabel) (context : PipelineContext)
  /-- `companion_generator.generate`. -/
  | generate (context : PipelineContext) (extraction : ExtractionResult)
  /-- `companion_validator.validate`. -/
  | validate (companionText : String) (extraction : ExtractionResult)
  /-- `sidecar_builder.build`. -/
  | build (extraction : ExtractionResult) (companion : Option CompanionResult) (job : Job)
  /-- `confidence_calculator.calculate`. -/
  | calculate (extraction : ExtractionResult) (validation : Option ValidationResult)
  | writeMetadata (documentId : String) (sidecar : SidecarDocument)
      (deploymentId nodeId : Option ℤ)
  | indexCompanion (documentId : String) (extraction : ExtractionResult)
      (companion : CompanionResult) (deploymentId : Option ℤ)
  | notifyCompletion (callbackUrl : String) (job : Job) (apiKey : String)
  /-- `uuid4()`. -/
  | uuid4
  /-- `datetime.now(timezone.utc)`. -/
  | now
  /-- `datetime.now(timezone.utc).isoformat()`. -/
  | nowIsoformat
  /-- Milliseconds since the start of a stage or of the pipeline. -/
  | elapsedMs
  /-- Start the job span; the answer is its trace id. -/
  | startJobSpan
  /-- `extraction_total.labels(status=…).inc()`. -/
  | countExtraction (status : String)

/-- The value a call returns. -/
def Op.Res : Op → Type
  | .getJob _ => Option Job
  | .getBatch _ => Option Batch
  | .getJobByFileHash _ => Option Job
  | .createBatch .. => Batch
  | .updateJobStatus .. => Unit
  | .updateJobResult .. => Option Job
  | .sessionCommit => Unit
  | .mkdir .. => Unit
  | .writeBytes .. => Unit
  | .readBytes _ => Bytes
  | .enqueueExtraction _ => Unit
  | .buildOrchestrator => Wiring
  | .load _ => PDFData
  | .extract .. => ExtractionResult
  | .generate .. => CompanionResult
  | .validate .. => ValidationResult
  | .build .. => SidecarDocument
  | .calculate .. => ConfidenceAssessment
  | .writeMetadata .. => Bool
  | .indexCompanion .. => Bool
  | .notifyCompletion .. => Bool
  | .uuid4 => ℕ
  | .now => Timestamp
  | .nowIsoformat => String
  | .elapsedMs => ℤ
  | .startJobSpan => String
  | .countExtraction _ => Unit

/-- The signature of the services. -/
abbrev services : Signature := ⟨Op, Op.Res⟩

/-- A program of the services. -/
abbrev Prog (α : Type) : Type := Program services PyException α

/-- One call of a service and its answer. -/
abbrev Call : Type := Event services PyException

/-- Identifiers, clocks, the tracer and the metrics do not raise. -/
def Op.infallible : Op → Bool
  | .uuid4 | .now | .nowIsoformat | .elapsedMs | .startJobSpan | .countExtraction _ => true
  | _ => false

/-- Make a call, raising what it raises. -/
abbrev perform (op : Op) : Prog op.Res := Program.perform (S := services) op

/-- The session scope of `get_job_repository`: an exception of the body rolls back and is
re-raised, otherwise the session is committed. -/
def withSession {α : Type} (body : Prog α) : Prog α := do
  let value ← body
  perform .sessionCommit
  return value

/-! ### The state -/

/-- What is sent to the systems next to the database. -/
inductive Note : Type where
  /-- A document was upserted to ChromaDB. -/
  | upserted (documentId : String) (sidecar : SidecarDocument) (deploymentId nodeId : Option ℤ)
  /-- A companion was indexed in Elasticsearch. -/
  | indexed (documentId : String) (extraction : ExtractionResult) (companion : CompanionResult)
      (deploymentId : Option ℤ)
  /-- A webhook was posted. -/
  | posted (callbackUrl : String) (payload : WebhookPayload)
  /-- A task was put into the queue. -/
  | enqueued (jobId : JobId)
  /-- `extraction_total` was incremented. -/
  | counted (status : String)

/-- The `jobs` table as a schema of journaled tables. -/
abbrev jobSchema : Store.Schema where
  Key := JobId
  Row := JobRow
  Write := JobUpdate
  Note := Note
  key := JobRow.id
  apply := JobUpdate.apply
  key_apply := JobUpdate.id_apply

instance (priority := low) : DecidableEq jobSchema.Key := inferInstanceAs (DecidableEq ℕ)

/-- The `jobs` table with its journal. -/
abbrev JobStore : Type := Store.JournaledTable jobSchema

/-- The history of a job row. -/
abbrev JobHistory : Type := Store.History jobSchema

/-- What outlives a process. -/
structure World where
  batches : List Batch
  jobs : JobStore
  /-- The files of the temporary store, the last written first. -/
  files : List (PdfPath × Bytes)

/-- No batch, no job, no file. -/
def World.empty : World := ⟨[], .empty, []⟩

/-! ### Answers -/

/-- How a call fails. -/
inductive Fault : Type where
  /-- The call raises and has no effect. -/
  | before (exc : PyException)
  /-- The call takes effect and then raises. -/
  | after (exc : PyException)

/-- How one call is answered: what the clocks, the identifier source and the collaborators return,
and whether the call fails. -/
structure Env where
  now : Timestamp
  nowIsoformat : String
  elapsedMs : ℤ
  uuid : ℕ
  traceId : String
  wiring : Wiring
  pdfData : PDFData
  extraction : ExtractorLabel → ExtractionResult
  companion : CompanionResult
  validation : ValidationResult
  sidecar : SidecarDocument
  assessment : ConfidenceAssessment
  wrote : Bool
  indexed : Bool
  notified : Bool
  /-- The exception of a call that cannot succeed: a missing file, a duplicate key. -/
  refusal : PyException
  /-- Whether a call fails. -/
  fault? : Op → Option Fault

namespace World

/-- The world with another `jobs` table. -/
def withJobs (w : World) (jobs : JobStore) : World := { w with jobs := jobs }

/-- The world after a note. -/
def note (w : World) (n : Note) : World := w.withJobs (w.jobs.note n)

/-- The world after an update of a job row; without such a row nothing changes. -/
def update (w : World) (jobId : JobId) (u : JobUpdate) : World := w.withJobs (w.jobs.write jobId u)

/-- The bytes of a file. -/
def readFile? (w : World) (path : PdfPath) : Option Bytes :=
  (w.files.find? fun file => decide (file.1 = path)).map Prod.snd

end World

/-- Insert rows one by one; `none` as soon as a key is taken. -/
def insertRows (store : JobStore) : List JobRow → Option JobStore
  | [] => some store
  | row :: rows =>
    if h : store.table.find? row.id = none then insertRows (store.insert row h) rows else none

/-- The row a job of a new batch is inserted as. -/
def newRow (batch : Batch) (job : Job) : JobRow := { jobToOrm job with batchId := batch.batchId }

/-- `create_batch`: the batch and its jobs in one transaction, refused if a key is taken. -/
def World.createBatch? (w : World) (batch : Batch) (jobs : List Job) : Option World :=
  if (w.batches.find? fun b => decide (b.batchId = batch.batchId)).isSome then none
  else
    (insertRows w.jobs (jobs.map (newRow batch))).map fun store =>
      { w with batches := w.batches ++ [batch], jobs := store }

/-- What a call does and returns when it does not fail. -/
def effect (env : Env) : (op : Op) → World → Except PyException op.Res × World
  | .getJob jobId, w => (.ok (getJob w.jobs.table jobId), w)
  | .getBatch batchId, w => (.ok (w.batches.find? fun b => decide (b.batchId = batchId)), w)
  | .getJobByFileHash fileHash, w => (.ok (getJobByFileHash w.jobs.table fileHash), w)
  | .createBatch batch jobs, w =>
    match w.createBatch? batch jobs with
    | some w' => (.ok batch, w')
    | none => (.error env.refusal, w)
  | .updateJobStatus jobId status result errorMessage, w =>
    (.ok (), w.update jobId (.updateStatus status result errorMessage env.now))
  | .updateJobResult jobId result tier score processingTimeMs otelTraceId trace, w =>
    let w' := w.update jobId
      (.updateResult result tier score processingTimeMs otelTraceId trace env.now)
    (.ok (getJob w'.jobs.table jobId), w')
  | .sessionCommit, w => (.ok (), w)
  | .mkdir _ _, w => (.ok (), w)
  | .writeBytes path content, w => (.ok (), { w with files := (path, content) :: w.files })
  | .readBytes path, w =>
    match w.readFile? path with
    | some content => (.ok content, w)
    | none => (.error env.refusal, w)
  | .enqueueExtraction jobId, w => (.ok (), w.note (.enqueued jobId))
  | .buildOrchestrator, w => (.ok env.wiring, w)
  | .load _, w => (.ok env.pdfData, w)
  | .extract label _, w => (.ok (env.extraction label), w)
  | .generate _ _, w => (.ok env.companion, w)
  | .validate _ _, w => (.ok env.validation, w)
  | .build _ _ _, w => (.ok env.sidecar, w)
  | .calculate _ _, w => (.ok env.assessment, w)
  | .writeMetadata documentId sidecar deploymentId nodeId, w =>
    (.ok env.wrote,
      if env.wrote then w.note (.upserted documentId sidecar deploymentId nodeId) else w)
  | .indexCompanion documentId extraction companion deploymentId, w =>
    (.ok env.indexed,
      if env.indexed then w.note (.indexed documentId extraction companion deploymentId) else w)
  | .notifyCompletion callbackUrl job _, w =>
    (.ok env.notified, w.note (.posted callbackUrl (jobToPayload job)))
  | .uuid4, w => (.ok env.uuid, w)
  | .now, w => (.ok env.now, w)
  | .nowIsoformat, w => (.ok env.nowIsoformat, w)
  | .elapsedMs, w => (.ok env.elapsedMs, w)
  | .startJobSpan, w => (.ok env.traceId, w)
  | .countExtraction status, w => (.ok (), w.note (.counted status))

/-- How a call is answered, faults included. -/
def answer (env : Env) (op : Op) (w : World) : Except PyException op.Res × World :=
  if op.infallible then effect env op w
  else
    match env.fault? op with
    | none => effect env op w
    | some (.before exc) => (.error exc, w)
    | some (.after exc) => (.error exc, (effect env op w).2)

/-- A call does what it does without faults, or raises before or after that. -/
theorem answer_cases (env : Env) (op : Op) (w : World) :
    answer env op w = effect env op w ∨ (∃ exc, answer env op w = (.error exc, w)) ∨
      ∃ exc, answer env op w = (.error exc, (effect env op w).2) := by
  unfold answer
  split_ifs with hop
  · exact Or.inl rfl
  · cases env.fault? op with
    | none => exact Or.inl rfl
    | some fault =>
      cases fault with
      | before exc => exact Or.inr (Or.inl ⟨exc, rfl⟩)
      | after exc => exact Or.inr (Or.inr ⟨exc, rfl⟩)

/-- An environment in which no call fails and the calculator returns `tier`. -/
def Env.calm (uuid : ℕ) (tier : ConfidenceTier) : Env where
  now := 1
  nowIsoformat := "2026-01-01T00:00:00+00:00"
  elapsedMs := 5
  uuid := uuid
  traceId := "trace"
  wiring := ⟨false, false, true⟩
  pdfData := ⟨1, "hash"⟩
  extraction := fun _ => ⟨none, 0, none, 0, none, 0, none, none, none, none, [], none, none, none,
    none⟩
  companion := ⟨"", 0, false, true, none⟩
  validation := ⟨true, [], 1⟩
  sidecar := ⟨[], none, "plan.pdf", "hash", "1.0"⟩
  assessment := ⟨0, tier, [], 0⟩
  wrote := true
  indexed := true
  notified := true
  refusal := .error "IntegrityError" "duplicate key"
  fault? := fun _ => none

end ZubotIngestion
