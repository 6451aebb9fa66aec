import ZubotIngestion.Python.Text
import ZubotIngestion.Services.Environment

/-!
# The extraction pipeline

`ExtractionOrchestrator.run_pipeline`. Each stage calls its collaborator, records what happened in
the pipeline trace and in the list of pipeline errors, and degrades to a fallback value when the
collaborator raises. A stage is written as a pure function of the collaborator's answer, and a
program that obtains the answer. The three extractors run one after the other; no collaborator
sees in which order they are scheduled. Spans and histograms are left out.

## Main definitions

* `PipelineLog`, `PipelineResult`.
* `recordPdfLoad`, …, `recordDelivery`: the stages as functions of the answers.
* `runPipeline`.
-/

namespace ZubotIngestion

open Effects

/-- `_format_error`. -/
def formatError (exc : PyException) : String := s!"{exc.typeName}: {exc.message}"

/-! ### What a run records -/

/-- An entry of `pipeline_trace["errors"]`. -/
structure TraceError where
  stage : String
  error : String

/-- The trace of a run and its list of pipeline errors. -/
structure PipelineLog where
  /-- `pipeline_trace["stages"]`. -/
  stages : Dict := []
  /-- `pipeline_trace["errors"]`. -/
  traceErrors : List TraceError := []
  errors : List PipelineError := []

namespace PipelineLog

/-- `pipeline_trace["stages"][name] = entry`. -/
def stage (log : PipelineLog) (name : String) (entry : Dict) : PipelineLog :=
  { log with stages := log.stages.insert name (.dict entry) }

/-- `pipeline_trace["errors"].append(…)`. -/
def traceError (log : PipelineLog) (stage error : String) : PipelineLog :=
  { log with traceErrors := log.traceErrors ++ [⟨stage, error⟩] }

/-- `errors.append(…)`. -/
def pipelineError (log : PipelineLog) (error : PipelineError) : PipelineLog :=
  { log with errors := log.errors ++ [error] }

/-- An exception of a stage, in both lists. -/
def raised (log : PipelineLog) (stage : String) (exc : PyException) (recoverable : Bool) :
    PipelineLog :=
  (log.traceError stage (formatError exc)).pipelineError
    ⟨stage, exc.typeName, exc.message, recoverable⟩

/-- The pipeline trace as it is persisted. -/
def pipelineTrace (log : PipelineLog) : Dict :=
  [("stages", .dict log.stages),
    ("errors", .list (log.traceErrors.map fun e =>
      .dict [("stage", .str e.stage), ("error", .str e.error)]))]

end PipelineLog

/-- The trace entry of a stage that raised. -/
def raisedEntry (durationMs : ℤ) (exc : PyException) : Dict :=
  [("duration_ms", .int durationMs), ("ok", .bool false), ("error", .str (formatError exc))]

/-- Result of `run_pipeline`. -/
structure PipelineResult where
  extractionResult : ExtractionResult
  companionResult : Option CompanionResult
  sidecar : SidecarDocument
  confidenceAssessment : ConfidenceAssessment
  errors : List PipelineError
  pipelineTrace : Dict
  otelTraceId : String

/-! ### Loading the PDF -/

/-- What the run records of `pdf_processor.load`. -/
def recordPdfLoad (answer : Except PyException PDFData) (durationMs : ℤ) (log : PipelineLog) :
    Option PDFData × PipelineLog :=
  match answer with
  | .ok pdfData =>
    (some pdfData, log.stage "pdf_load" [("duration_ms", .int durationMs), ("ok", .bool true)])
  | .error exc =>
    (none, (log.stage "pdf_load" (raisedEntry durationMs exc)).raised "pdf_load" exc false)

/-- The PDF load stage. -/
def pdfLoad (pdfBytes : Bytes) (log : PipelineLog) : Prog (Option PDFData × PipelineLog) := do
  let answer ← (perform (.load pdfBytes)).attempt
  let durationMs ← perform .elapsedMs
  return recordPdfLoad answer durationMs log

/-! ### Stage 1 -/

/-- `_empty_extraction_result`. -/
def emptyExtractionResult : ExtractionResult where
  drawingNumber := none
  drawingNumberConfidence := 0
  title := none
  titleConfidence := 0
  documentType := none
  documentTypeConfidence := 0

/-- The sources of the given results, each once, in order of first appearance. -/
def unionSources (results : List ExtractionResult) : List String :=
  (results.flatMap ExtractionResult.sourcesUsed).foldl
    (fun sources src => if src ∈ sources then sources else sources ++ [src]) []

/-- `_merge_extraction_results`. -/
def mergeExtractionResults (drawing title documentType : ExtractionResult) : ExtractionResult where
  drawingNumber := drawing.drawingNumber
  drawingNumberConfidence := drawing.drawingNumberConfidence
  title := title.title
  titleConfidence := title.titleConfidence
  documentType := documentType.documentType
  documentTypeConfidence := documentType.documentTypeConfidence
  discipline := (drawing.discipline.or title.discipline).or documentType.discipline
  revision := orStr (orStr drawing.revision title.revision) documentType.revision
  buildingZone := orStr (orStr drawing.buildingZone title.buildingZone) documentType.buildingZone
  project := orStr (orStr drawing.project title.project) documentType.project
  sourcesUsed := unionSources [drawing, title, documentType]
  rawVisionResponse :=
    orStr (orStr drawing.rawVisionResponse title.rawVisionResponse) documentType.rawVisionResponse
  rawTextResponse :=
    orStr (orStr drawing.rawTextResponse title.rawTextResponse) documentType.rawTextResponse

/-- The pipeline stage of one extractor, as errors name it. -/
def ExtractorLabel.stage (label : ExtractorLabel) : String := "stage1." ++ label.value

/-- The normalised result of one extractor: an exception is recorded and replaced. -/
def normalizeExtraction (label : ExtractorLabel) (answer : Except PyException ExtractionResult)
    (log : PipelineLog) : ExtractionResult × PipelineLog :=
  match answer with
  | .ok extraction => (extraction, log)
  | .error exc => (emptyExtractionResult, log.raised label.stage exc true)

/-- Whether a gathered result is not an exception. -/
def succeeded {α : Type} : Except PyException α → Bool
  | .ok _ => true
  | .error _ => false

/-- The trace entry of Stage 1. -/
def stage1Entry (allSucceeded : Bool) (durationMs : ℤ) : Dict :=
  [("duration_ms", .int durationMs), ("ok", .bool allSucceeded),
    ("extractors_run", .list [.str "drawing_number", .str "title", .str "document_type"])]

/-- The end of Stage 1: the merged result, or what the last-resort handler makes of an exception
raised while merging. -/
def finishStage1 (merged : Except PyException ExtractionResult) (allSucceeded : Bool)
    (durationMs : ℤ) (log : PipelineLog) : ExtractionResult × PipelineLog :=
  match merged with
  | .ok extraction => (extraction, log.stage "stage1" (stage1Entry allSucceeded durationMs))
  | .error exc =>
    (emptyExtractionResult,
      (log.stage "stage1" (raisedEntry durationMs exc)).raised "stage1" exc false)

/-- What the run records of the three extractors. Merging results of the declared type does not
raise. -/
def recordStage1 (drawing title documentType : Except PyException ExtractionResult)
    (durationMs : ℤ) (log : PipelineLog) : ExtractionResult × PipelineLog :=
  let (drawingResult, log) := normalizeExtraction .drawingNumber drawing log
  let (titleResult, log) := normalizeExtraction .title title log
  let (documentTypeResult, log) := normalizeExtraction .documentType documentType log
  finishStage1 (.ok (mergeExtractionResults drawingResult titleResult documentTypeResult))
    (succeeded drawing && succeeded title && succeeded documentType) durationMs log

/-- Stage 1: the extractors. -/
def stage1 (context : PipelineContext) (log : PipelineLog) :
    Prog (ExtractionResult × PipelineLog) := do
  let drawing ← (perform (.extract .drawingNumber context)).attempt
  let title ← (perform (.extract .title context)).attempt
  let documentType ← (perform (.extract .documentType context)).attempt
  let durationMs ← perform .elapsedMs
  return recordStage1 drawing title documentType durationMs log

/-! ### Stage 2 -/

/-- What the run records of the companion generator. -/
def recordStage2 (answer : Except PyException CompanionResult) (durationMs : ℤ)
    (log : PipelineLog) : Option CompanionResult × PipelineLog :=
  match answer with
  | .ok companion =>
    (some companion, log.stage "stage2"
      [("duration_ms", .int durationMs), ("ok", .bool true),
        ("companion_generated", .bool companion.companionGenerated),
        ("pages_described", .int companion.pagesDescribed)])
  | .error exc => (none, (log.stage "stage2" (raisedEntry durationMs exc)).raised "stage2" exc true)

/-- Stage 2: the companion document. -/
def stage2 (context : PipelineContext) (extraction : ExtractionResult) (log : PipelineLog) :
    Prog (Option CompanionResult × PipelineLog) := do
  let answer ← (perform (.generate context extraction)).attempt
  let durationMs ← perform .elapsedMs
  return recordStage2 answer durationMs log

/-! ### Companion validation -/

/-- What the run records of the companion validator: its exceptions reach the trace only. -/
def recordCompanionValidation (answer : Except PyException ValidationResult) (log : PipelineLog) :
    Option ValidationResult × PipelineLog :=
  match answer with
  | .ok validation =>
    (some validation,
      log.stage "companion_validation" [("ok", .bool true), ("passed", .bool validation.passed)])
  | .error exc =>
    (none, (log.stage "companion_validation"
      [("ok", .bool false), ("error", .str (formatError exc))]).traceError
        "companion_validation" (formatError exc))

/-- The text the validator is run on: none without a validator or without companion text. -/
def validatedText? (wiring : Wiring) (companion : Option CompanionResult) : Option String :=
  match companion with
  | some result =>
    if wiring.companionValidator ∧ result.companionText ≠ "" then some result.companionText
    else none
  | none => none

/-- The companion validation. -/
def companionValidation (wiring : Wiring) (companion : Option CompanionResult)
    (extraction : ExtractionResult) (log : PipelineLog) :
    Prog (Option ValidationResult × PipelineLog) :=
  match validatedText? wiring companion with
  | some text => do
    let answer ← (perform (.validate text extraction)).attempt
    return recordCompanionValidation answer log
  | none => return (none, log)

/-! ### Stage 3 -/

/-- `_empty_sidecar`. -/
def emptySidecar (job : Job) : SidecarDocument where
  metadataAttributes :=
    [("source_filename", .str job.filename), ("document_type", .str "unknown"),
      ("extraction_confidence", .float 0)]
  companionText := none
  sourceFilename := job.filename
  fileHash := job.fileHash

/-- What the run records of the sidecar builder. -/
def recordStage3 (job : Job) (answer : Except PyException SidecarDocument) (durationMs : ℤ)
    (log : PipelineLog) : SidecarDocument × PipelineLog :=
  match answer with
  | .ok sidecar =>
    (sidecar, log.stage "stage3" [("duration_ms", .int durationMs), ("ok", .bool true)])
  | .error exc =>
    (emptySidecar job, (log.stage "stage3" (raisedEntry durationMs exc)).raised "stage3" exc false)

/-- Stage 3: the sidecar. -/
def stage3 (extraction : ExtractionResult) (companion : Option CompanionResult) (job : Job)
    (log : PipelineLog) : Prog (SidecarDocument × PipelineLog) := do
  let answer ← (perform (.build extraction companion job)).attempt
  let durationMs ← perform .elapsedMs
  return recordStage3 job answer durationMs log

/-! ### Confidence -/

/-- The assessment of a run whose calculation failed. -/
def fallbackAssessment : ConfidenceAssessment where
  overallConfidence := 0
  tier := .review

/-- What the run records of the confidence calculator. -/
def recordConfidence (answer : Except PyException ConfidenceAssessment) (durationMs : ℤ)
    (log : PipelineLog) : ConfidenceAssessment × PipelineLog :=
  match answer with
  | .ok assessment =>
    (assessment, log.stage "confidence"
      [("duration_ms", .int durationMs), ("ok", .bool true),
        ("score", .float assessment.overallConfidence), ("tier", .str assessment.tier.value)])
  | .error exc =>
    (fallbackAssessment,
      (log.stage "confidence" (raisedEntry durationMs exc)).raised "confidence" exc false)

/-- The confidence calculation. -/
def confidence (extraction : ExtractionResult) (validation : Option ValidationResult)
    (log : PipelineLog) : Prog (ConfidenceAssessment × PipelineLog) := do
  let answer ← (perform (.calculate extraction validation)).attempt
  let durationMs ← perform .elapsedMs
  return recordConfidence answer durationMs log

/-- The extraction result with its overall score and tier. -/
def ExtractionResult.assess (extraction : ExtractionResult) (assessment : ConfidenceAssessment) :
    ExtractionResult :=
  { extraction with
    confidenceScore := some assessment.overallConfidence
    confidenceTier := some assessment.tier }

/-! ### Deliveries -/

/-- The trace entry and the trace error of a delivery, which reports success as a Boolean. -/
def recordDelivery (stage returnedFalse : String) (answer : Except PyException Bool)
    (durationMs : ℤ) (log : PipelineLog) : PipelineLog :=
  match answer with
  | .ok delivered =>
    let log := log.stage stage
      [("duration_ms", .int durationMs), ("ok", .bool delivered), ("skipped", .bool false)]
    if delivered then log else log.traceError stage returnedFalse
  | .error exc =>
    (log.stage stage
      [("duration_ms", .int durationMs), ("ok", .bool false), ("skipped", .bool false),
        ("error", .str (formatError exc))]).traceError stage (formatError exc)

/-- The trace entry of a delivery that is not attempted. -/
def recordSkipped (stage reason : String) (log : PipelineLog) : PipelineLog :=
  log.stage stage
    [("duration_ms", .int 0), ("ok", .bool true), ("skipped", .bool true), ("reason", .str reason)]

/-- The metadata write is the one delivery whose failures are pipeline errors too. -/
def recordMetadataWrite (answer : Except PyException Bool) (durationMs : ℤ) (log : PipelineLog) :
    PipelineLog :=
  let log := recordDelivery "metadata_write" "metadata_writer.write_metadata returned False" answer
    durationMs log
  match answer with
  | .ok true => log
  | .ok false =>
    log.pipelineError ⟨"metadata_write", "MetadataWriteFailed",
      "metadata_writer.write_metadata returned False", true⟩
  | .error exc => log.pipelineError ⟨"metadata_write", exc.typeName, exc.message, true⟩

/-- The ChromaDB write, for all tiers but review. -/
def metadataWrite (job : Job) (sidecar : SidecarDocument) (tier : ConfidenceTier)
    (deploymentId nodeId : Option ℤ) (log : PipelineLog) : Prog PipelineLog :=
  if tier ≠ .review then do
    let answer ←
      (perform (.writeMetadata job.fileHash sidecar deploymentId nodeId)).attempt
    let durationMs ← perform .elapsedMs
    return recordMetadataWrite answer durationMs log
  else return recordSkipped "metadata_write" "review_tier_routes_to_review_queue" log

/-- The companion that is indexed: none without an indexer or a generated companion. -/
def indexedCompanion? (wiring : Wiring) (companion : Option CompanionResult) :
    Option CompanionResult :=
  companion.filter fun result => wiring.searchIndexer && result.companionGenerated

/-- The Elasticsearch indexing. -/
def searchIndex (wiring : Wiring) (job : Job) (extraction : ExtractionResult)
    (companion : Option CompanionResult) (deploymentId : Option ℤ) (log : PipelineLog) :
    Prog PipelineLog :=
  match indexedCompanion? wiring companion with
  | some result => do
    let answer ← (perform (.indexCompanion job.fileHash extraction result deploymentId)).attempt
    let durationMs ← perform .elapsedMs
    return recordDelivery "search_index" "search_indexer.index_companion returned False" answer
      durationMs log
  | none => return recordSkipped "search_index" "no_search_indexer_or_no_companion_text" log

/-- The URL that is notified: none without a client or without a non-empty URL. -/
def notifiedUrl? (wiring : Wiring) (callbackUrl : Option String) : Option String :=
  callbackUrl.filter fun url => wiring.callbackClient && url ≠ ""

/-- The webhook. -/
def callback (wiring : Wiring) (job : Job) (callbackUrl : Option String) (apiKey : String)
    (log : PipelineLog) : Prog PipelineLog :=
  match notifiedUrl? wiring callbackUrl with
  | some url => do
    let answer ← (perform (.notifyCompletion url job apiKey)).attempt
    let durationMs ← perform .elapsedMs
    return recordDelivery "callback" "callback_client.notify_completion returned False" answer
      durationMs log
  | none =>
    return recordSkipped "callback"
      (if wiring.callbackClient then "no_callback_url" else "no_callback_client") log

/-! ### The run -/

/-- The label under which a run is counted. -/
def extractionStatus (tier : Option ConfidenceTier) (errors : List PipelineError) : String :=
  if (errors.any fun error => !error.recoverable) || tier.isNone then "failed"
  else if tier = some .review then "review"
  else "completed"

/-- `record_extraction_status`. -/
def recordExtractionStatus (tier : Option ConfidenceTier) (errors : List PipelineError) :
    Prog String := do
  perform (.countExtraction (extractionStatus tier errors))
  return extractionStatus tier errors

/-- `ExtractionOrchestrator.run_pipeline`. -/
def runPipeline (wiring : Wiring) (job : Job) (pdfBytes : Bytes) (deploymentId nodeId : Option ℤ)
    (callbackUrl : Option String) (apiKey : String) : Prog PipelineResult := do
  let otelTraceId ← perform .startJobSpan
  let (pdfData, log) ← pdfLoad pdfBytes {}
  let context : PipelineContext := ⟨job, pdfBytes, pdfData⟩
  let (extraction, log) ← stage1 context log
  let (companion, log) ← stage2 context extraction log
  let (validation, log) ← companionValidation wiring companion extraction log
  let (sidecar, log) ← stage3 extraction companion job log
  let (assessment, log) ← confidence extraction validation log
  let extraction := extraction.assess assessment
  let log ← metadataWrite job sidecar assessment.tier deploymentId nodeId log
  let log ← searchIndex wiring job extraction companion deploymentId log
  let log ← callback wiring job callbackUrl apiKey log
  let _ ← recordExtractionStatus (some assessment.tier) log.errors
  return {
    extractionResult := extraction
    companionResult := companion
    sidecar := sidecar
    confidenceAssessment := assessment
    errors := log.errors
    pipelineTrace := log.pipelineTrace
    otelTraceId := otelTraceId }

end ZubotIngestion
