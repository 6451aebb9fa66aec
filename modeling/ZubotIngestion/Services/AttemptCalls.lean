import ZubotIngestion.Services.Delivery

/-!
# The calls of an attempt

Every call an attempt of the extraction task can make, and what the attempt knows by then. The
loads come first; the calls of the pipeline are made behind them and take the job, the file and the
routing from them; the result is written behind the run, and `REVIEW` behind the confirmed result.
What an attempt guarantees of a call is read off this list.

## Main definitions

* `FromInput`: the calls of the pipeline, with what they take from the input of the run.
* `Loaded`: what an attempt has loaded before its run.
* `AttemptCall`: the calls of an attempt, each with the calls before it.

## Main results

* `runPipeline_fromInput`: a run takes its input along into its calls.
* `extractDocumentTask_calls`: an attempt makes no other calls.
-/

namespace ZubotIngestion

open Effects

/-! ### The calls of the pipeline -/

/-- The calls of the pipeline, with what they take from the input of the run. -/
def FromInput (x : PipelineInput) : Op → Prop
  | .load pdfBytes => pdfBytes = x.pdfBytes
  | .extract _ context => context.job = x.job ∧ context.pdfBytes = x.pdfBytes
  | .generate context _ => context.job = x.job ∧ context.pdfBytes = x.pdfBytes
  | .build _ _ job => job = x.job
  | .writeMetadata documentId _ deploymentId nodeId =>
    documentId = x.job.fileHash ∧ deploymentId = x.deploymentId ∧ nodeId = x.nodeId
  | .indexCompanion documentId _ _ deploymentId =>
    documentId = x.job.fileHash ∧ deploymentId = x.deploymentId
  | .notifyCompletion callbackUrl job apiKey =>
    x.callbackUrl = some callbackUrl ∧ job = x.job ∧ apiKey = x.apiKey
  | op => op.isPipeline = true

/-- A stage that calls one collaborator and measures the time it took. -/
theorem stage_fromInput (x : PipelineInput) {α : Type} (op : Op)
    (f : Except PyException op.Res → ℤ → α) (hop : FromInput x op) :
    Program.Only (FromInput x) (do
      let answer ← (perform op).attempt
      let ms ← perform .elapsedMs
      return f answer ms) :=
  Program.Only.attempt_bind hop fun _ =>
    Program.Only.perform_bind (show FromInput x .elapsedMs from rfl) fun _ => trivial

section Stages

variable (x : PipelineInput) (log : PipelineLog)

theorem stage1_fromInput (pdfData : Option PDFData) :
    Program.Only (FromInput x) (stage1 ⟨x.job, x.pdfBytes, pdfData⟩ log) := by
  have hextract : ∀ label, FromInput x (.extract label ⟨x.job, x.pdfBytes, pdfData⟩) :=
    fun _ => ⟨rfl, rfl⟩
  refine Program.Only.attempt_bind (hextract .drawingNumber) fun drawing => ?_
  refine Program.Only.attempt_bind (hextract .title) fun title => ?_
  refine Program.Only.attempt_bind (hextract .documentType) fun documentType => ?_
  exact Program.Only.perform_bind (show FromInput x .elapsedMs from rfl) fun _ => trivial

theorem companionValidation_fromInput (companion : Option CompanionResult)
    (extraction : ExtractionResult) :
    Program.Only (FromInput x) (companionValidation x.wiring companion extraction log) := by
  rw [companionValidation]
  cases validatedText? x.wiring companion with
  | some text =>
    exact Program.Only.attempt_bind (show FromInput x (.validate text extraction) from rfl)
      fun _ => trivial
  | none => trivial

theorem metadataWrite_fromInput (sidecar : SidecarDocument) (tier : ConfidenceTier) :
    Program.Only (FromInput x)
      (metadataWrite x.job sidecar tier x.deploymentId x.nodeId log) := by
  rw [metadataWrite]
  split_ifs
  · exact stage_fromInput x _ _ ⟨rfl, rfl, rfl⟩
  · trivial

theorem searchIndex_fromInput (extraction : ExtractionResult)
    (companion : Option CompanionResult) :
    Program.Only (FromInput x)
      (searchIndex x.wiring x.job extraction companion x.deploymentId log) := by
  rw [searchIndex]
  cases indexedCompanion? x.wiring companion with
  | some result => exact stage_fromInput x _ _ ⟨rfl, rfl⟩
  | none => trivial

theorem callback_fromInput :
    Program.Only (FromInput x) (callback x.wiring x.job x.callbackUrl x.apiKey log) := by
  rw [callback]
  cases hurl : notifiedUrl? x.wiring x.callbackUrl with
  | some url => exact stage_fromInput x _ _ ⟨(Option.filter_eq_some_iff.mp hurl).1, rfl, rfl⟩
  | none => trivial

end Stages

/-- A run takes its job, its file and its routing along into the calls of the collaborators. -/
theorem runPipeline_fromInput (x : PipelineInput) : Program.Only (FromInput x) x.run := by
  refine Program.Only.perform_bind (show FromInput x .startJobSpan from rfl) fun otelTraceId => ?_
  refine (stage_fromInput x (.load x.pdfBytes) (fun answer ms => recordPdfLoad answer ms {})
    rfl).bind fun loaded => ?_
  refine (stage1_fromInput x loaded.2 loaded.1).bind fun extracted => ?_
  let context : PipelineContext := ⟨x.job, x.pdfBytes, loaded.1⟩
  refine (stage_fromInput x (.generate context extracted.1)
    (fun answer ms => recordStage2 answer ms extracted.2) ⟨rfl, rfl⟩).bind fun generated => ?_
  refine (companionValidation_fromInput x generated.2 generated.1 extracted.1).bind
    fun validated => ?_
  refine (stage_fromInput x (.build extracted.1 generated.1 x.job)
    (fun answer ms => recordStage3 x.job answer ms validated.2) rfl).bind fun built => ?_
  refine (stage_fromInput x (.calculate extracted.1 validated.1)
    (fun answer ms => recordConfidence answer ms built.2) rfl).bind fun assessed => ?_
  refine (metadataWrite_fromInput x assessed.2 built.1 assessed.1.tier).bind fun log => ?_
  refine (searchIndex_fromInput x log (extracted.1.assess assessed.1) generated.1).bind
    fun log => ?_
  refine (callback_fromInput x log).bind fun log => ?_
  have hcount : Program.Only (FromInput x)
      (recordExtractionStatus (some assessed.1.tier) log.errors) :=
    Program.Only.perform_bind (show FromInput x (.countExtraction _) from rfl) fun _ => trivial
  exact hcount.bind fun _ => trivial

/-! ### The calls of an attempt -/

/-- What an attempt has loaded before its pipeline run. -/
structure Loaded where
  job : Job
  batch : Except PyException (Option Batch)
  pdfBytes : Bytes
  wiring : Wiring

namespace Loaded

variable (l : Loaded)

/-- The calls that load it. -/
def prelude : List Call :=
  [⟨.getJob l.job.jobId, .ok (some l.job)⟩, ⟨.getBatch l.job.batchId, l.batch⟩,
    ⟨.readBytes ⟨tempPdfRoot, l.job.batchId, l.job.jobId⟩, .ok l.pdfBytes⟩,
    ⟨.buildOrchestrator, .ok l.wiring⟩, ⟨markProcessing l.job.jobId, .ok ()⟩]

/-- The input of the pipeline run. -/
def input (settings : Settings) : PipelineInput where
  wiring := l.wiring
  job := l.job
  pdfBytes := l.pdfBytes
  deploymentId := (routingOf l.batch).deploymentId
  nodeId := (routingOf l.batch).nodeId
  callbackUrl := (routingOf l.batch).callbackUrl
  apiKey := settings.apiKey

end Loaded

/-- A call of an attempt of `jobId`, and the calls made before it. -/
inductive AttemptCall (settings : Settings) (jobId : JobId) : List Call → Op → Prop
  /-- The job is loaded first. -/
  | getJob : AttemptCall settings jobId [] (.getJob jobId)
  /-- Its batch is loaded. -/
  | getBatch (job : Job) (hid : job.jobId = jobId) :
      AttemptCall settings jobId [⟨.getJob jobId, .ok (some job)⟩] (.getBatch job.batchId)
  /-- Its file is read. -/
  | readBytes (job : Job) (hid : job.jobId = jobId) (batch : Except PyException (Option Batch)) :
      AttemptCall settings jobId
        [⟨.getJob jobId, .ok (some job)⟩, ⟨.getBatch job.batchId, batch⟩]
        (.readBytes ⟨tempPdfRoot, job.batchId, jobId⟩)
  /-- The orchestrator is built. -/
  | buildOrchestrator (t : List Call) : AttemptCall settings jobId t .buildOrchestrator
  /-- The job is marked as being processed. -/
  | processing (t : List Call) : AttemptCall settings jobId t (markProcessing jobId)
  /-- The pipeline runs on what was loaded. -/
  | pipeline (l : Loaded) (hid : l.job.jobId = jobId) (u : List Call) {op : Op}
      (hop : FromInput (l.input settings) op) : AttemptCall settings jobId (l.prelude ++ u) op
  /-- The duration is measured. -/
  | elapsedMs (t : List Call) : AttemptCall settings jobId t .elapsedMs
  /-- The result of the run is written. -/
  | result (k : TaskAnswers) (hid : k.job.jobId = jobId) :
      AttemptCall settings jobId (k.processedCalls settings)
        (persistResult jobId (k.result settings) k.processingTimeMs)
  /-- A result of the review tier that was written is routed to the reviewers. -/
  | review (k : TaskAnswers) (hid : k.job.jobId = jobId) (updated : Option Job)
      (htier : k.tier settings = .review) :
      AttemptCall settings jobId (k.processedCalls settings ++
        [⟨persistResult jobId (k.result settings) k.processingTimeMs, .ok updated⟩])
        (markReview jobId)
  /-- The session is committed. -/
  | sessionCommit (t : List Call) : AttemptCall settings jobId t .sessionCommit
  /-- The attempt has given up. -/
  | failed (t : List Call) (exc : PyException) : AttemptCall settings jobId t (markFailed jobId exc)

section Attempt

variable {settings : Settings} {jobId : JobId}

/-- A run of the pipeline behind the loads. -/
theorem safe_pipeline_calls (l : Loaded) (hid : l.job.jobId = jobId)
    {Q : List Call → Except PyException PipelineResult → Prop}
    (hQ : ∀ a : PipelineAnswers,
      Q (l.prelude ++ a.calls (l.input settings)) (.ok (a.result (l.input settings)))) :
    Program.Safe Sensible (AttemptCall settings jobId) Q (l.input settings).run l.prelude := by
  have hrun := ((runPipeline_safe (l.input settings)).and
    ((runPipeline_fromInput (l.input settings)).safe [])).mono
    (fun _ _ (h : Sensible _ _) => h.answered) (fun _ _ h => h) fun _ _ h => h
  have hframe : Program.Safe Sensible (AttemptCall settings jobId) Q (l.input settings).run
      (l.prelude ++ []) := by
    refine hrun.frame l.prelude (fun u op h => .pipeline l hid u h.2) ?_
    rintro u r ⟨⟨a, rfl, rfl⟩, -⟩
    exact hQ a
  rwa [List.append_nil] at hframe

theorem persistOutcome_calls (k : TaskAnswers) (hid : k.job.jobId = jobId) :
    Program.Safe Sensible (AttemptCall settings jobId) NoPromise
      (persistOutcome jobId (k.result settings) k.processingTimeMs)
      (k.processedCalls settings) := by
  refine Program.Safe.perform_bind (.result k hid) (fun _ _ => trivial) fun updated _ => ?_
  dsimp only
  split_ifs with hstatus
  · have htier : k.tier settings = .review := statusForTier_eq_review.mp hstatus
    exact Program.Safe.perform_bind (.review k hid updated htier) (fun _ _ => trivial)
      fun _ _ => trivial
  · trivial

theorem extractJob_calls (job : Job) (hid : job.jobId = jobId) :
    Program.Safe Sensible (AttemptCall settings jobId) NoPromise
      (extractJob settings job) [⟨.getJob jobId, .ok (some job)⟩] := by
  subst hid
  refine Program.Safe.attempt_bind (.getBatch job rfl) fun batch _ => ?_
  refine Program.Safe.perform_bind (.readBytes job rfl batch) (fun _ _ => trivial)
    fun pdfBytes _ => ?_
  refine Program.Safe.perform_bind (.buildOrchestrator _) (fun _ _ => trivial) fun wiring _ => ?_
  refine Program.Safe.perform_bind (.processing _) (fun _ _ => trivial) fun _ _ => ?_
  refine (Program.safe_bind _ _ _).mpr
    (safe_pipeline_calls ⟨job, batch, pdfBytes, wiring⟩ rfl fun a => ?_)
  refine Program.Safe.perform_bind (.elapsedMs _) (fun _ _ => trivial) fun ms _ => ?_
  exact persistOutcome_calls ⟨job, batch, pdfBytes, wiring, a, ms, none⟩ rfl

end Attempt

/-- An attempt makes no other calls. -/
theorem extractDocumentTask_calls (settings : Settings) (jobId : JobId) (retries : ℕ) :
    Program.Safe Sensible (AttemptCall settings jobId) NoPromise
      (extractDocumentTask settings jobId retries) [] := by
  have hbody : Program.Safe Sensible (AttemptCall settings jobId) NoPromise
      (perform (.getJob jobId) >>= extractFound settings jobId) [] := by
    refine Program.Safe.perform_bind .getJob (fun _ _ => trivial) fun found hfound => ?_
    cases found with
    | none => trivial
    | some job => exact extractJob_calls job hfound.foundById
  have htask : Program.Safe Sensible (AttemptCall settings jobId) NoPromise
      (runExtractDocumentTask settings jobId) [] :=
    hbody.bind (fun t _ _ => Program.Safe.perform_bind (.sessionCommit t) (fun _ _ => trivial)
      fun _ _ => trivial) fun _ _ _ => trivial
  refine (Program.safe_bind _ _ _).mpr ((Program.safe_attempt _ _).mpr ?_)
  refine htask.mono (fun _ _ h => h) (fun _ _ h => h) fun t r _ => ?_
  cases r with
  | ok reply => trivial
  | error exc =>
    dsimp only
    split_ifs
    · refine (Program.safe_bind _ _ _).mpr ((Program.safe_attempt _ _).mpr ?_)
      exact Program.Safe.perform_bind (.failed _ exc) (fun _ _ => trivial) fun _ _ =>
        Program.Safe.perform_bind (.sessionCommit _) (fun _ _ => trivial) fun _ _ => trivial
    · trivial

end ZubotIngestion
