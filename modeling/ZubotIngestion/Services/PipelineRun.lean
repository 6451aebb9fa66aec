import ZubotIngestion.Services.Orchestrator

/-!
# One run of the pipeline

A run of the pipeline is determined by its input and by what the collaborators answer. The
answers of one run are collected in `PipelineAnswers`; the value of every stage, the calls the run
makes and its result are functions of them. The answer of a collaborator that is not called is
never looked at.

`run_pipeline` is shown to be this function: whatever happens around it, a run that gets to its
end has made the calls `PipelineAnswers.calls` and returns `PipelineAnswers.result`. It never
raises.

## Main definitions

* `PipelineInput`, `PipelineAnswers` and the values of the stages.
* `Answered`: identifiers, clocks, the tracer and the metrics do not raise.

## Main results

* `runPipeline_safe`: `run_pipeline` refines the functions of this module.
* `runPipeline_answers`: the same of a run alone.
-/

namespace ZubotIngestion

open Effects

/-- The arguments of one run. -/
structure PipelineInput where
  wiring : Wiring
  job : Job
  pdfBytes : Bytes
  deploymentId : Option ℤ
  nodeId : Option ℤ
  callbackUrl : Option String
  apiKey : String

/-- `run_pipeline` on these arguments. -/
def PipelineInput.run (x : PipelineInput) : Prog PipelineResult :=
  runPipeline x.wiring x.job x.pdfBytes x.deploymentId x.nodeId x.callbackUrl x.apiKey

/-- What the collaborators answer in one run, and the durations measured. -/
structure PipelineAnswers where
  traceId : String
  pdfData : Except PyException PDFData
  pdfMs : ℤ
  extraction : ExtractorLabel → Except PyException ExtractionResult
  stage1Ms : ℤ
  companion : Except PyException CompanionResult
  stage2Ms : ℤ
  validation : Except PyException ValidationResult
  sidecar : Except PyException SidecarDocument
  stage3Ms : ℤ
  assessment : Except PyException ConfidenceAssessment
  confidenceMs : ℤ
  wrote : Except PyException Bool
  wroteMs : ℤ
  indexed : Except PyException Bool
  indexedMs : ℤ
  notified : Except PyException Bool
  notifiedMs : ℤ

namespace PipelineAnswers

variable (a : PipelineAnswers) (x : PipelineInput)

/-! ### The values of the stages -/

/-- After the PDF load. -/
def afterPdfLoad : Option PDFData × PipelineLog := recordPdfLoad a.pdfData a.pdfMs {}

/-- The context of the later stages. -/
def context : PipelineContext := ⟨x.job, x.pdfBytes, a.afterPdfLoad.1⟩

/-- After Stage 1. -/
def afterStage1 : ExtractionResult × PipelineLog :=
  recordStage1 (a.extraction .drawingNumber) (a.extraction .title) (a.extraction .documentType)
    a.stage1Ms a.afterPdfLoad.2

/-- After Stage 2. -/
def afterStage2 : Option CompanionResult × PipelineLog :=
  recordStage2 a.companion a.stage2Ms a.afterStage1.2

/-- After the companion validation. -/
def afterValidation : Option ValidationResult × PipelineLog :=
  match validatedText? x.wiring a.afterStage2.1 with
  | some _ => recordCompanionValidation a.validation a.afterStage2.2
  | none => (none, a.afterStage2.2)

/-- After Stage 3. -/
def afterStage3 : SidecarDocument × PipelineLog :=
  recordStage3 x.job a.sidecar a.stage3Ms (a.afterValidation x).2

/-- After the confidence calculation. -/
def afterConfidence : ConfidenceAssessment × PipelineLog :=
  recordConfidence a.assessment a.confidenceMs (a.afterStage3 x).2

/-- The tier of the run. -/
def tier : ConfidenceTier := (a.afterConfidence x).1.tier

/-- The extraction result with its score and tier. -/
def assessed : ExtractionResult := a.afterStage1.1.assess (a.afterConfidence x).1

/-- After the metadata write. -/
def afterMetadataWrite : PipelineLog :=
  if a.tier x ≠ .review then recordMetadataWrite a.wrote a.wroteMs (a.afterConfidence x).2
  else recordSkipped "metadata_write" "review_tier_routes_to_review_queue" (a.afterConfidence x).2

/-- After the indexing. -/
def afterSearchIndex : PipelineLog :=
  match indexedCompanion? x.wiring a.afterStage2.1 with
  | some _ =>
    recordDelivery "search_index" "search_indexer.index_companion returned False" a.indexed
      a.indexedMs (a.afterMetadataWrite x)
  | none =>
    recordSkipped "search_index" "no_search_indexer_or_no_companion_text" (a.afterMetadataWrite x)

/-- After the webhook: the log of the whole run. -/
def log : PipelineLog :=
  match notifiedUrl? x.wiring x.callbackUrl with
  | some _ =>
    recordDelivery "callback" "callback_client.notify_completion returned False" a.notified
      a.notifiedMs (a.afterSearchIndex x)
  | none =>
    recordSkipped "callback"
      (if x.wiring.callbackClient then "no_callback_url" else "no_callback_client")
      (a.afterSearchIndex x)

/-- The label the run is counted under. -/
def label : String := extractionStatus (some (a.tier x)) (a.log x).errors

/-- The result of the run. -/
def result : PipelineResult where
  extractionResult := a.assessed x
  companionResult := a.afterStage2.1
  sidecar := (a.afterStage3 x).1
  confidenceAssessment := (a.afterConfidence x).1
  errors := (a.log x).errors
  pipelineTrace := (a.log x).pipelineTrace
  otelTraceId := a.traceId

/-! ### The calls of the run -/

/-- The call of the companion validator. -/
def validationCalls : List Call :=
  match validatedText? x.wiring a.afterStage2.1 with
  | some text => [⟨.validate text a.afterStage1.1, a.validation⟩]
  | none => []

/-- The calls of the stages that compute the outcome. -/
def stageCalls : List Call :=
  [⟨.startJobSpan, .ok a.traceId⟩] ++
  [⟨.load x.pdfBytes, a.pdfData⟩, ⟨.elapsedMs, .ok a.pdfMs⟩] ++
  [⟨.extract .drawingNumber (a.context x), a.extraction .drawingNumber⟩,
    ⟨.extract .title (a.context x), a.extraction .title⟩,
    ⟨.extract .documentType (a.context x), a.extraction .documentType⟩,
    ⟨.elapsedMs, .ok a.stage1Ms⟩] ++
  [⟨.generate (a.context x) a.afterStage1.1, a.companion⟩, ⟨.elapsedMs, .ok a.stage2Ms⟩] ++
  a.validationCalls x ++
  [⟨.build a.afterStage1.1 a.afterStage2.1 x.job, a.sidecar⟩, ⟨.elapsedMs, .ok a.stage3Ms⟩] ++
  [⟨.calculate a.afterStage1.1 (a.afterValidation x).1, a.assessment⟩,
    ⟨.elapsedMs, .ok a.confidenceMs⟩]

/-- The call of the metadata writer. -/
def metadataCalls : List Call :=
  if a.tier x ≠ .review then
    [⟨.writeMetadata x.job.fileHash (a.afterStage3 x).1 x.deploymentId x.nodeId, a.wrote⟩,
      ⟨.elapsedMs, .ok a.wroteMs⟩]
  else []

/-- The call of the search indexer. -/
def indexCalls : List Call :=
  match indexedCompanion? x.wiring a.afterStage2.1 with
  | some companion =>
    [⟨.indexCompanion x.job.fileHash (a.assessed x) companion x.deploymentId, a.indexed⟩,
      ⟨.elapsedMs, .ok a.indexedMs⟩]
  | none => []

/-- The call of the callback client. -/
def callbackCalls : List Call :=
  match notifiedUrl? x.wiring x.callbackUrl with
  | some url =>
    [⟨.notifyCompletion url x.job x.apiKey, a.notified⟩, ⟨.elapsedMs, .ok a.notifiedMs⟩]
  | none => []

/-- All calls of the run. -/
def calls : List Call :=
  a.stageCalls x ++ a.metadataCalls x ++ a.indexCalls x ++ a.callbackCalls x ++
    [⟨.countExtraction (a.label x), .ok ()⟩]

end PipelineAnswers

/-! ### The pipeline is this function -/

/-- Identifiers, clocks, the tracer and the metrics do not raise. -/
def Answered (op : Op) (r : Except PyException op.Res) : Prop :=
  op.infallible = true → ∃ value, r = .ok value

theorem answered_answer (env : Env) (op : Op) (w : World) : Answered op (answer env op w).1 := by
  intro hop
  rw [answer, if_pos hop]
  cases op <;> first
    | exact ⟨_, rfl⟩
    | exact absurd hop Bool.false_ne_true

/-- The calls of the pipeline. -/
def Op.isPipeline : Op → Bool
  | .load _ | .extract .. | .generate .. | .validate .. | .build .. | .calculate ..
  | .writeMetadata .. | .indexCompanion .. | .notifyCompletion .. | .elapsedMs | .startJobSpan
  | .countExtraction _ => true
  | _ => false

section Rules

variable {G : List Call → Op → Prop}

/-- A call whose exception is caught. -/
theorem safe_attempt_perform {op : Op}
    {Q : List Call → Except PyException (Except PyException op.Res) → Prop} {t : List Call}
    (hG : G t op) (hQ : ∀ r, Answered op r → Q (t ++ [⟨op, r⟩]) (.ok r)) :
    Program.Safe Answered G Q (perform op).attempt t :=
  (Program.safe_attempt _ _).mpr ((Program.safe_perform _ _).mpr ⟨hG, hQ⟩)

/-- A call that does not raise. -/
theorem safe_perform_infallible {op : Op} (hop : op.infallible = true)
    {Q : List Call → Except PyException op.Res → Prop} {t : List Call}
    (hG : G t op) (hQ : ∀ value, Q (t ++ [⟨op, .ok value⟩]) (.ok value)) :
    Program.Safe Answered G Q (perform op) t := by
  refine (Program.safe_perform _ _).mpr ⟨hG, fun r hr => ?_⟩
  obtain ⟨value, rfl⟩ := hr hop
  exact hQ value

/-- A stage that calls one collaborator and measures the time it took. -/
theorem safe_stage {α : Type} (op : Op) (f : Except PyException op.Res → ℤ → α)
    {Q : List Call → Except PyException α → Prop} {t : List Call} (hG : ∀ t, G t op)
    (hG' : ∀ t, G t .elapsedMs)
    (hQ : ∀ answer ms, Q (t ++ [⟨op, answer⟩, ⟨.elapsedMs, .ok ms⟩]) (.ok (f answer ms))) :
    Program.Safe Answered G Q (do
      let answer ← (perform op).attempt
      let ms ← perform .elapsedMs
      return f answer ms) t := by
  refine (Program.safe_bind _ _ _).mpr (safe_attempt_perform (hG t) fun answer _ => ?_)
  refine (Program.safe_bind _ _ _).mpr (safe_perform_infallible rfl (hG' _) fun ms => ?_)
  have h := hQ answer ms
  rwa [← List.singleton_append, ← List.append_assoc] at h

end Rules

/-- Only calls of the pipeline are made. -/
def PipelineOnly (_ : List Call) (op : Op) : Prop := op.isPipeline = true

theorem safe_pdfLoad {pdfBytes : Bytes} {log : PipelineLog}
    {Q : List Call → Except PyException (Option PDFData × PipelineLog) → Prop} {t : List Call}
    (hQ : ∀ answer ms, Q (t ++ [⟨.load pdfBytes, answer⟩, ⟨.elapsedMs, .ok ms⟩])
      (.ok (recordPdfLoad answer ms log))) :
    Program.Safe Answered PipelineOnly Q (pdfLoad pdfBytes log) t :=
  safe_stage (.load _) (fun answer ms => recordPdfLoad answer ms log) (fun _ => rfl)
    (fun _ => rfl) hQ

/-- One value for each extractor. -/
def byLabel {α : Type} (drawing title documentType : α) : ExtractorLabel → α
  | .drawingNumber => drawing
  | .title => title
  | .documentType => documentType

theorem safe_stage1 {context : PipelineContext} {log : PipelineLog}
    {Q : List Call → Except PyException (ExtractionResult × PipelineLog) → Prop} {t : List Call}
    (hQ : ∀ (answers : ExtractorLabel → Except PyException ExtractionResult) ms,
      Q (t ++ [⟨.extract .drawingNumber context, answers .drawingNumber⟩,
          ⟨.extract .title context, answers .title⟩,
          ⟨.extract .documentType context, answers .documentType⟩, ⟨.elapsedMs, .ok ms⟩])
        (.ok (recordStage1 (answers .drawingNumber) (answers .title) (answers .documentType) ms
          log))) :
    Program.Safe Answered PipelineOnly Q (stage1 context log) t := by
  refine (Program.safe_bind _ _ _).mpr (safe_attempt_perform rfl fun drawing _ => ?_)
  refine (Program.safe_bind _ _ _).mpr (safe_attempt_perform rfl fun title _ => ?_)
  refine (Program.safe_bind _ _ _).mpr (safe_attempt_perform rfl fun documentType _ => ?_)
  refine (Program.safe_bind _ _ _).mpr (safe_perform_infallible rfl rfl fun ms => ?_)
  simp only [List.append_assoc, List.cons_append, List.nil_append]
  exact hQ (byLabel drawing title documentType) ms

theorem safe_stage2 {context : PipelineContext} {extraction : ExtractionResult} {log : PipelineLog}
    {Q : List Call → Except PyException (Option CompanionResult × PipelineLog) → Prop}
    {t : List Call}
    (hQ : ∀ answer ms, Q (t ++ [⟨.generate context extraction, answer⟩, ⟨.elapsedMs, .ok ms⟩])
      (.ok (recordStage2 answer ms log))) :
    Program.Safe Answered PipelineOnly Q (stage2 context extraction log) t :=
  safe_stage (.generate _ _) (fun answer ms => recordStage2 answer ms log) (fun _ => rfl)
    (fun _ => rfl) hQ

theorem safe_companionValidation {wiring : Wiring} {companion : Option CompanionResult}
    {extraction : ExtractionResult} {log : PipelineLog}
    {Q : List Call → Except PyException (Option ValidationResult × PipelineLog) → Prop}
    {t : List Call}
    (hQ : ∀ answer : Except PyException ValidationResult,
      Q (t ++ match validatedText? wiring companion with
          | some text => [⟨.validate text extraction, answer⟩]
          | none => [])
        (.ok (match validatedText? wiring companion with
          | some _ => recordCompanionValidation answer log
          | none => (none, log)))) :
    Program.Safe Answered PipelineOnly Q (companionValidation wiring companion extraction log)
      t := by
  unfold companionValidation
  cases htext : validatedText? wiring companion with
  | some text =>
    simp only [htext] at hQ
    exact (Program.safe_bind _ _ _).mpr (safe_attempt_perform rfl fun answer _ => hQ answer)
  | none =>
    simp only [htext, List.append_nil] at hQ
    exact hQ (.ok ⟨true, [], 1⟩)

theorem safe_stage3 {extraction : ExtractionResult} {companion : Option CompanionResult} {job : Job}
    {log : PipelineLog} {Q : List Call → Except PyException (SidecarDocument × PipelineLog) → Prop}
    {t : List Call}
    (hQ : ∀ answer ms, Q (t ++ [⟨.build extraction companion job, answer⟩, ⟨.elapsedMs, .ok ms⟩])
      (.ok (recordStage3 job answer ms log))) :
    Program.Safe Answered PipelineOnly Q (stage3 extraction companion job log) t :=
  safe_stage (.build _ _ _) (fun answer ms => recordStage3 job answer ms log) (fun _ => rfl)
    (fun _ => rfl) hQ

theorem safe_confidence {extraction : ExtractionResult} {validation : Option ValidationResult}
    {log : PipelineLog}
    {Q : List Call → Except PyException (ConfidenceAssessment × PipelineLog) → Prop}
    {t : List Call}
    (hQ : ∀ answer ms,
      Q (t ++ [⟨.calculate extraction validation, answer⟩, ⟨.elapsedMs, .ok ms⟩])
        (.ok (recordConfidence answer ms log))) :
    Program.Safe Answered PipelineOnly Q (confidence extraction validation log) t :=
  safe_stage (.calculate _ _) (fun answer ms => recordConfidence answer ms log) (fun _ => rfl)
    (fun _ => rfl) hQ

theorem safe_metadataWrite {job : Job} {sidecar : SidecarDocument} {tier : ConfidenceTier}
    {deploymentId nodeId : Option ℤ} {log : PipelineLog}
    {Q : List Call → Except PyException PipelineLog → Prop} {t : List Call}
    (hQ : ∀ (answer : Except PyException Bool) ms,
      Q (t ++ if tier ≠ .review then
          [⟨.writeMetadata job.fileHash sidecar deploymentId nodeId, answer⟩,
            ⟨.elapsedMs, .ok ms⟩] else [])
        (.ok (if tier ≠ .review then recordMetadataWrite answer ms log
          else recordSkipped "metadata_write" "review_tier_routes_to_review_queue" log))) :
    Program.Safe Answered PipelineOnly Q
      (metadataWrite job sidecar tier deploymentId nodeId log) t := by
  unfold metadataWrite
  by_cases h : tier ≠ .review
  · simp only [if_pos h] at hQ ⊢
    exact safe_stage (.writeMetadata _ _ _ _) (fun answer ms => recordMetadataWrite answer ms log)
      (fun _ => rfl) (fun _ => rfl) hQ
  · simp only [if_neg h, List.append_nil] at hQ ⊢
    exact hQ (.ok true) 0

theorem safe_searchIndex {wiring : Wiring} {job : Job} {extraction : ExtractionResult}
    {companion : Option CompanionResult} {deploymentId : Option ℤ} {log : PipelineLog}
    {Q : List Call → Except PyException PipelineLog → Prop} {t : List Call}
    (hQ : ∀ (answer : Except PyException Bool) ms,
      Q (t ++ match indexedCompanion? wiring companion with
          | some result =>
            [⟨.indexCompanion job.fileHash extraction result deploymentId, answer⟩,
              ⟨.elapsedMs, .ok ms⟩]
          | none => [])
        (.ok (match indexedCompanion? wiring companion with
          | some _ =>
            recordDelivery "search_index" "search_indexer.index_companion returned False" answer
              ms log
          | none =>
            recordSkipped "search_index" "no_search_indexer_or_no_companion_text" log))) :
    Program.Safe Answered PipelineOnly Q
      (searchIndex wiring job extraction companion deploymentId log) t := by
  unfold searchIndex
  cases hc : indexedCompanion? wiring companion with
  | some result =>
    simp only [hc] at hQ
    exact safe_stage _ _ (fun _ => rfl) (fun _ => rfl) hQ
  | none =>
    simp only [hc, List.append_nil] at hQ
    exact hQ (.ok true) 0

theorem safe_callback {wiring : Wiring} {job : Job} {callbackUrl : Option String}
    {apiKey : String} {log : PipelineLog} {Q : List Call → Except PyException PipelineLog → Prop}
    {t : List Call}
    (hQ : ∀ (answer : Except PyException Bool) ms,
      Q (t ++ match notifiedUrl? wiring callbackUrl with
          | some url => [⟨.notifyCompletion url job apiKey, answer⟩, ⟨.elapsedMs, .ok ms⟩]
          | none => [])
        (.ok (match notifiedUrl? wiring callbackUrl with
          | some _ =>
            recordDelivery "callback" "callback_client.notify_completion returned False" answer
              ms log
          | none =>
            recordSkipped "callback"
              (if wiring.callbackClient then "no_callback_url" else "no_callback_client") log))) :
    Program.Safe Answered PipelineOnly Q (callback wiring job callbackUrl apiKey log) t := by
  unfold callback
  cases hu : notifiedUrl? wiring callbackUrl with
  | some url =>
    simp only [hu] at hQ
    exact safe_stage _ _ (fun _ => rfl) (fun _ => rfl) hQ
  | none =>
    simp only [hu, List.append_nil] at hQ
    exact hQ (.ok true) 0

/-- `run_pipeline` is the function of this module: every run that gets to its end has made the
calls `PipelineAnswers.calls` and returned `PipelineAnswers.result`, for what its collaborators
answered. It only makes calls of the pipeline, and it never raises. -/
theorem runPipeline_safe (x : PipelineInput) :
    Program.Safe Answered PipelineOnly
      (fun t r => ∃ a : PipelineAnswers, t = a.calls x ∧ r = .ok (a.result x)) x.run [] := by
  obtain ⟨wiring, job, pdfBytes, deploymentId, nodeId, callbackUrl, apiKey⟩ := x
  refine (Program.safe_bind _ _ _).mpr (safe_perform_infallible rfl rfl fun traceId => ?_)
  refine (Program.safe_bind _ _ _).mpr (safe_pdfLoad fun pdfData pdfMs => ?_)
  refine (Program.safe_bind _ _ _).mpr (safe_stage1 fun extraction stage1Ms => ?_)
  refine (Program.safe_bind _ _ _).mpr (safe_stage2 fun companion stage2Ms => ?_)
  refine (Program.safe_bind _ _ _).mpr (safe_companionValidation fun validation => ?_)
  refine (Program.safe_bind _ _ _).mpr (safe_stage3 fun sidecar stage3Ms => ?_)
  refine (Program.safe_bind _ _ _).mpr (safe_confidence fun assessment confidenceMs => ?_)
  refine (Program.safe_bind _ _ _).mpr (safe_metadataWrite fun wrote wroteMs => ?_)
  refine (Program.safe_bind _ _ _).mpr (safe_searchIndex fun indexed indexedMs => ?_)
  refine (Program.safe_bind _ _ _).mpr (safe_callback fun notified notifiedMs => ?_)
  refine (Program.safe_bind _ _ _).mpr ((Program.safe_bind _ _ _).mpr
    (safe_perform_infallible rfl rfl fun _ => ?_))
  refine ⟨⟨traceId, pdfData, pdfMs, extraction, stage1Ms, companion, stage2Ms, validation, sidecar,
    stage3Ms, assessment, confidenceMs, wrote, wroteMs, indexed, indexedMs, notified,
    notifiedMs⟩, ?_, rfl⟩
  rfl

/-- A run of the pipeline alone: its calls and its result are those of what the collaborators have
answered, and what holds of every answer of the environment holds of these. -/
theorem runPipeline_answers {σ : Type} {answer : (op : Op) → σ → Except PyException op.Res × σ}
    {A : (op : Op) → Except PyException op.Res → Prop}
    (hanswer : ∀ op s, Answered op (answer op s).1 ∧ A op (answer op s).1) (x : PipelineInput)
    (s : σ) : ∃ a : PipelineAnswers,
      Program.trace (S := services) answer x.run s = a.calls x ∧
      (Program.run (S := services) answer x.run s).1 = .ok (a.result x) ∧
      ∀ c ∈ a.calls x, A c.1 c.2 := by
  obtain ⟨-, a, htrace, hresult⟩ := (runPipeline_safe x).run (I := fun _ => True)
    (fun op s _ => (hanswer op s).1) (fun _ _ _ _ _ => trivial) (s := s) trivial
  refine ⟨a, htrace, hresult, ?_⟩
  rw [← htrace]
  exact Program.forall_trace (S := services) answer (fun op s => (hanswer op s).2) x.run s

/-! ### The calls of the stages -/

namespace PipelineAnswers

variable {a : PipelineAnswers} {x : PipelineInput}

theorem mem_calls_extract (label : ExtractorLabel) :
    ⟨.extract label (a.context x), a.extraction label⟩ ∈ a.calls x := by
  cases label <;> simp [calls, stageCalls]

theorem mem_calls_build :
    ⟨.build a.afterStage1.1 a.afterStage2.1 x.job, a.sidecar⟩ ∈ a.calls x := by
  simp [calls, stageCalls]

theorem mem_calls_calculate :
    ⟨.calculate a.afterStage1.1 (a.afterValidation x).1, a.assessment⟩ ∈ a.calls x := by
  simp [calls, stageCalls]

/-- A run reports the assessment that was calculated. -/
theorem confidenceAssessment_of_ok {assessment : ConfidenceAssessment}
    (h : a.assessment = .ok assessment) : (a.result x).confidenceAssessment = assessment := by
  show (recordConfidence a.assessment a.confidenceMs (a.afterStage3 x).2).1 = _
  rw [h]
  rfl

end PipelineAnswers

/-! ### Selecting calls of a run -/

/-- The calls of a trace that satisfy `p`. -/
def callsOf (p : Op → Bool) (trace : List Call) : List Call := trace.filter fun c => p c.1

@[simp] theorem callsOf_nil (p : Op → Bool) : callsOf p [] = [] := rfl

theorem callsOf_append (p : Op → Bool) (trace trace' : List Call) :
    callsOf p (trace ++ trace') = callsOf p trace ++ callsOf p trace' :=
  List.filter_append _ _

theorem callsOf_cons_of_neg {p : Op → Bool} {c : Call} (h : p c.1 = false) (trace : List Call) :
    callsOf p (c :: trace) = callsOf p trace :=
  List.filter_cons_of_neg (by simp [h])

theorem callsOf_eq_nil {p : Op → Bool} {trace : List Call} :
    callsOf p trace = [] ↔ ∀ c ∈ trace, p c.1 = false := by
  rw [callsOf, List.filter_eq_nil_iff]
  simp only [Bool.not_eq_true]

/-- A selection that leaves out the clock. -/
theorem callsOf_timed {p : Op → Bool} (helapsed : p .elapsedMs = false) (trace : List Call)
    (ms : ℤ) : callsOf p (trace ++ [⟨.elapsedMs, .ok ms⟩]) = callsOf p trace := by
  rw [callsOf_append, callsOf_cons_of_neg helapsed, callsOf_nil, List.append_nil]

section Selection

variable (a : PipelineAnswers) (x : PipelineInput) {p : Op → Bool}

theorem PipelineAnswers.callsOf_validationCalls
    (hvalidate : ∀ text e, p (.validate text e) = false) :
    callsOf p (a.validationCalls x) = [] := by
  rw [validationCalls]
  cases validatedText? x.wiring a.afterStage2.1 with
  | some text => exact callsOf_cons_of_neg (hvalidate _ _) []
  | none => rfl

theorem PipelineAnswers.callsOf_metadataCalls
    (hwrite : ∀ d s i n, p (.writeMetadata d s i n) = false) (helapsed : p .elapsedMs = false) :
    callsOf p (a.metadataCalls x) = [] := by
  rw [metadataCalls]
  split_ifs
  · exact (callsOf_timed helapsed [_] _).trans (callsOf_cons_of_neg (hwrite _ _ _ _) [])
  · rfl

theorem PipelineAnswers.callsOf_indexCalls
    (hindex : ∀ d e c i, p (.indexCompanion d e c i) = false) (helapsed : p .elapsedMs = false) :
    callsOf p (a.indexCalls x) = [] := by
  rw [indexCalls]
  cases indexedCompanion? x.wiring a.afterStage2.1 with
  | some companion =>
    exact (callsOf_timed helapsed [_] _).trans (callsOf_cons_of_neg (hindex _ _ _ _) [])
  | none => rfl

theorem PipelineAnswers.callsOf_callbackCalls
    (hnotify : ∀ u j k, p (.notifyCompletion u j k) = false) (helapsed : p .elapsedMs = false) :
    callsOf p (a.callbackCalls x) = [] := by
  rw [callbackCalls]
  cases notifiedUrl? x.wiring x.callbackUrl with
  | some url => exact (callsOf_timed helapsed [_] _).trans (callsOf_cons_of_neg (hnotify _ _ _) [])
  | none => rfl

/-- A selection that leaves out the optional collaborators, the clock and the tracer. -/
theorem PipelineAnswers.callsOf_calls
    (hvalidate : ∀ text e, p (.validate text e) = false)
    (hwrite : ∀ d s i n, p (.writeMetadata d s i n) = false)
    (hindex : ∀ d e c i, p (.indexCompanion d e c i) = false)
    (hnotify : ∀ u j k, p (.notifyCompletion u j k) = false) (helapsed : p .elapsedMs = false)
    (hspan : p .startJobSpan = false) :
    callsOf p (a.calls x) =
      callsOf p [⟨.load x.pdfBytes, a.pdfData⟩] ++
      callsOf p [⟨.extract .drawingNumber (a.context x), a.extraction .drawingNumber⟩,
        ⟨.extract .title (a.context x), a.extraction .title⟩,
        ⟨.extract .documentType (a.context x), a.extraction .documentType⟩] ++
      callsOf p [⟨.generate (a.context x) a.afterStage1.1, a.companion⟩] ++
      callsOf p [⟨.build a.afterStage1.1 a.afterStage2.1 x.job, a.sidecar⟩] ++
      callsOf p [⟨.calculate a.afterStage1.1 (a.afterValidation x).1, a.assessment⟩] ++
      callsOf p [⟨.countExtraction (a.label x), .ok ()⟩] := by
  have hs : callsOf p [⟨.startJobSpan, .ok a.traceId⟩] = [] := callsOf_cons_of_neg hspan []
  have hv := a.callsOf_validationCalls x hvalidate
  have hm := a.callsOf_metadataCalls x hwrite helapsed
  have hi := a.callsOf_indexCalls x hindex helapsed
  have hc := a.callsOf_callbackCalls x hnotify helapsed
  have hpair : ∀ (c : Call) (ms : ℤ), callsOf p [c, ⟨.elapsedMs, .ok ms⟩] = callsOf p [c] :=
    fun c ms => callsOf_timed helapsed [c] ms
  have hstage1 := callsOf_timed helapsed [
    ⟨.extract .drawingNumber (a.context x), a.extraction .drawingNumber⟩,
    ⟨.extract .title (a.context x), a.extraction .title⟩,
    ⟨.extract .documentType (a.context x), a.extraction .documentType⟩] a.stage1Ms
  simp only [List.cons_append, List.nil_append] at hstage1
  rw [PipelineAnswers.calls, PipelineAnswers.stageCalls]
  simp only [callsOf_append, hs, hm, hi, hc, hv, hpair, hstage1, List.append_nil, List.nil_append]

end Selection

end ZubotIngestion
