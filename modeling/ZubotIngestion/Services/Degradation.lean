import ZubotIngestion.Services.PipelineRun

/-!
# Graceful degradation of the pipeline

A run of the pipeline keeps two lists of errors and a trace entry for each stage. They are written
in different places of every stage, and they must tell the same story: a stage is recorded as not
ok exactly when the trace has an error of it, and the pipeline errors are the trace errors of the
stages that can fail a run. `Coherent` says this of a log, `Records` says what a stage may add to
it, and every stage of the pipeline records in this way.

## Main definitions

* `stageOk?`, `traceErrorsOf`: what a reader sees in the persisted trace.
* `Coherent`, `Records`.
* `LeavesEntry`: a collaborator that raised is named in the trace.
* `Degrades`: what a degraded run still promises.

## Main results

* `Records.coherent`: a stage that records keeps the log coherent.
* `coherent_log`: the log of every run is coherent.
* `runPipeline_degrades`: every run returns, whatever its collaborators answer, and degrades.
-/

namespace ZubotIngestion

open Effects

/-! ### Reading the persisted trace -/

/-- `pipeline_trace["stages"][stage]["ok"]`. -/
def stageOk? (pipelineTrace : Dict) (stage : String) : Option Bool :=
  match pipelineTrace.get? "stages" with
  | some (.dict stages) =>
    match Dict.get? stages stage with
    | some (.dict entry) =>
      match Dict.get? entry "ok" with
      | some (.bool ok) => some ok
      | _ => none
    | _ => none
  | _ => none

/-- An entry of `pipeline_trace["errors"]`. -/
def traceErrorOf : PyVal → Option TraceError
  | .dict [("stage", .str stage), ("error", .str error)] => some ⟨stage, error⟩
  | _ => none

/-- `pipeline_trace["errors"]`. -/
def traceErrorsOf (pipelineTrace : Dict) : List TraceError :=
  match pipelineTrace.get? "errors" with
  | some (.list errors) => errors.filterMap traceErrorOf
  | _ => []

/-- Whether a log records the stage as ok. -/
def PipelineLog.stageOk? (log : PipelineLog) (stage : String) : Option Bool :=
  ZubotIngestion.stageOk? log.pipelineTrace stage

@[simp] theorem traceErrorsOf_pipelineTrace (log : PipelineLog) :
    traceErrorsOf log.pipelineTrace = log.traceErrors := by
  have hmap : ∀ errors : List TraceError,
      (errors.map fun e => PyVal.dict [("stage", .str e.stage), ("error", .str e.error)]).filterMap
        traceErrorOf = errors := by
    intro errors
    induction errors with
    | nil => rfl
    | cons e errors ih =>
      rw [List.map_cons, List.filterMap_cons]
      show e :: _ = e :: errors
      rw [ih]
  exact hmap log.traceErrors

theorem PipelineLog.stageOk?_eq (log : PipelineLog) (stage : String) :
    log.stageOk? stage =
      match log.stages.get? stage with
      | some (.dict entry) =>
        match Dict.get? entry "ok" with
        | some (.bool ok) => some ok
        | _ => none
      | _ => none := rfl

/-! ### Coherent logs -/

/-- The stage an error belongs to: the errors of the extractors are errors of Stage 1. -/
def stageOf (label : String) : String :=
  if label ∈ [ExtractorLabel.drawingNumber.stage, ExtractorLabel.title.stage,
    ExtractorLabel.documentType.stage] then "stage1" else label

theorem stageOf_stage (label : ExtractorLabel) : stageOf label.stage = "stage1" := by
  cases label <;> rfl

/-- The stages whose errors are recorded in the trace only. -/
def traceOnlyStages : List String := ["companion_validation", "search_index", "callback"]

/-- The trace errors that are pipeline errors too. -/
def pipelineErrorsOf (errors : List TraceError) : List TraceError :=
  errors.filter fun e => decide (e.stage ∉ traceOnlyStages)

/-- A pipeline error and the trace error of the same failure: they name the same stage and the
same text, with the exception's type in front unless the metadata writer just reported a
failure. -/
def Corresponds (error : PipelineError) (traceError : TraceError) : Prop :=
  error.stage = traceError.stage ∧
    (traceError.error = s!"{error.errorType}: {error.message}" ∨
      error.errorType = "MetadataWriteFailed" ∧ traceError.error = error.message)

theorem corresponds_raised (stage : String) (exc : PyException) (recoverable : Bool) :
    Corresponds ⟨stage, exc.typeName, exc.message, recoverable⟩ ⟨stage, formatError exc⟩ :=
  ⟨rfl, Or.inl rfl⟩

/-- The log tells one story, for the stages `done` so far. -/
structure Coherent (done : List String) (log : PipelineLog) : Prop where
  /-- A stage is recorded as not ok iff the trace has an error of it. -/
  ok_iff : ∀ s, log.stageOk? s = some false ↔ ∃ e ∈ log.traceErrors, stageOf e.stage = s
  /-- Only stages that are done have errors. -/
  mem_done : ∀ e ∈ log.traceErrors, stageOf e.stage ∈ done
  /-- The pipeline errors are the trace errors, without those of the trace-only stages. -/
  errors : List.Forall₂ Corresponds log.errors (pipelineErrorsOf log.traceErrors)

theorem coherent_empty : Coherent [] {} where
  ok_iff s := by simp [PipelineLog.stageOk?_eq]
  mem_done := by simp
  errors := List.Forall₂.nil

/-- What a stage may add to a log: its own trace entry, errors of its own that explain it, and
the corresponding pipeline errors. -/
structure Records (stage : String) (log log' : PipelineLog) : Prop where
  /-- One entry of the stage, whose `ok` says whether errors are added. -/
  entry : ∃ entry : Dict, ∃ traceErrors : List TraceError, ∃ errors : List PipelineError,
    log'.stages = log.stages.insert stage (.dict entry) ∧
    log'.traceErrors = log.traceErrors ++ traceErrors ∧
    log'.errors = log.errors ++ errors ∧
    entry.get? "ok" = some (.bool traceErrors.isEmpty) ∧
    (∀ e ∈ traceErrors, stageOf e.stage = stage) ∧
    List.Forall₂ Corresponds errors (pipelineErrorsOf traceErrors)

/-- A stage that records keeps the log coherent. -/
theorem Records.coherent {done : List String} {stage : String} {log log' : PipelineLog}
    (h : Records stage log log') (hlog : Coherent done log) (hstage : stage ∉ done) :
    Coherent (stage :: done) log' := by
  obtain ⟨entry, traceErrors, errors, hstages, htrace, herrors, hok, hown, hmatch⟩ := h.entry
  have hnew : ∀ e ∈ log.traceErrors, stageOf e.stage ≠ stage := by
    rintro e he rfl
    exact hstage (hlog.mem_done e he)
  refine ⟨fun s => ?_, fun e he => ?_, ?_⟩
  · rw [PipelineLog.stageOk?_eq, hstages, htrace]
    by_cases hs : stage = s
    · subst hs
      rw [Dict.get?_insert_self]
      simp only [hok, Option.some.injEq, List.isEmpty_eq_false_iff_exists_mem]
      constructor
      · rintro ⟨e, he⟩
        exact ⟨e, List.mem_append_right _ he, hown e he⟩
      · rintro ⟨e, he, hes⟩
        rcases List.mem_append.mp he with he | he
        · exact absurd hes (hnew e he)
        · exact ⟨e, he⟩
    · rw [Dict.get?_insert_of_ne hs, ← PipelineLog.stageOk?_eq, hlog.ok_iff]
      constructor
      · rintro ⟨e, he, hes⟩
        exact ⟨e, List.mem_append_left _ he, hes⟩
      · rintro ⟨e, he, hes⟩
        rcases List.mem_append.mp he with he | he
        · exact ⟨e, he, hes⟩
        · exact absurd ((hown e he).symm.trans hes) hs
  · rw [htrace] at he
    rcases List.mem_append.mp he with he | he
    · exact List.mem_cons_of_mem _ (hlog.mem_done e he)
    · rw [hown e he]
      exact List.mem_cons_self
  · rw [herrors, htrace, pipelineErrorsOf, List.filter_append]
    exact List.rel_append hlog.errors hmatch

/-! ### Every stage records -/

/-- A stage that went well. -/
theorem records_ok (log : PipelineLog) (stage : String) {entry : Dict}
    (hok : entry.get? "ok" = some (.bool true)) : Records stage log (log.stage stage entry) :=
  ⟨entry, [], [], rfl, (List.append_nil _).symm, (List.append_nil _).symm, hok, by simp,
    List.Forall₂.nil⟩

/-- A stage whose exception is a pipeline error. -/
theorem records_raised (log : PipelineLog) (stage : String) {entry : Dict}
    (hok : entry.get? "ok" = some (.bool false)) (hstage : stageOf stage = stage)
    (hkeep : stage ∉ traceOnlyStages) (exc : PyException) (recoverable : Bool) :
    Records stage log ((log.stage stage entry).raised stage exc recoverable) := by
  refine ⟨entry, [⟨stage, formatError exc⟩], [⟨stage, exc.typeName, exc.message, recoverable⟩], rfl,
    rfl, rfl, hok, ?_, ?_⟩
  · intro e he
    rw [List.mem_singleton.mp he]
    exact hstage
  · rw [pipelineErrorsOf, List.filter_cons_of_pos (by simpa using hkeep)]
    exact .cons (corresponds_raised _ _ _) .nil

/-- A stage whose failure is recorded in the trace only. -/
theorem records_traceError (log : PipelineLog) (stage : String) {entry : Dict}
    (hok : entry.get? "ok" = some (.bool false)) (hstage : stageOf stage = stage)
    (hdrop : stage ∈ traceOnlyStages) (error : String) :
    Records stage log ((log.stage stage entry).traceError stage error) := by
  refine ⟨entry, [⟨stage, error⟩], [], rfl, rfl, (List.append_nil _).symm, hok, ?_, ?_⟩
  · intro e he
    rw [List.mem_singleton.mp he]
    exact hstage
  · rw [pipelineErrorsOf, List.filter_cons_of_neg (by simpa using hdrop)]
    exact .nil

theorem records_pdfLoad (answer : Except PyException PDFData) (ms : ℤ) (log : PipelineLog) :
    Records "pdf_load" log (recordPdfLoad answer ms log).2 := by
  cases answer with
  | ok pdfData => exact records_ok log _ rfl
  | error exc => exact records_raised log _ rfl rfl (by decide) exc false

theorem records_stage2 (answer : Except PyException CompanionResult) (ms : ℤ)
    (log : PipelineLog) : Records "stage2" log (recordStage2 answer ms log).2 := by
  cases answer with
  | ok companion => exact records_ok log _ rfl
  | error exc => exact records_raised log _ rfl rfl (by decide) exc true

theorem records_companionValidation (answer : Except PyException ValidationResult)
    (log : PipelineLog) :
    Records "companion_validation" log (recordCompanionValidation answer log).2 := by
  cases answer with
  | ok validation => exact records_ok log _ rfl
  | error exc => exact records_traceError log _ rfl rfl (by decide) _

theorem records_stage3 (job : Job) (answer : Except PyException SidecarDocument) (ms : ℤ)
    (log : PipelineLog) : Records "stage3" log (recordStage3 job answer ms log).2 := by
  cases answer with
  | ok sidecar => exact records_ok log _ rfl
  | error exc => exact records_raised log _ rfl rfl (by decide) exc false

theorem records_confidence (answer : Except PyException ConfidenceAssessment) (ms : ℤ)
    (log : PipelineLog) : Records "confidence" log (recordConfidence answer ms log).2 := by
  cases answer with
  | ok assessment => exact records_ok log _ rfl
  | error exc => exact records_raised log _ rfl rfl (by decide) exc false

/-- What one extractor adds: nothing, or one error of its own. -/
theorem normalizeExtraction_snd (label : ExtractorLabel)
    (answer : Except PyException ExtractionResult) (log : PipelineLog) :
    ∃ traceErrors errors, (normalizeExtraction label answer log).2 =
        ⟨log.stages, log.traceErrors ++ traceErrors, log.errors ++ errors⟩ ∧
      traceErrors.isEmpty = succeeded answer ∧ (∀ e ∈ traceErrors, stageOf e.stage = "stage1") ∧
      List.Forall₂ Corresponds errors (pipelineErrorsOf traceErrors) := by
  cases answer with
  | ok extraction =>
    refine ⟨[], [], ?_, rfl, by simp, .nil⟩
    rw [List.append_nil, List.append_nil]
    rfl
  | error exc =>
    refine ⟨[⟨label.stage, formatError exc⟩], [⟨label.stage, exc.typeName, exc.message, true⟩], rfl,
      rfl, ?_, ?_⟩
    · intro e he
      rw [List.mem_singleton.mp he]
      exact stageOf_stage label
    · have hkeep : label.stage ∉ traceOnlyStages := by cases label <;> decide
      rw [pipelineErrorsOf, List.filter_cons_of_pos (by simpa using hkeep)]
      exact .cons (corresponds_raised _ _ _) .nil

/-- The end of Stage 1, whether or not the results could be merged. -/
theorem records_finishStage1 (merged : Except PyException ExtractionResult) (ms : ℤ)
    (log : PipelineLog) {traceErrors : List TraceError} {errors : List PipelineError}
    (hown : ∀ e ∈ traceErrors, stageOf e.stage = "stage1")
    (hmatch : List.Forall₂ Corresponds errors (pipelineErrorsOf traceErrors)) :
    Records "stage1" log (finishStage1 merged traceErrors.isEmpty ms
      ⟨log.stages, log.traceErrors ++ traceErrors, log.errors ++ errors⟩).2 := by
  cases merged with
  | ok extraction =>
    exact ⟨stage1Entry traceErrors.isEmpty ms, traceErrors, errors, rfl, rfl, rfl, rfl, hown,
      hmatch⟩
  | error exc =>
    refine ⟨raisedEntry ms exc, traceErrors ++ [⟨"stage1", formatError exc⟩],
      errors ++ [⟨"stage1", exc.typeName, exc.message, false⟩], rfl, ?_, ?_, ?_, ?_, ?_⟩
    · exact List.append_assoc _ _ _
    · exact List.append_assoc _ _ _
    · rw [List.isEmpty_eq_false_iff_exists_mem.mpr ⟨_, List.mem_append_right _ List.mem_cons_self⟩]
      rfl
    · intro e he
      rcases List.mem_append.mp he with he | he
      · exact hown e he
      · rw [List.mem_singleton.mp he]
        rfl
    · rw [pipelineErrorsOf, List.filter_append]
      exact List.rel_append hmatch (.cons (corresponds_raised _ _ _) .nil)

theorem records_stage1 (drawing title documentType : Except PyException ExtractionResult) (ms : ℤ)
    (log : PipelineLog) :
    Records "stage1" log (recordStage1 drawing title documentType ms log).2 := by
  obtain ⟨te₁, es₁, h₁, hok₁, hown₁, hm₁⟩ := normalizeExtraction_snd .drawingNumber drawing log
  obtain ⟨te₂, es₂, h₂, hok₂, hown₂, hm₂⟩ := normalizeExtraction_snd .title title
    ⟨log.stages, log.traceErrors ++ te₁, log.errors ++ es₁⟩
  obtain ⟨te₃, es₃, h₃, hok₃, hown₃, hm₃⟩ := normalizeExtraction_snd .documentType documentType
    ⟨log.stages, log.traceErrors ++ te₁ ++ te₂, log.errors ++ es₁ ++ es₂⟩
  have hown : ∀ e ∈ te₁ ++ (te₂ ++ te₃), stageOf e.stage = "stage1" := by
    intro e he
    rcases List.mem_append.mp he with he | he
    · exact hown₁ e he
    · rcases List.mem_append.mp he with he | he
      exacts [hown₂ e he, hown₃ e he]
  have hmatch : List.Forall₂ Corresponds (es₁ ++ (es₂ ++ es₃))
      (pipelineErrorsOf (te₁ ++ (te₂ ++ te₃))) := by
    rw [pipelineErrorsOf, List.filter_append, List.filter_append]
    exact List.rel_append hm₁ (List.rel_append hm₂ hm₃)
  have hok : (te₁ ++ (te₂ ++ te₃)).isEmpty =
      (succeeded drawing && succeeded title && succeeded documentType) := by
    have happend : ∀ l l' : List TraceError, (l ++ l').isEmpty = (l.isEmpty && l'.isEmpty) :=
      fun l l' => by cases l <;> rfl
    rw [happend, happend, hok₁, hok₂, hok₃, Bool.and_assoc]
  have hrecords := fun merged => records_finishStage1 merged ms log hown hmatch
  rw [hok] at hrecords
  simp only [← List.append_assoc] at hrecords
  simp only [recordStage1, h₁, h₂, h₃]
  exact hrecords _

theorem records_delivery {stage : String} (hstage : stageOf stage = stage)
    (hdrop : stage ∈ traceOnlyStages) (returnedFalse : String) (answer : Except PyException Bool)
    (ms : ℤ) (log : PipelineLog) :
    Records stage log (recordDelivery stage returnedFalse answer ms log) := by
  cases answer with
  | ok delivered =>
    cases delivered with
    | true => exact records_ok log stage rfl
    | false => exact records_traceError log stage rfl hstage hdrop _
  | error exc => exact records_traceError log stage rfl hstage hdrop _

theorem records_skipped (stage reason : String) (log : PipelineLog) :
    Records stage log (recordSkipped stage reason log) :=
  records_ok log stage rfl

theorem records_metadataWrite (answer : Except PyException Bool) (ms : ℤ) (log : PipelineLog) :
    Records "metadata_write" log (recordMetadataWrite answer ms log) := by
  have hkeep : "metadata_write" ∉ traceOnlyStages := by decide
  have hown : ∀ error, ∀ e ∈ [(⟨"metadata_write", error⟩ : TraceError)],
      stageOf e.stage = "metadata_write" := by
    intro error e he
    rw [List.mem_singleton.mp he]
    rfl
  cases answer with
  | ok delivered =>
    cases delivered with
    | true => exact records_ok log _ rfl
    | false =>
      refine ⟨_, [⟨"metadata_write", _⟩], [_], rfl, rfl, rfl, rfl, hown _, ?_⟩
      rw [pipelineErrorsOf, List.filter_cons_of_pos (by simpa using hkeep)]
      exact .cons ⟨rfl, Or.inr ⟨rfl, rfl⟩⟩ .nil
  | error exc => exact records_raised log _ rfl rfl hkeep exc true

/-! ### The log of a run -/

namespace PipelineAnswers

variable (a : PipelineAnswers) (x : PipelineInput)

/-- The log of every run is coherent. -/
theorem coherent_log : ∃ done, Coherent done (a.log x) := by
  have h₁ : Coherent ["stage1", "pdf_load"] a.afterStage1.2 :=
    (records_stage1 _ _ _ _ _).coherent
      ((records_pdfLoad _ _ _).coherent coherent_empty (by decide)) (by decide)
  have h₂ : Coherent ["stage2", "stage1", "pdf_load"] a.afterStage2.2 :=
    (records_stage2 _ _ _).coherent h₁ (by decide)
  obtain ⟨done, hv, hdone⟩ : ∃ done, Coherent done (a.afterValidation x).2 ∧
      done ⊆ ["companion_validation", "stage2", "stage1", "pdf_load"] := by
    unfold afterValidation
    cases validatedText? x.wiring a.afterStage2.1 with
    | some text =>
      exact ⟨_, (records_companionValidation _ _).coherent h₂ (by decide), List.Subset.refl _⟩
    | none => exact ⟨_, h₂, List.subset_cons_self _ _⟩
  have hnotin : ∀ s ∉ ["companion_validation", "stage2", "stage1", "pdf_load"], s ∉ done :=
    fun s hs hmem => hs (hdone hmem)
  have h₃ : Coherent ("confidence" :: "stage3" :: done) (a.afterConfidence x).2 :=
    (records_confidence _ _ _).coherent
      ((records_stage3 _ _ _ _).coherent hv (hnotin _ (by decide)))
      (by simp [hnotin])
  have h₄ : Coherent ("metadata_write" :: "confidence" :: "stage3" :: done)
      (a.afterMetadataWrite x) := by
    have hfresh : "metadata_write" ∉ "confidence" :: "stage3" :: done := by
      simp [hnotin]
    unfold afterMetadataWrite
    split_ifs
    · exact (records_metadataWrite _ _ _).coherent h₃ hfresh
    · exact (records_skipped _ _ _).coherent h₃ hfresh
  have h₅ : Coherent ("search_index" :: "metadata_write" :: "confidence" :: "stage3" :: done)
      (a.afterSearchIndex x) := by
    have hfresh : "search_index" ∉ "metadata_write" :: "confidence" :: "stage3" :: done := by
      simp [hnotin]
    unfold afterSearchIndex
    cases indexedCompanion? x.wiring a.afterStage2.1 with
    | some companion =>
      exact (records_delivery rfl (by decide) _ _ _ _).coherent h₄ hfresh
    | none => exact (records_skipped _ _ _).coherent h₄ hfresh
  have hfresh : "callback" ∉
      "search_index" :: "metadata_write" :: "confidence" :: "stage3" :: done := by
    simp [hnotin]
  unfold log
  cases notifiedUrl? x.wiring x.callbackUrl with
  | some url => exact ⟨_, (records_delivery rfl (by decide) _ _ _ _).coherent h₅ hfresh⟩
  | none => exact ⟨_, (records_skipped _ _ _).coherent h₅ hfresh⟩

end PipelineAnswers

/-! ### Exceptions of the collaborators -/

/-- The stage a collaborator is called in, as the errors of the trace name it. -/
def Op.stage? : Op → Option String
  | .load _ => some "pdf_load"
  | .extract label _ => some label.stage
  | .generate .. => some "stage2"
  | .validate .. => some "companion_validation"
  | .build .. => some "stage3"
  | .calculate .. => some "confidence"
  | .writeMetadata .. => some "metadata_write"
  | .indexCompanion .. => some "search_index"
  | .notifyCompletion .. => some "callback"
  | _ => none

/-- The errors have an entry for the call, if a collaborator answered it with an exception. -/
def LeavesEntry (errors : List TraceError) (c : Call) : Prop :=
  ∀ stage exc, c.1.stage? = some stage → c.2 = .error exc → ⟨stage, formatError exc⟩ ∈ errors

/-- A call of no collaborator. -/
theorem leavesEntry_of_none {errors : List TraceError} {op : Op} (h : op.stage? = none)
    (r : Except PyException op.Res) : LeavesEntry errors ⟨op, r⟩ := by
  intro stage exc hstage
  rw [h] at hstage
  cases hstage

/-- A call whose exception is entered. -/
theorem leavesEntry_of_raised {errors : List TraceError} {op : Op} {stage : String}
    (hstage : op.stage? = some stage) {r : Except PyException op.Res}
    (h : ∀ exc, r = .error exc → ⟨stage, formatError exc⟩ ∈ errors) :
    LeavesEntry errors ⟨op, r⟩ := by
  intro stage' exc hstage' hexc
  obtain rfl := Option.some.inj (hstage.symm.trans hstage')
  exact h exc hexc

/-- A stage that calls a collaborator and reads the clock. -/
theorem leavesEntry_of_timed {errors : List TraceError} {op : Op} {r : Except PyException op.Res}
    {ms : ℤ} {c : Call} (hc : c ∈ ([⟨op, r⟩, ⟨.elapsedMs, .ok ms⟩] : List Call))
    (h : LeavesEntry errors ⟨op, r⟩) : LeavesEntry errors c := by
  simp only [List.mem_cons, List.not_mem_nil, or_false] at hc
  rcases hc with rfl | rfl
  · exact h
  · exact leavesEntry_of_none rfl _

theorem Records.subset {stage : String} {log log' : PipelineLog} (h : Records stage log log') :
    log.traceErrors ⊆ log'.traceErrors := by
  obtain ⟨entry, traceErrors, errors, -, htrace, -⟩ := h.entry
  rw [htrace]
  exact List.subset_append_left _ _

/-- An exception of an extractor is entered in Stage 1. -/
theorem mem_traceErrors_recordStage1
    (answers : ExtractorLabel → Except PyException ExtractionResult) (ms : ℤ) (log : PipelineLog)
    {label : ExtractorLabel} {exc : PyException} (h : answers label = .error exc) :
    ⟨label.stage, formatError exc⟩ ∈ (recordStage1 (answers .drawingNumber) (answers .title)
      (answers .documentType) ms log).2.traceErrors := by
  have hmono : ∀ label answer (log : PipelineLog),
      log.traceErrors ⊆ (normalizeExtraction label answer log).2.traceErrors := by
    intro label answer log
    obtain ⟨traceErrors, errors, hlog, -⟩ := normalizeExtraction_snd label answer log
    rw [hlog]
    exact List.subset_append_left _ _
  have hnew : ∀ log : PipelineLog, ⟨label.stage, formatError exc⟩ ∈
      (normalizeExtraction label (answers label) log).2.traceErrors := by
    intro log
    rw [h]
    exact List.mem_append_right _ List.mem_cons_self
  cases label with
  | drawingNumber => exact hmono _ _ _ (hmono _ _ _ (hnew _))
  | title => exact hmono _ _ _ (hnew _)
  | documentType => exact hnew _

namespace PipelineAnswers

variable (a : PipelineAnswers) (x : PipelineInput)

/-- Every exception of a collaborator is entered. -/
theorem leavesEntry_calls : ∀ c ∈ a.calls x, LeavesEntry (a.log x).traceErrors c := by
  have hcallback : (a.afterSearchIndex x).traceErrors ⊆ (a.log x).traceErrors := by
    unfold log
    cases notifiedUrl? x.wiring x.callbackUrl with
    | some url => exact (records_delivery rfl (by decide) _ _ _ _).subset
    | none => exact (records_skipped _ _ _).subset
  have hindex : (a.afterMetadataWrite x).traceErrors ⊆ (a.log x).traceErrors := by
    refine List.Subset.trans ?_ hcallback
    unfold afterSearchIndex
    cases indexedCompanion? x.wiring a.afterStage2.1 with
    | some companion => exact (records_delivery rfl (by decide) _ _ _ _).subset
    | none => exact (records_skipped _ _ _).subset
  have hwrite : (a.afterConfidence x).2.traceErrors ⊆ (a.log x).traceErrors := by
    refine List.Subset.trans ?_ hindex
    unfold afterMetadataWrite
    split_ifs
    · exact (records_metadataWrite _ _ _).subset
    · exact (records_skipped _ _ _).subset
  have hconfidence : (a.afterStage3 x).2.traceErrors ⊆ (a.log x).traceErrors :=
    List.Subset.trans (records_confidence _ _ _).subset hwrite
  have hstage3 : (a.afterValidation x).2.traceErrors ⊆ (a.log x).traceErrors :=
    List.Subset.trans (records_stage3 _ _ _ _).subset hconfidence
  have hvalidation : a.afterStage2.2.traceErrors ⊆ (a.log x).traceErrors := by
    refine List.Subset.trans ?_ hstage3
    unfold afterValidation
    cases validatedText? x.wiring a.afterStage2.1 with
    | some text => exact (records_companionValidation _ _).subset
    | none => exact List.Subset.refl _
  have hstage2 : a.afterStage1.2.traceErrors ⊆ (a.log x).traceErrors :=
    List.Subset.trans (records_stage2 _ _ _).subset hvalidation
  have hstage1 : a.afterPdfLoad.2.traceErrors ⊆ (a.log x).traceErrors :=
    List.Subset.trans (records_stage1 _ _ _ _ _).subset hstage2
  have hextract : ∀ label, LeavesEntry (a.log x).traceErrors
      ⟨.extract label (a.context x), a.extraction label⟩ := fun label =>
    leavesEntry_of_raised rfl fun exc h =>
      hstage2 (mem_traceErrors_recordStage1 a.extraction _ _ h)
  intro c hc
  simp only [calls, stageCalls, List.mem_append] at hc
  rcases hc with (((((((((hc | hc) | hc) | hc) | hc) | hc) | hc) | hc) | hc) | hc) | hc
  · rw [List.mem_singleton.mp hc]
    exact leavesEntry_of_none rfl _
  · refine leavesEntry_of_timed hc (leavesEntry_of_raised rfl fun exc h => hstage1 ?_)
    rw [afterPdfLoad, h]
    exact List.mem_append_right _ List.mem_cons_self
  · simp only [List.mem_cons, List.not_mem_nil, or_false] at hc
    rcases hc with rfl | rfl | rfl | rfl
    · exact hextract .drawingNumber
    · exact hextract .title
    · exact hextract .documentType
    · exact leavesEntry_of_none rfl _
  · refine leavesEntry_of_timed hc (leavesEntry_of_raised rfl fun exc h => hvalidation ?_)
    rw [afterStage2, h]
    exact List.mem_append_right _ List.mem_cons_self
  · rw [validationCalls] at hc
    cases htext : validatedText? x.wiring a.afterStage2.1 with
    | some text =>
      simp only [htext, List.mem_singleton] at hc
      subst hc
      refine leavesEntry_of_raised rfl fun exc h => hstage3 ?_
      rw [afterValidation, htext, h]
      exact List.mem_append_right _ List.mem_cons_self
    | none =>
      simp only [htext, List.not_mem_nil] at hc
  · refine leavesEntry_of_timed hc (leavesEntry_of_raised rfl fun exc h => hconfidence ?_)
    rw [afterStage3, h]
    exact List.mem_append_right _ List.mem_cons_self
  · refine leavesEntry_of_timed hc (leavesEntry_of_raised rfl fun exc h => hwrite ?_)
    rw [afterConfidence, h]
    exact List.mem_append_right _ List.mem_cons_self
  · rw [metadataCalls] at hc
    split_ifs at hc with htier
    · refine leavesEntry_of_timed hc (leavesEntry_of_raised rfl fun exc h => hindex ?_)
      rw [afterMetadataWrite, if_pos htier, h]
      exact List.mem_append_right _ List.mem_cons_self
    · cases hc
  · rw [indexCalls] at hc
    cases hindexed : indexedCompanion? x.wiring a.afterStage2.1 with
    | some companion =>
      simp only [hindexed] at hc
      refine leavesEntry_of_timed hc (leavesEntry_of_raised rfl fun exc h => hcallback ?_)
      rw [afterSearchIndex, hindexed, h]
      exact List.mem_append_right _ List.mem_cons_self
    | none =>
      simp only [hindexed, List.not_mem_nil] at hc
  · rw [callbackCalls] at hc
    cases hurl : notifiedUrl? x.wiring x.callbackUrl with
    | some url =>
      simp only [hurl] at hc
      refine leavesEntry_of_timed hc (leavesEntry_of_raised rfl fun exc h => ?_)
      rw [log, hurl, h]
      exact List.mem_append_right _ List.mem_cons_self
    | none =>
      simp only [hurl, List.not_mem_nil] at hc
  · rw [List.mem_singleton.mp hc]
    exact leavesEntry_of_none rfl _

end PipelineAnswers

/-! ### What a degraded run promises -/

/-- The field an extractor owns. -/
def ExtractionResult.field (e : ExtractionResult) : ExtractorLabel → Option (String ⊕ DocumentType)
  | .drawingNumber => e.drawingNumber.map .inl
  | .title => e.title.map .inl
  | .documentType => e.documentType.map .inr

/-- The confidence of the field an extractor owns. -/
def ExtractionResult.fieldConfidence (e : ExtractionResult) : ExtractorLabel → PyFloat
  | .drawingNumber => e.drawingNumberConfidence
  | .title => e.titleConfidence
  | .documentType => e.documentTypeConfidence

/-- The field of an extractor in the result: what it returned, and null with confidence zero if it
raised. -/
def FieldFrom (result : ExtractionResult) (label : ExtractorLabel) :
    Except PyException ExtractionResult → Prop
  | .ok own =>
    result.field label = own.field label ∧ result.fieldConfidence label = own.fieldConfidence label
  | .error _ => result.field label = none ∧ result.fieldConfidence label = 0

/-- A call of this extractor. -/
def Op.isExtract (label : ExtractorLabel) : Op → Bool
  | .extract label' _ => decide (label' = label)
  | _ => false

/-- A call of the sidecar builder. -/
def Op.isBuild : Op → Bool
  | .build .. => true
  | _ => false

/-- An increment of `extraction_total`. -/
def Op.isCount : Op → Bool
  | .countExtraction _ => true
  | _ => false

/-- What a run that made the calls `trace` promises of its result. -/
structure Degrades (x : PipelineInput) (trace : List Call) (result : PipelineResult) : Prop where
  /-- A stage is recorded as not ok iff the trace has an error of it. -/
  stageOk_iff : ∀ s, stageOk? result.pipelineTrace s = some false ↔
    ∃ e ∈ traceErrorsOf result.pipelineTrace, stageOf e.stage = s
  /-- A collaborator that raised has left its entry in the trace. -/
  raised : ∀ c ∈ trace, LeavesEntry (traceErrorsOf result.pipelineTrace) c
  /-- The pipeline errors are, in order, the trace errors of all stages but the companion
  validation, the indexing and the webhook. -/
  errors : List.Forall₂ Corresponds result.errors
    (pipelineErrorsOf (traceErrorsOf result.pipelineTrace))
  /-- Each extractor is called once, and its field is what it answered. -/
  extractors : ∀ label, ∃ context answer,
    callsOf (Op.isExtract label) trace = [⟨.extract label context, answer⟩] ∧
      FieldFrom result.extractionResult label answer
  /-- There is a sidecar: the one the builder returned, or the empty one if it raised. -/
  sidecar : ∃ extraction companion answer,
    callsOf Op.isBuild trace = [⟨.build extraction companion x.job, answer⟩] ∧
    result.sidecar =
      match answer with
      | .ok sidecar => sidecar
      | .error _ => emptySidecar x.job
  /-- The run is counted once. -/
  counted : (callsOf Op.isCount trace).length = 1

theorem fieldFrom_recordStage1
    (answers : ExtractorLabel → Except PyException ExtractionResult) (ms : ℤ) (log : PipelineLog)
    (label : ExtractorLabel) :
    FieldFrom (recordStage1 (answers .drawingNumber) (answers .title) (answers .documentType) ms
      log).1 label (answers label) := by
  cases label with
  | drawingNumber => cases h : answers .drawingNumber <;> exact ⟨rfl, rfl⟩
  | title => cases h : answers .title <;> exact ⟨rfl, rfl⟩
  | documentType => cases h : answers .documentType <;> exact ⟨rfl, rfl⟩

/-- Score and tier do not touch the fields. -/
theorem FieldFrom.assess {result : ExtractionResult} {label : ExtractorLabel}
    {answer : Except PyException ExtractionResult} (h : FieldFrom result label answer)
    (assessment : ConfidenceAssessment) : FieldFrom (result.assess assessment) label answer := by
  cases label <;> cases answer <;> exact h

/-- Each extractor is called once, with the context of the run. -/
theorem PipelineAnswers.callsOf_extract (a : PipelineAnswers) (x : PipelineInput)
    (label : ExtractorLabel) : callsOf (Op.isExtract label) (a.calls x) =
      [⟨.extract label (a.context x), a.extraction label⟩] := by
  rw [a.callsOf_calls x (fun _ _ => rfl) (fun _ _ _ _ => rfl) (fun _ _ _ _ => rfl)
    (fun _ _ _ => rfl) rfl rfl]
  cases label <;> rfl

theorem PipelineAnswers.degrades (a : PipelineAnswers) (x : PipelineInput) :
    Degrades x (a.calls x) (a.result x) := by
  obtain ⟨done, hlog⟩ := a.coherent_log x
  have htrace : traceErrorsOf (a.result x).pipelineTrace = (a.log x).traceErrors :=
    traceErrorsOf_pipelineTrace _
  refine ⟨fun s => ?_, ?_, ?_, fun label => ?_, ?_, ?_⟩
  · rw [htrace]
    exact hlog.ok_iff s
  · rw [htrace]
    exact a.leavesEntry_calls x
  · rw [htrace]
    exact hlog.errors
  · exact ⟨a.context x, a.extraction label, a.callsOf_extract x label,
      (fieldFrom_recordStage1 a.extraction a.stage1Ms a.afterPdfLoad.2 label).assess _⟩
  · refine ⟨a.afterStage1.1, a.afterStage2.1, a.sidecar, ?_, ?_⟩
    · rw [a.callsOf_calls x (fun _ _ => rfl) (fun _ _ _ _ => rfl) (fun _ _ _ _ => rfl)
        (fun _ _ _ => rfl) rfl rfl]
      rfl
    · show (recordStage3 x.job a.sidecar a.stage3Ms (a.afterValidation x).2).1 = _
      cases a.sidecar <;> rfl
  · rw [a.callsOf_calls x (fun _ _ => rfl) (fun _ _ _ _ => rfl) (fun _ _ _ _ => rfl)
      (fun _ _ _ => rfl) rfl rfl]
    rfl

/-- **Pipeline degradation.** Whatever the collaborators answer, a value or an exception each, a
run of the pipeline returns and does not raise, and its result keeps the promises of
`Degrades`. -/
theorem runPipeline_degrades {σ : Type}
    (answer : (op : Op) → σ → Except PyException op.Res × σ)
    (hanswer : ∀ op s, Answered op (answer op s).1) (x : PipelineInput) (s : σ) :
    ∃ result, (Program.run (S := services) answer x.run s).1 = .ok result ∧
      Degrades x (Program.trace (S := services) answer x.run s) result := by
  have h := (runPipeline_safe x).run (I := fun _ => True) (fun op s _ => hanswer op s)
    (fun _ _ _ _ _ => trivial) (s := s) trivial
  obtain ⟨a, hcalls, hresult⟩ := h.2
  refine ⟨a.result x, hresult, ?_⟩
  rw [List.nil_append] at hcalls
  rw [hcalls]
  exact a.degrades x

/-- A run whose drawing-number extractor raises and whose ChromaDB write is refused. -/
def degradedEnv : Env :=
  { Env.calm 0 .auto with
    wrote := false
    fault? := fun op =>
      if op.isExtract .drawingNumber then some (.before (.error "RuntimeError" "model offline"))
      else none }

/-- A run without optional collaborators. -/
def plainInput : PipelineInput where
  wiring := ⟨false, false, false⟩
  job := ⟨2, 1, "plan.pdf", "9f86d081", "", .processing, none, none, none, none, none, 0, 0, none,
    none⟩
  pdfBytes := []
  deploymentId := none
  nodeId := none
  callbackUrl := none
  apiKey := ""

theorem runPipeline_degrades_plain : ∃ result,
    (Program.run (S := services) (answer degradedEnv) plainInput.run World.empty).1 = .ok result ∧
      Degrades plainInput
        (Program.trace (S := services) (answer degradedEnv) plainInput.run World.empty) result :=
  runPipeline_degrades (answer degradedEnv) (answered_answer degradedEnv) plainInput World.empty

end ZubotIngestion
