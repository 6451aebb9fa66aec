import ZubotIngestion.Domain.Pipeline.Reported
import ZubotIngestion.Services.Completeness
import ZubotIngestion.Services.SidecarAgreement

/-!
# Confidences in the unit interval

A run of the pipeline with the extractors, the sidecar builder and the calculator of this
repository, and the calls that each extractor has made in it. Every confidence of its result is a
number of the unit interval, or NaN; and NaN comes from the models alone, on the paths on which it
passes the extractors.

## Main definitions

* `ConfidencesInUnit`.
* `RealRun`: a run with the calls of its extractors.

## Main results

* `exists_realRun`: every environment gives such a run.
* `confidencesInUnit_iff`: when its confidences are in the unit interval.
-/

namespace ZubotIngestion

open Effects

/-- Every confidence that a run reports is in the unit interval. -/
structure ConfidencesInUnit (result : PipelineResult) : Prop where
  drawingNumber : result.extractionResult.drawingNumberConfidence.InUnit
  title : result.extractionResult.titleConfidence.InUnit
  documentType : result.extractionResult.documentTypeConfidence.InUnit
  overall : result.confidenceAssessment.overallConfidence.InUnit
  sidecar : ∃ c, result.sidecar.metadataAttributes.get? "extraction_confidence" =
    some (.float c) ∧ c.InUnit

/-- A run with the real extractors, the real sidecar builder and the real calculator. -/
structure RealRun (py : StrMethods) (schemaError? : Dict → Option String)
    (x : PipelineInput) where
  calls : List Call
  result : PipelineResult
  /-- The calls of each extractor. -/
  sourceCalls : ExtractorLabel → List (Event sources PyException)
  runs : x.run.Runs calls (.ok result)
  answered : ∀ c ∈ calls, Answered c.1 c.2
  built : ∀ c ∈ calls, Built schemaError? c.1 c.2
  extracted : ∀ (label : ExtractorLabel) (context : PipelineContext)
    (r : Except PyException ExtractionResult), ⟨.extract label context, r⟩ ∈ calls →
      (extractor py label context).Runs (sourceCalls label) r

/-! ### Numbers -/

theorem PyFloat.IsUnit.inUnit_iff {c : PyFloat} (h : c.IsUnit) : c.InUnit ↔ c ≠ .nan := by
  rcases h with rfl | ⟨q, rfl, h₀, h₁⟩
  · exact iff_of_false (fun h => not_le_nan 0 h.1) fun h => h rfl
  · exact iff_of_true ⟨fin_le_fin.mpr h₀, fin_le_fin.mpr h₁⟩ PyFloat.noConfusion

/-- The clamp of anything but NaN. -/
theorem inUnit_clampUnit {c : PyFloat} (h : c ≠ .nan) : c.clampUnit.InUnit :=
  (PyFloat.isUnit_clampUnit c).inUnit_iff.mpr (mt clampUnit_eq_nan.mp h)

/-- The weighted sum of numbers is a number. -/
theorem weightedSum_ne_nan {e : ExtractionResult} (hdrawing : e.drawingNumberConfidence.InUnit)
    (htitle : e.titleConfidence.InUnit) (htype : e.documentTypeConfidence.InUnit)
    (validation : Option ValidationResult) : weightedSum e validation ≠ .nan := by
  have hfin {c : PyFloat} (h : c.InUnit) : ∃ q, c = .fin q := by
    obtain ⟨h₀, h₁⟩ := h
    cases c with
    | fin q => exact ⟨q, rfl⟩
    | nan => exact absurd h₁ Bool.false_ne_true
    | inf => exact absurd h₁ Bool.false_ne_true
    | negInf => exact absurd h₀ Bool.false_ne_true
  obtain ⟨d, hd⟩ := hfin hdrawing
  obtain ⟨t, ht⟩ := hfin htitle
  obtain ⟨y, hy⟩ := hfin htype
  obtain ⟨q, hq, -⟩ := weightedSum_fin hd ht hy validation
  rw [hq]
  exact PyFloat.noConfusion

/-! ### The extractions of a run -/

/-- A call that is the only one selected. -/
theorem mem_of_callsOf_eq_singleton {p : Op → Bool} {calls : List Call} {c : Call}
    (h : callsOf p calls = [c]) : c ∈ calls := by
  have hmem : c ∈ callsOf p calls := by
    rw [h]
    exact List.mem_singleton_self c
  exact List.mem_of_mem_filter hmem

/-- A confidence is NaN just if the extractor has returned it so. -/
theorem FieldFrom.nan_iff {result : ExtractionResult} {label : ExtractorLabel}
    {answer : Except PyException ExtractionResult} (h : FieldFrom result label answer) :
    result.fieldConfidence label = .nan ↔
      ∃ own, answer = .ok own ∧ own.fieldConfidence label = .nan := by
  cases answer with
  | ok own =>
    rw [h.2]
    constructor
    · exact fun hnan => ⟨own, rfl, hnan⟩
    · rintro ⟨own', hown, hnan⟩
      rwa [Except.ok.inj hown]
  | error exc =>
    rw [h.2]
    refine iff_of_false PyFloat.noConfusion ?_
    rintro ⟨own, hown, -⟩
    cases hown

/-- The outcome of a function of the result, where the confidence is NaN. -/
theorem exists_ok_nan_iff {α : Type} {field : ExtractionResult → α × PyFloat}
    {answer : Except PyException ExtractionResult} {outcome : Except PyException (α × PyFloat)}
    (h : answer.map field = outcome) :
    (∃ own, answer = .ok own ∧ (field own).2 = .nan) ↔
      ∃ value, outcome = .ok (value, .nan) := by
  subst h
  constructor
  · rintro ⟨own, rfl, hnan⟩
    exact ⟨(field own).1, congrArg Except.ok (Prod.ext rfl hnan)⟩
  · rintro ⟨value, hvalue⟩
    cases answer with
    | error exc => cases hvalue
    | ok own => exact ⟨own, rfl, congrArg Prod.snd (Except.ok.inj hvalue)⟩

namespace RealRun

variable {py : StrMethods} {schemaError? : Dict → Option String} {x : PipelineInput}
  (run : RealRun py schemaError? x)

/-- The run is that of what its collaborators have answered. -/
theorem exists_answers : ∃ a : PipelineAnswers,
    run.calls = a.calls x ∧ run.result = a.result x := by
  obtain ⟨a, hcalls, hresult⟩ := (runPipeline_safe x).of_runs run.runs run.answered
  exact ⟨a, hcalls, Except.ok.inj hresult⟩

/-- Each field is what its extractor has answered after its calls. -/
theorem extraction (label : ExtractorLabel) : ∃ context answer,
    (extractor py label context).Runs (run.sourceCalls label) answer ∧
      FieldFrom run.result.extractionResult label answer := by
  obtain ⟨a, hcalls, hresult⟩ := run.exists_answers
  obtain ⟨context, answer, hextract, hfield⟩ := (a.degrades x).extractors label
  refine ⟨context, answer, run.extracted label context answer ?_, hresult ▸ hfield⟩
  rw [hcalls]
  exact mem_of_callsOf_eq_singleton hextract

/-- Every confidence in a field is a number of the unit interval, or NaN. -/
theorem isUnit_fieldConfidence (label : ExtractorLabel) :
    (run.result.extractionResult.fieldConfidence label).IsUnit := by
  obtain ⟨context, answer, hruns, hfield⟩ := run.extraction label
  cases answer with
  | error exc =>
    rw [hfield.2]
    exact PyFloat.isUnit_zero
  | ok own =>
    rw [hfield.2]
    have hscored := scoresOwn_of_runs hruns
    cases label with
    | drawingNumber =>
      refine hscored.bounded.imp_right ?_
      rintro ⟨q, hq, h₀, h₁⟩
      exact ⟨q, hq, h₀, h₁.trans (by norm_num)⟩
    | title => exact hscored.bounded
    | documentType => exact hscored.bounded

/-- The confidence in the drawing number is a number of the unit interval. -/
theorem inUnit_drawingNumber : run.result.extractionResult.drawingNumberConfidence.InUnit := by
  refine (run.isUnit_fieldConfidence .drawingNumber).inUnit_iff.mpr fun hnan => ?_
  obtain ⟨context, answer, hruns, hfield⟩ := run.extraction .drawingNumber
  obtain ⟨own, rfl, hown⟩ := hfield.nan_iff.mp hnan
  exact (extractDrawingNumber_ne_nan py context).of_runs hruns (fun _ _ => trivial) own rfl hown

/-- The confidence in the title is NaN just if the answers of the models make it NaN. -/
theorem inUnit_title_iff : run.result.extractionResult.titleConfidence.InUnit ↔
    ¬ TitleNan py (visionAnswer? (run.sourceCalls .title))
      (textAnswer? (run.sourceCalls .title)) := by
  obtain ⟨context, answer, hruns, hfield⟩ := run.extraction .title
  refine (run.isUnit_fieldConfidence .title).inUnit_iff.trans (not_congr ?_)
  rw [hfield.nan_iff, ← titleOutcome_nan_iff]
  exact exists_ok_nan_iff (runs_extractTitle hruns)

/-- The confidence in the document type is NaN just if the answer of the model makes it NaN. -/
theorem inUnit_documentType_iff : run.result.extractionResult.documentTypeConfidence.InUnit ↔
    ¬ DocumentTypeNan py (textAnswer? (run.sourceCalls .documentType)) := by
  obtain ⟨context, answer, hruns, hfield⟩ := run.extraction .documentType
  refine (run.isUnit_fieldConfidence .documentType).inUnit_iff.trans (not_congr ?_)
  rw [hfield.nan_iff, ← documentTypeOutcome_nan_iff]
  exact exists_ok_nan_iff (runs_extractDocumentType hruns)

/-- If those of the fields are, the overall confidence and that of the sidecar are in the unit
interval. -/
theorem confidencesInUnit
    (htitle : run.result.extractionResult.titleConfidence.InUnit)
    (htype : run.result.extractionResult.documentTypeConfidence.InUnit) :
    ConfidencesInUnit run.result := by
  have hdrawing := run.inUnit_drawingNumber
  obtain ⟨a, hcalls, hresult⟩ := run.exists_answers
  have hbuilt : ∀ c ∈ a.calls x, Built schemaError? c.1 c.2 := hcalls ▸ run.built
  have hsum (validation : Option ValidationResult) :
      weightedSum a.afterStage1.1 validation ≠ .nan := by
    rw [hresult] at hdrawing htitle htype
    exact weightedSum_ne_nan hdrawing htitle htype validation
  refine ⟨hdrawing, htitle, htype, ?_, ?_⟩
  · rw [hresult, PipelineAnswers.confidenceAssessment_eq hbuilt]
    exact inUnit_clampUnit (hsum _)
  · rw [hresult]
    rcases PipelineAnswers.extractionConfidence_cases hbuilt with hstated | ⟨hempty, -⟩
    · exact ⟨_, hstated, inUnit_clampUnit (hsum none)⟩
    · exact ⟨0, hempty, PyFloat.isUnit_zero.inUnit_iff.mpr PyFloat.noConfusion⟩

end RealRun

/-- The confidences of a run are in the unit interval unless a model reports NaN where NaN passes:
with a title, of the vision model or of the text model, that is not fused with an agreeing title of
the vision model; or with a document type. -/
theorem confidencesInUnit_iff {py : StrMethods} {schemaError? : Dict → Option String}
    {x : PipelineInput} (run : RealRun py schemaError? x) :
    ConfidencesInUnit run.result ↔
      ¬ TitleNan py (visionAnswer? (run.sourceCalls .title))
          (textAnswer? (run.sourceCalls .title)) ∧
        ¬ DocumentTypeNan py (textAnswer? (run.sourceCalls .documentType)) := by
  rw [← run.inUnit_title_iff, ← run.inUnit_documentType_iff]
  constructor
  · exact fun h => ⟨h.title, h.documentType⟩
  · rintro ⟨htitle, htype⟩
    exact run.confidencesInUnit htitle htype

/-! ### Runs in an environment -/

section Environments

variable {σ : Type} (py : StrMethods) (schemaError? : Dict → Option String)
  (source : (op : SourceOp) → σ → Except PyException op.Res × σ)
  {answer : (op : Op) → σ → Except PyException op.Res × σ}

/-- An extraction is the outcome of its extractor with these sources. -/
def Extracts : (op : Op) → Except PyException op.Res → Prop
  | .extract label context, r =>
    ∃ s, r = (Program.run (S := sources) source (extractor py label context) s).1
  | _, _ => True

/-- What the real extractors, builder and calculator answer. -/
def BuiltFrom (op : Op) (r : Except PyException op.Res) : Prop :=
  Built schemaError? op r ∧ Extracts py source op r

/-- The calls are those of an extractor with these sources. -/
def CallsFrom (label : ExtractorLabel) (t : List (Event sources PyException)) : Prop :=
  ∃ context s, t = Program.trace (S := sources) source (extractor py label context) s

/-- Each extractor is called once, so the calls it makes are determined by its label. -/
theorem PipelineAnswers.exists_sourceCalls {a : PipelineAnswers} {x : PipelineInput}
    (h : ∀ c ∈ a.calls x, Extracts py source c.1 c.2) (label : ExtractorLabel) :
    ∃ t, CallsFrom py source label t ∧
      ∀ (context : PipelineContext) (r : Except PyException ExtractionResult),
        ⟨.extract label context, r⟩ ∈ a.calls x → (extractor py label context).Runs t r := by
  obtain ⟨context, answer, hextract, -⟩ := (a.degrades x).extractors label
  obtain ⟨s, rfl⟩ : ∃ s, answer =
      (Program.run (S := sources) source (extractor py label context) s).1 :=
    h _ (mem_of_callsOf_eq_singleton hextract)
  refine ⟨_, ⟨context, s, rfl⟩, fun context' r hr => ?_⟩
  have hmem : (⟨.extract label context', r⟩ : Call) ∈
      callsOf (Op.isExtract label) (a.calls x) :=
    List.mem_filter.mpr ⟨hr, by simp [Op.isExtract]⟩
  rw [hextract, List.mem_singleton] at hmem
  cases hmem
  exact Program.runs_run (S := sources) source _ s

theorem realAnswer_built_spec (hanswer : ∀ op s, Answered op (answer op s).1)
    (hextract : ∀ label context s, ∃ own, (answer (.extract label context) s).1 = .ok own)
    (op : Op) (s : σ) :
    Answered op (realAnswer py source (builtAnswer schemaError? answer) op s).1 ∧
      BuiltFrom py schemaError? source op
        (realAnswer py source (builtAnswer schemaError? answer) op s).1 := by
  cases op with
  | extract label context =>
    refine ⟨fun h => absurd h Bool.false_ne_true, trivial, ?_⟩
    obtain ⟨own, hown⟩ := hextract label context s
    rcases hanswered : answer (.extract label context) s with ⟨exc | own', s'⟩
    · rw [hanswered] at hown
      cases hown
    · refine ⟨s', ?_⟩
      simp only [realAnswer, builtAnswer, hanswered]
      rfl
  | build extraction companion job => exact ⟨fun h => absurd h Bool.false_ne_true, rfl, trivial⟩
  | calculate extraction validation => exact ⟨fun _ => ⟨_, rfl⟩, rfl, trivial⟩
  | _ => exact ⟨hanswer _ s, trivial, trivial⟩

/-- Where the sources of the extractors and the other collaborators are given, so is a run. -/
theorem exists_realRun (hanswer : ∀ op s, Answered op (answer op s).1)
    (hextract : ∀ label context s, ∃ own, (answer (.extract label context) s).1 = .ok own)
    (x : PipelineInput) (s : σ) : ∃ run : RealRun py schemaError? x,
      (Program.run (S := services) (realAnswer py source (builtAnswer schemaError? answer)) x.run
        s).1 = .ok run.result ∧ ∀ label, CallsFrom py source label (run.sourceCalls label) := by
  have hspec := realAnswer_built_spec py schemaError? source hanswer hextract
  obtain ⟨a, htrace, hresult, hreal⟩ := runPipeline_answers hspec x s
  choose sourceCalls hfrom hruns using
    PipelineAnswers.exists_sourceCalls py source (fun c hc => (hreal c hc).2)
  have hrun : x.run.Runs (a.calls x) (.ok (a.result x)) := by
    rw [← htrace, ← hresult]
    exact Program.runs_run (S := services) _ x.run s
  have hanswered : ∀ c ∈ a.calls x, Answered c.1 c.2 := by
    rw [← htrace]
    exact Program.forall_trace (S := services) _ (fun op s => (hspec op s).1) x.run s
  exact ⟨⟨a.calls x, a.result x, sourceCalls, hrun, hanswered, fun c hc => (hreal c hc).1,
    hruns⟩, hresult, hfrom⟩

end Environments

/-! ### A document type with confidence NaN -/

/-- String methods on texts that they leave as they are. -/
def plainMethods : StrMethods := ⟨id, id, fun _ => none, fun _ => ""⟩

/-- What the text model answers about the document type. -/
def nanResponse : String := "\x7b\"document_type\": \"floor_plan\", \"confidence\": NaN\x7d"

/-- Only the text model finds something: the document type, with confidence `NaN`. -/
def nanSource (op : SourceOp) (w : World) : Except PyException op.Res × World :=
  match op with
  | .renderFirstPage _ => (.error (.error "PDFLoadError" "cannot render"), w)
  | .extractText _ => (.ok "GROUND FLOOR PLAN", w)
  | .generateVision .. => (.error (.error "OllamaError" "model offline"), w)
  | .generateText _ prompt =>
    (if prompt = .documentTypeText then .ok nanResponse
      else .error (.error "OllamaError" "model offline"), w)
  | .parseFilename _ => (.ok none, w)
  | .parseResponse .. =>
    (.ok [("document_type", .str "floor_plan"), ("confidence", .float .nan)], w)

theorem ok_extract_calm (label : ExtractorLabel) (context : PipelineContext) (w : World) :
    ∃ own, (answer (.calm 0 .auto) (.extract label context) w).1 = .ok own :=
  ⟨_, rfl⟩

theorem confidencesInUnit_iff_nanSource :
    ∃ run : RealRun plainMethods (fun _ => none) plainInput,
      ConfidencesInUnit run.result ↔
        ¬ TitleNan plainMethods (visionAnswer? (run.sourceCalls .title))
            (textAnswer? (run.sourceCalls .title)) ∧
          ¬ DocumentTypeNan plainMethods (textAnswer? (run.sourceCalls .documentType)) := by
  obtain ⟨run, -⟩ := exists_realRun plainMethods (fun _ => none) nanSource
    (answered_answer (.calm 0 .auto)) ok_extract_calm plainInput World.empty
  exact ⟨run, confidencesInUnit_iff run⟩

/-- The document type of that run is reported with NaN. -/
theorem not_confidencesInUnit_nanSource :
    ¬ ∀ run : RealRun plainMethods (fun _ => none) plainInput, ConfidencesInUnit run.result := by
  intro hall
  obtain ⟨run, -, hfrom⟩ := exists_realRun plainMethods (fun _ => none) nanSource
    (answered_answer (.calm 0 .auto)) ok_extract_calm plainInput World.empty
  obtain ⟨context, w, hcalls⟩ := hfrom .documentType
  refine run.inUnit_documentType_iff.mp (hall run).documentType ?_
  rw [hcalls]
  exact ⟨[("document_type", .str "floor_plan"), ("confidence", .float .nan)], rfl, rfl, rfl⟩

end ZubotIngestion
