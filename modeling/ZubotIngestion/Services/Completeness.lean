import ZubotIngestion.Domain.Pipeline.DocumentTypeExtractor
import ZubotIngestion.Effects.Trace
import ZubotIngestion.Services.Degradation

/-!
# Tiers certify completeness

A run of the pipeline with the extractors and the calculator of this repository. Whatever the
sources answer, each extractor scores its field: zero if it is missing, and at most its bound
otherwise. An extractor that raises is replaced by an empty result, which is scored too. So the
tier of every run tells how many fields were found.

## Main definitions

* `realAnswer`: the environment of the pipeline with the real extractors and calculator.
* `RealAnswer`: what their answers satisfy.

## Main results

* `realAnswer_spec`: the real collaborators answer so.
* `tiers_certify_completeness`: `AUTO` has all three fields, and `SPOT` at least two.
-/

namespace ZubotIngestion

open Effects

/-- The extractor of a label. -/
def extractor (py : StrMethods) : ExtractorLabel → PipelineContext → Extraction ExtractionResult
  | .drawingNumber => extractDrawingNumber py
  | .title => extractTitle py
  | .documentType => extractDocumentType py

section Real

variable {σ : Type} (py : StrMethods)
  (source : (op : SourceOp) → σ → Except PyException op.Res × σ)
  (answer : (op : Op) → σ → Except PyException op.Res × σ)

/-- The environment of a run with the real extractors and the real calculator. `source` answers
what the extractors call, `answer` everything else; where it raises for an extractor, so does the
extractor. -/
def realAnswer : (op : Op) → σ → Except PyException op.Res × σ
  | .extract label context, s =>
    match answer (.extract label context) s with
    | (.error exc, s') => (.error exc, s')
    | (.ok _, s') => Program.run (S := sources) source (extractor py label context) s'
  | .calculate extraction validation, s => (.ok (calculate extraction validation), s)
  | op, s => answer op s

end Real

/-! ### What the real collaborators answer -/

/-- The field an extractor owns is scored. -/
def ScoresOwn (own : ExtractionResult) : ExtractorLabel → Prop
  | .drawingNumber =>
    ScoredField own.drawingNumber.isSome own.drawingNumberConfidence (95 / 100)
  | .title => ScoredField own.title.isSome own.titleConfidence 1
  | .documentType => ScoredField own.documentType.isSome own.documentTypeConfidence 1

/-- An extractor scores its own field, and the calculator calculates. -/
def RealAnswer : (op : Op) → Except PyException op.Res → Prop
  | .extract label _, r => ∀ own, r = .ok own → ScoresOwn own label
  | .calculate extraction validation, r => r = .ok (calculate extraction validation)
  | _, _ => True

/-- An extractor scores its own field, whatever its sources answer. -/
theorem scoresOwn_of_runs {py : StrMethods} {label : ExtractorLabel} {context : PipelineContext}
    {t : List (Event sources PyException)} {own : ExtractionResult}
    (h : (extractor py label context).Runs t (.ok own)) : ScoresOwn own label := by
  cases label with
  | drawingNumber =>
    exact (extractDrawingNumber_safe py context).of_runs h (fun _ _ => trivial) own rfl
  | title => exact (extractTitle_safe py context).of_runs h (fun _ _ => trivial) own rfl
  | documentType =>
    exact (extractDocumentType_safe py context).of_runs h (fun _ _ => trivial) own rfl

/-- Every run of an extractor scores its own field. -/
theorem extractor_scoresOwn {σ : Type} (py : StrMethods)
    (source : (op : SourceOp) → σ → Except PyException op.Res × σ) (label : ExtractorLabel)
    (context : PipelineContext) (s : σ) {own : ExtractionResult}
    (h : (Program.run (S := sources) source (extractor py label context) s).1 = .ok own) :
    ScoresOwn own label :=
  scoresOwn_of_runs (h ▸ Program.runs_run (S := sources) source _ s)

theorem realAnswer_spec {σ : Type} (py : StrMethods)
    (source : (op : SourceOp) → σ → Except PyException op.Res × σ)
    {answer : (op : Op) → σ → Except PyException op.Res × σ}
    (hanswer : ∀ op s, Answered op (answer op s).1) (op : Op) (s : σ) :
    Answered op (realAnswer py source answer op s).1 ∧
      RealAnswer op (realAnswer py source answer op s).1 := by
  cases op with
  | extract label context =>
    refine ⟨fun h => absurd h Bool.false_ne_true, fun own hown => ?_⟩
    simp only [realAnswer] at hown
    rcases hraised : answer (.extract label context) s with ⟨exc | own', s'⟩
    · rw [hraised] at hown
      cases hown
    · rw [hraised] at hown
      exact extractor_scoresOwn py source label context s' hown
  | calculate extraction validation => exact ⟨fun _ => ⟨_, rfl⟩, rfl⟩
  | _ => exact ⟨hanswer _ s, trivial⟩

/-! ### The tier of a run -/

/-- A result without a field is scored. -/
theorem scoresOwn_empty (label : ExtractorLabel) : ScoresOwn emptyExtractionResult label := by
  cases label with
  | drawingNumber => exact scoredField_zero _ (by norm_num)
  | title => exact scoredField_zero _ zero_le_one
  | documentType => exact scoredField_zero _ zero_le_one

/-- An extractor that raised is replaced by the empty result, which is scored. -/
theorem scoresOwn_normalizeExtraction {label : ExtractorLabel}
    {answer : Except PyException ExtractionResult}
    (h : ∀ own, answer = .ok own → ScoresOwn own label) (log : PipelineLog) :
    ScoresOwn (normalizeExtraction label answer log).1 label := by
  cases answer with
  | ok own => exact h own rfl
  | error exc => exact scoresOwn_empty label

/-- Stage 1 keeps the scores of the extractors. -/
theorem PipelineAnswers.scoresOwn_afterStage1 {a : PipelineAnswers}
    (h : ∀ label own, a.extraction label = .ok own → ScoresOwn own label)
    (label : ExtractorLabel) : ScoresOwn a.afterStage1.1 label := by
  cases label with
  | drawingNumber => exact scoresOwn_normalizeExtraction (h .drawingNumber) _
  | title => exact scoresOwn_normalizeExtraction (h .title) _
  | documentType => exact scoresOwn_normalizeExtraction (h .documentType) _

/-- The tier of a run with real collaborators certifies its extraction result. -/
theorem PipelineAnswers.certifies_result {a : PipelineAnswers} {x : PipelineInput}
    (hreal : ∀ c ∈ a.calls x, RealAnswer c.1 c.2) :
    Certifies (a.result x).extractionResult (a.result x).confidenceAssessment.tier := by
  have hextract : ∀ label own, a.extraction label = .ok own → ScoresOwn own label :=
    fun label => hreal _ (mem_calls_extract label)
  have htier : (a.result x).confidenceAssessment =
      calculate a.afterStage1.1 (a.afterValidation x).1 :=
    confidenceAssessment_of_ok (hreal _ mem_calls_calculate)
  rw [htier]
  exact calculate_certifies (e := a.afterStage1.1) (a.afterValidation x).1
    (scoresOwn_afterStage1 hextract .drawingNumber) (scoresOwn_afterStage1 hextract .title)
    (scoresOwn_afterStage1 hextract .documentType)

theorem fieldCount_eq_three {e : ExtractionResult} : e.fieldCount = 3 ↔
    e.drawingNumber.isSome = true ∧ e.title.isSome = true ∧ e.documentType.isSome = true := by
  rw [ExtractionResult.fieldCount]
  cases e.drawingNumber.isSome <;> cases e.title.isSome <;> cases e.documentType.isSome <;> decide

/-- **Confidence tiers certify completeness.** Whatever the sources of the extractors answer, and
whatever the other collaborators do, a run of the pipeline returns; its tier is `AUTO` only if all
three fields were found, and `SPOT` only if at least two were. -/
theorem tiers_certify_completeness {σ : Type} (py : StrMethods)
    (source : (op : SourceOp) → σ → Except PyException op.Res × σ)
    (answer : (op : Op) → σ → Except PyException op.Res × σ)
    (hanswer : ∀ op s, Answered op (answer op s).1) (x : PipelineInput) (s : σ) :
    ∃ result,
      (Program.run (S := services) (realAnswer py source answer) x.run s).1 = .ok result ∧
      (result.confidenceAssessment.tier = .auto →
        result.extractionResult.drawingNumber.isSome = true ∧
          result.extractionResult.title.isSome = true ∧
          result.extractionResult.documentType.isSome = true) ∧
      (result.confidenceAssessment.tier = .spot → 2 ≤ result.extractionResult.fieldCount) := by
  obtain ⟨a, -, hresult, hreal⟩ :=
    runPipeline_answers (fun op s => realAnswer_spec py source hanswer op s) x s
  have hcertifies := a.certifies_result hreal
  refine ⟨a.result x, hresult, fun htier => ?_, fun htier => ?_⟩
  · rw [htier] at hcertifies
    exact fieldCount_eq_three.mp hcertifies
  · rw [htier] at hcertifies
    exact hcertifies

/-- The string methods on ASCII text. -/
def asciiMethods : StrMethods where
  upper text := text.map Char.toUpper
  lower text := text.map Char.toLower
  float? _ := none
  str _ := ""

/-- Sources that agree about a ground floor plan. -/
def agreeingSource (op : SourceOp) (w : World) : Except PyException op.Res × World :=
  match op with
  | .renderFirstPage _ => (.ok "/9j/4AAQ", w)
  | .extractText _ => (.ok "A-101 GROUND FLOOR PLAN", w)
  | .generateVision .. => (.ok "vision", w)
  | .generateText .. => (.ok "text", w)
  | .parseFilename _ => (.ok (some "a-101"), w)
  | .parseResponse .. =>
    (.ok [("drawing_number", .str "A-101"), ("title", .str "GROUND FLOOR PLAN"),
      ("document_type", .str "floor_plan"), ("confidence", .float (.fin (9 / 10)))], w)

theorem tiers_certify_completeness_agreeing : ∃ result,
    (Program.run (S := services)
      (realAnswer asciiMethods agreeingSource (answer (.calm 0 .auto))) plainInput.run
        World.empty).1 = .ok result ∧
    (result.confidenceAssessment.tier = .auto →
      result.extractionResult.drawingNumber.isSome = true ∧
        result.extractionResult.title.isSome = true ∧
        result.extractionResult.documentType.isSome = true) ∧
    (result.confidenceAssessment.tier = .spot → 2 ≤ result.extractionResult.fieldCount) :=
  tiers_certify_completeness asciiMethods agreeingSource (answer (.calm 0 .auto))
    (answered_answer (.calm 0 .auto)) plainInput World.empty

end ZubotIngestion
