import ZubotIngestion.Domain.Pipeline.Title

/-!
# The document-type extractor

`extractors/document_type.py`: the text model classifies the document. A text outside the
vocabulary falls back to `DOCUMENT`, with the reported confidence capped.

## Main definitions

* `coerceDocumentType`, `documentTypeConfidence`.
* `extractDocumentType`.

## Main results

* `extractDocumentType_coerced`: what every run of the extractor reports.
* `extractDocumentType_safe`: the document type is scored.
-/

namespace ZubotIngestion

open Effects

/-- `_DOCUMENT_TYPE_SCHEMA`. -/
def documentTypeSchema : Dict := [("document_type", .none), ("confidence", .float 0)]

/-- `_FALLBACK_CONFIDENCE`. -/
def fallbackConfidence : PyFloat := .fin (30 / 100)

/-- `_coerce_document_type` of a text. -/
def documentTypeOfText (py : StrMethods) (text : String) : Option DocumentType × Bool :=
  match orNone (py.lower (strip text)) with
  | none => (none, false)
  | some candidate =>
    match DocumentType.ofValue? candidate with
    | some documentType => (some documentType, true)
    | none => (some .document, false)

/-- `_coerce_document_type`: the document type, and whether it is in the vocabulary. -/
def coerceDocumentType (py : StrMethods) : PyVal → Option DocumentType × Bool
  | .none => (none, false)
  | .str text => documentTypeOfText py text
  | value => documentTypeOfText py (py.str value)

/-- The confidence in a coerced document type. -/
def documentTypeConfidence (coerced : Option DocumentType × Bool) (reportedConfidence : PyFloat) :
    PyFloat :=
  match coerced with
  | (none, _) => 0
  | (some _, true) => reportedConfidence
  | (some _, false) => reportedConfidence.pyMin fallbackConfidence

/-- The result of an extractor without an answer. -/
def noDocumentType : ExtractionResult where
  drawingNumber := none
  drawingNumberConfidence := 0
  title := none
  titleConfidence := 0
  documentType := none
  documentTypeConfidence := 0

/-- `DocumentTypeExtractor.extract`. -/
def extractDocumentType (py : StrMethods) (context : PipelineContext) :
    Extraction ExtractionResult := do
  let text ← getOrExtractText context.pdfBytes
  if text = "" then return noDocumentType
  else
    match ← (ask (.generateText text .documentTypeText)).attempt with
    | .error _ => return noDocumentType
    | .ok responseText => do
      let parsed ← ask (.parseResponse responseText documentTypeSchema)
      let coerced := coerceDocumentType py (parsedGet parsed "document_type")
      let reportedConfidence ←
        Program.ofExcept (coerceConfidence py (parsedGet parsed "confidence"))
      return {
        drawingNumber := none
        drawingNumberConfidence := 0
        title := none
        titleConfidence := 0
        documentType := coerced.1
        documentTypeConfidence := documentTypeConfidence coerced reportedConfidence
        sourcesUsed := if coerced.1.isSome then ["text"] else []
        rawTextResponse := some responseText }

/-! ### What the extractor guarantees -/

theorem scoredField_documentTypeConfidence (coerced : Option DocumentType × Bool) {c : PyFloat}
    (hc : c.IsUnit) : ScoredField coerced.1.isSome (documentTypeConfidence coerced c) 1 := by
  have hfallback : fallbackConfidence.IsUnit := PyFloat.isUnit_fin (by norm_num) (by norm_num)
  obtain ⟨documentType, inVocabulary⟩ := coerced
  cases documentType with
  | none => exact scoredField_zero _ zero_le_one
  | some documentType =>
    cases inVocabulary with
    | true => exact scoredField_of_isUnit rfl hc
    | false => exact scoredField_of_isUnit rfl (hc.pyMin hfallback)

/-- Whatever its sources answer, the extractor reports a coerced type, with the text as its source
if there is one. -/
theorem extractDocumentType_coerced (py : StrMethods) (context : PipelineContext) :
    Program.Safe (S := sources) (ε := PyException) (fun _ _ => True) (fun _ _ => True)
      (fun _ r => ∀ own : ExtractionResult, r = .ok own →
        ∃ (coerced : Option DocumentType × Bool) (c : PyFloat), c.IsUnit ∧
          own.documentType = coerced.1 ∧
          own.documentTypeConfidence = documentTypeConfidence coerced c ∧
          own.sourcesUsed = if coerced.1.isSome then ["text"] else [])
      (extractDocumentType py context) [] := by
  have hnone : ∀ own : ExtractionResult,
      (Except.ok noDocumentType : Except PyException ExtractionResult) = .ok own →
        ∃ (coerced : Option DocumentType × Bool) (c : PyFloat), c.IsUnit ∧
          own.documentType = coerced.1 ∧
          own.documentTypeConfidence = documentTypeConfidence coerced c ∧
          own.sourcesUsed = if coerced.1.isSome then ["text"] else [] := by
    intro own hown
    rw [← Except.ok.inj hown]
    exact ⟨(none, false), 0, PyFloat.isUnit_zero, rfl, rfl, rfl⟩
  refine (Program.safe_trivial _ _).bind (fun _ text _ => ?_) fun _ _ _ _ h => nomatch h
  dsimp only
  split_ifs
  · exact hnone
  · refine Program.Safe.attempt_bind trivial fun response _ => ?_
    cases response with
    | error exc => exact hnone
    | ok responseText =>
      refine (Program.safe_trivial _ _).bind (fun _ parsed _ => ?_) fun _ _ _ _ h => nomatch h
      refine (Program.safe_bind _ _ _).mpr ((Program.safe_ofExcept _ _).mpr ?_)
      cases hconfidence : coerceConfidence py (parsedGet parsed "confidence") with
      | error exc => exact fun _ h => nomatch h
      | ok reportedConfidence =>
        intro own hown
        rw [← Except.ok.inj hown]
        exact ⟨_, reportedConfidence, isUnit_coerceConfidence hconfidence, rfl, rfl, rfl⟩

/-- Whatever its sources answer, the extractor scores the document type. -/
theorem extractDocumentType_safe (py : StrMethods) (context : PipelineContext) :
    Program.Safe (S := sources) (ε := PyException) (fun _ _ => True) (fun _ _ => True)
      (fun _ r => ∀ own : ExtractionResult, r = .ok own →
        ScoredField own.documentType.isSome own.documentTypeConfidence 1)
      (extractDocumentType py context) [] := by
  refine (extractDocumentType_coerced py context).mono (fun _ _ h => h) (fun _ _ h => h)
    fun _ _ hcoerced own hown => ?_
  obtain ⟨coerced, c, hc, htype, hconfidence, -⟩ := hcoerced own hown
  rw [htype, hconfidence]
  exact scoredField_documentTypeConfidence coerced hc

end ZubotIngestion
