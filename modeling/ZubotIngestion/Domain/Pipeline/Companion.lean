import ZubotIngestion.Domain.Pipeline.Sources

/-!
# The companion generator

`CompanionGenerator.generate` renders a few pages, has the vision model describe each of them, and
assembles the descriptions and the extracted fields into a markdown document. It degrades on every
exception: a page that cannot be described is dropped, and without any described page there is no
companion. The text of the prompt and the temperature are constants and left out.

## Main definitions

* `selectPagesToRender`, `assembleCompanionMarkdown`.
* `CompanionOp`, `companionSources`: what the generator calls.
* `PageDescriptions`, `describe`, `generate`.
* `GeneratorRun`: a run of the generator alone.

## Main results

* `describe_returns`: the generator never raises.
* `GeneratorRun.generated_eq`: its result is made of the descriptions it has collected.
-/

namespace ZubotIngestion

open Effects

/-! ### The selection of pages -/

/-- `MAX_COMPANION_PAGES`. -/
def maxCompanionPages : ℕ := 4

/-- `_select_pages_to_render`. -/
def selectPagesToRender (pageCount : ℕ) : List ℤ :=
  if pageCount = 0 then []
  else
    let selected : List ℤ :=
      (if 2 ≤ pageCount then [0, 1] else [0]) ++ if 4 ≤ pageCount then [-2, -1] else []
    let deduped := selected.foldl
      (fun deduped page => if page ∈ deduped then deduped else deduped ++ [page]) []
    deduped.take maxCompanionPages

example : selectPagesToRender 50 = [0, 1, -2, -1] := rfl

/-! ### The extracted fields as text -/

/-- The extracted fields, each with a confidence of its own. -/
inductive ExtractedField : Type where
  | drawingNumber
  | title
  | documentType
  deriving DecidableEq, Repr

namespace ExtractedField

/-- The name of a field in the issue codes. -/
def name : ExtractedField → String
  | drawingNumber => "drawing_number"
  | title => "title"
  | documentType => "document_type"

/-- The value of a field as text; an enumeration is rendered as its value. -/
def value? (extraction : ExtractionResult) : ExtractedField → Option String
  | drawingNumber => extraction.drawingNumber
  | title => extraction.title
  | documentType => extraction.documentType.map DocumentType.value

/-- The confidence in a field. -/
def confidence (extraction : ExtractionResult) : ExtractedField → PyFloat
  | drawingNumber => extraction.drawingNumberConfidence
  | title => extraction.titleConfidence
  | documentType => extraction.documentTypeConfidence

end ExtractedField

/-! ### The markdown -/

/-- `_format_metadata_value`. -/
def formatMetadataValue (value : Option String) : String := value.getD "N/A"

/-- The descriptions that are not blank, stripped and set apart by an empty line. -/
def markdownBlock (descriptions : List String) : String :=
  "\n\n".intercalate ((descriptions.map strip).filter fun description => description ≠ "")

/-- `metadata_lines`. -/
def metadataLines (extraction : ExtractionResult) : List String :=
  ["Drawing Number: " ++ formatMetadataValue (ExtractedField.drawingNumber.value? extraction),
    "Title: " ++ formatMetadataValue (ExtractedField.title.value? extraction),
    "Document Type: " ++ formatMetadataValue (ExtractedField.documentType.value? extraction)]

/-- `_assemble_companion_markdown`. -/
def assembleCompanionMarkdown (visualDescriptions technicalDetails : List String)
    (extraction : ExtractionResult) : String :=
  "# VISUAL DESCRIPTION\n" ++ markdownBlock visualDescriptions ++ "\n\n# TECHNICAL DETAILS\n" ++
    markdownBlock technicalDetails ++ "\n\n# METADATA\n" ++
      "\n".intercalate (metadataLines extraction)

/-! ### What the generator calls -/

/-- The calls of the generator. -/
inductive CompanionOp : Type where
  /-- `render_pages` of the PDF processor. -/
  | renderPages (pdfBytes : Bytes) (pageNumbers : List ℤ)
  /-- `extract_page_texts` of the PDF processor: the texts by their page numbers. -/
  | extractPageTexts (pdfBytes : Bytes) (pageNumbers : List ℤ)
  /-- `extract_page_text` of the PDF processor. -/
  | extractPageText (pdfBytes : Bytes) (pageNumber : ℤ)
  /-- `generate_vision` with the prompt for companions; the answer is its `response_text`. -/
  | generateVision (imageBase64 model : String)
  /-- `parse` of the response parser. -/
  | parseResponse (responseText : String) (expectedSchema : Dict)

/-- The value a call returns. -/
def CompanionOp.Res : CompanionOp → Type
  | .renderPages .. => List RenderedPage
  | .extractPageTexts .. => List (ℤ × String)
  | .extractPageText .. => String
  | .generateVision .. => String
  | .parseResponse .. => Dict

/-- The signature of the generator. -/
abbrev companionSources : Signature := ⟨CompanionOp, CompanionOp.Res⟩

/-- A program of the generator. -/
abbrev Generation (α : Type) : Type := Program companionSources PyException α

/-- Make a call, raising what it raises. -/
abbrev consult (op : CompanionOp) : Generation op.Res := Program.perform (S := companionSources) op

/-- The settings the generator reads. -/
structure CompanionSettings where
  companionSkipEnabled : Bool := false
  companionSkipMinWords : ℤ := 150
  ollamaVisionModel : String := "qwen2.5vl:7b"

/-- How the generator is put together. -/
structure CompanionWiring where
  settings : Option CompanionSettings
  /-- Whether the PDF processor has a method `extract_page_texts`. -/
  batchExtractor : Bool

/-- `OLLAMA_MODEL_VISION`. -/
def ollamaModelVision : String := "qwen2.5vl:7b"

/-- `_COMPANION_PAGE_SCHEMA`. -/
def companionPageSchema : Dict := [("visual_description", .none), ("technical_details", .none)]

/-! ### One page -/

/-- `str(value)`. -/
def pyStr (py : StrMethods) : PyVal → String
  | .str text => text
  | value => py.str value

/-- `_coerce_to_str`. -/
def coerceToStr (py : StrMethods) : PyVal → Option String
  | .none => none
  | .str text => orNone (strip text)
  | .list items =>
    orNone ("\n".intercalate
      ((items.map fun item => strip (pyStr py item)).filter fun text => text ≠ ""))
  | value => some (py.str value)

/-- `_describe_one_page`. -/
def describeOnePage (py : StrMethods) (wiring : CompanionWiring) (rendered : RenderedPage) :
    Generation (Option String × Option String) := do
  let visionModel := (wiring.settings.map CompanionSettings.ollamaVisionModel).getD
    ollamaModelVision
  match ← (consult (.generateVision rendered.base64Jpeg visionModel)).attempt with
  | .error _ => return (none, none)
  | .ok responseText =>
    match ← (consult (.parseResponse responseText companionPageSchema)).attempt with
    | .error _ => return (none, none)
    | .ok parsed =>
      return (coerceToStr py (parsedGet parsed "visual_description"),
        coerceToStr py (parsedGet parsed "technical_details"))

/-! ### All pages -/

/-- What the generator has collected. -/
structure PageDescriptions where
  visualDescriptions : List String := []
  technicalDetails : List String := []
  successfulPages : ℕ := 0

/-- `texts.append(text) if text`. -/
def appendText (texts : List String) (text : Option String) : List String :=
  match text.bind orNone with
  | some text => texts ++ [text]
  | none => texts

/-- The descriptions with those of one more page; a page without any counts as failed. -/
def PageDescriptions.add (d : PageDescriptions) (visual technical : Option String) :
    PageDescriptions :=
  if (visual.bind orNone).isSome ∨ (technical.bind orNone).isSome then
    { visualDescriptions := appendText d.visualDescriptions visual
      technicalDetails := appendText d.technicalDetails technical
      successfulPages := d.successfulPages + 1 }
  else d

/-- `skip_min_words`, if the heuristic that skips pages with much text is on. -/
def skipMinWords? (wiring : CompanionWiring) : Option ℤ :=
  match wiring.settings with
  | some settings =>
    if settings.companionSkipEnabled ∧ 0 < settings.companionSkipMinWords then
      some settings.companionSkipMinWords
    else none
  | none => none

/-- `prefetched_texts`. -/
def prefetchTexts (wiring : CompanionWiring) (pdfBytes : Bytes) (pages : List RenderedPage) :
    Generation (Option (List (ℤ × String))) :=
  if (skipMinWords? wiring).isSome ∧ wiring.batchExtractor then do
    match ← (consult (.extractPageTexts pdfBytes (pages.map RenderedPage.pageNumber))).attempt with
    | .ok texts => return some texts
    | .error _ => return none
  else return none

/-- `page_text`. -/
def pageText (pdfBytes : Bytes) (prefetched : Option (List (ℤ × String))) (pageNumber : ℤ) :
    Generation String :=
  match prefetched with
  | some texts => return (texts.lookup pageNumber).getD ""
  | none => do
    match ← (consult (.extractPageText pdfBytes pageNumber)).attempt with
    | .ok text => return text
    | .error _ => return ""

/-- Whether a page is skipped because its text layer has enough words. -/
def isTextDominant (wiring : CompanionWiring) (pdfBytes : Bytes)
    (prefetched : Option (List (ℤ × String))) (rendered : RenderedPage) : Generation Bool :=
  match skipMinWords? wiring with
  | some minWords => do
    let text ← pageText pdfBytes prefetched rendered.pageNumber
    return text ≠ "" ∧ minWords ≤ (splitWhitespace text).length
  | none => return false

/-- The loop over the rendered pages. -/
def describePages (py : StrMethods) (wiring : CompanionWiring) (pdfBytes : Bytes)
    (prefetched : Option (List (ℤ × String))) :
    List RenderedPage → PageDescriptions → Generation PageDescriptions
  | [], descriptions => return descriptions
  | rendered :: pages, descriptions => do
    if ← isTextDominant wiring pdfBytes prefetched rendered then
      describePages py wiring pdfBytes prefetched pages descriptions
    else
      let (visual, technical) ← describeOnePage py wiring rendered
      describePages py wiring pdfBytes prefetched pages (descriptions.add visual technical)

/-! ### The document -/

/-- `TEXT_ONLY_THRESHOLD_CHARS`. -/
def textOnlyThresholdChars : ℕ := 5000

/-- `TEXT_ONLY_THRESHOLD_PAGES`. -/
def textOnlyThresholdPages : ℕ := 10

/-- `_is_text_only`. -/
def isTextOnly (extractedText : Option String) (pageCount : ℕ) : Bool :=
  match extractedText with
  | none => false
  | some text => textOnlyThresholdChars < text.length && textOnlyThresholdPages < pageCount

/-- The page count, unless the generator skips the document. -/
def describedPageCount? (context : PipelineContext) (extractedText : Option String) : Option ℕ :=
  match context.pdfData with
  | none => none
  | some pdfData =>
    if pdfData.pageCount = 0 ∨ isTextOnly extractedText pdfData.pageCount then none
    else some pdfData.pageCount

/-- The part of `generate` that asks for descriptions: nothing if the document is skipped or
cannot be rendered. `extractedText` is the text that an extractor has cached on the context. -/
def describe (py : StrMethods) (wiring : CompanionWiring) (context : PipelineContext)
    (extractedText : Option String) : Generation (Option PageDescriptions) :=
  match describedPageCount? context extractedText with
  | none => return none
  | some pageCount => do
    match ← (consult (.renderPages context.pdfBytes (selectPagesToRender pageCount))).attempt with
    | .error _ => return none
    | .ok pages =>
      let prefetched ← prefetchTexts wiring context.pdfBytes pages
      let descriptions ← describePages py wiring context.pdfBytes prefetched pages {}
      return some descriptions

/-- The result without a companion. -/
def noCompanion : CompanionResult where
  companionText := ""
  pagesDescribed := 0
  companionGenerated := false
  validationPassed := false

/-- The result made of the descriptions: a companion if a page was described. -/
def companionOf (extraction : ExtractionResult) : Option PageDescriptions → CompanionResult
  | none => noCompanion
  | some descriptions =>
    if descriptions.successfulPages = 0 then noCompanion
    else
      { companionText := assembleCompanionMarkdown descriptions.visualDescriptions
          descriptions.technicalDetails extraction
        pagesDescribed := descriptions.successfulPages
        companionGenerated := true
        validationPassed := false }

/-- `CompanionGenerator.generate`. -/
def generate (py : StrMethods) (wiring : CompanionWiring) (context : PipelineContext)
    (extractedText : Option String) (extraction : ExtractionResult) :
    Generation CompanionResult := do
  let descriptions ← describe py wiring context extractedText
  return companionOf extraction descriptions

/-! ### The generator never raises -/

section Safety

variable (py : StrMethods) (wiring : CompanionWiring)

/-- The outcome is a value. -/
def Returns {α : Type} (_ : List (Event companionSources PyException))
    (r : Except PyException α) : Prop :=
  ∃ a, r = .ok a

theorem describeOnePage_returns (rendered : RenderedPage)
    (t : List (Event companionSources PyException)) :
    Program.Safe (S := companionSources) (fun _ _ => True) (fun _ _ => True) Returns
      (describeOnePage py wiring rendered) t := by
  refine Program.Safe.attempt_bind trivial fun response _ => ?_
  cases response with
  | error exc => exact ⟨_, rfl⟩
  | ok responseText =>
    refine Program.Safe.attempt_bind trivial fun parsed _ => ?_
    cases parsed <;> exact ⟨_, rfl⟩

theorem isTextDominant_returns (pdfBytes : Bytes) (prefetched : Option (List (ℤ × String)))
    (rendered : RenderedPage) (t : List (Event companionSources PyException)) :
    Program.Safe (S := companionSources) (fun _ _ => True) (fun _ _ => True) Returns
      (isTextDominant wiring pdfBytes prefetched rendered) t := by
  rw [isTextDominant]
  cases skipMinWords? wiring with
  | none => exact ⟨_, rfl⟩
  | some minWords =>
    cases prefetched with
    | some texts => exact ⟨_, rfl⟩
    | none =>
      refine (Program.safe_bind _ _ _).mpr (Program.Safe.attempt_bind trivial fun text _ => ?_)
      cases text <;> exact ⟨_, rfl⟩

theorem prefetchTexts_returns (pdfBytes : Bytes) (pages : List RenderedPage)
    (t : List (Event companionSources PyException)) :
    Program.Safe (S := companionSources) (fun _ _ => True) (fun _ _ => True) Returns
      (prefetchTexts wiring pdfBytes pages) t := by
  rw [prefetchTexts]
  split_ifs
  · refine Program.Safe.attempt_bind trivial fun texts _ => ?_
    cases texts <;> exact ⟨_, rfl⟩
  · exact ⟨_, rfl⟩

theorem describePages_returns (pdfBytes : Bytes) (prefetched : Option (List (ℤ × String)))
    (pages : List RenderedPage) (descriptions : PageDescriptions)
    (t : List (Event companionSources PyException)) :
    Program.Safe (S := companionSources) (fun _ _ => True) (fun _ _ => True) Returns
      (describePages py wiring pdfBytes prefetched pages descriptions) t := by
  induction pages generalizing descriptions t with
  | nil => exact ⟨_, rfl⟩
  | cons rendered pages ih =>
    refine (isTextDominant_returns wiring pdfBytes prefetched rendered t).bind
      (fun t' dominant _ => ?_) fun _ _ h => nomatch h
    cases dominant with
    | true => exact ih descriptions t'
    | false =>
      exact (describeOnePage_returns py wiring rendered t').bind (fun t'' page _ => ih _ t'')
        fun _ _ h => nomatch h

/-- Whatever its collaborators answer, the descriptions are collected. -/
theorem describe_returns (context : PipelineContext) (extractedText : Option String) :
    Program.Safe (S := companionSources) (fun _ _ => True) (fun _ _ => True) Returns
      (describe py wiring context extractedText) [] := by
  rw [describe]
  cases describedPageCount? context extractedText with
  | none => exact ⟨_, rfl⟩
  | some pageCount =>
    refine Program.Safe.attempt_bind trivial fun pages _ => ?_
    cases pages with
    | error exc => exact ⟨_, rfl⟩
    | ok pages =>
      refine (prefetchTexts_returns wiring context.pdfBytes pages _).bind
        (fun t prefetched _ => ?_) fun _ _ h => nomatch h
      exact (describePages_returns py wiring context.pdfBytes prefetched pages {} t).bind
        (fun _ descriptions _ => ⟨_, rfl⟩) fun _ _ h => nomatch h

end Safety

/-! ### Runs of the generator -/

/-- A generator with everything it is given, and what its collaborators answer. -/
structure GeneratorRun (σ : Type) where
  py : StrMethods
  wiring : CompanionWiring
  context : PipelineContext
  extractedText : Option String
  answer : (op : CompanionOp) → σ → Except PyException op.Res × σ
  start : σ

namespace GeneratorRun

variable {σ : Type} (run : GeneratorRun σ)

/-- The descriptions that the generator collects. -/
def descriptions : Except PyException (Option PageDescriptions) :=
  (Program.run (S := companionSources) run.answer
    (describe run.py run.wiring run.context run.extractedText) run.start).1

/-- The result of `generate`. -/
def generated (extraction : ExtractionResult) : Except PyException CompanionResult :=
  (Program.run (S := companionSources) run.answer
    (generate run.py run.wiring run.context run.extractedText extraction) run.start).1

/-- The generator returns what it makes of the descriptions it has collected. -/
theorem generated_eq (extraction : ExtractionResult) : ∃ collected,
    run.descriptions = .ok collected ∧
      run.generated extraction = .ok (companionOf extraction collected) := by
  obtain ⟨-, collected, hcollected⟩ :=
    (describe_returns run.py run.wiring run.context run.extractedText).run (I := fun _ => True)
      (fun _ _ _ => trivial) (fun _ _ _ _ _ => trivial) (s := run.start) trivial
  refine ⟨collected, hcollected, ?_⟩
  rw [generated, generate, Program.run_bind]
  rcases hrun : Program.run (S := companionSources) run.answer
    (describe run.py run.wiring run.context run.extractedText) run.start with ⟨r, s'⟩
  rw [hrun] at hcollected
  obtain rfl : r = .ok collected := hcollected
  rfl

end GeneratorRun

end ZubotIngestion
