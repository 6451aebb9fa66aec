import ZubotIngestion.Domain.Pipeline.DocumentTypeExtractor
import ZubotIngestion.Effects.Determined
import ZubotIngestion.Infrastructure.PdfProcessor
import ZubotIngestion.Services.JobService

/-!
# The sources of Stage 1 on one context

The three extractors of Stage 1 start six coroutines, one for each of their sources, which share
one `PipelineContext`. The first of them to need the page or the text calls the PDF processor and
caches what it gets on the context; a text that cannot be extracted is cached as the empty one, a
page that cannot be rendered is not cached. Looking at the cache and filling it is one step, since
there is no `await` in between; here the coroutines may be interleaved at all their calls.

## Main definitions

* `Collaborators`, `Collaborators.answer`: the sources as functions of their inputs.
* `SharedContext`, `Collaborators.serve`: the cached values, and calls answered through them.
* `Source`, `interleaved`: the coroutines, and the state after any interleaving.
* `Stage1Ends`: the merged results with which Stage 1 can end.

## Main results

* `stage1_independent`: the merged result does not depend on the interleaving.
-/

namespace ZubotIngestion

open Effects

/-! ### The collaborators -/

/-- What is parsed from a filename. -/
structure FilenameHints where
  drawingNumberHint : Option String

/-- The collaborators of the extractors, as functions of their inputs that may raise. -/
structure Collaborators where
  /-- Open the document and count its pages. -/
  pageCount : Bytes → Except PyException ℤ
  /-- Render the page with an index to its `base64_jpeg`. -/
  rasterize : Bytes → ℤ → Except PyException String
  extractText : Bytes → Except PyException String
  generateVision : String → Prompt → Except PyException String
  generateText : String → Prompt → Except PyException String
  parseFilename : String → Except PyException FilenameHints
  parseResponse : String → Dict → Except PyException Dict

namespace Collaborators

variable (c : Collaborators)

/-- `render_page`. -/
def renderPage (pdfBytes : Bytes) (pageNumber : ℤ) : Except PyException RenderedPage := do
  let count ← c.pageCount pdfBytes
  let idx ← resolvePageIndex pageNumber count
  let base64Jpeg ← c.rasterize pdfBytes idx
  return ⟨idx, base64Jpeg⟩

/-- The answers of the collaborators themselves. -/
def answer : (op : SourceOp) → Except PyException op.Res
  | .renderFirstPage pdfBytes => (c.renderPage pdfBytes 0).map RenderedPage.base64Jpeg
  | .extractText pdfBytes => c.extractText pdfBytes
  | .generateVision imageBase64 prompt => c.generateVision imageBase64 prompt
  | .generateText text prompt => c.generateText text prompt
  | .parseFilename filename => (c.parseFilename filename).map FilenameHints.drawingNumberHint
  | .parseResponse responseText expectedSchema => c.parseResponse responseText expectedSchema

end Collaborators

/-- A sequence that returns has returned in both parts. -/
theorem exists_of_bind_eq_ok {ε α β : Type} {x : Except ε α} {f : α → Except ε β} {b : β}
    (h : x >>= f = .ok b) : ∃ a, x = .ok a ∧ f a = .ok b := by
  cases x with
  | error e => cases h
  | ok a => exact ⟨a, rfl, h⟩

theorem resolvePageIndex_zero {pageCount idx : ℤ} (h : resolvePageIndex 0 pageCount = .ok idx) :
    idx = 0 := by
  rw [resolvePageIndex, if_neg (lt_irrefl 0)] at h
  dsimp only at h
  split_ifs at h
  exact (Except.ok.inj h).symm

/-- The first page is numbered zero. -/
theorem pageNumber_renderPage_zero {c : Collaborators} {pdfBytes : Bytes} {page : RenderedPage}
    (h : c.renderPage pdfBytes 0 = .ok page) : page.pageNumber = 0 := by
  obtain ⟨count, -, hopened⟩ := exists_of_bind_eq_ok h
  obtain ⟨idx, hidx, hjpeg⟩ := exists_of_bind_eq_ok hopened
  obtain ⟨base64Jpeg, -, hpage⟩ := exists_of_bind_eq_ok hjpeg
  obtain rfl := Except.ok.inj hpage
  exact resolvePageIndex_zero hidx

/-! ### The shared context -/

/-- What the coroutines cache on the context, and how often they have called the PDF processor. -/
structure SharedContext where
  extractedText : Option String := none
  renderedPages : List RenderedPage := []
  filenameHints : Option FilenameHints := none
  /-- Calls of `extract_text`. -/
  textCalls : ℕ := 0
  /-- Calls of `render_page`. -/
  renderCalls : ℕ := 0

/-- Answer a call through the context: `_get_or_render_first_page`, `_get_or_extract_text` and
`_from_filename` look at it first, and cache what they get. -/
def Collaborators.serve (c : Collaborators) :
    (op : SourceOp) → SharedContext → Except PyException op.Res × SharedContext
  | .renderFirstPage pdfBytes, m =>
    match m.renderedPages.find? fun page => decide (page.pageNumber = 0) with
    | some page => (.ok page.base64Jpeg, m)
    | none =>
      match c.renderPage pdfBytes 0 with
      | .ok page =>
        (.ok page.base64Jpeg,
          { m with renderedPages := m.renderedPages ++ [page], renderCalls := m.renderCalls + 1 })
      | .error exc => (.error exc, { m with renderCalls := m.renderCalls + 1 })
  | .extractText pdfBytes, m =>
    match m.extractedText with
    | some text => (.ok text, m)
    | none =>
      match c.extractText pdfBytes with
      | .ok text => (.ok text, { m with extractedText := some text, textCalls := m.textCalls + 1 })
      | .error exc =>
        (.error exc, { m with extractedText := some "", textCalls := m.textCalls + 1 })
  | .parseFilename filename, m =>
    match m.filenameHints with
    | some hints => (.ok hints.drawingNumberHint, m)
    | none =>
      match c.parseFilename filename with
      | .ok hints => (.ok hints.drawingNumberHint, { m with filenameHints := some hints })
      | .error exc => (.error exc, m)
  | op, m => (c.answer op, m)

/-! ### The coroutines -/

/-- The coroutines of Stage 1. -/
inductive Source : Type where
  | drawingNumberVision
  | drawingNumberText
  | drawingNumberFilename
  | titleVision
  | titleText
  | documentTypeText
  deriving DecidableEq

/-- What a coroutine returns. -/
inductive SourceReply : Type where
  /-- A drawing number and the text of the response. -/
  | response (value : Option String) (raw : String)
  | hint (value : Option String)
  | title (title : PyVal) (confidence : PyFloat)
  | extraction (result : ExtractionResult)

section

variable (py : StrMethods) (context : PipelineContext)

/-- The program of a coroutine. -/
def Source.program : Source → Extraction SourceReply
  | .drawingNumberVision =>
    (fun r => .response r.1 r.2) <$> drawingNumberFromVision context
  | .drawingNumberText => (fun r => .response r.1 r.2) <$> drawingNumberFromText context
  | .drawingNumberFilename => .hint <$> drawingNumberFromFilename context
  | .titleVision => (fun r => .title r.1 r.2) <$> titleFromVision py context
  | .titleText => (fun r => .title r.1 r.2) <$> titleFromText py context
  | .documentTypeText => .extraction <$> extractDocumentType py context

/-- All coroutines. -/
def stage1Sources : List Source :=
  [.drawingNumberVision, .drawingNumberText, .drawingNumberFilename, .titleVision, .titleText,
    .documentTypeText]

/-- The coroutines on their shared context. -/
abbrev Stage1 : Type := Pool sources PyException SourceReply Source SharedContext

/-- The coroutines after the calls of a schedule, which names the coroutine that makes its next
call. -/
def interleaved (c : Collaborators) (schedule : List ℕ) : Stage1 :=
  Pool.exec (Source.program py context) (fun _ : Unit => c.serve)
    ⟨{}, stage1Sources.map fun source => ⟨source, source.program py context, []⟩⟩
    (schedule.map fun i => .step i ())

/-! ### The end of Stage 1 -/

/-- A coroutine has ended. -/
def Ended (P : Stage1) (source : Source) (o : Except PyException SourceReply) : Prop :=
  ∃ th ∈ P.threads, th.request = source ∧ th.outcome? = some o

/-- The result of the drawing-number extractor, from the answers of its sources. -/
def drawingNumberResult (vision text : Option String × String) (filename : Option String) :
    ExtractionResult :=
  let (chosen, confidence) := fuseDrawingNumber py vision.1 text.1 filename
  { drawingNumber := chosen
    drawingNumberConfidence := confidence
    title := none
    titleConfidence := 0
    documentType := none
    documentTypeConfidence := 0
    sourcesUsed := sourcesUsed
      [("vision", vision.1.isSome), ("text", text.1.isSome), ("filename", filename.isSome)]
    rawVisionResponse := orNone vision.2
    rawTextResponse := orNone text.2 }

/-- The result of the title extractor, from the answers of its sources. -/
def titleResult (vision text : PyVal × PyFloat) : Except PyException ExtractionResult := do
  let (title, confidence) ← fuseTitle py vision.1 vision.2 text.1 text.2
  return {
    drawingNumber := none
    drawingNumberConfidence := 0
    title := title
    titleConfidence := confidence
    documentType := none
    documentTypeConfidence := 0
    sourcesUsed := sourcesUsed [("vision", isNotNone vision.1), ("text", isNotNone text.1)] }

/-- How `DrawingNumberExtractor.extract` ends: `gather` raises as soon as a source has raised, and
returns when all have returned. -/
inductive DrawingNumberEnds (P : Stage1) : Except PyException ExtractionResult → Prop
  | raised {source : Source} {exc : PyException}
      (hsource : source ∈ [Source.drawingNumberVision, .drawingNumberText, .drawingNumberFilename])
      (h : Ended P source (.error exc)) : DrawingNumberEnds P (.error exc)
  | returned {vision text : Option String × String} {filename : Option String}
      (hvision : Ended P .drawingNumberVision (.ok (.response vision.1 vision.2)))
      (htext : Ended P .drawingNumberText (.ok (.response text.1 text.2)))
      (hfilename : Ended P .drawingNumberFilename (.ok (.hint filename))) :
      DrawingNumberEnds P (.ok (drawingNumberResult py vision text filename))

/-- How `TitleExtractor.extract` ends. -/
inductive TitleEnds (P : Stage1) : Except PyException ExtractionResult → Prop
  | raised {source : Source} {exc : PyException}
      (hsource : source ∈ [Source.titleVision, .titleText])
      (h : Ended P source (.error exc)) : TitleEnds P (.error exc)
  | returned {vision text : PyVal × PyFloat}
      (hvision : Ended P .titleVision (.ok (.title vision.1 vision.2)))
      (htext : Ended P .titleText (.ok (.title text.1 text.2))) :
      TitleEnds P (titleResult py vision text)

/-- How `DocumentTypeExtractor.extract` ends. -/
inductive DocumentTypeEnds (P : Stage1) : Except PyException ExtractionResult → Prop
  | raised {exc : PyException} (h : Ended P .documentTypeText (.error exc)) :
      DocumentTypeEnds P (.error exc)
  | returned {result : ExtractionResult}
      (h : Ended P .documentTypeText (.ok (.extraction result))) :
      DocumentTypeEnds P (.ok result)

/-- The merged result with which Stage 1 ends. -/
def Stage1Ends (P : Stage1) (r : ExtractionResult) : Prop :=
  ∃ drawing title documentType, DrawingNumberEnds py P drawing ∧ TitleEnds py P title ∧
    DocumentTypeEnds P documentType ∧ ∃ (durationMs : ℤ) (log : PipelineLog),
      r = (recordStage1 drawing title documentType durationMs log).1

/-- The merged result of extractors that run one after the other and share nothing. -/
def stage1Result (c : Collaborators) : ExtractionResult :=
  (recordStage1 ((extractDrawingNumber py context).alone c.answer)
    ((extractTitle py context).alone c.answer) ((extractDocumentType py context).alone c.answer)
    0 {}).1

end

/-! ### Calls through the context -/

section Answers

variable {c : Collaborators} {py : StrMethods} {context : PipelineContext}

/-- The calls that are about the file of the context. -/
def AboutFile (context : PipelineContext) : SourceOp → Prop
  | .renderFirstPage pdfBytes => pdfBytes = context.pdfBytes
  | .extractText pdfBytes => pdfBytes = context.pdfBytes
  | .parseFilename filename => filename = context.job.filename
  | _ => True

/-- The answers that a coroutine cannot tell from those of the collaborators: a text that cannot be
extracted may be answered as the empty text. -/
def Consistent (c : Collaborators) : (op : SourceOp) → Except PyException op.Res → Prop
  | .extractText pdfBytes, r =>
    r = c.extractText pdfBytes ∨ (∃ exc, c.extractText pdfBytes = .error exc) ∧ r = .ok ""
  | op, r => r = c.answer op

/-- What the context holds is what the collaborators answer about the file. -/
structure SharedContext.Coherent (c : Collaborators) (context : PipelineContext)
    (m : SharedContext) : Prop where
  text : m.extractedText = none ∧ m.textCalls = 0 ∨
    m.textCalls = 1 ∧ ∃ text, m.extractedText = some text ∧
      (c.extractText context.pdfBytes = .ok text ∨
        (∃ exc, c.extractText context.pdfBytes = .error exc) ∧ text = "")
  page : m.renderedPages = [] ∧
      (∀ page, c.renderPage context.pdfBytes 0 = .ok page → m.renderCalls = 0) ∨
    m.renderCalls = 1 ∧ ∃ page, c.renderPage context.pdfBytes 0 = .ok page ∧
      m.renderedPages = [page]
  hints : ∀ hints, m.filenameHints = some hints →
    c.parseFilename context.job.filename = .ok hints

theorem coherent_fresh : ({} : SharedContext).Coherent c context where
  text := Or.inl ⟨rfl, rfl⟩
  page := Or.inl ⟨rfl, fun _ _ => rfl⟩
  hints _ h := nomatch h

/-- The page is the one the processor renders, and it is rendered once. -/
theorem serve_renderFirstPage {m : SharedContext} (h : m.Coherent c context) :
    (c.serve (.renderFirstPage context.pdfBytes) m).1 =
        c.answer (.renderFirstPage context.pdfBytes) ∧
      (c.serve (.renderFirstPage context.pdfBytes) m).2.Coherent c context := by
  rcases h.page with ⟨hnone, hcalls⟩ | ⟨hcalls, page, hpage, hcached⟩
  · simp only [Collaborators.serve, Collaborators.answer, hnone, List.find?_nil]
    cases hrender : c.renderPage context.pdfBytes 0 with
    | error exc =>
      refine ⟨rfl, h.text, Or.inl ⟨rfl, fun page hpage => ?_⟩, h.hints⟩
      rw [hrender] at hpage
      cases hpage
    | ok page =>
      exact ⟨rfl, h.text, Or.inr ⟨congrArg (· + 1) (hcalls page hrender), page, hrender, rfl⟩,
        h.hints⟩
  · have hfound : ([page].find? fun p => decide (p.pageNumber = 0)) = some page := by
      simp [pageNumber_renderPage_zero hpage]
    simp only [Collaborators.serve, Collaborators.answer, hcached, hfound, hpage]
    exact ⟨rfl, h⟩

/-- The text is the one the processor extracts, or the empty one, and it is extracted once. -/
theorem serve_extractText {m : SharedContext} (h : m.Coherent c context) :
    Consistent c (.extractText context.pdfBytes)
        (c.serve (.extractText context.pdfBytes) m).1 ∧
      (c.serve (.extractText context.pdfBytes) m).2.Coherent c context := by
  rcases h.text with ⟨hnone, hcalls⟩ | ⟨hcalls, text, hcached, htext⟩
  · simp only [Collaborators.serve, hnone, Consistent]
    cases hextract : c.extractText context.pdfBytes with
    | error exc =>
      exact ⟨Or.inl rfl, Or.inr ⟨congrArg (· + 1) hcalls, "", rfl, Or.inr ⟨⟨exc, hextract⟩, rfl⟩⟩,
        h.page, h.hints⟩
    | ok text =>
      exact ⟨Or.inl rfl, Or.inr ⟨congrArg (· + 1) hcalls, text, rfl, Or.inl hextract⟩, h.page,
        h.hints⟩
  · simp only [Collaborators.serve, hcached, Consistent]
    refine ⟨?_, h⟩
    rcases htext with htext | ⟨hraised, rfl⟩
    · exact Or.inl htext.symm
    · exact Or.inr ⟨hraised, rfl⟩

/-- The hints are those the parser finds. -/
theorem serve_parseFilename {m : SharedContext} (h : m.Coherent c context) :
    (c.serve (.parseFilename context.job.filename) m).1 =
        c.answer (.parseFilename context.job.filename) ∧
      (c.serve (.parseFilename context.job.filename) m).2.Coherent c context := by
  cases hcached : m.filenameHints with
  | some hints =>
    simp only [Collaborators.serve, Collaborators.answer, hcached, h.hints hints hcached]
    exact ⟨rfl, h⟩
  | none =>
    simp only [Collaborators.serve, Collaborators.answer, hcached]
    cases hparse : c.parseFilename context.job.filename with
    | error exc => exact ⟨rfl, h⟩
    | ok hints =>
      refine ⟨rfl, h.text, h.page, fun hints' hhints => ?_⟩
      obtain rfl := Option.some.inj hhints
      exact hparse

/-- A call about the file of a coherent context is answered consistently, and leaves the context
coherent. -/
theorem serve_consistent {m : SharedContext} (h : m.Coherent c context) {op : SourceOp}
    (hop : AboutFile context op) :
    Consistent c op (c.serve op m).1 ∧ (c.serve op m).2.Coherent c context := by
  cases op with
  | renderFirstPage pdfBytes =>
    obtain rfl : pdfBytes = context.pdfBytes := hop
    exact serve_renderFirstPage h
  | extractText pdfBytes =>
    obtain rfl : pdfBytes = context.pdfBytes := hop
    exact serve_extractText h
  | parseFilename filename =>
    obtain rfl : filename = context.job.filename := hop
    exact serve_parseFilename h
  | _ => exact ⟨rfl, h⟩

/-! ### The coroutines cannot tell the answers apart -/

/-- A program that ends as it would with the collaborators themselves. -/
abbrev Independent {α : Type} (c : Collaborators) (context : PipelineContext) (p : Extraction α) :
    Prop :=
  p.Determined c.answer (fun op r => AboutFile context op → Consistent c op r) (AboutFile context)

/-- A text that cannot be extracted is the empty one, whoever finds it out. -/
theorem independent_getOrExtractText :
    Independent c context (getOrExtractText context.pdfBytes) := by
  intro t
  rw [getOrExtractText, Program.alone_bind, Program.alone_attempt, Program.alone_perform]
  refine Program.Safe.attempt_bind rfl fun r hr => ?_
  rcases hr rfl with rfl | ⟨⟨exc, hraised⟩, rfl⟩
  · cases hextract : c.extractText context.pdfBytes with
    | ok text =>
      simp only [Collaborators.answer, hextract]
      rfl
    | error exc =>
      simp only [Collaborators.answer, hextract]
      rfl
  · simp only [Collaborators.answer, hraised]
    rfl

/-- The answers to other calls are those of the collaborators. -/
theorem independent_parseResponse (responseText : String) (expectedSchema : Dict) :
    Independent c context (ask (.parseResponse responseText expectedSchema)) :=
  Program.determined_perform trivial fun _ hr => hr trivial

/-- What follows a caught call is independent if what is done with its value is. -/
theorem Guards.independent {α β : Type} {f : Except PyException β → Extraction α} {absent : α}
    {next : β → Extraction α} (hf : Guards f absent next)
    (hnext : ∀ value, Independent c context (next value)) (answer : Except PyException β) :
    Independent c context (f answer) := by
  cases answer with
  | error exc =>
    rw [hf.1]
    exact Program.determined_ret _
  | ok value =>
    rw [hf.2]
    exact hnext value

/-- A source that shows the page to the vision model. -/
theorem independent_visionSource {α : Type} {prompt : Prompt} {absent : α}
    {f : Except PyException String → Extraction α}
    {g : String → Except PyException String → Extraction α} {read : String → Extraction α}
    (hread : ∀ responseText, Independent c context (read responseText))
    (hf : Guards f absent fun page => (ask (.generateVision page prompt)).attempt >>= g page)
    (hg : ∀ page, Guards (g page) absent read) :
    Independent c context ((ask (.renderFirstPage context.pdfBytes)).attempt >>= f) := by
  refine Program.Determined.attempt_bind rfl (fun _ hr => hr rfl) (hf.independent fun page => ?_)
  exact Program.Determined.attempt_bind trivial (fun _ hr => hr trivial)
    ((hg page).independent hread)

/-- A source that sends a text to the text model. -/
theorem independent_textSource {α : Type} {prompt : Prompt} {sent : String → String} {absent : α}
    {f : String → Except PyException String → Extraction α} {read : String → Extraction α}
    (hread : ∀ responseText, Independent c context (read responseText))
    (hf : ∀ text, Guards (f text) absent read) :
    Independent c context (getOrExtractText context.pdfBytes >>= fun text =>
      if sent text = "" then pure absent
      else (ask (.generateText (sent text) prompt)).attempt >>= f text) := by
  refine independent_getOrExtractText.bind fun text => ?_
  split_ifs
  · exact Program.determined_ret _
  · exact Program.Determined.attempt_bind trivial (fun _ hr => hr trivial)
      ((hf text).independent hread)

theorem independent_numberOfResponse (responseText : String) :
    Independent c context (ask (.parseResponse responseText drawingNumberSchema) >>= fun parsed =>
      pure (asStr? (parsedGet parsed "drawing_number"), responseText)) :=
  (independent_parseResponse _ _).bind fun _ => Program.determined_ret _

theorem independent_drawingNumberFromVision :
    Independent c context (drawingNumberFromVision context) :=
  independent_visionSource independent_numberOfResponse ⟨fun _ => rfl, fun _ => rfl⟩
    fun _ => ⟨fun _ => rfl, fun _ => rfl⟩

theorem independent_drawingNumberFromText :
    Independent c context (drawingNumberFromText context) :=
  independent_textSource independent_numberOfResponse fun _ => ⟨fun _ => rfl, fun _ => rfl⟩

theorem independent_drawingNumberFromFilename :
    Independent c context (drawingNumberFromFilename context) := by
  refine Program.Determined.attempt_bind rfl (fun _ hr => hr rfl) fun hint => ?_
  cases hint <;> exact Program.determined_ret _

theorem independent_titleOfResponse (responseText : String) :
    Independent c context (titleOfResponse py responseText) :=
  (independent_parseResponse _ _).bind fun _ =>
    (Program.determined_ofExcept _).bind fun _ => Program.determined_ret _

theorem independent_titleFromVision : Independent c context (titleFromVision py context) :=
  independent_visionSource independent_titleOfResponse ⟨fun _ => rfl, fun _ => rfl⟩
    fun _ => ⟨fun _ => rfl, fun _ => rfl⟩

theorem independent_titleFromText : Independent c context (titleFromText py context) :=
  independent_textSource independent_titleOfResponse fun _ => ⟨fun _ => rfl, fun _ => rfl⟩

theorem independent_extractDocumentType :
    Independent c context (extractDocumentType py context) := by
  refine independent_textSource (fun responseText => ?_) fun _ => ⟨fun _ => rfl, fun _ => rfl⟩
  refine (independent_parseResponse _ _).bind fun _ => ?_
  exact (Program.determined_ofExcept _).bind fun _ => Program.determined_ret _

/-- Every coroutine ends as it would with the collaborators themselves. -/
theorem independent_program (source : Source) :
    Independent c context (source.program py context) := by
  cases source with
  | drawingNumberVision => exact independent_drawingNumberFromVision.map _
  | drawingNumberText => exact independent_drawingNumberFromText.map _
  | drawingNumberFilename => exact independent_drawingNumberFromFilename.map _
  | titleVision => exact independent_titleFromVision.map _
  | titleText => exact independent_titleFromText.map _
  | documentTypeText => exact independent_extractDocumentType.map _

end Answers

/-! ### Every interleaving -/

section Interleavings

variable (c : Collaborators) (py : StrMethods) (context : PipelineContext) (schedule : List ℕ)

/-- The context stays coherent, and every coroutine that has ended has ended as it would alone. -/
theorem interleaved_sound :
    (interleaved py context c schedule).state.Coherent c context ∧
      ∀ source o, Ended (interleaved py context c schedule) source o →
        o = (source.program py context).alone c.answer := by
  have hsound : (interleaved py context c schedule).state.Coherent c context ∧
      ∀ th ∈ (interleaved py context c schedule).threads, ∀ o, th.outcome? = some o →
        o = (th.request.program py context).alone c.answer :=
    Pool.outcome_of_determined (I := SharedContext.Coherent c context)
      (fun _ _ _ hm hop => (serve_consistent hm hop).1)
      (fun _ _ _ hm hop => (serve_consistent hm hop).2) independent_program coherent_fresh
      stage1Sources (schedule.map fun i => .step i ())
  refine ⟨hsound.1, ?_⟩
  rintro source o ⟨th, hth, rfl, ho⟩
  exact hsound.2 th hth o ho

/-! ### The merged result -/

/-- An extraction, or the empty one after an exception. -/
def normalized : Except PyException ExtractionResult → ExtractionResult
  | .ok extraction => extraction
  | .error _ => emptyExtractionResult

/-- The merged result depends on the normalised results only. -/
theorem recordStage1_fst (drawing title documentType : Except PyException ExtractionResult)
    (durationMs : ℤ) (log : PipelineLog) :
    (recordStage1 drawing title documentType durationMs log).1 =
      mergeExtractionResults (normalized drawing) (normalized title) (normalized documentType) := by
  cases drawing <;> cases title <;> cases documentType <;> rfl

variable {c py context schedule} {r : Except PyException ExtractionResult}

/-- A wrapped outcome that is an exception. -/
theorem eq_error_of_map {α β : Type} {x : Except PyException α} {f : α → β} {exc : PyException}
    (h : .error exc = x.map f) : x = .error exc := by
  cases x with
  | ok a => cases h
  | error e => exact congrArg Except.error (Except.error.inj h).symm

/-- A wrapped outcome that is a value. -/
theorem eq_ok_of_map {α β : Type} {x : Except PyException α} {f : α → β}
    (hf : Function.Injective f) {a : α} (h : .ok (f a) = x.map f) : x = .ok a := by
  cases x with
  | ok a' => exact congrArg Except.ok (hf (Except.ok.inj h)).symm
  | error e => cases h

theorem response_injective :
    Function.Injective fun r : Option String × String => SourceReply.response r.1 r.2 :=
  fun _ _ h => Prod.ext (SourceReply.response.inj h).1 (SourceReply.response.inj h).2

theorem title_injective :
    Function.Injective fun r : PyVal × PyFloat => SourceReply.title r.1 r.2 :=
  fun _ _ h => Prod.ext (SourceReply.title.inj h).1 (SourceReply.title.inj h).2

/-- The drawing-number extractor ends as it would alone, or both raise. -/
theorem normalized_drawingNumber (h : DrawingNumberEnds py (interleaved py context c schedule) r) :
    normalized r = normalized ((extractDrawingNumber py context).alone c.answer) := by
  have hsound := (interleaved_sound c py context schedule).2
  have halone : (extractDrawingNumber py context).alone c.answer = do
      let vision ← (drawingNumberFromVision context).alone c.answer
      let text ← (drawingNumberFromText context).alone c.answer
      let filename ← (drawingNumberFromFilename context).alone c.answer
      return drawingNumberResult py vision text filename := by
    simp only [extractDrawingNumber, Program.alone_bind]
    rfl
  rw [halone]
  cases h with
  | @raised source exc hsource hended =>
    simp only [List.mem_cons, List.not_mem_nil, or_false] at hsource
    rcases hsource with rfl | rfl | rfl
    · have hraised := (hsound _ _ hended).trans (Program.alone_map _ _)
      rw [eq_error_of_map hraised]
      rfl
    · have hraised := (hsound _ _ hended).trans (Program.alone_map _ _)
      rw [eq_error_of_map hraised]
      cases (drawingNumberFromVision context).alone c.answer <;> rfl
    · have hraised := (hsound _ _ hended).trans (Program.alone_map _ _)
      rw [eq_error_of_map hraised]
      cases (drawingNumberFromVision context).alone c.answer <;>
        cases (drawingNumberFromText context).alone c.answer <;> rfl
  | returned hvision htext hfilename =>
    have hvision := (hsound _ _ hvision).trans (Program.alone_map _ _)
    have htext := (hsound _ _ htext).trans (Program.alone_map _ _)
    have hfilename := (hsound _ _ hfilename).trans (Program.alone_map _ _)
    rw [eq_ok_of_map response_injective hvision, eq_ok_of_map response_injective htext,
      eq_ok_of_map (fun _ _ => SourceReply.hint.inj) hfilename]
    rfl

/-- The title extractor ends as it would alone, or both raise. -/
theorem normalized_title (h : TitleEnds py (interleaved py context c schedule) r) :
    normalized r = normalized ((extractTitle py context).alone c.answer) := by
  have hsound := (interleaved_sound c py context schedule).2
  have halone : (extractTitle py context).alone c.answer = (do
      let vision ← (titleFromVision py context).alone c.answer
      let text ← (titleFromText py context).alone c.answer
      titleResult py vision text) := by
    simp only [extractTitle, Program.alone_bind, Program.alone_ofExcept]
    rfl
  rw [halone]
  cases h with
  | @raised source exc hsource hended =>
    simp only [List.mem_cons, List.not_mem_nil, or_false] at hsource
    rcases hsource with rfl | rfl
    · have hraised := (hsound _ _ hended).trans (Program.alone_map _ _)
      rw [eq_error_of_map hraised]
      rfl
    · have hraised := (hsound _ _ hended).trans (Program.alone_map _ _)
      rw [eq_error_of_map hraised]
      cases (titleFromVision py context).alone c.answer <;> rfl
  | returned hvision htext =>
    have hvision := (hsound _ _ hvision).trans (Program.alone_map _ _)
    have htext := (hsound _ _ htext).trans (Program.alone_map _ _)
    rw [eq_ok_of_map title_injective hvision, eq_ok_of_map title_injective htext]
    rfl

/-- The document-type extractor ends as it would alone. -/
theorem normalized_documentType (h : DocumentTypeEnds (interleaved py context c schedule) r) :
    normalized r = normalized ((extractDocumentType py context).alone c.answer) := by
  have hsound := (interleaved_sound c py context schedule).2
  cases h with
  | raised hended =>
    have hraised := (hsound _ _ hended).trans (Program.alone_map _ _)
    rw [eq_error_of_map hraised]
  | returned hended =>
    have hreturned := (hsound _ _ hended).trans (Program.alone_map _ _)
    rw [eq_ok_of_map (fun _ _ => SourceReply.extraction.inj) hreturned]

/-- Stage 1 can end with one result only. -/
theorem Stage1Ends.eq {r : ExtractionResult}
    (h : Stage1Ends py (interleaved py context c schedule) r) : r = stage1Result py context c := by
  obtain ⟨drawing, title, documentType, hdrawing, htitle, hdocumentType, durationMs, log, rfl⟩ := h
  rw [stage1Result, recordStage1_fst, recordStage1_fst, normalized_drawingNumber hdrawing,
    normalized_title htitle, normalized_documentType hdocumentType]

/-! ### Interleavings to the end -/

/-- All coroutines have ended. -/
def AllEnded (P : Stage1) : Prop := ∀ source, ∃ o, Ended P source o

/-- Every interleaving can be continued until all coroutines have ended. -/
theorem exists_allEnded (c : Collaborators) (py : StrMethods) (context : PipelineContext)
    (schedule : List ℕ) : ∃ more, AllEnded (interleaved py context c (schedule ++ more)) := by
  obtain ⟨more, hended⟩ : ∃ more : List ℕ, ∀ th ∈ ((interleaved py context c schedule).exec
      (Source.program py context) (fun _ : Unit => c.serve)
      (more.map fun i => .step i ())).threads, th.outcome? ≠ none :=
    Pool.exists_ended () (interleaved py context c schedule)
  refine ⟨more, fun source => ?_⟩
  rw [interleaved, List.map_append, Pool.exec_append]
  have hrequests : ((interleaved py context c schedule).exec (Source.program py context)
      (fun _ : Unit => c.serve) (more.map fun i => .step i ())).threads.map Thread.request =
        stage1Sources :=
    (Pool.requests_exec () _ more).trans (Pool.requests_exec () _ schedule)
  have hsource : source ∈ stage1Sources := by cases source <;> decide
  obtain ⟨th, hth, rfl⟩ := List.mem_map.mp (hrequests ▸ hsource)
  obtain ⟨o, ho⟩ := Option.ne_none_iff_exists'.mp (hended th hth)
  exact ⟨o, th, hth, rfl, ho⟩

/-- A coroutine that has ended has raised, or it has returned what it was started for. -/
theorem ended_cases (source : Source) {α : Type} {p : Extraction α} {f : α → SourceReply}
    (hsource : source.program py context = f <$> p)
    (h : AllEnded (interleaved py context c schedule)) :
    (∃ exc, Ended (interleaved py context c schedule) source (.error exc)) ∨
      ∃ value, Ended (interleaved py context c schedule) source (.ok (f value)) := by
  obtain ⟨o, ho⟩ := h source
  have halone := (interleaved_sound c py context schedule).2 source o ho
  rw [hsource, Program.alone_map] at halone
  subst halone
  cases hvalue : p.alone c.answer with
  | error exc =>
    rw [hvalue] at ho
    exact Or.inl ⟨exc, ho⟩
  | ok value =>
    rw [hvalue] at ho
    exact Or.inr ⟨value, ho⟩

theorem exists_drawingNumberEnds (h : AllEnded (interleaved py context c schedule)) :
    ∃ r, DrawingNumberEnds py (interleaved py context c schedule) r := by
  rcases ended_cases .drawingNumberVision rfl h with ⟨exc, hvision⟩ | ⟨vision, hvision⟩
  · exact ⟨_, .raised (by simp) hvision⟩
  rcases ended_cases .drawingNumberText rfl h with ⟨exc, htext⟩ | ⟨text, htext⟩
  · exact ⟨_, .raised (by simp) htext⟩
  rcases ended_cases .drawingNumberFilename rfl h with ⟨exc, hhint⟩ | ⟨hint, hhint⟩
  · exact ⟨_, .raised (by simp) hhint⟩
  · exact ⟨_, .returned hvision htext hhint⟩

theorem exists_titleEnds (h : AllEnded (interleaved py context c schedule)) :
    ∃ r, TitleEnds py (interleaved py context c schedule) r := by
  rcases ended_cases .titleVision rfl h with ⟨exc, hvision⟩ | ⟨vision, hvision⟩
  · exact ⟨_, .raised (by simp) hvision⟩
  rcases ended_cases .titleText rfl h with ⟨exc, htext⟩ | ⟨text, htext⟩
  · exact ⟨_, .raised (by simp) htext⟩
  · exact ⟨_, .returned hvision htext⟩

theorem exists_documentTypeEnds (h : AllEnded (interleaved py context c schedule)) :
    ∃ r, DocumentTypeEnds (interleaved py context c schedule) r := by
  rcases ended_cases .documentTypeText rfl h with ⟨exc, hraised⟩ | ⟨result, hreturned⟩
  · exact ⟨_, .raised hraised⟩
  · exact ⟨_, .returned hreturned⟩

/-- When all coroutines have ended, Stage 1 ends. -/
theorem stage1Ends_of_allEnded (h : AllEnded (interleaved py context c schedule)) :
    Stage1Ends py (interleaved py context c schedule) (stage1Result py context c) := by
  obtain ⟨drawing, hdrawing⟩ := exists_drawingNumberEnds h
  obtain ⟨title, htitle⟩ := exists_titleEnds h
  obtain ⟨documentType, hdocumentType⟩ := exists_documentTypeEnds h
  have hends : Stage1Ends py (interleaved py context c schedule)
      (recordStage1 drawing title documentType 0 {}).1 :=
    ⟨drawing, title, documentType, hdrawing, htitle, hdocumentType, 0, {}, rfl⟩
  rwa [hends.eq] at hends

end Interleavings

/-- Whatever the interleaving, Stage 1 ends with the merged result of extractors that run one after
the other and share nothing, the text is extracted at most once, and so is the page rendered if it
can be. Every interleaving leads to such an end. -/
theorem stage1_independent (c : Collaborators) (py : StrMethods) (context : PipelineContext)
    (schedule : List ℕ) :
    (∀ r, Stage1Ends py (interleaved py context c schedule) r → r = stage1Result py context c) ∧
      (interleaved py context c schedule).state.textCalls ≤ 1 ∧
      ((∃ page, c.renderPage context.pdfBytes 0 = .ok page) →
        (interleaved py context c schedule).state.renderCalls ≤ 1) ∧
      ∃ more, Stage1Ends py (interleaved py context c (schedule ++ more))
        (stage1Result py context c) := by
  have hcoherent := (interleaved_sound c py context schedule).1
  refine ⟨fun r hr => hr.eq, ?_, ?_, ?_⟩
  · rcases hcoherent.text with ⟨-, hcalls⟩ | ⟨hcalls, -⟩ <;> omega
  · rintro ⟨page, hpage⟩
    rcases hcoherent.page with ⟨-, hcalls⟩ | ⟨hcalls, -⟩
    · rw [hcalls page hpage]
      exact Nat.zero_le 1
    · exact hcalls.le
  · obtain ⟨more, hended⟩ := exists_allEnded c py context schedule
    exact ⟨more, stage1Ends_of_allEnded hended⟩

/-- Collaborators that cannot extract a text and find nothing in a page. -/
def planCollaborators : Collaborators where
  pageCount _ := .ok 1
  rasterize _ _ := .ok "/9j/"
  extractText _ := .error (.error "PDFCorruptedError" "Failed to open PDF")
  generateVision _ _ := .ok "{}"
  generateText _ _ := .ok "{}"
  parseFilename _ := .ok ⟨none⟩
  parseResponse _ expectedSchema := .ok expectedSchema

/-- The context of a job with one page. -/
def planContext : PipelineContext :=
  ⟨newJob ⟨tempPdfRoot, 1, 2⟩ ⟨"plan.pdf", pdfMagic⟩ "9f86d081" 1, pdfMagic, none⟩

/-- Both vision coroutines have asked for the page. -/
theorem stage1_independent_plan :
    (interleaved ⟨id, id, fun _ => none, fun _ => ""⟩ planContext planCollaborators
      [3, 1, 0]).state.renderCalls ≤ 1 :=
  (stage1_independent planCollaborators ⟨id, id, fun _ => none, fun _ => ""⟩ planContext
    [3, 1, 0]).2.2.1 ⟨⟨0, "/9j/"⟩, rfl⟩

end ZubotIngestion
