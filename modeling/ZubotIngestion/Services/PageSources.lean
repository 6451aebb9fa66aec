import ZubotIngestion.Domain.Pipeline.PageTexts
import ZubotIngestion.Services.Stage1

/-!
# The pages of a document and the text sources

The text sources of Stage 1 work on what the processor has joined, separators included. So a page
that contains the token of a separator is cut off in what the title extractor sends, and a document
without any text is sent as a list of separators.

## Main definitions

* `DrawingNumberAbstains`, `TitleAbstains`, `DocumentTypeAbstains`: a text source has nothing to
  say.

## Main results

* `sentPages_iff`: when the first and the last page are sent as they are.
* `textSources_abstain_iff`: when the text sources have nothing to say.
-/

namespace ZubotIngestion

open Effects

/-! ### The first and the last page -/

/-- The text model is sent the first and the last page, and nothing else but white space, just if
neither contains a token. -/
theorem sentPages_iff (py : StrMethods) (context : PipelineContext)
    (first : Except PyException String) (middle : List (Except PyException String))
    (last : Except PyException String)
    (t : List (Event sources PyException)) (r : Except PyException (PyVal × PyFloat))
    (h : (titleFromText py context).Runs
      (⟨.extractText context.pdfBytes, .ok (extractText (first :: middle ++ [last]))⟩ :: t) r) :
    (∃ text, sentTexts t = [text] ∧ HoldsJust text (textOfPage first) (textOfPage last)) ↔
      ¬ pageToken.toList <:+: (textOfPage first).toList ∧
        ¬ pageToken.toList <:+: (textOfPage last).toList := by
  rw [← holdsJust_firstAndLastPageText_iff first middle last]
  have hne : firstAndLastPageText (extractText (first :: middle ++ [last])) ≠ "" := fun hempty =>
    extractText_ne_empty first (middle ++ [last]) (firstAndLastPageText_eq_empty.mp hempty)
  obtain ⟨-, hsent⟩ := (sendsJust_titleFromText h).resolve_left fun h => hne h.1
  rw [hsent]
  constructor
  · rintro ⟨text, htext, hholds⟩
    obtain ⟨rfl, -⟩ := List.cons.inj htext
    exact hholds
  · exact fun hholds => ⟨_, rfl, hholds⟩

/-- The call of the text model fails. -/
def failedTrace (sent : String) (prompt : Prompt) : List (Event sources PyException) :=
  [⟨.generateText sent prompt, .error (.error "TimeoutError" "")⟩]

theorem runs_titleFromText_failed (py : StrMethods) {text : String} (htext : text ≠ "") :
    (titleFromText py planContext).Runs
      (⟨.extractText planContext.pdfBytes, .ok text⟩ ::
        failedTrace (firstAndLastPageText text) .titleText) (.ok (.none, 0)) := by
  have hne : firstAndLastPageText text ≠ "" := fun h => htext (firstAndLastPageText_eq_empty.mp h)
  exact runs_extracted_iff.mpr (runs_of_sent hne (Program.runs_ret.mpr ⟨rfl, rfl⟩))

/-- Two drawings, and a page between them that quotes the token. -/
theorem sentPages_iff_quotedBetween :
    ∃ text, sentTexts (failedTrace
        (firstAndLastPageText (extractText [.ok "P", .ok pageToken, .ok "Q"])) .titleText) =
          [text] ∧
      HoldsJust text "P" "Q" :=
  (sentPages_iff ⟨id, id, fun _ => none, fun _ => ""⟩ planContext (.ok "P") [.ok pageToken]
    (.ok "Q") _ _ (runs_titleFromText_failed _ (extractText_ne_empty _ _))).mpr (by decide)

/-- A first page that quotes the token is cut off. -/
theorem not_forall_sentPages : ¬ ∀ (py : StrMethods) (context : PipelineContext)
    (first : Except PyException String) (middle : List (Except PyException String))
    (last : Except PyException String) (t : List (Event sources PyException))
    (r : Except PyException (PyVal × PyFloat)),
    (titleFromText py context).Runs
      (⟨.extractText context.pdfBytes, .ok (extractText (first :: middle ++ [last]))⟩ :: t) r →
    ∃ text, sentTexts t = [text] ∧ HoldsJust text (textOfPage first) (textOfPage last) := by
  intro h
  obtain ⟨text, htext, hholds⟩ := h ⟨id, id, fun _ => none, fun _ => ""⟩ planContext
    (.ok pageToken) [] (.ok "Q") _ _ (runs_titleFromText_failed _ (extractText_ne_empty _ _))
  obtain ⟨rfl, -⟩ := List.cons.inj htext
  have hnot := ((holdsJust_firstAndLastPageText_iff (.ok pageToken) [] (.ok "Q")).mp hholds).1
  exact hnot (List.infix_refl _)

/-! ### Documents without text -/

/-- The text source of the drawing number has no value, whatever the other sources have, and has
sent nothing. -/
def DrawingNumberAbstains (py : StrMethods) (t : List (Event sources PyException))
    (r : Except PyException (Option String × String)) : Prop :=
  sentTexts t = [] ∧ ∃ text, r = .ok text ∧ text.1 = none ∧
    ∀ vision filename, "text" ∉ (drawingNumberResult py vision text filename).sourcesUsed

/-- The text source of the title has no value, whatever the vision model has answered, and has sent
nothing. -/
def TitleAbstains (py : StrMethods) (t : List (Event sources PyException))
    (r : Except PyException (PyVal × PyFloat)) : Prop :=
  sentTexts t = [] ∧ ∃ text, r = .ok text ∧ text.1 = .none ∧
    ∀ vision own, titleResult py vision text = .ok own → "text" ∉ own.sourcesUsed

/-- The document-type extractor has no value, and has sent nothing. -/
def DocumentTypeAbstains (t : List (Event sources PyException))
    (r : Except PyException ExtractionResult) : Prop :=
  sentTexts t = [] ∧ ∃ own, r = .ok own ∧ own.documentType = none ∧ "text" ∉ own.sourcesUsed

section Abstains

variable {py : StrMethods} {t : List (Event sources PyException)} {text : String}

/-- A text that is sent is no abstention. -/
theorem SendsJust.eq_empty {α : Type} {absent : α} {r : Except PyException α}
    (h : SendsJust text absent t r) (hsent : sentTexts t = []) : text = "" := by
  rcases h with ⟨hempty, -⟩ | ⟨-, htext⟩
  · exact hempty
  · rw [hsent] at htext
    cases htext

/-- Nothing is sent of no text, and nothing is found. -/
theorem SendsJust.of_empty {α : Type} {absent : α} {r : Except PyException α}
    (h : SendsJust text absent t r) (hempty : text = "") : sentTexts t = [] ∧ r = .ok absent :=
  (h.resolve_right fun hnonempty => hnonempty.1 hempty).2

/-- A source without a value is not among the sources used. -/
theorem notMem_sourcesUsed {name : String} {values : List (String × Bool)}
    (h : ∀ value ∈ values, value.1 = name → value.2 = false) : name ∉ sourcesUsed values := by
  intro hmem
  have hpresent := h _ (mem_sourcesUsed.mp hmem) rfl
  exact Bool.noConfusion hpresent

theorem drawingNumberAbstains_iff {r : Except PyException (Option String × String)}
    (h : SendsJust text (none, "") t r) : DrawingNumberAbstains py t r ↔ text = "" := by
  constructor
  · exact fun habstains => h.eq_empty habstains.1
  · intro hempty
    obtain ⟨hsent, rfl⟩ := h.of_empty hempty
    refine ⟨hsent, _, rfl, rfl, fun vision filename => notMem_sourcesUsed ?_⟩
    simp

theorem titleAbstains_iff {r : Except PyException (PyVal × PyFloat)}
    (h : SendsJust text (.none, 0) t r) : TitleAbstains py t r ↔ text = "" := by
  constructor
  · exact fun habstains => h.eq_empty habstains.1
  · intro hempty
    obtain ⟨hsent, rfl⟩ := h.of_empty hempty
    refine ⟨hsent, _, rfl, rfl, fun vision own hown => ?_⟩
    obtain ⟨fused, -, hown⟩ := exists_of_bind_eq_ok hown
    rw [← Except.ok.inj hown]
    refine notMem_sourcesUsed ?_
    simp [isNotNone]

theorem documentTypeAbstains_iff {r : Except PyException ExtractionResult}
    (h : SendsJust text noDocumentType t r) : DocumentTypeAbstains t r ↔ text = "" := by
  constructor
  · exact fun habstains => h.eq_empty habstains.1
  · intro hempty
    obtain ⟨hsent, rfl⟩ := h.of_empty hempty
    exact ⟨hsent, _, rfl, rfl, List.not_mem_nil⟩

end Abstains

/-- The text sources have nothing to say just if the document has no pages at all: of empty pages
they send the separators. -/
theorem textSources_abstain_iff (py : StrMethods) (context : PipelineContext)
    (pages : List (Except PyException String))
    (drawingTrace titleTrace documentTrace : List (Event sources PyException))
    (drawing : Except PyException (Option String × String))
    (title : Except PyException (PyVal × PyFloat))
    (document : Except PyException ExtractionResult)
    (hdrawing : (drawingNumberFromText context).Runs
      (⟨.extractText context.pdfBytes, .ok (extractText pages)⟩ :: drawingTrace) drawing)
    (htitle : (titleFromText py context).Runs
      (⟨.extractText context.pdfBytes, .ok (extractText pages)⟩ :: titleTrace) title)
    (hdocument : (extractDocumentType py context).Runs
      (⟨.extractText context.pdfBytes, .ok (extractText pages)⟩ :: documentTrace) document) :
    DrawingNumberAbstains py drawingTrace drawing ∧ TitleAbstains py titleTrace title ∧
        DocumentTypeAbstains documentTrace document ↔
      pages = [] := by
  rw [drawingNumberAbstains_iff (sendsJust_drawingNumberFromText hdrawing),
    titleAbstains_iff (sendsJust_titleFromText htitle),
    documentTypeAbstains_iff (sendsJust_extractDocumentType hdocument),
    firstAndLastPageText_eq_empty, extractText_eq_empty, and_self, and_self]

/-- A document without pages. -/
theorem textSources_abstain_iff_noPages :
    DrawingNumberAbstains ⟨id, id, fun _ => none, fun _ => ""⟩ [] (.ok (none, "")) ∧
      TitleAbstains ⟨id, id, fun _ => none, fun _ => ""⟩ [] (.ok (.none, 0)) ∧
        DocumentTypeAbstains [] (.ok noDocumentType) := by
  refine (textSources_abstain_iff ⟨id, id, fun _ => none, fun _ => ""⟩ planContext [] [] [] []
    (.ok (none, "")) (.ok (.none, 0)) (.ok noDocumentType) ?_ ?_ ?_).mpr rfl
  · exact runs_extracted_iff.mpr (Program.runs_ret.mpr ⟨rfl, rfl⟩)
  · refine runs_extracted_iff.mpr ?_
    rw [if_pos (firstAndLastPageText_eq_empty.mpr (extractText_eq_empty.mpr rfl))]
    exact Program.runs_ret.mpr ⟨rfl, rfl⟩
  · exact runs_extracted_iff.mpr (Program.runs_ret.mpr ⟨rfl, rfl⟩)

/-- Of one empty page, the separator is sent. -/
theorem not_forall_textSources_abstain : ¬ ∀ (py : StrMethods) (context : PipelineContext)
    (pages : List (Except PyException String))
    (drawingTrace titleTrace documentTrace : List (Event sources PyException))
    (drawing : Except PyException (Option String × String))
    (title : Except PyException (PyVal × PyFloat))
    (document : Except PyException ExtractionResult),
    (∀ page ∈ pages, textOfPage page = "") →
    (drawingNumberFromText context).Runs
      (⟨.extractText context.pdfBytes, .ok (extractText pages)⟩ :: drawingTrace) drawing →
    (titleFromText py context).Runs
      (⟨.extractText context.pdfBytes, .ok (extractText pages)⟩ :: titleTrace) title →
    (extractDocumentType py context).Runs
      (⟨.extractText context.pdfBytes, .ok (extractText pages)⟩ :: documentTrace) document →
    DrawingNumberAbstains py drawingTrace drawing ∧ TitleAbstains py titleTrace title ∧
      DocumentTypeAbstains documentTrace document := by
  have hne : extractText [.ok ""] ≠ "" := extractText_ne_empty _ _
  intro h
  have habstains := (h ⟨id, id, fun _ => none, fun _ => ""⟩ planContext [.ok ""]
    (failedTrace (extractText [.ok ""]) .drawingNumberText) _
    (failedTrace (extractText [.ok ""]) .documentTypeText) (.ok (none, "")) _ (.ok noDocumentType)
    (List.forall_mem_singleton.mpr rfl)
    (runs_extracted_iff.mpr (runs_of_sent hne (Program.runs_ret.mpr ⟨rfl, rfl⟩)))
    (runs_titleFromText_failed _ hne)
    (runs_extracted_iff.mpr (runs_of_sent hne (Program.runs_ret.mpr ⟨rfl, rfl⟩)))).1
  exact List.cons_ne_nil _ _ habstains.1

end ZubotIngestion
