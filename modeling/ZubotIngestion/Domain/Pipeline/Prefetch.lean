import ZubotIngestion.Domain.Pipeline.Companion
import ZubotIngestion.Effects.Resolve
import ZubotIngestion.Infrastructure.PdfProcessor

/-!
# The texts of the pages, prefetched or not

Before it asks the vision model about a page, the generator reads the text of the page to see
whether the page can be skipped. It gets the texts in one call if the PDF processor offers
`extract_page_texts`, and page by page otherwise. The two calls catch different failures; what the
generator makes of them is the same.

## Main definitions

* `pageTextAnswers`, `withPageTexts`: a PDF processor that reads its documents always alike.
* `visionCalls`: the calls of the vision model in a run.

## Main results

* `resolve_generate`: the generator with the texts filled in does not depend on the batch call.
-/

namespace ZubotIngestion

open Effects

/-- The answers of the PDF processor to the calls for page texts, given what each document opens
to. -/
def pageTextAnswers (documents : Bytes → OpenedDocument) :
    (op : CompanionOp) → Option (Except PyException op.Res)
  | .extractPageTexts pdfBytes pageNumbers =>
    some (extractPageTexts (documents pdfBytes) pageNumbers)
  | .extractPageText pdfBytes pageNumber => some (extractPageText (documents pdfBytes) pageNumber)
  | .renderPages .. => none
  | .generateVision .. => none
  | .parseResponse .. => none

variable {σ : Type}

/-- An environment whose page texts come from the PDF processor; `others` answers the other
calls. -/
def withPageTexts (documents : Bytes → OpenedDocument)
    (others : (op : CompanionOp) → σ → Except PyException op.Res × σ) (op : CompanionOp) (s : σ) :
    Except PyException op.Res × σ :=
  match pageTextAnswers documents op with
  | some r => (r, s)
  | none => others op s

/-- A call of the vision model. -/
def isVisionCall (event : Event companionSources PyException) : Bool :=
  match event.1 with
  | .generateVision .. => true
  | _ => false

/-- The calls of the vision model in a run, in their order and with their answers. -/
def visionCalls (t : List (Event companionSources PyException)) :
    List (Event companionSources PyException) :=
  t.filter isVisionCall

theorem gives_withPageTexts (documents : Bytes → OpenedDocument)
    (others : (op : CompanionOp) → σ → Except PyException op.Res × σ) :
    Program.Gives (S := companionSources) (pageTextAnswers documents)
      (withPageTexts documents others) := by
  intro op r h s
  rw [withPageTexts, h]

/-! ### The generator with the texts filled in -/

section Resolved

variable {documents : Bytes → OpenedDocument} (settings : Option CompanionSettings)

/-- The prefetched texts are those of the single pages. -/
def PrefetchedFrom (document : OpenedDocument) (pages : List RenderedPage) :
    Option (List (ℤ × String)) → Prop
  | none => True
  | some texts => ∀ rendered ∈ pages,
    (texts.lookup rendered.pageNumber).getD "" =
      textOfPage (extractPageText document rendered.pageNumber)

/-- The text the loop reads for a page is the text of the single page. -/
theorem resolve_pageText {pdfBytes : Bytes} {prefetched : Option (List (ℤ × String))}
    {pages : List RenderedPage} (h : PrefetchedFrom (documents pdfBytes) pages prefetched)
    {rendered : RenderedPage} (hrendered : rendered ∈ pages) :
    (pageText pdfBytes prefetched rendered.pageNumber).resolve (pageTextAnswers documents) =
      .ret (textOfPage (extractPageText (documents pdfBytes) rendered.pageNumber)) := by
  cases prefetched with
  | some texts => exact congrArg Program.ret (h rendered hrendered)
  | none =>
    have hknown : pageTextAnswers documents (.extractPageText pdfBytes rendered.pageNumber) =
      some (extractPageText (documents pdfBytes) rendered.pageNumber) := rfl
    rw [pageText, Program.resolve_attempt_perform_bind hknown]
    cases extractPageText (documents pdfBytes) rendered.pageNumber <;> rfl

/-- Whether a page is skipped does not depend on the batch call. -/
theorem resolve_isTextDominant (batch : Bool) {pdfBytes : Bytes}
    {prefetched : Option (List (ℤ × String))} {pages : List RenderedPage}
    (h : PrefetchedFrom (documents pdfBytes) pages prefetched) {rendered : RenderedPage}
    (hrendered : rendered ∈ pages) :
    (isTextDominant ⟨settings, batch⟩ pdfBytes prefetched rendered).resolve
        (pageTextAnswers documents) =
      (isTextDominant ⟨settings, false⟩ pdfBytes none rendered).resolve
        (pageTextAnswers documents) := by
  have hsettings : skipMinWords? ⟨settings, batch⟩ = skipMinWords? ⟨settings, false⟩ := rfl
  rw [isTextDominant, isTextDominant, hsettings]
  cases skipMinWords? ⟨settings, false⟩ with
  | none => rfl
  | some minWords =>
    have hsingle : PrefetchedFrom (documents pdfBytes) pages none := trivial
    rw [Program.resolve_bind, Program.resolve_bind, resolve_pageText h hrendered,
      resolve_pageText hsingle hrendered]

theorem resolve_describePages (py : StrMethods) (batch : Bool) {pdfBytes : Bytes}
    {prefetched : Option (List (ℤ × String))} {pages : List RenderedPage}
    (h : PrefetchedFrom (documents pdfBytes) pages prefetched) (descriptions : PageDescriptions) :
    (describePages py ⟨settings, batch⟩ pdfBytes prefetched pages descriptions).resolve
        (pageTextAnswers documents) =
      (describePages py ⟨settings, false⟩ pdfBytes none pages descriptions).resolve
        (pageTextAnswers documents) := by
  induction pages generalizing descriptions with
  | nil => rfl
  | cons rendered pages ih =>
    have hpages : PrefetchedFrom (documents pdfBytes) pages prefetched := by
      cases prefetched with
      | none => trivial
      | some texts => exact fun page hpage => h page (List.mem_cons_of_mem _ hpage)
    rw [describePages, describePages, Program.resolve_bind, Program.resolve_bind,
      resolve_isTextDominant settings batch h List.mem_cons_self]
    refine congrArg _ (funext fun dominant => ?_)
    cases dominant with
    | true => exact ih hpages descriptions
    | false =>
      -- the settings choose the model, and both generators have the same
      rw [if_neg Bool.false_ne_true, if_neg Bool.false_ne_true, Program.resolve_bind,
        Program.resolve_bind]
      exact congrArg _ (funext fun page => ih hpages _)

variable (documents)

/-- The batch call gives the texts of all rendered pages, or nothing. -/
theorem resolve_prefetchTexts (batch : Bool) (pdfBytes : Bytes) (pages : List RenderedPage) :
    ∃ prefetched, PrefetchedFrom (documents pdfBytes) pages prefetched ∧
      (prefetchTexts ⟨settings, batch⟩ pdfBytes pages).resolve (pageTextAnswers documents) =
        .ret prefetched := by
  rw [prefetchTexts]
  split_ifs with hskip
  · have hknown : pageTextAnswers documents
        (.extractPageTexts pdfBytes (pages.map RenderedPage.pageNumber)) =
      some (extractPageTexts (documents pdfBytes) (pages.map RenderedPage.pageNumber)) := rfl
    rw [Program.resolve_attempt_perform_bind hknown]
    cases htexts : extractPageTexts (documents pdfBytes) (pages.map RenderedPage.pageNumber) with
    | error exc => exact ⟨none, trivial, rfl⟩
    | ok texts =>
      refine ⟨some texts, fun rendered hrendered => ?_, rfl⟩
      exact lookup_extractPageTexts htexts (List.mem_map_of_mem hrendered)
  · exact ⟨none, trivial, rfl⟩

/-- Once the texts are filled in, the batch call makes no difference. -/
theorem resolve_generate (py : StrMethods) (batch : Bool) (context : PipelineContext)
    (extractedText : Option String) (extraction : ExtractionResult) :
    (generate py ⟨settings, batch⟩ context extractedText extraction).resolve
        (pageTextAnswers documents) =
      (generate py ⟨settings, false⟩ context extractedText extraction).resolve
        (pageTextAnswers documents) := by
  rw [generate, generate, Program.resolve_bind, Program.resolve_bind, describe, describe]
  cases describedPageCount? context extractedText with
  | none => rfl
  | some pageCount =>
    dsimp only
    rw [Program.resolve_bind, Program.resolve_bind]
    refine congrArg (· >>= _) (congrArg _ (funext fun rendered => ?_))
    cases rendered with
    | error exc => rfl
    | ok pages =>
      obtain ⟨prefetched, hprefetched, hbatch⟩ :=
        resolve_prefetchTexts documents settings batch context.pdfBytes pages
      obtain ⟨none', hnone, hsingle⟩ :=
        resolve_prefetchTexts documents settings false context.pdfBytes pages
      dsimp only
      rw [Program.resolve_bind, Program.resolve_bind, hbatch, hsingle, Program.ret_bind,
        Program.ret_bind, Program.resolve_bind, Program.resolve_bind,
        resolve_describePages settings py batch hprefetched,
        resolve_describePages settings py false hnone]

end Resolved

/-- A generator whose processor offers the batch call and one whose processor does not: in every
environment they return one result, in one state, after the same calls of the vision model. -/
theorem generate_prefetched_eq (py : StrMethods) (settings : Option CompanionSettings)
    (context : PipelineContext) (extractedText : Option String) (extraction : ExtractionResult)
    (documents : Bytes → OpenedDocument)
    (others : (op : CompanionOp) → σ → Except PyException op.Res × σ) (s : σ) :
    (∃ result s',
      Program.run (S := companionSources) (withPageTexts documents others)
          (generate py ⟨settings, true⟩ context extractedText extraction) s = (.ok result, s') ∧
        Program.run (S := companionSources) (withPageTexts documents others)
          (generate py ⟨settings, false⟩ context extractedText extraction) s = (.ok result, s')) ∧
    visionCalls (Program.trace (S := companionSources) (withPageTexts documents others)
        (generate py ⟨settings, true⟩ context extractedText extraction) s) =
      visionCalls (Program.trace (S := companionSources) (withPageTexts documents others)
        (generate py ⟨settings, false⟩ context extractedText extraction) s) := by
  have hresolved := resolve_generate documents settings py true context extractedText extraction
  have hgives := gives_withPageTexts documents others
  have hrun := Program.run_eq_of_resolve_eq hgives hresolved s
  constructor
  · obtain ⟨collected, -, hreturned⟩ := GeneratorRun.generated_eq
      ⟨py, ⟨settings, true⟩, context, extractedText, withPageTexts documents others, s⟩ extraction
    refine ⟨_, _, Prod.ext hreturned rfl, hrun.symm.trans (Prod.ext hreturned rfl)⟩
  · refine Program.trace_eq_of_resolve_eq hgives hresolved (fun event hvision => ?_) s
    rcases event with ⟨op, r⟩
    cases op with
    | generateVision => rfl
    | renderPages => rfl
    | parseResponse => rfl
    | extractPageTexts => cases hvision
    | extractPageText => cases hvision

end ZubotIngestion
