import ZubotIngestion.Domain.Pipeline.CompanionLedger
import ZubotIngestion.Services.Stage1
import ZubotIngestion.Text.InOrder

/-!
# Companions are coherent

The orchestrator validates a companion if it has a text, and indexes it if it is flagged as
generated. Text, flag and page count of a companion agree, and account for the pages that were
described.

## Main definitions

* `Collaborators.renderPages`: rendering the selected pages of a document.
* `ResolvedPages`: the page numbers that the selected indices stand for.
* `CoherentCompanion`.

## Main results

* `exists_resolvedPages`: the selection, as page numbers.
* `companion_coherent`: every run of the generator returns a coherent companion.
-/

namespace ZubotIngestion

open Effects

/-! ### The selected pages -/

/-- `render_pages`. -/
def Collaborators.renderPages (c : Collaborators) (pdfBytes : Bytes) (pageNumbers : List ℤ) :
    Except PyException (List RenderedPage) := do
  let count ← c.pageCount pdfBytes
  pageNumbers.mapM fun pageNumber => do
    let idx ← resolvePageIndex pageNumber count
    let base64Jpeg ← c.rasterize pdfBytes idx
    return ⟨idx, base64Jpeg⟩

/-- The selected indices of a document stand for at most four pages of it, in ascending order. -/
structure ResolvedPages (pageCount : ℕ) (pageNumbers : List ℤ) : Prop where
  resolved : ((selectPagesToRender pageCount).mapM fun index => resolvePageIndex index pageCount) =
    .ok pageNumbers
  atMostFour : pageNumbers.length ≤ 4
  ascending : pageNumbers.Pairwise (· < ·)
  inRange : ∀ pageNumber ∈ pageNumbers, 0 ≤ pageNumber ∧ pageNumber < pageCount

theorem resolvePageIndex_of_nonneg {index pageCount : ℤ} (h₀ : 0 ≤ index) (h : index < pageCount) :
    resolvePageIndex index pageCount = .ok index := by
  rw [resolvePageIndex, if_neg (by omega)]
  dsimp only
  rw [if_neg (show ¬ index < 0 by omega), if_neg (by omega)]

theorem resolvePageIndex_of_neg {index pageCount : ℤ} (h₀ : index < 0) (h : 0 ≤ pageCount + index) :
    resolvePageIndex index pageCount = .ok (pageCount + index) := by
  rw [resolvePageIndex, if_neg (by omega)]
  dsimp only
  rw [if_pos h₀, if_neg (by omega)]

theorem selectPagesToRender_of_lt_four {pageCount : ℕ} (h₂ : 2 ≤ pageCount) (h : pageCount < 4) :
    selectPagesToRender pageCount = [0, 1] := by
  rw [selectPagesToRender, if_neg (by omega), if_pos h₂, if_neg (by omega)]
  rfl

theorem selectPagesToRender_of_four_le {pageCount : ℕ} (h : 4 ≤ pageCount) :
    selectPagesToRender pageCount = [0, 1, -2, -1] := by
  rw [selectPagesToRender, if_neg (by omega), if_pos (by omega), if_pos h]
  rfl

theorem exists_resolvedPages (pageCount : ℕ) :
    ∃ pageNumbers, ResolvedPages pageCount pageNumbers := by
  rcases Nat.lt_or_ge pageCount 4 with h | h
  · rcases Nat.lt_or_ge pageCount 2 with h₂ | h₂
    · -- no page or one, which is the selection
      obtain rfl | rfl : pageCount = 0 ∨ pageCount = 1 := by omega
      · exact ⟨[], rfl, by simp, by simp, by simp⟩
      · exact ⟨[0], rfl, by simp, by simp, by simp⟩
    · refine ⟨[0, 1], ?_, by simp, by simp, ?_⟩
      · rw [selectPagesToRender_of_lt_four h₂ h, List.mapM_cons, List.mapM_cons, List.mapM_nil,
          resolvePageIndex_of_nonneg le_rfl (by omega),
          resolvePageIndex_of_nonneg zero_le_one (by omega)]
        rfl
      · simp only [List.forall_mem_cons, List.not_mem_nil, IsEmpty.forall_iff, implies_true,
        and_true]
        omega
  · -- the last two pages are behind the first two
    refine ⟨[0, 1, pageCount + -2, pageCount + -1], ?_, by simp, ?_, ?_⟩
    · rw [selectPagesToRender_of_four_le h, List.mapM_cons, List.mapM_cons, List.mapM_cons,
        List.mapM_cons, List.mapM_nil, resolvePageIndex_of_nonneg le_rfl (by omega),
        resolvePageIndex_of_nonneg zero_le_one (by omega),
        resolvePageIndex_of_neg (by omega) (by omega),
        resolvePageIndex_of_neg (by omega) (by omega)]
      rfl
    · simp only [List.pairwise_cons, List.forall_mem_cons, List.not_mem_nil, IsEmpty.forall_iff,
        implies_true, List.Pairwise.nil, and_true]
      omega
    · simp only [List.forall_mem_cons, List.not_mem_nil, IsEmpty.forall_iff, implies_true,
        and_true]
      omega

/-- Rendered pages have the numbers that the indices stand for. -/
theorem resolved_of_mapM {rasterize : ℤ → Except PyException String} {pageCount : ℤ}
    {indices : List ℤ} {pages : List RenderedPage}
    (h : (indices.mapM fun index => do
      let idx ← resolvePageIndex index pageCount
      let base64Jpeg ← rasterize idx
      return (⟨idx, base64Jpeg⟩ : RenderedPage)) = .ok pages) :
    (indices.mapM fun index => resolvePageIndex index pageCount) =
      .ok (pages.map RenderedPage.pageNumber) := by
  induction indices generalizing pages with
  | nil =>
    obtain rfl := Except.ok.inj h
    rfl
  | cons index indices ih =>
    rw [List.mapM_cons] at h
    obtain ⟨page, hpage, hrest⟩ := exists_of_bind_eq_ok h
    obtain ⟨rest, hpages, hret⟩ := exists_of_bind_eq_ok hrest
    obtain rfl := Except.ok.inj hret
    obtain ⟨idx, hidx, hjpeg⟩ := exists_of_bind_eq_ok hpage
    obtain ⟨base64Jpeg, -, hret⟩ := exists_of_bind_eq_ok hjpeg
    obtain rfl := Except.ok.inj hret
    rw [List.mapM_cons, hidx, ih hpages]
    rfl

/-! ### Coherence -/

/-- The texts, stripped, occur in the section one behind the other. -/
def OccurInOrder (texts : List String) (sectionText : String) : Prop :=
  Text.InOrder ((texts.map strip).map String.toList) sectionText.toList

theorem occurInOrder_markdownBlock (texts : List String) :
    OccurInOrder texts (markdownBlock texts) := by
  rw [OccurInOrder, markdownBlock, String.toList_intercalate]
  have hfilter : (((texts.map strip).filter fun text => text ≠ "").map String.toList) =
      ((texts.map strip).map String.toList).filter fun chars => chars ≠ [] := by
    rw [List.filter_map (f := String.toList)]
    congr 1
    refine List.filter_congr fun text _ => ?_
    simp
  rw [hfilter]
  refine Text.InOrder.of_filter (fun chars hchars => ?_) (Text.inOrder_intercalate _ _)
  simpa using hchars

/-- The result of a run of the generator agrees with itself, and with what became of the pages. -/
structure CoherentCompanion (py : StrMethods) (wiring : CompanionWiring)
    (context : PipelineContext) (extractedText : Option String)
    (t : List (Event companionSources PyException)) (pages : List RenderedPage)
    (reports : List PageReport) (result : CompanionResult) : Prop where
  /-- The calls of the run are those for the pages, and give the reports. -/
  ledger : CompanionLedger py wiring context extractedText t pages reports
  generated_iff_text : result.companionGenerated = true ↔ result.companionText ≠ ""
  generated_iff_pages : result.companionGenerated = true ↔ 1 ≤ result.pagesDescribed
  /-- The pages that were not skipped and have a description. -/
  pagesDescribed_eq : result.pagesDescribed = reports.countP PageReport.isDescribed
  /-- The texts of the pages stand in the two sections, in the order of the pages. -/
  sections : result.companionGenerated = true → ∃ visualSection technicalSection metadata,
    result.companionText = "# VISUAL DESCRIPTION\n" ++ visualSection ++
      "\n\n# TECHNICAL DETAILS\n" ++ technicalSection ++ "\n\n# METADATA\n" ++ metadata ∧
    OccurInOrder (reports.filterMap PageReport.visual?) visualSection ∧
    OccurInOrder (reports.filterMap PageReport.technical?) technicalSection
  /-- Each text was stripped already, or is the text of a value. -/
  texts : ∀ report ∈ reports, ∀ text, report.HasText text → PageText py text
  /-- Every rendered page has a report, and is sent to the vision model at most once. -/
  reported : reports.length = pages.length
  sent : (visionImages t).Sublist (pages.map RenderedPage.base64Jpeg)

theorem assembleCompanionMarkdown_ne_empty (visualDescriptions technicalDetails : List String)
    (extraction : ExtractionResult) :
    assembleCompanionMarkdown visualDescriptions technicalDetails extraction ≠ "" := by
  intro h
  obtain ⟨hmetadata, -⟩ := String.append_eq_empty_iff.mp h
  obtain ⟨htechnical, -⟩ := String.append_eq_empty_iff.mp hmetadata
  obtain ⟨hdetails, -⟩ := String.append_eq_empty_iff.mp htechnical
  obtain ⟨hvisual, -⟩ := String.append_eq_empty_iff.mp hdetails
  obtain ⟨hheading, -⟩ := String.append_eq_empty_iff.mp hvisual
  exact absurd hheading (by decide)

/-- The companion that is made of the reports is coherent. -/
theorem coherentCompanion {py : StrMethods} {wiring : CompanionWiring} {context : PipelineContext}
    {extractedText : Option String} {t : List (Event companionSources PyException)}
    {pages : List RenderedPage} {reports : List PageReport} (extraction : ExtractionResult)
    (h : CompanionLedger py wiring context extractedText t pages reports) :
    CoherentCompanion py wiring context extractedText t pages reports
      (companionOf extraction (some (collectReports reports))) := by
  obtain ⟨hsent, hreported, htexts⟩ := h.sends
  rw [companionOf]
  split_ifs with hnone
  · have hcount : reports.countP PageReport.isDescribed = 0 := hnone
    exact {
      ledger := h
      generated_iff_text := iff_of_false Bool.false_ne_true (fun hne => hne rfl)
      generated_iff_pages := iff_of_false Bool.false_ne_true (by simp [noCompanion])
      pagesDescribed_eq := hcount.symm
      sections := fun hgenerated => absurd hgenerated Bool.false_ne_true
      texts := htexts
      reported := hreported
      sent := hsent }
  · exact {
      ledger := h
      generated_iff_text := iff_of_true rfl (assembleCompanionMarkdown_ne_empty _ _ extraction)
      generated_iff_pages := iff_of_true rfl (Nat.one_le_iff_ne_zero.mpr hnone)
      pagesDescribed_eq := rfl
      sections := fun _ =>
        ⟨_, _, _, rfl, occurInOrder_markdownBlock _, occurInOrder_markdownBlock _⟩
      texts := htexts
      reported := hreported
      sent := hsent }

/-- A document that is described has pages. -/
theorem describedPageCount?_eq_some {context : PipelineContext} {extractedText : Option String}
    {pageCount : ℕ} (h : describedPageCount? context extractedText = some pageCount) :
    ∃ pdfData, context.pdfData = some pdfData ∧ pdfData.pageCount = pageCount := by
  rw [describedPageCount?] at h
  cases hdata : context.pdfData with
  | none =>
    rw [hdata] at h
    cases h
  | some pdfData =>
    rw [hdata] at h
    dsimp only at h
    split_ifs at h
    exact ⟨pdfData, rfl, Option.some.inj h⟩

/-- The calls of the processor are answered from the document. -/
def RendersDocument (c : Collaborators) (context : PipelineContext)
    (t : List (Event companionSources PyException)) : Prop :=
  ∀ pageNumbers answer, ⟨.renderPages context.pdfBytes pageNumbers, answer⟩ ∈ t →
    answer = c.renderPages context.pdfBytes pageNumbers

/-- The rendered pages are those that are selected, if the page count is that of the document. -/
theorem CompanionLedger.resolved {py : StrMethods} {wiring : CompanionWiring}
    {context : PipelineContext} {extractedText : Option String}
    {t : List (Event companionSources PyException)} {pages : List RenderedPage}
    {reports : List PageReport}
    (h : CompanionLedger py wiring context extractedText t pages reports) {c : Collaborators}
    (hrenders : RendersDocument c context t) {pdfData : PDFData}
    (hdata : context.pdfData = some pdfData)
    (hcount : c.pageCount context.pdfBytes = .ok pdfData.pageCount) {pageNumbers : List ℤ}
    (hresolved : ResolvedPages pdfData.pageCount pageNumbers) :
    pages = [] ∨ pages.map RenderedPage.pageNumber = pageNumbers := by
  cases h with
  | notDescribed => exact Or.inl rfl
  | notRendered => exact Or.inl rfl
  | rendered hdescribed =>
    obtain ⟨pdfData', hdata', hpageCount⟩ := describedPageCount?_eq_some hdescribed
    obtain rfl := Option.some.inj (hdata.symm.trans hdata')
    have hanswer := hrenders _ _ List.mem_cons_self
    obtain ⟨count, hopened, hpages⟩ := exists_of_bind_eq_ok hanswer.symm
    obtain rfl := Except.ok.inj (hcount.symm.trans hopened)
    have hnumbers := resolved_of_mapM hpages
    rw [← hpageCount, hresolved.resolved] at hnumbers
    exact Or.inr (Except.ok.inj hnumbers).symm

/-- Whatever its collaborators answer or raise, the generator returns a coherent companion. If the
page count is that of the document, the selected indices stand for at most four pages of it, in
ascending order, which are the pages that are rendered, and so it makes at most four calls of the
vision model. -/
theorem companion_coherent (py : StrMethods) (wiring : CompanionWiring) (context : PipelineContext)
    (extractedText : Option String) (extraction : ExtractionResult)
    (t : List (Event companionSources PyException)) (r : Except PyException CompanionResult)
    (h : (generate py wiring context extractedText extraction).Runs t r) :
    ∃ result pages reports, r = .ok result ∧
      CoherentCompanion py wiring context extractedText t pages reports result ∧
      ∀ (c : Collaborators) (pdfData : PDFData), context.pdfData = some pdfData →
        c.pageCount context.pdfBytes = .ok pdfData.pageCount → RendersDocument c context t →
        ∃ pageNumbers, ResolvedPages pdfData.pageCount pageNumbers ∧
          (pages = [] ∨ pages.map RenderedPage.pageNumber = pageNumbers) ∧
          (visionImages t).length ≤ 4 := by
  obtain ⟨pages, reports, hledger, rfl⟩ := runs_generate h
  refine ⟨_, pages, reports, rfl, coherentCompanion extraction hledger, ?_⟩
  intro c pdfData hdata hcount hrenders
  obtain ⟨pageNumbers, hresolved⟩ := exists_resolvedPages pdfData.pageCount
  have hpages := hledger.resolved hrenders hdata hcount hresolved
  refine ⟨pageNumbers, hresolved, hpages, ?_⟩
  have hcalls := hledger.sends.1.length_le
  rw [List.length_map] at hcalls
  refine hcalls.trans ?_
  rcases hpages with rfl | hnumbers
  · exact Nat.zero_le 4
  · have hfour := hresolved.atMostFour
    rwa [← hnumbers, List.length_map] at hfour

/-! ### A page described by a number -/

/-- A generator without settings, on a document with one page. -/
def sketchContext : PipelineContext := { planContext with pdfData := some ⟨1, "9f86d081"⟩ }

/-- The wiring without settings. -/
def bareWiring : CompanionWiring := ⟨none, false⟩

/-- The conversions of a run in which values print as `"7"`. -/
def sevenMethods : StrMethods := ⟨id, id, fun _ => none, fun _ => "7"⟩

/-- The vision model answers with a number. -/
def sketchTrace : List (Event companionSources PyException) :=
  [⟨.renderPages sketchContext.pdfBytes [0], .ok [⟨0, "/9j/"⟩]⟩,
    ⟨.generateVision "/9j/" ollamaModelVision, .ok "7"⟩,
    ⟨.parseResponse "7" companionPageSchema, .ok [("visual_description", .int 7)]⟩]

/-- The generator describes the page by the number. -/
theorem runs_sketchTrace (extraction : ExtractionResult) :
    (generate sevenMethods bareWiring sketchContext none extraction).Runs sketchTrace
      (.ok (companionOf extraction (some ⟨["7"], [], 1⟩))) := by
  have hprefetch : (prefetchTexts bareWiring sketchContext.pdfBytes [⟨0, "/9j/"⟩]).Runs []
      (.ok none) := by
    rw [prefetchTexts, if_neg (by simp [bareWiring])]
    exact Program.runs_ret.mpr ⟨rfl, rfl⟩
  have hdescribe : (describeOnePage sevenMethods bareWiring ⟨0, "/9j/"⟩).Runs (sketchTrace.drop 1)
      (.ok (some "7", none)) := by
    refine Program.runs_attempt_perform_bind.mpr ⟨.ok "7", _, rfl, ?_⟩
    refine Program.runs_attempt_perform_bind.mpr
      ⟨.ok [("visual_description", .int 7)], [], rfl, Program.runs_ret.mpr ⟨rfl, rfl⟩⟩
  have hpages : (describePages sevenMethods bareWiring sketchContext.pdfBytes none [⟨0, "/9j/"⟩]
      {}).Runs (sketchTrace.drop 1) (.ok ⟨["7"], [], 1⟩) := by
    refine Program.runs_bind.mpr (Or.inl ⟨[], _, false, rfl, Program.runs_ret.mpr ⟨rfl, rfl⟩, ?_⟩)
    rw [if_neg Bool.false_ne_true]
    exact Program.runs_bind.mpr (Or.inl ⟨_, [], _, (List.append_nil _).symm, hdescribe,
      Program.runs_ret.mpr ⟨rfl, rfl⟩⟩)
  refine Program.runs_bind.mpr (Or.inl ⟨sketchTrace, [], some ⟨["7"], [], 1⟩, rfl, ?_, ?_⟩)
  · refine Program.runs_attempt_perform_bind.mpr ⟨.ok [⟨0, "/9j/"⟩], _, rfl, ?_⟩
    refine Program.runs_bind.mpr (Or.inl ⟨[], _, none, rfl, hprefetch, ?_⟩)
    exact Program.runs_bind.mpr (Or.inl ⟨_, [], _, (List.append_nil _).symm, hpages,
      Program.runs_ret.mpr ⟨rfl, rfl⟩⟩)
  · exact Program.runs_ret.mpr ⟨rfl, rfl⟩

/-- The companion with the number is coherent, and the page is the one that was selected. -/
theorem companion_coherent_sketch : ∃ pages reports,
    CoherentCompanion sevenMethods bareWiring sketchContext none sketchTrace pages reports
      (companionOf noDocumentType (some ⟨["7"], [], 1⟩)) ∧
    ∃ pageNumbers, ResolvedPages 1 pageNumbers ∧
      (pages = [] ∨ pages.map RenderedPage.pageNumber = pageNumbers) ∧
      (visionImages sketchTrace).length ≤ 4 := by
  obtain ⟨result, pages, reports, hresult, hcoherent, hselected⟩ :=
    companion_coherent sevenMethods bareWiring sketchContext none noDocumentType sketchTrace _
      (runs_sketchTrace noDocumentType)
  obtain rfl := Except.ok.inj hresult
  refine ⟨pages, reports, hcoherent, hselected planCollaborators ⟨1, "9f86d081"⟩ rfl rfl ?_⟩
  intro pageNumbers answer hanswer
  rcases List.mem_cons.mp hanswer with hrendered | hrest
  · cases hrendered
    rfl
  · rcases List.mem_cons.mp hrest with hvision | hparse
    · cases hvision
    · cases List.mem_singleton.mp hparse

end ZubotIngestion
