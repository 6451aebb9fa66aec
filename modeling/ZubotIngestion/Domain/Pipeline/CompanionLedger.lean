import ZubotIngestion.Domain.Pipeline.Companion
import ZubotIngestion.Effects.Trace
import ZubotIngestion.Python.Strip

/-!
# What became of the pages

A run of the companion generator page by page: each rendered page is skipped or asked about, with
calls of its own, and the descriptions are those of the pages in their order.

## Main definitions

* `PageReport`: what became of a page.
* `PageRun`, `PageRuns`: the calls for a page, and for all pages.
* `CompanionLedger`: the calls of the generator, with the pages it has rendered and what became of
  them.

## Main results

* `runs_describePages`: the loop, page by page.
* `runs_generate`: the generator returns what it makes of the reports.
-/

namespace ZubotIngestion

open Effects

/-! ### Reports -/

/-- What became of a rendered page. -/
inductive PageReport : Type where
  /-- Its text layer has enough words. -/
  | skipped
  /-- The vision model was asked about it; a call that fails gives no texts. -/
  | asked (visual technical : Option String)

namespace PageReport

/-- The visual description of the page, if it is not empty. -/
def visual? : PageReport → Option String
  | skipped => none
  | asked visual _ => visual.bind orNone

/-- The technical details of the page, if they are not empty. -/
def technical? : PageReport → Option String
  | skipped => none
  | asked _ technical => technical.bind orNone

/-- The page was not skipped and has a description that is not empty. -/
def isDescribed (report : PageReport) : Bool := report.visual?.isSome || report.technical?.isSome

end PageReport

/-- The descriptions after the pages with these reports. -/
def collectReports (reports : List PageReport) : PageDescriptions where
  visualDescriptions := reports.filterMap PageReport.visual?
  technicalDetails := reports.filterMap PageReport.technical?
  successfulPages := reports.countP PageReport.isDescribed

theorem appendText_eq (texts : List String) (text : Option String) :
    appendText texts text = texts ++ (text.bind orNone).toList := by
  rw [appendText]
  cases text.bind orNone with
  | none => exact (List.append_nil texts).symm
  | some text => rfl

theorem collectReports_append_skipped (reports : List PageReport) :
    collectReports (reports ++ [.skipped]) = collectReports reports := by
  simp [collectReports, PageReport.visual?, PageReport.technical?, PageReport.isDescribed]

theorem collectReports_append_asked (reports : List PageReport) (visual technical : Option String) :
    collectReports (reports ++ [.asked visual technical]) =
      (collectReports reports).add visual technical := by
  have hvisual : [PageReport.asked visual technical].filterMap PageReport.visual? =
      (visual.bind orNone).toList := by
    cases h : visual.bind orNone <;> simp [PageReport.visual?, h]
  have htechnical : [PageReport.asked visual technical].filterMap PageReport.technical? =
      (technical.bind orNone).toList := by
    cases h : technical.bind orNone <;> simp [PageReport.technical?, h]
  rw [collectReports, List.filterMap_append, List.filterMap_append, List.countP_append, hvisual,
    htechnical, PageDescriptions.add]
  split_ifs with hdescribed
  · have hcount : [PageReport.asked visual technical].countP PageReport.isDescribed = 1 := by
      rw [List.countP_singleton, if_pos]
      rwa [PageReport.isDescribed, Bool.or_eq_true]
    rw [hcount, appendText_eq, appendText_eq, collectReports]
  · have hcount : [PageReport.asked visual technical].countP PageReport.isDescribed = 0 := by
      rw [List.countP_singleton, if_neg]
      rwa [PageReport.isDescribed, Bool.or_eq_true]
    rw [not_or, Option.not_isSome_iff_eq_none, Option.not_isSome_iff_eq_none] at hdescribed
    rw [hcount, hdescribed.1, hdescribed.2, Option.toList_none, List.append_nil, List.append_nil,
      Nat.add_zero, collectReports]

/-! ### The calls of the generator -/

/-- What comes behind a program that never raises is run with its value. -/
theorem runs_bind_of_returns {α β : Type} {p : Generation α} {f : α → Generation β}
    {t : List (Event companionSources PyException)} {r : Except PyException β}
    (hp : Program.Safe (S := companionSources) (fun _ _ => True) (fun _ _ => True) Returns p [])
    (h : (p >>= f).Runs t r) :
    ∃ t₁ t₂ a, t = t₁ ++ t₂ ∧ p.Runs t₁ (.ok a) ∧ (f a).Runs t₂ r := by
  rcases Program.runs_bind.mp h with hreturned | ⟨exc, hraised, -⟩
  · exact hreturned
  · obtain ⟨a, ha⟩ : Returns t (.error exc) := hp.of_runs hraised fun _ _ => trivial
    cases ha

section Ledger

variable (py : StrMethods) (wiring : CompanionWiring) (pdfBytes : Bytes)
  (prefetched : Option (List (ℤ × String)))

/-- The calls for a page, and what becomes of it. -/
inductive PageRun (rendered : RenderedPage) :
    List (Event companionSources PyException) → PageReport → Prop
  | skipped {t : List (Event companionSources PyException)}
      (h : (isTextDominant wiring pdfBytes prefetched rendered).Runs t (.ok true)) :
      PageRun rendered t .skipped
  | asked {t u : List (Event companionSources PyException)} {visual technical : Option String}
      (h : (isTextDominant wiring pdfBytes prefetched rendered).Runs t (.ok false))
      (hasked : (describeOnePage py wiring rendered).Runs u (.ok (visual, technical))) :
      PageRun rendered (t ++ u) (.asked visual technical)

/-- The calls for all pages, one page after the other. -/
inductive PageRuns : List RenderedPage → List (Event companionSources PyException) →
    List PageReport → Prop
  | nil : PageRuns [] [] []
  | cons {rendered : RenderedPage} {pages : List RenderedPage}
      {t u : List (Event companionSources PyException)} {report : PageReport}
      {reports : List PageReport} (h : PageRun py wiring pdfBytes prefetched rendered t report)
      (hpages : PageRuns pages u reports) :
      PageRuns (rendered :: pages) (t ++ u) (report :: reports)

variable {py wiring pdfBytes prefetched}

/-- The loop goes through the pages. -/
theorem runs_describePages {pages : List RenderedPage} (before : List PageReport)
    {t : List (Event companionSources PyException)} {r : Except PyException PageDescriptions}
    (h : (describePages py wiring pdfBytes prefetched pages (collectReports before)).Runs t r) :
    ∃ reports, PageRuns py wiring pdfBytes prefetched pages t reports ∧
      r = .ok (collectReports (before ++ reports)) := by
  induction pages generalizing before t with
  | nil =>
    obtain ⟨rfl, rfl⟩ := Program.runs_ret.mp h
    exact ⟨[], .nil, by rw [List.append_nil]⟩
  | cons rendered pages ih =>
    obtain ⟨t₁, t₂, dominant, rfl, hdominant, hrest⟩ :=
      runs_bind_of_returns (isTextDominant_returns wiring pdfBytes prefetched rendered []) h
    cases dominant with
    | true =>
      rw [if_pos rfl, ← collectReports_append_skipped] at hrest
      obtain ⟨reports, hpages, rfl⟩ := ih _ hrest
      refine ⟨.skipped :: reports, .cons (.skipped hdominant) hpages, ?_⟩
      rw [List.append_assoc, List.singleton_append]
    | false =>
      rw [if_neg Bool.false_ne_true] at hrest
      obtain ⟨t₃, t₄, ⟨visual, technical⟩, rfl, hasked, hloop⟩ :=
        runs_bind_of_returns (describeOnePage_returns py wiring rendered []) hrest
      dsimp only at hloop
      rw [← collectReports_append_asked] at hloop
      obtain ⟨reports, hpages, rfl⟩ := ih _ hloop
      refine ⟨.asked visual technical :: reports, ?_, ?_⟩
      · rw [← List.append_assoc]
        exact .cons (.asked hdominant hasked) hpages
      · rw [List.append_assoc, List.singleton_append]

/-- The calls of the generator, with the pages it has rendered and what became of them. -/
inductive CompanionLedger (py : StrMethods) (wiring : CompanionWiring) (context : PipelineContext)
    (extractedText : Option String) : List (Event companionSources PyException) →
      List RenderedPage → List PageReport → Prop
  /-- The document is skipped. -/
  | notDescribed (h : describedPageCount? context extractedText = none) :
      CompanionLedger py wiring context extractedText [] [] []
  /-- The pages cannot be rendered. -/
  | notRendered {pageCount : ℕ} {exc : PyException}
      (h : describedPageCount? context extractedText = some pageCount) :
      CompanionLedger py wiring context extractedText
        [⟨.renderPages context.pdfBytes (selectPagesToRender pageCount), .error exc⟩] [] []
  /-- The rendered pages are gone through, maybe with their texts fetched before. -/
  | rendered {pageCount : ℕ} {pages : List RenderedPage}
      {prefetched : Option (List (ℤ × String))} {t u : List (Event companionSources PyException)}
      {reports : List PageReport}
      (h : describedPageCount? context extractedText = some pageCount)
      (hprefetch : (prefetchTexts wiring context.pdfBytes pages).Runs t (.ok prefetched))
      (hpages : PageRuns py wiring context.pdfBytes prefetched pages u reports) :
      CompanionLedger py wiring context extractedText
        (⟨.renderPages context.pdfBytes (selectPagesToRender pageCount), .ok pages⟩ :: (t ++ u))
        pages reports

variable {context : PipelineContext} {extractedText : Option String}
  {t : List (Event companionSources PyException)}

/-- The descriptions that are collected make the companion of the reports; without reports there is
none. -/
theorem runs_describe {r : Except PyException (Option PageDescriptions)}
    (h : (describe py wiring context extractedText).Runs t r) :
    ∃ pages reports collected, CompanionLedger py wiring context extractedText t pages reports ∧
      r = .ok collected ∧ ∀ extraction,
        companionOf extraction collected =
          companionOf extraction (some (collectReports reports)) := by
  rw [describe] at h
  cases hcount : describedPageCount? context extractedText with
  | none =>
    rw [hcount] at h
    obtain ⟨rfl, rfl⟩ := Program.runs_ret.mp h
    exact ⟨[], [], none, .notDescribed hcount, rfl, fun _ => rfl⟩
  | some pageCount =>
    rw [hcount] at h
    obtain ⟨rendered, t', rfl, hrest⟩ := Program.runs_attempt_perform_bind.mp h
    cases rendered with
    | error exc =>
      obtain ⟨rfl, rfl⟩ := Program.runs_ret.mp hrest
      exact ⟨[], [], none, .notRendered hcount, rfl, fun _ => rfl⟩
    | ok pages =>
      obtain ⟨t₁, t₂, prefetched, rfl, hprefetch, hloop⟩ :=
        runs_bind_of_returns (prefetchTexts_returns wiring context.pdfBytes pages []) hrest
      obtain ⟨t₃, t₄, descriptions, rfl, hpages, hret⟩ := runs_bind_of_returns
        (describePages_returns py wiring context.pdfBytes prefetched pages {} []) hloop
      obtain ⟨reports, hruns, hcollected⟩ := runs_describePages [] hpages
      obtain rfl := Except.ok.inj hcollected
      obtain ⟨rfl, rfl⟩ := Program.runs_ret.mp hret
      rw [List.append_nil]
      exact ⟨pages, reports, _, .rendered hcount hprefetch hruns, rfl, fun _ => rfl⟩

/-- The generator returns what it makes of the reports. -/
theorem runs_generate {extraction : ExtractionResult} {r : Except PyException CompanionResult}
    (h : (generate py wiring context extractedText extraction).Runs t r) :
    ∃ pages reports, CompanionLedger py wiring context extractedText t pages reports ∧
      r = .ok (companionOf extraction (some (collectReports reports))) := by
  obtain ⟨t₁, t₂, collected, rfl, hdescribe, hret⟩ :=
    runs_bind_of_returns (describe_returns py wiring context extractedText) h
  obtain ⟨pages, reports, collected', hledger, hcollected, hcompanion⟩ := runs_describe hdescribe
  obtain rfl := Except.ok.inj hcollected
  obtain ⟨rfl, rfl⟩ := Program.runs_ret.mp hret
  rw [List.append_nil]
  exact ⟨pages, reports, hledger, congrArg Except.ok (hcompanion extraction)⟩

/-! ### The calls of the vision model -/

/-- The images that are sent to the vision model. -/
def visionImages : List (Event companionSources PyException) → List String
  | [] => []
  | ⟨.generateVision imageBase64 _, _⟩ :: t => imageBase64 :: visionImages t
  | _ :: t => visionImages t

theorem visionImages_append (t u : List (Event companionSources PyException)) :
    visionImages (t ++ u) = visionImages t ++ visionImages u := by
  induction t with
  | nil => rfl
  | cons event t ih =>
    obtain ⟨op, answer⟩ := event
    cases op with
    | generateVision imageBase64 model => exact congrArg (imageBase64 :: ·) ih
    | renderPages | extractPageTexts | extractPageText | parseResponse => exact ih

theorem visionImages_isTextDominant {rendered : RenderedPage} {r : Except PyException Bool}
    (h : (isTextDominant wiring pdfBytes prefetched rendered).Runs t r) : visionImages t = [] := by
  rw [isTextDominant] at h
  cases hmin : skipMinWords? wiring with
  | none =>
    rw [hmin] at h
    obtain ⟨rfl, -⟩ := Program.runs_ret.mp h
    rfl
  | some minWords =>
    rw [hmin] at h
    obtain ⟨text, htext, -⟩ := Program.runs_map.mp h
    cases prefetched with
    | some texts =>
      obtain ⟨rfl, -⟩ := Program.runs_ret.mp htext
      rfl
    | none =>
      obtain ⟨extracted, t', rfl, hret⟩ := Program.runs_attempt_perform_bind.mp htext
      cases extracted <;> obtain ⟨rfl, -⟩ := Program.runs_ret.mp hret <;> rfl

theorem visionImages_prefetchTexts {pages : List RenderedPage}
    {r : Except PyException (Option (List (ℤ × String)))}
    (h : (prefetchTexts wiring pdfBytes pages).Runs t r) : visionImages t = [] := by
  rw [prefetchTexts] at h
  split_ifs at h
  · obtain ⟨texts, t', rfl, hret⟩ := Program.runs_attempt_perform_bind.mp h
    cases texts <;> obtain ⟨rfl, -⟩ := Program.runs_ret.mp hret <;> rfl
  · obtain ⟨rfl, -⟩ := Program.runs_ret.mp h
    rfl

/-- A text of a page is stripped, or the text of a value that is neither a string nor a list. -/
def PageText (py : StrMethods) (text : String) : Prop :=
  strip text = text ∨ ∃ value, text = py.str value

theorem pageText_coerceToStr {value : PyVal} {text : String}
    (h : (coerceToStr py value).bind orNone = some text) : PageText py text := by
  obtain ⟨s, hs, hne⟩ := Option.bind_eq_some_iff.mp h
  have hcoerced : coerceToStr py value = some text := (orNone_eq_some_iff.mp hne).1 ▸ hs
  cases value with
  | none => cases hcoerced
  | str s =>
    obtain ⟨rfl, -⟩ := orNone_eq_some_iff.mp hcoerced
    exact Or.inl (strip_strip s)
  | list items =>
    obtain ⟨rfl, -⟩ := orNone_eq_some_iff.mp hcoerced
    refine Or.inl (strip_intercalate "\n" fun line hline => ?_)
    obtain ⟨hitem, hne⟩ := List.mem_filter.mp hline
    obtain ⟨item, -, rfl⟩ := List.mem_map.mp hitem
    exact ⟨strip_strip _, by simpa using hne⟩
  | bool b => exact Or.inr ⟨_, (Option.some.inj hcoerced).symm⟩
  | int i => exact Or.inr ⟨_, (Option.some.inj hcoerced).symm⟩
  | float f => exact Or.inr ⟨_, (Option.some.inj hcoerced).symm⟩
  | dict items => exact Or.inr ⟨_, (Option.some.inj hcoerced).symm⟩

/-- One call of the vision model, and the texts of what it has answered. -/
theorem runs_describeOnePage {rendered : RenderedPage} {visual technical : Option String}
    (h : (describeOnePage py wiring rendered).Runs t (.ok (visual, technical))) :
    visionImages t = [rendered.base64Jpeg] ∧
      (∀ text, visual.bind orNone = some text → PageText py text) ∧
        ∀ text, technical.bind orNone = some text → PageText py text := by
  have hnone : ∀ text, (none : Option String).bind orNone = some text → PageText py text :=
    fun _ h => nomatch h
  obtain ⟨response, t', rfl, hresponse⟩ := Program.runs_attempt_perform_bind.mp h
  cases response with
  | error exc =>
    obtain ⟨rfl, htexts⟩ := Program.runs_ret.mp hresponse
    obtain ⟨rfl, rfl⟩ := Prod.mk.inj (Except.ok.inj htexts)
    exact ⟨rfl, hnone, hnone⟩
  | ok responseText =>
    obtain ⟨parsed, t'', rfl, hret⟩ := Program.runs_attempt_perform_bind.mp hresponse
    cases parsed with
    | error exc =>
      obtain ⟨rfl, htexts⟩ := Program.runs_ret.mp hret
      obtain ⟨rfl, rfl⟩ := Prod.mk.inj (Except.ok.inj htexts)
      exact ⟨rfl, hnone, hnone⟩
    | ok parsed =>
      obtain ⟨rfl, htexts⟩ := Program.runs_ret.mp hret
      obtain ⟨rfl, rfl⟩ := Prod.mk.inj (Except.ok.inj htexts)
      exact ⟨rfl, fun _ h => pageText_coerceToStr h, fun _ h => pageText_coerceToStr h⟩

/-- The texts of a report. -/
def PageReport.HasText (report : PageReport) (text : String) : Prop :=
  report.visual? = some text ∨ report.technical? = some text

theorem PageRun.sends {rendered : RenderedPage} {report : PageReport}
    (h : PageRun py wiring pdfBytes prefetched rendered t report) :
    (visionImages t).Sublist [rendered.base64Jpeg] ∧
      ∀ text, report.HasText text → PageText py text := by
  cases h with
  | skipped h =>
    rw [visionImages_isTextDominant h]
    refine ⟨List.nil_sublist _, fun text htext => ?_⟩
    rcases htext with h | h <;> cases h
  | asked h hasked =>
    obtain ⟨himages, hvisual, htechnical⟩ := runs_describeOnePage hasked
    rw [visionImages_append, visionImages_isTextDominant h, himages]
    exact ⟨List.Sublist.refl _, fun text htext => htext.elim (hvisual text) (htechnical text)⟩

/-- Every page is sent at most once, in order, and every rendered page has a report. -/
theorem PageRuns.sends {pages : List RenderedPage} {reports : List PageReport}
    (h : PageRuns py wiring pdfBytes prefetched pages t reports) :
    (visionImages t).Sublist (pages.map RenderedPage.base64Jpeg) ∧
      reports.length = pages.length ∧
        ∀ report ∈ reports, ∀ text, report.HasText text → PageText py text := by
  induction h with
  | nil => exact ⟨List.nil_sublist _, rfl, List.forall_mem_nil _⟩
  | cons hpage _ ih =>
    obtain ⟨himages, hlength, htexts⟩ := ih
    obtain ⟨himage, htext⟩ := hpage.sends
    rw [visionImages_append, List.map_cons, List.length_cons, List.length_cons, hlength]
    exact ⟨himage.append himages, rfl, List.forall_mem_cons.mpr ⟨htext, htexts⟩⟩

/-- The same of the generator. -/
theorem CompanionLedger.sends {pages : List RenderedPage} {reports : List PageReport}
    (h : CompanionLedger py wiring context extractedText t pages reports) :
    (visionImages t).Sublist (pages.map RenderedPage.base64Jpeg) ∧
      reports.length = pages.length ∧
        ∀ report ∈ reports, ∀ text, report.HasText text → PageText py text := by
  cases h with
  | notDescribed => exact ⟨List.nil_sublist _, rfl, List.forall_mem_nil _⟩
  | notRendered => exact ⟨List.nil_sublist _, rfl, List.forall_mem_nil _⟩
  | @rendered _ _ _ t u _ _ hprefetch hpages =>
    have himages : visionImages (t ++ u) = visionImages u := by
      rw [visionImages_append, visionImages_prefetchTexts hprefetch, List.nil_append]
    obtain ⟨hsublist, hrest⟩ := hpages.sends
    exact ⟨himages ▸ hsublist, hrest⟩

end Ledger

end ZubotIngestion
