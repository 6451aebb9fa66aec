import ZubotIngestion.Domain.Pipeline.Fusion
import ZubotIngestion.Services.PageSources

/-!
# The sources of the title

`TitleExtractor.extract` gathers two coroutines, and an exception of either of them is an exception
of the extractor. A call of a model that fails is caught, but what a model answers is not looked at
before it is used: a title that is not a string raises when it is flattened, and an integer too
large for a float raises when it is coerced. So one answer that is not readable loses the title of
the other one.

## Main definitions

* `TitleGathered`: how the extractor ends when its coroutines have ended.

## Main results

* `titleOutcome_isSome_iff`: when two answers give a title.
* `title_isolated_iff`: when a title that an answer gives is not lost.
-/

namespace ZubotIngestion

open Effects

section Gathered

variable {py : StrMethods} {vision text : Answer}

/-- The answers give a title just if both are readable and one has a title. -/
theorem titleOutcome_isSome_iff :
    (∃ title confidence, titleOutcome py vision text = .ok (some title, confidence)) ↔
      (Readable vision ∧ Readable text) ∧
        ((givenTitle? vision).isSome ∨ (givenTitle? text).isSome) := by
  constructor
  · rintro ⟨title, confidence, h⟩
    obtain ⟨hvision, htext⟩ := readable_of_titleOutcome h
    obtain ⟨visionConf, textConf, -, -, -, -, houtcome⟩ :=
      titleOutcome_of_readable py hvision htext
    have hsome : ((givenTitle? vision).or (givenTitle? text)) = some title := by
      rw [← fst_reconcileTitles py, Except.ok.inj (houtcome.symm.trans h)]
    refine ⟨⟨hvision, htext⟩, ?_⟩
    rw [← Bool.or_eq_true, ← Option.isSome_or, hsome, Option.isSome_some]
  · rintro ⟨⟨hvision, htext⟩, hgiven⟩
    obtain ⟨visionConf, textConf, -, -, -, -, houtcome⟩ :=
      titleOutcome_of_readable py hvision htext
    rw [← Bool.or_eq_true, ← Option.isSome_or] at hgiven
    obtain ⟨title, htitle⟩ := Option.isSome_iff_exists.mp hgiven
    refine ⟨title, (reconcileTitles py (givenTitle? vision) visionConf (givenTitle? text)
      textConf).2, ?_⟩
    rw [houtcome, ← htitle, ← fst_reconcileTitles py]

/-- How `extract` ends when its coroutines have ended: `gather` raises what one of them has raised,
or both have returned and are fused. -/
inductive TitleGathered (py : StrMethods) (vision text : Except PyException (PyVal × PyFloat)) :
    Except PyException ExtractionResult → Prop
  | visionRaised {exc : PyException} (h : vision = .error exc) :
      TitleGathered py vision text (.error exc)
  | textRaised {exc : PyException} (h : text = .error exc) :
      TitleGathered py vision text (.error exc)
  | returned {v t : PyVal × PyFloat} (hvision : vision = .ok v) (htext : text = .ok t) :
      TitleGathered py vision text (titleResult py v t)

/-- The extractor returns a title just if the two answers give one. -/
theorem titleGathered_isSome_iff {r : Except PyException ExtractionResult}
    (h : TitleGathered py (titleContribution py vision) (titleContribution py text) r) :
    (∃ own : ExtractionResult, r = .ok own ∧ own.title.isSome) ↔
      ∃ title confidence, titleOutcome py vision text = .ok (some title, confidence) := by
  rw [titleOutcome]
  cases h with
  | visionRaised hraised =>
    rw [hraised]
    simp [bind, Except.bind]
  | textRaised hraised =>
    rw [hraised]
    cases titleContribution py vision <;> simp [bind, Except.bind]
  | @returned v t hvision htext =>
    rw [hvision, htext]
    simp only [bind, Except.bind, titleResult]
    cases fuseTitle py v.1 v.2 t.1 t.2 with
    | error exc => simp
    | ok fused => simp [pure, Except.pure, Option.isSome_iff_exists, Prod.ext_iff]

end Gathered

/-- Whatever the two models answer and whenever the coroutines are scheduled: a title that an answer
gives is never lost just if no answer gives one, or both answers are readable. -/
theorem title_isolated_iff (py : StrMethods) (context : PipelineContext)
    (visionTrace textTrace : List (Event sources PyException))
    (vision text : Except PyException (PyVal × PyFloat)) (r : Except PyException ExtractionResult)
    (hvision : (titleFromVision py context).Runs visionTrace vision)
    (htext : (titleFromText py context).Runs textTrace text)
    (hr : TitleGathered py vision text r) :
    ((givenTitle? (visionAnswer? visionTrace)).isSome ∨
        (givenTitle? (textAnswer? textTrace)).isSome →
      ∃ own : ExtractionResult, r = .ok own ∧ own.title.isSome) ↔
    (givenTitle? (visionAnswer? visionTrace) = none ∧
        givenTitle? (textAnswer? textTrace) = none) ∨
      (Readable (visionAnswer? visionTrace) ∧ Readable (textAnswer? textTrace)) := by
  obtain ⟨rfl, -⟩ := runs_titleFromVision hvision
  obtain ⟨rfl, -⟩ := runs_titleFromText htext
  rw [titleGathered_isSome_iff hr, titleOutcome_isSome_iff]
  generalize visionAnswer? visionTrace = v
  generalize textAnswer? textTrace = t
  by_cases hgiven : (givenTitle? v).isSome ∨ (givenTitle? t).isSome
  · have hnone : ¬ (givenTitle? v = none ∧ givenTitle? t = none) := by
      rintro ⟨hv, ht⟩
      rw [hv, ht] at hgiven
      exact hgiven.elim Bool.false_ne_true Bool.false_ne_true
    rw [or_iff_right hnone]
    exact ⟨fun h => (h hgiven).1, fun h _ => ⟨h, hgiven⟩⟩
  · refine iff_of_true (fun h => absurd h hgiven) (Or.inl ?_)
    rw [not_or, Option.not_isSome_iff_eq_none, Option.not_isSome_iff_eq_none] at hgiven
    exact hgiven

/-! ### A number for a title -/

/-- A title of one letter. -/
def letterTitle : String := String.ofList ['P']

theorem flattenStr_letterTitle : flattenStr letterTitle = some letterTitle := by
  have hcollapsed : collapseRuns false ['P'] = ['P'] := by decide
  have hstripped : (['P'].dropWhile isSpace).rdropWhile isSpace = ['P'] := by decide
  have hne : String.ofList ['P'] ≠ "" := by simp
  rw [flattenStr, letterTitle, collapseWhitespace, strip, String.toList_ofList,
    String.toList_ofList, hcollapsed, hstripped, orNone, if_neg hne]

theorem letterTitle_ne_empty : letterTitle ≠ "" := by simp [letterTitle]

/-- The vision model answers with this title. -/
def letterTrace : List (Event sources PyException) :=
  [⟨.renderFirstPage planContext.pdfBytes, .ok "page"⟩,
    ⟨.generateVision "page" .titleVision, .ok ""⟩,
    ⟨.parseResponse "" titleSchema, .ok [("title", .str letterTitle), ("confidence", .none)]⟩]

/-- The text model answers with a number. -/
def numberTrace : List (Event sources PyException) :=
  [⟨.extractText planContext.pdfBytes, .ok letterTitle⟩,
    ⟨.generateText (firstAndLastPageText letterTitle) .titleText, .ok ""⟩,
    ⟨.parseResponse "" titleSchema, .ok [("title", .int 7), ("confidence", .none)]⟩]

section Traces

variable (py : StrMethods)

theorem runs_titleOfResponse_of {parsed : Dict} (h : parsedGet parsed "confidence" = .none) :
    (titleOfResponse py "").Runs [⟨.parseResponse "" titleSchema, .ok parsed⟩]
      (.ok (parsedGet parsed "title", 0)) := by
  refine Program.runs_perform_bind.mpr (Or.inl ⟨parsed, [], rfl, ?_⟩)
  rw [h]
  exact Program.runs_bind.mpr (Or.inl ⟨[], [], 0, rfl, Program.runs_ofExcept.mpr ⟨rfl, rfl⟩,
    Program.runs_ret.mpr ⟨rfl, rfl⟩⟩)

theorem runs_letterTrace :
    (titleFromVision py planContext).Runs letterTrace (.ok (.str letterTitle, 0)) := by
  refine Program.runs_attempt_perform_bind.mpr ⟨.ok "page", _, rfl, ?_⟩
  refine Program.runs_attempt_perform_bind.mpr ⟨.ok "", _, rfl, ?_⟩
  exact runs_titleOfResponse_of py rfl

theorem runs_numberTrace :
    (titleFromText py planContext).Runs numberTrace (.ok (.int 7, 0)) := by
  have hne : firstAndLastPageText letterTitle ≠ "" := fun h =>
    letterTitle_ne_empty (firstAndLastPageText_eq_empty.mp h)
  exact runs_extracted_iff.mpr (runs_of_sent hne (runs_titleOfResponse_of py rfl))

end Traces

theorem readable_letterTrace : Readable (visionAnswer? letterTrace) := by
  refine ⟨Or.inr ⟨letterTitle, rfl⟩, fun i hi => ?_⟩
  have hconfidence : parsedGet [("title", .str letterTitle), ("confidence", .none)] "confidence" =
      .none := rfl
  exact PyVal.noConfusion (hconfidence.symm.trans hi)

theorem givenTitle?_letterTrace :
    givenTitle? (visionAnswer? letterTrace) = some letterTitle := flattenStr_letterTitle

/-- A title of the vision model, and a call of the text model that fails. -/
theorem title_isolated_iff_failed : ∃ own,
    titleResult ⟨id, id, fun _ => none, fun _ => ""⟩ (.str letterTitle, 0) (.none, 0) = .ok own ∧
      own.title.isSome := by
  refine (title_isolated_iff _ planContext letterTrace _ _ _ _ (runs_letterTrace _)
    (runs_titleFromText_failed _ letterTitle_ne_empty) (.returned rfl rfl)).mpr ?_ ?_
  · exact Or.inr ⟨readable_letterTrace, trivial⟩
  · rw [givenTitle?_letterTrace]
    exact Or.inl rfl

/-- A number from the text model loses the title of the vision model. -/
theorem not_forall_title_isolated : ¬ ∀ (py : StrMethods) (context : PipelineContext)
    (visionTrace textTrace : List (Event sources PyException))
    (vision text : Except PyException (PyVal × PyFloat)) (r : Except PyException ExtractionResult),
    (titleFromVision py context).Runs visionTrace vision →
    (titleFromText py context).Runs textTrace text →
    TitleGathered py vision text r →
    (givenTitle? (visionAnswer? visionTrace)).isSome ∨
        (givenTitle? (textAnswer? textTrace)).isSome →
    ∃ own : ExtractionResult, r = .ok own ∧ own.title.isSome := by
  intro h
  have hgiven : (givenTitle? (visionAnswer? letterTrace)).isSome := by
    rw [givenTitle?_letterTrace]
    rfl
  obtain ⟨own, hown, -⟩ := h ⟨id, id, fun _ => none, fun _ => ""⟩ planContext letterTrace
    numberTrace _ _ _ (runs_letterTrace _) (runs_numberTrace _) (.returned rfl rfl) (Or.inl hgiven)
  -- flattening the number raises
  obtain ⟨fused, hfused, -⟩ := exists_of_bind_eq_ok hown
  obtain ⟨flatVision, -, hrest⟩ := exists_of_bind_eq_ok hfused
  obtain ⟨flatText, hflatText, -⟩ := exists_of_bind_eq_ok hrest
  cases hflatText

end ZubotIngestion
