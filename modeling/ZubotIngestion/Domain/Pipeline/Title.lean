import ZubotIngestion.Domain.Pipeline.DrawingNumber

/-!
# The title extractor

`extractors/title.py`: the answers of the vision model and of the text model are reconciled, with
the confidences they report. A title that is not a string raises, and so does a confidence that is
an integer too large for a float.

## Main definitions

* `flattenTitle`, `fuseTitle`.
* `extractTitle`.

## Main results

* `scoredField_reconcileTitles`: what the fusion guarantees.
* `extractTitle_safe`: the same of every run of the extractor.
-/

namespace ZubotIngestion

open Effects

/-- `_TITLE_SCHEMA`. -/
def titleSchema : Dict := [("title", .none), ("confidence", .float 0)]

/-! ### The fusion -/

/-- `_flatten_title` of a string. -/
def flattenStr (text : String) : Option String := orNone (strip (collapseWhitespace text))

/-- `_flatten_title`. -/
def flattenTitle : PyVal → Except PyException (Option String)
  | .none => .ok none
  | .str text => .ok (flattenStr text)
  | value =>
    .error (.error "TypeError" s!"expected string or bytes-like object, got '{value.typeName}'")

/-- `_normalise_for_compare`. -/
def normaliseForCompare (py : StrMethods) (value : String) : Option String :=
  (flattenStr value).map py.lower

/-- `_fuse` on the flattened titles. -/
def reconcileTitles (py : StrMethods) (vision : Option String) (visionConf : PyFloat)
    (text : Option String) (textConf : PyFloat) : Option String × PyFloat :=
  match vision, text with
  | none, none => (none, 0)
  | some v, none => (some v, visionConf)
  | none, some t => (some t, textConf)
  | some v, some t =>
    if normaliseForCompare py v = normaliseForCompare py t then
      (some v, (visionConf.pyMax textConf).pyMax (.fin (9 / 10)))
    -- halved, and then penalised
    else (some v, (visionConf + textConf) * .fin (1 / 2) * .fin (7 / 10))

/-- `_fuse`. -/
def fuseTitle (py : StrMethods) (visionTitle : PyVal) (visionConf : PyFloat) (textTitle : PyVal)
    (textConf : PyFloat) : Except PyException (Option String × PyFloat) := do
  let vision ← flattenTitle visionTitle
  let text ← flattenTitle textTitle
  return reconcileTitles py vision visionConf text textConf

/-! ### The extractor -/

/-- The title and the confidence that a model answered. -/
def titleOfResponse (py : StrMethods) (responseText : String) : Extraction (PyVal × PyFloat) := do
  let parsed ← ask (.parseResponse responseText titleSchema)
  let confidence ← Program.ofExcept (coerceConfidence py (parsedGet parsed "confidence"))
  return (parsedGet parsed "title", confidence)

/-- `_from_vision`. -/
def titleFromVision (py : StrMethods) (context : PipelineContext) :
    Extraction (PyVal × PyFloat) := do
  match ← (ask (.renderFirstPage context.pdfBytes)).attempt with
  | .error _ => return (.none, 0)
  | .ok page =>
    match ← (ask (.generateVision page .titleVision)).attempt with
    | .error _ => return (.none, 0)
    | .ok responseText => titleOfResponse py responseText

/-- `_first_and_last_page_text` of an extracted text. -/
def firstAndLastPageText (text : String) : String :=
  match text.splitOn "---PAGE " with
  | _ :: first :: parts =>
    match parts.getLast? with
    | some last => afterFirst "---\n\n" first ++ "\n\n" ++ afterFirst "---\n\n" last
    | none => text
  | _ => text

/-- `_from_text`. -/
def titleFromText (py : StrMethods) (context : PipelineContext) : Extraction (PyVal × PyFloat) := do
  let text ← getOrExtractText context.pdfBytes
  if firstAndLastPageText text = "" then return (.none, 0)
  else
    match ← (ask (.generateText (firstAndLastPageText text) .titleText)).attempt with
    | .error _ => return (.none, 0)
    | .ok responseText => titleOfResponse py responseText

/-- `value is not None`. -/
def isNotNone : PyVal → Bool
  | .none => false
  | _ => true

/-- `TitleExtractor.extract`. -/
def extractTitle (py : StrMethods) (context : PipelineContext) : Extraction ExtractionResult := do
  let (visionTitle, visionConf) ← titleFromVision py context
  let (textTitle, textConf) ← titleFromText py context
  let (title, confidence) ←
    Program.ofExcept (fuseTitle py visionTitle visionConf textTitle textConf)
  return {
    drawingNumber := none
    drawingNumberConfidence := 0
    title := title
    titleConfidence := confidence
    documentType := none
    documentTypeConfidence := 0
    sourcesUsed := sourcesUsed [("vision", isNotNone visionTitle), ("text", isNotNone textTitle)] }

/-! ### What the fusion guarantees -/

/-- A confidence of the unit interval in a field that was found. -/
theorem scoredField_of_isUnit {present : Bool} (h : present = true) {c : PyFloat}
    (hc : c.IsUnit) : ScoredField present c 1 where
  absent hnone := absurd (h.symm.trans hnone) Bool.true_eq_false_eq_False
  bounded := hc

/-- The penalised mean of two confidences. -/
theorem isUnit_penalised {a b : PyFloat} (ha : a.IsUnit) (hb : b.IsUnit) :
    ((a + b) * .fin (1 / 2) * .fin (7 / 10)).IsUnit := by
  rcases ha with rfl | ⟨p, rfl, hp₀, hp₁⟩
  · exact Or.inl (by simp)
  · rcases hb with rfl | ⟨q, rfl, hq₀, hq₁⟩
    · exact Or.inl (by simp)
    · rw [PyFloat.fin_add_fin, PyFloat.fin_mul_fin, PyFloat.fin_mul_fin]
      exact PyFloat.isUnit_fin (by linarith) (by linarith)

/-- A missing title has confidence zero, and the confidence in any title is a number of the unit
interval, or NaN. -/
theorem scoredField_reconcileTitles (py : StrMethods) {vision text : Option String}
    {visionConf textConf : PyFloat} (hvision : visionConf.IsUnit) (htext : textConf.IsUnit) :
    ScoredField (reconcileTitles py vision visionConf text textConf).1.isSome
      (reconcileTitles py vision visionConf text textConf).2 1 := by
  cases vision with
  | none =>
    cases text with
    | none => exact scoredField_zero _ zero_le_one
    | some t => exact scoredField_of_isUnit rfl htext
  | some v =>
    cases text with
    | none => exact scoredField_of_isUnit rfl hvision
    | some t =>
      rw [reconcileTitles]
      split_ifs
      · have hreward : (PyFloat.fin (9 / 10)).IsUnit :=
          PyFloat.isUnit_fin (by norm_num) (by norm_num)
        exact scoredField_of_isUnit rfl ((hvision.pyMax htext).pyMax hreward)
      · exact scoredField_of_isUnit rfl (isUnit_penalised hvision htext)

/-- Where the fusion finds no title, there was none. -/
theorem eq_none_of_reconcileTitles {py : StrMethods} {vision text : Option String}
    {visionConf textConf : PyFloat}
    (h : (reconcileTitles py vision visionConf text textConf).1 = none) :
    vision = none ∧ text = none := by
  cases vision with
  | none =>
    cases text with
    | none => exact ⟨rfl, rfl⟩
    | some t => cases h
  | some v =>
    cases text with
    | none => cases h
    | some t =>
      rw [reconcileTitles] at h
      split_ifs at h

/-- A fusion that does not raise reconciles two titles. -/
theorem fuseTitle_eq_ok {py : StrMethods} {visionTitle textTitle : PyVal}
    {visionConf textConf : PyFloat} {fused : Option String × PyFloat}
    (h : fuseTitle py visionTitle visionConf textTitle textConf = .ok fused) :
    ∃ vision text, fused = reconcileTitles py vision visionConf text textConf := by
  rw [fuseTitle] at h
  cases hvision : flattenTitle visionTitle with
  | error exc =>
    rw [hvision] at h
    cases h
  | ok vision =>
    cases htext : flattenTitle textTitle with
    | error exc =>
      rw [hvision, htext] at h
      cases h
    | ok text =>
      rw [hvision, htext] at h
      exact ⟨vision, text, (Except.ok.inj h).symm⟩

/-- What a source of the title promises: its confidence is a number of the unit interval, or
NaN. -/
def UnitConfidence (_ : List (Event sources PyException))
    (r : Except PyException (PyVal × PyFloat)) : Prop :=
  ∀ title confidence, r = .ok (title, confidence) → confidence.IsUnit

theorem unitConfidence_zero (title : PyVal) (t : List (Event sources PyException)) :
    UnitConfidence t (.ok (title, 0)) := by
  intro title' confidence h
  obtain ⟨-, rfl⟩ := Prod.mk.inj (Except.ok.inj h)
  exact PyFloat.isUnit_zero

section Safety

variable (py : StrMethods) {t : List (Event sources PyException)}

theorem titleOfResponse_safe (responseText : String) :
    Program.Safe (S := sources) (fun _ _ => True) (fun _ _ => True) UnitConfidence
      (titleOfResponse py responseText) t := by
  refine (Program.safe_trivial _ _).bind (fun _ parsed _ => ?_) fun _ _ _ _ _ h => nomatch h
  refine (Program.safe_bind _ _ _).mpr ((Program.safe_ofExcept _ _).mpr ?_)
  cases hconfidence : coerceConfidence py (parsedGet parsed "confidence") with
  | error exc => exact fun _ _ h => nomatch h
  | ok confidence =>
    intro title confidence' h
    obtain ⟨-, rfl⟩ := Prod.mk.inj (Except.ok.inj h)
    exact isUnit_coerceConfidence hconfidence

theorem titleFromVision_safe (context : PipelineContext) :
    Program.Safe (S := sources) (fun _ _ => True) (fun _ _ => True) UnitConfidence
      (titleFromVision py context) t := by
  refine Program.Safe.attempt_bind trivial fun page _ => ?_
  cases page with
  | error exc => exact unitConfidence_zero _ _
  | ok page =>
    refine Program.Safe.attempt_bind trivial fun response _ => ?_
    cases response with
    | error exc => exact unitConfidence_zero _ _
    | ok responseText => exact titleOfResponse_safe py responseText

theorem titleFromText_safe (context : PipelineContext) :
    Program.Safe (S := sources) (fun _ _ => True) (fun _ _ => True) UnitConfidence
      (titleFromText py context) t := by
  refine (Program.safe_trivial _ _).bind (fun _ text _ => ?_) fun _ _ _ _ _ h => nomatch h
  dsimp only
  split_ifs
  · exact unitConfidence_zero _ _
  · refine Program.Safe.attempt_bind trivial fun response _ => ?_
    cases response with
    | error exc => exact unitConfidence_zero _ _
    | ok responseText => exact titleOfResponse_safe py responseText

/-- Whatever its sources answer, the extractor scores the title. -/
theorem extractTitle_safe (context : PipelineContext) :
    Program.Safe (S := sources) (ε := PyException) (fun _ _ => True) (fun _ _ => True)
      (fun _ r => ∀ own : ExtractionResult, r = .ok own →
        ScoredField own.title.isSome own.titleConfidence 1) (extractTitle py context) [] := by
  refine (titleFromVision_safe py context).bind (fun _ vision hvision => ?_)
    fun _ _ _ _ h => nomatch h
  refine (titleFromText_safe py context).bind (fun _ text htext => ?_)
    fun _ _ _ _ h => nomatch h
  refine (Program.safe_bind _ _ _).mpr ((Program.safe_ofExcept _ _).mpr ?_)
  cases hfuse : fuseTitle py vision.1 vision.2 text.1 text.2 with
  | error exc => exact fun _ h => nomatch h
  | ok fused =>
    intro own hown
    obtain ⟨v, t, rfl⟩ := fuseTitle_eq_ok hfuse
    rw [← Except.ok.inj hown]
    exact scoredField_reconcileTitles py (hvision _ _ rfl) (htext _ _ rfl)

end Safety

end ZubotIngestion
