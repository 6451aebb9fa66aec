import Mathlib.Data.List.MinMax
import ZubotIngestion.Domain.Pipeline.Confidence
import ZubotIngestion.Domain.Pipeline.Sources

/-!
# The drawing-number extractor

`extractors/drawing_number.py`: the answers of the vision model, the text model and the filename
parser are put to a vote. The three sources are asked one after the other; none of them sees in
which order they are scheduled.

## Main definitions

* `normalise`, `fuseDrawingNumber`: the vote.
* `extractDrawingNumber`.

## Main results

* `scoredField_fuseDrawingNumber`: what the vote guarantees.
* `extractDrawingNumber_fused`: every run of the extractor reports a vote.
* `extractDrawingNumber_safe`: the same of every run of the extractor.
-/

namespace ZubotIngestion

open Effects

/-- `CONFIDENCE_ALL_AGREE`. -/
def confidenceAllAgree : PyFloat := .fin (95 / 100)

/-- `CONFIDENCE_TWO_OF_THREE`. -/
def confidenceTwoOfThree : PyFloat := .fin (75 / 100)

/-- `CONFIDENCE_SINGLE_SOURCE`. -/
def confidenceSingleSource : PyFloat := .fin (50 / 100)

/-- `CONFIDENCE_DISAGREEMENT`. -/
def confidenceDisagreement : PyFloat := .fin (30 / 100)

/-- `_DRAWING_NUMBER_SCHEMA`. -/
def drawingNumberSchema : Dict := [("drawing_number", .none), ("confidence", .float 0)]

/-! ### The vote -/

/-- `_normalise`. -/
def normalise (py : StrMethods) (value : Option String) : Option String :=
  value.bind fun text => orNone (py.upper (strip (" ".intercalate (splitWhitespace text))))

/-- `Counter(candidates).most_common(1)`: the first of the most frequent values, and how often it
occurs. -/
def mostCommon (candidates : List String) : Option (String × ℕ) :=
  (candidates.argmax fun value => candidates.count value).map fun value =>
    (value, candidates.count value)

/-- `_fuse` on the normalised values. -/
def vote (vision text filename : Option String) : Option String × PyFloat :=
  let candidates := [vision, text, filename].reduceOption
  match mostCommon candidates with
  | none => (none, 0)
  | some (value, count) =>
    if candidates.length = 3 ∧ count = 3 then (some value, confidenceAllAgree)
    else if 2 ≤ count then (some value, confidenceTwoOfThree)
    else if candidates.length = 1 then (candidates.head?, confidenceSingleSource)
    else (orStr (orStr vision text) filename, confidenceDisagreement)

/-- `_fuse`. -/
def fuseDrawingNumber (py : StrMethods) (vision text filename : Option String) :
    Option String × PyFloat :=
  vote (normalise py vision) (normalise py text) (normalise py filename)

/-! ### The extractor -/

/-- `value if isinstance(value, str) else None`. -/
def asStr? : PyVal → Option String
  | .str s => some s
  | _ => none

/-- `_from_vision`. -/
def drawingNumberFromVision (context : PipelineContext) : Extraction (Option String × String) := do
  match ← (ask (.renderFirstPage context.pdfBytes)).attempt with
  | .error _ => return (none, "")
  | .ok page =>
    match ← (ask (.generateVision page .drawingNumberVision)).attempt with
    | .error _ => return (none, "")
    | .ok responseText => do
      let parsed ← ask (.parseResponse responseText drawingNumberSchema)
      return (asStr? (parsedGet parsed "drawing_number"), responseText)

/-- `_from_text`. -/
def drawingNumberFromText (context : PipelineContext) : Extraction (Option String × String) := do
  let text ← getOrExtractText context.pdfBytes
  if text = "" then return (none, "")
  else
    match ← (ask (.generateText text .drawingNumberText)).attempt with
    | .error _ => return (none, "")
    | .ok responseText => do
      let parsed ← ask (.parseResponse responseText drawingNumberSchema)
      return (asStr? (parsedGet parsed "drawing_number"), responseText)

/-- `_from_filename`. -/
def drawingNumberFromFilename (context : PipelineContext) : Extraction (Option String) := do
  match ← (ask (.parseFilename context.job.filename)).attempt with
  | .error _ => return none
  | .ok drawingNumberHint => return drawingNumberHint

/-- The names of the sources that have a value. -/
def sourcesUsed (values : List (String × Bool)) : List String :=
  (values.filter Prod.snd).map Prod.fst

theorem mem_sourcesUsed {values : List (String × Bool)} {source : String} :
    source ∈ sourcesUsed values ↔ (source, true) ∈ values := by
  rw [sourcesUsed, List.mem_map]
  constructor
  · rintro ⟨⟨name, present⟩, hmem, rfl⟩
    obtain ⟨hvalues, hpresent⟩ := List.mem_filter.mp hmem
    obtain rfl : present = true := hpresent
    exact hvalues
  · exact fun h => ⟨(source, true), List.mem_filter.mpr ⟨h, rfl⟩, rfl⟩

/-- `DrawingNumberExtractor.extract`. -/
def extractDrawingNumber (py : StrMethods) (context : PipelineContext) :
    Extraction ExtractionResult := do
  let (visionValue, rawVision) ← drawingNumberFromVision context
  let (textValue, rawText) ← drawingNumberFromText context
  let filenameValue ← drawingNumberFromFilename context
  let (chosen, confidence) := fuseDrawingNumber py visionValue textValue filenameValue
  return {
    drawingNumber := chosen
    drawingNumberConfidence := confidence
    title := none
    titleConfidence := 0
    documentType := none
    documentTypeConfidence := 0
    sourcesUsed := sourcesUsed
      [("vision", visionValue.isSome), ("text", textValue.isSome),
        ("filename", filenameValue.isSome)]
    rawVisionResponse := orNone rawVision
    rawTextResponse := orNone rawText }

/-! ### What the vote guarantees -/

/-- A constant confidence in a field that was found. -/
theorem scoredField_of_isSome {present : Bool} (h : present = true) {q bound : ℚ} (h₀ : 0 ≤ q)
    (hq : q ≤ bound) : ScoredField present (.fin q) bound where
  absent hnone := absurd (h.symm.trans hnone) Bool.true_eq_false_eq_False
  bounded := Or.inr ⟨q, rfl, h₀, hq⟩

/-- A missing field with confidence zero. -/
theorem scoredField_zero (present : Bool) {bound : ℚ} (h : 0 ≤ bound) :
    ScoredField present 0 bound where
  absent _ := rfl
  bounded := Or.inr ⟨0, rfl, le_rfl, h⟩

theorem isSome_orStr {a b : Option String} (ha : ∀ s, a = some s → s ≠ "")
    (h : a.isSome = true ∨ b.isSome = true) : (orStr a b).isSome = true := by
  cases a with
  | none => exact h.resolve_left Bool.false_ne_true
  | some s =>
    rw [orStr, if_neg (ha s rfl)]
    rfl

theorem orStr_ne_empty {a b : Option String} (ha : ∀ s, a = some s → s ≠ "")
    (hb : ∀ s, b = some s → s ≠ "") : ∀ s, orStr a b = some s → s ≠ "" := by
  cases a with
  | none => exact hb
  | some s =>
    rw [orStr, if_neg (ha s rfl)]
    exact ha

/-- A normalised value is not empty. -/
theorem normalise_ne_empty (py : StrMethods) (value : Option String) :
    ∀ s, normalise py value = some s → s ≠ "" := by
  intro s hs
  obtain ⟨text, -, htext⟩ := Option.bind_eq_some_iff.mp hs
  exact (orNone_eq_some_iff.mp htext).2

/-- By priority, a value is found whenever a source has one. -/
theorem isSome_orStr_orStr {vision text filename : Option String}
    (hvision : ∀ s, vision = some s → s ≠ "") (htext : ∀ s, text = some s → s ≠ "")
    (hne : [vision, text, filename].reduceOption ≠ []) :
    (orStr (orStr vision text) filename).isSome = true := by
  refine isSome_orStr (orStr_ne_empty hvision htext) ?_
  by_cases hfilename : filename.isSome = true
  · exact Or.inr hfilename
  · refine Or.inl (isSome_orStr hvision ?_)
    obtain rfl := Option.not_isSome_iff_eq_none.mp hfilename
    cases vision <;> cases text <;> first
      | exact absurd rfl hne
      | exact Or.inl rfl
      | exact Or.inr rfl

/-- The vote on non-empty values finds a value whenever a source has one, and is never surer than
`CONFIDENCE_ALL_AGREE`. -/
theorem scoredField_vote {vision text filename : Option String}
    (hvision : ∀ s, vision = some s → s ≠ "") (htext : ∀ s, text = some s → s ≠ "") :
    ScoredField (vote vision text filename).1.isSome (vote vision text filename).2 (95 / 100) := by
  rw [vote]
  cases hcommon : mostCommon [vision, text, filename].reduceOption with
  | none => exact scoredField_zero _ (by norm_num)
  | some winner =>
    obtain ⟨value, count⟩ := winner
    have hne : [vision, text, filename].reduceOption ≠ [] := by
      intro hnil
      rw [hnil] at hcommon
      cases hcommon
    dsimp only
    split_ifs with hall htwo hone
    · exact scoredField_of_isSome rfl (by norm_num) le_rfl
    · exact scoredField_of_isSome rfl (by norm_num) (by norm_num)
    · refine scoredField_of_isSome ?_ (by norm_num) (by norm_num)
      exact List.isSome_head?.mpr hne
    · exact scoredField_of_isSome (isSome_orStr_orStr hvision htext hne) (by norm_num)
        (by norm_num)

/-- A vote without a winner had no values to count. -/
theorem eq_none_of_vote {vision text filename : Option String}
    (hvision : ∀ s, vision = some s → s ≠ "") (htext : ∀ s, text = some s → s ≠ "")
    (h : (vote vision text filename).1 = none) :
    ∀ value ∈ [vision, text, filename], value = none := by
  refine List.filterMap_eq_nil_iff.mp ?_
  by_contra hne
  rw [vote] at h
  cases hcommon : mostCommon [vision, text, filename].reduceOption with
  | none =>
    rw [mostCommon, Option.map_eq_none_iff, List.argmax_eq_none] at hcommon
    exact hne hcommon
  | some winner =>
    rw [hcommon] at h
    dsimp only at h
    split_ifs at h
    · exact hne (List.head?_eq_none_iff.mp h)
    · have hnone : orStr (orStr vision text) filename = none := h
      have hvalue := isSome_orStr_orStr hvision htext hne
      rw [hnone] at hvalue
      cases hvalue

theorem scoredField_fuseDrawingNumber (py : StrMethods) (vision text filename : Option String) :
    ScoredField (fuseDrawingNumber py vision text filename).1.isSome
      (fuseDrawingNumber py vision text filename).2 (95 / 100) :=
  scoredField_vote (normalise_ne_empty py vision) (normalise_ne_empty py text)

/-- Whatever its sources answer, the extractor reports what a vote of three answers gives. -/
theorem extractDrawingNumber_fused (py : StrMethods) (context : PipelineContext) :
    Program.Safe (S := sources) (ε := PyException) (fun _ _ => True) (fun _ _ => True)
      (fun _ r => ∀ own : ExtractionResult, r = .ok own → ∃ vision text filename,
        fuseDrawingNumber py vision text filename =
          (own.drawingNumber, own.drawingNumberConfidence))
      (extractDrawingNumber py context) [] := by
  refine (Program.safe_trivial _ _).bind (fun _ vision _ => ?_) fun _ _ _ _ h => nomatch h
  refine (Program.safe_trivial _ _).bind (fun _ text _ => ?_) fun _ _ _ _ h => nomatch h
  refine (Program.safe_trivial _ _).bind (fun _ filename _ => ?_) fun _ _ _ _ h => nomatch h
  intro own hown
  rw [← Except.ok.inj hown]
  exact ⟨vision.1, text.1, filename, rfl⟩

/-- Whatever its sources answer, the extractor scores the drawing number. -/
theorem extractDrawingNumber_safe (py : StrMethods) (context : PipelineContext) :
    Program.Safe (S := sources) (ε := PyException) (fun _ _ => True) (fun _ _ => True)
      (fun _ r => ∀ own : ExtractionResult, r = .ok own →
        ScoredField own.drawingNumber.isSome own.drawingNumberConfidence (95 / 100))
      (extractDrawingNumber py context) [] := by
  refine (extractDrawingNumber_fused py context).mono (fun _ _ h => h) (fun _ _ h => h)
    fun _ _ hfused own hown => ?_
  obtain ⟨vision, text, filename, hvote⟩ := hfused own hown
  have hscored := scoredField_fuseDrawingNumber py vision text filename
  rw [hvote] at hscored
  exact hscored

end ZubotIngestion
