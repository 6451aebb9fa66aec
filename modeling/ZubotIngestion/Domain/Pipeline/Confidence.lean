import Mathlib.Tactic.Ring
import ZubotIngestion.Domain.Entities

/-!
# The confidence calculator

`ConfidenceCalculator.calculate`: a weighted sum of the three field confidences, less a penalty for
a failed companion validation, clamped to the unit interval and compared with two thresholds.
Comparisons with NaN are false, so NaN ends in the review tier.

## Main definitions

* `calculate`, `tierOf`.
* `ScoredField`: what an extractor guarantees of its field and the confidence in it.
* `Certifies`: how many fields a tier vouches for.

## Main results

* `calculate_certifies`: the tier of scored fields certifies that they are there.
-/

namespace ZubotIngestion

/-- `CONFIDENCE_WEIGHT_DRAWING_NUMBER`. -/
def confidenceWeightDrawingNumber : PyFloat := .fin (40 / 100)

/-- `CONFIDENCE_WEIGHT_TITLE`. -/
def confidenceWeightTitle : PyFloat := .fin (30 / 100)

/-- `CONFIDENCE_WEIGHT_DOCUMENT_TYPE`. -/
def confidenceWeightDocumentType : PyFloat := .fin (30 / 100)

/-- `CONFIDENCE_VALIDATION_PENALTY`. -/
def confidenceValidationPenalty : PyFloat := .fin (-10 / 100)

/-- `CONFIDENCE_TIER_AUTO_MIN`. -/
def confidenceTierAutoMin : PyFloat := .fin (8 / 10)

/-- `CONFIDENCE_TIER_SPOT_MIN`. -/
def confidenceTierSpotMin : PyFloat := .fin (5 / 10)

/-- The tier of an overall score. -/
def tierOf (weighted : PyFloat) : ConfidenceTier :=
  if confidenceTierAutoMin ≤ weighted then .auto
  else if confidenceTierSpotMin ≤ weighted then .spot
  else .review

/-- Whether the companion was validated and did not pass. -/
def validationFailed : Option ValidationResult → Bool
  | some result => !result.passed
  | none => false

/-- The weighted sum with the penalty, before it is clamped. -/
def weightedSum (extractionResult : ExtractionResult)
    (validationResult : Option ValidationResult) : PyFloat :=
  let weighted :=
    extractionResult.drawingNumberConfidence * confidenceWeightDrawingNumber +
      extractionResult.titleConfidence * confidenceWeightTitle +
      extractionResult.documentTypeConfidence * confidenceWeightDocumentType
  if validationFailed validationResult then weighted + confidenceValidationPenalty else weighted

/-- `ConfidenceCalculator.calculate`. -/
def calculate (extractionResult : ExtractionResult) (validationResult : Option ValidationResult) :
    ConfidenceAssessment :=
  let validationPenalty :=
    if validationFailed validationResult then confidenceValidationPenalty else 0
  let weighted := (weightedSum extractionResult validationResult).clampUnit
  { overallConfidence := weighted
    tier := tierOf weighted
    breakdown :=
      [("drawing_number",
          extractionResult.drawingNumberConfidence * confidenceWeightDrawingNumber),
        ("title", extractionResult.titleConfidence * confidenceWeightTitle),
        ("document_type",
          extractionResult.documentTypeConfidence * confidenceWeightDocumentType),
        ("validation_penalty", validationPenalty)]
    validationAdjustment := validationPenalty }

/-! ### What a tier vouches for -/

/-- The confidence in a missing field is zero, and that in any field at most `bound`, or NaN. -/
structure ScoredField (present : Bool) (confidence : PyFloat) (bound : ℚ) : Prop where
  absent : present = false → confidence = 0
  bounded : confidence = .nan ∨ ∃ q : ℚ, confidence = .fin q ∧ 0 ≤ q ∧ q ≤ bound

/-- The number of fields that were found. -/
def ExtractionResult.fieldCount (e : ExtractionResult) : ℕ :=
  e.drawingNumber.isSome.toNat + e.title.isSome.toNat + e.documentType.isSome.toNat

/-- The tier `auto` vouches for all three fields, the tier `spot` for two. -/
def Certifies (e : ExtractionResult) : ConfidenceTier → Prop
  | .auto => e.fieldCount = 3
  | .spot => 2 ≤ e.fieldCount
  | .review => True

/-- A score that is a number contributes at most its bound, and nothing for a missing field. -/
theorem ScoredField.le_of_fin {present : Bool} {q bound : ℚ}
    (h : ScoredField present (.fin q) bound) : q ≤ if present then bound else 0 := by
  cases present with
  | true =>
    obtain ⟨q', hq, -, hle⟩ := h.bounded.resolve_left PyFloat.noConfusion
    rw [PyFloat.fin.inj hq]
    exact hle
  | false => exact (PyFloat.fin.inj (h.absent rfl)).le

/-- NaN is in the review tier. -/
theorem tierOf_clampUnit_nan : tierOf (PyFloat.clampUnit .nan) = .review := rfl

/-- A positive threshold within the unit interval is met by a number if and only if its clamp meets
it. -/
theorem le_clamp_iff {c q : ℚ} (hpos : 0 < c) (hle : c ≤ 1) : c ≤ max 0 (min q 1) ↔ c ≤ q := by
  rw [le_max_iff, le_min_iff]
  constructor
  · rintro (h | h)
    · exact absurd hpos h.not_gt
    · exact h.1
  · exact fun h => Or.inr ⟨h, hle⟩

/-- The tier of a clamped number. -/
theorem tierOf_clampUnit_fin (q : ℚ) : tierOf (PyFloat.clampUnit (.fin q)) =
    if 8 / 10 ≤ q then .auto else if 5 / 10 ≤ q then .spot else .review := by
  rw [PyFloat.clampUnit_fin, tierOf]
  simp only [confidenceTierAutoMin, confidenceTierSpotMin, PyFloat.fin_le_fin]
  rw [if_congr (le_clamp_iff (by norm_num) (by norm_num)) rfl rfl,
    if_congr (le_clamp_iff (by norm_num) (by norm_num)) rfl rfl]

/-- The weighted sum of three numbers with the penalty. -/
def weightedScore (d t y : ℚ) (validation : Option ValidationResult) : ℚ :=
  d * (40 / 100) + t * (30 / 100) + y * (30 / 100) -
    if validationFailed validation then 10 / 100 else 0

theorem weightedSum_eq {e : ExtractionResult} {d t y : ℚ} (hd : e.drawingNumberConfidence = .fin d)
    (ht : e.titleConfidence = .fin t) (hy : e.documentTypeConfidence = .fin y)
    (validation : Option ValidationResult) :
    weightedSum e validation = .fin (weightedScore d t y validation) := by
  rw [weightedSum, weightedScore, hd, ht, hy]
  simp only [confidenceWeightDrawingNumber, confidenceWeightTitle, confidenceWeightDocumentType,
    confidenceValidationPenalty, PyFloat.fin_mul_fin, PyFloat.fin_add_fin]
  split_ifs
  · exact congrArg PyFloat.fin (by ring)
  · rw [sub_zero]

/-- The weighted sum of numbers. -/
theorem weightedSum_fin {e : ExtractionResult} {d t y : ℚ} (hd : e.drawingNumberConfidence = .fin d)
    (ht : e.titleConfidence = .fin t) (hy : e.documentTypeConfidence = .fin y)
    (validation : Option ValidationResult) :
    ∃ q : ℚ, weightedSum e validation = .fin q ∧
      q ≤ d * (40 / 100) + t * (30 / 100) + y * (30 / 100) := by
  refine ⟨_, weightedSum_eq hd ht hy validation, ?_⟩
  rw [weightedScore]
  split_ifs <;> linarith

/-- With NaN among the confidences, the weighted sum is NaN. -/
theorem weightedSum_nan {e : ExtractionResult} (validation : Option ValidationResult)
    (h : e.drawingNumberConfidence = .nan ∨ e.titleConfidence = .nan ∨
      e.documentTypeConfidence = .nan) : weightedSum e validation = .nan := by
  rw [weightedSum]
  rcases h with h | h | h <;> rw [h] <;> simp

/-- With a field missing the weighted sum is at most `0.68`, with two of them at most `0.38`. -/
theorem weighted_le_of_missing {drawing title type : Bool} {d t y : ℚ}
    (hd : d ≤ if drawing then 95 / 100 else 0) (ht : t ≤ if title then 1 else 0)
    (hy : y ≤ if type then 1 else 0) :
    (drawing.toNat + title.toNat + type.toNat ≠ 3 →
      d * (40 / 100) + t * (30 / 100) + y * (30 / 100) ≤ 68 / 100) ∧
    (drawing.toNat + title.toNat + type.toNat < 2 →
      d * (40 / 100) + t * (30 / 100) + y * (30 / 100) ≤ 38 / 100) := by
  cases drawing <;> cases title <;> cases type <;>
    simp only [if_true, if_false, Bool.false_eq_true] at hd ht hy <;>
    refine ⟨fun hcount => ?_, fun hcount => ?_⟩ <;> first
      | exact absurd hcount (by decide)
      | linarith

/-- **Tiers certify completeness**, of fields that are scored as the extractors score them. -/
theorem calculate_certifies {e : ExtractionResult} (validation : Option ValidationResult)
    (hdrawing : ScoredField e.drawingNumber.isSome e.drawingNumberConfidence (95 / 100))
    (htitle : ScoredField e.title.isSome e.titleConfidence 1)
    (htype : ScoredField e.documentType.isSome e.documentTypeConfidence 1) :
    Certifies e (calculate e validation).tier := by
  have htier : (calculate e validation).tier = tierOf (weightedSum e validation).clampUnit := rfl
  rw [htier]
  by_cases hnan : e.drawingNumberConfidence = .nan ∨ e.titleConfidence = .nan ∨
      e.documentTypeConfidence = .nan
  · rw [weightedSum_nan validation hnan, tierOf_clampUnit_nan]
    trivial
  · simp only [not_or] at hnan
    obtain ⟨d, hd, -, -⟩ := hdrawing.bounded.resolve_left hnan.1
    obtain ⟨t, ht, -, -⟩ := htitle.bounded.resolve_left hnan.2.1
    obtain ⟨y, hy, -, -⟩ := htype.bounded.resolve_left hnan.2.2
    obtain ⟨q, hq, hle⟩ := weightedSum_fin hd ht hy validation
    rw [hd] at hdrawing
    rw [ht] at htitle
    rw [hy] at htype
    obtain ⟨hone, htwo⟩ :=
      weighted_le_of_missing hdrawing.le_of_fin htitle.le_of_fin htype.le_of_fin
    rw [hq, tierOf_clampUnit_fin]
    split_ifs with hauto hspot
    · show e.fieldCount = 3
      by_contra hcount
      linarith [hone hcount]
    · show 2 ≤ e.fieldCount
      by_contra hcount
      linarith [htwo (not_le.mp hcount)]
    · trivial

end ZubotIngestion
