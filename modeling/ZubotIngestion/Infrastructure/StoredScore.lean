import ZubotIngestion.Domain.Pipeline.Confidence
import ZubotIngestion.Infrastructure.Database

/-!
# The stored score and the stored tier

The tier of a job is computed from its score and stored next to it, but the column of the score
keeps three decimals. A score just below a threshold is rounded up to it, and then the stored tier
is not the tier of the stored score.

## Main definitions

* `StoredTierAgrees`.

## Main results

* `le_numeric43_iff`: which numbers are rounded up to a threshold.
* `storedTierAgrees_iff`: when the stored tier is that of the stored score.
-/

namespace ZubotIngestion

/-- After `update_job_result` the tier of the stored score is the stored tier. -/
def StoredTierAgrees (row : JobRow) : Prop :=
  row.confidenceTier = row.confidenceScore.map tierOf

/-- The row of a job after its assessment is stored. -/
def storeAssessment (row : JobRow) (result : Dict) (assessment : ConfidenceAssessment)
    (processingTimeMs : ℤ) (otelTraceId : Option String) (pipelineTrace : Option Dict)
    (now : Timestamp) : JobRow :=
  (JobUpdate.updateResult result assessment.tier assessment.overallConfidence processingTimeMs
    otelTraceId pipelineTrace now).apply row

/-- A threshold of `n` thousandths is met by a rounded number if the number falls short of it by at
most half a thousandth. -/
theorem le_numeric43_iff {n : ℤ} {q : ℚ} (hq : 0 ≤ q) :
    .fin (n / 1000) ≤ numeric43 (.fin q) ↔ n / 1000 - 1 / 2000 ≤ q := by
  have hround : roundHalfAway (q * 1000) = ⌊q * 1000 + 1 / 2⌋ :=
    if_pos (mul_nonneg hq (by norm_num))
  rw [numeric43, PyFloat.fin_le_fin, hround, div_le_div_iff_of_pos_right (by norm_num),
    Int.cast_le, Int.le_floor]
  constructor <;> intro h <;> linarith

/-- The tier of the score that is stored for a number. -/
theorem tierOf_numeric43_clampUnit (q : ℚ) : tierOf (numeric43 (PyFloat.clampUnit (.fin q))) =
    if 7995 / 10000 ≤ q then .auto else if 4995 / 10000 ≤ q then .spot else .review := by
  have hauto : confidenceTierAutoMin = .fin ((800 : ℤ) / 1000) := by
    rw [confidenceTierAutoMin]
    norm_num
  have hspot : confidenceTierSpotMin = .fin ((500 : ℤ) / 1000) := by
    rw [confidenceTierSpotMin]
    norm_num
  have hclamp : 0 ≤ max 0 (min q 1) := le_max_left _ _
  have hlower : ((800 : ℤ) : ℚ) / 1000 - 1 / 2000 = 7995 / 10000 := by norm_num
  have hupper : ((500 : ℤ) : ℚ) / 1000 - 1 / 2000 = 4995 / 10000 := by norm_num
  rw [tierOf, PyFloat.clampUnit_fin, hauto, hspot]
  simp only [le_numeric43_iff hclamp, hlower, hupper]
  rw [if_congr (le_clamp_iff (by norm_num) (by norm_num)) rfl rfl,
    if_congr (le_clamp_iff (by norm_num) (by norm_num)) rfl rfl]

/-- The stored tier is that of the stored score if and only if the weighted score falls short of no
threshold by half a thousandth or less. The confidences are rationals, and the sum is exact. -/
theorem storedTierAgrees_iff {e : ExtractionResult} {d t y : ℚ}
    (hd : e.drawingNumberConfidence = .fin d) (ht : e.titleConfidence = .fin t)
    (hy : e.documentTypeConfidence = .fin y) (validation : Option ValidationResult) (row : JobRow)
    (result : Dict) (processingTimeMs : ℤ) (otelTraceId : Option String)
    (pipelineTrace : Option Dict) (now : Timestamp) :
    StoredTierAgrees (storeAssessment row result (calculate e validation) processingTimeMs
        otelTraceId pipelineTrace now) ↔
      ¬ (7995 / 10000 ≤ weightedScore d t y validation ∧
          weightedScore d t y validation < 8 / 10) ∧
        ¬ (4995 / 10000 ≤ weightedScore d t y validation ∧
          weightedScore d t y validation < 5 / 10) := by
  have hstored : StoredTierAgrees (storeAssessment row result (calculate e validation)
      processingTimeMs otelTraceId pipelineTrace now) ↔
        tierOf (weightedSum e validation).clampUnit =
          tierOf (numeric43 (weightedSum e validation).clampUnit) :=
    Option.some.injEq _ _ ▸ Iff.rfl
  rw [hstored, weightedSum_eq hd ht hy, tierOf_clampUnit_fin, tierOf_numeric43_clampUnit]
  generalize weightedScore d t y validation = w
  rcases le_or_gt (8 / 10) w with hauto | hauto
  · rw [if_pos hauto, if_pos (by linarith)]
    exact iff_of_true rfl ⟨fun h => absurd h.2 (by linarith), fun h => absurd h.2 (by linarith)⟩
  rcases le_or_gt (7995 / 10000) w with hnearly | hnearly
  · rw [if_neg (not_le.mpr hauto), if_pos hnearly, if_pos (by linarith)]
    exact iff_of_false ConfidenceTier.noConfusion fun h => h.1 ⟨hnearly, hauto⟩
  rcases le_or_gt (5 / 10) w with hspot | hspot
  · rw [if_neg (not_le.mpr hauto), if_neg (not_le.mpr hnearly), if_pos hspot,
      if_pos (by linarith)]
    exact iff_of_true rfl ⟨fun h => absurd h.1 (by linarith), fun h => absurd h.2 (by linarith)⟩
  rw [if_neg (not_le.mpr hauto), if_neg (not_le.mpr hnearly), if_neg (not_le.mpr hspot)]
  rcases le_or_gt (4995 / 10000) w with hhalf | hhalf
  · rw [if_pos hhalf]
    exact iff_of_false ConfidenceTier.noConfusion fun h => h.2 ⟨hhalf, hspot⟩
  · rw [if_neg (not_le.mpr hhalf)]
    exact iff_of_true rfl ⟨fun h => absurd h.1 (by linarith), fun h => absurd h.1 (by linarith)⟩

/-- Certain of drawing number and title, and of the type to `y`. -/
def certainBut (y : ℚ) : ExtractionResult where
  drawingNumber := some "A-101"
  drawingNumberConfidence := .fin 1
  title := some "Site Plan"
  titleConfidence := .fin 1
  documentType := some .technicalDrawing
  documentTypeConfidence := .fin y

/-- The row of a new job. -/
def planRow : JobRow := jobToOrm planJob

theorem storedTierAgrees_iff_certain :
    StoredTierAgrees (storeAssessment planRow [] (calculate (certainBut 1) none) 0 none none 0) ↔
      ¬ (7995 / 10000 ≤ weightedScore 1 1 1 none ∧ weightedScore 1 1 1 none < 8 / 10) ∧
        ¬ (4995 / 10000 ≤ weightedScore 1 1 1 none ∧ weightedScore 1 1 1 none < 5 / 10) :=
  storedTierAgrees_iff (e := certainBut 1) rfl rfl rfl none planRow [] 0 none none 0

/-- With a confidence of `0.332` in the type the score `0.7996` is stored as `0.800` and the tier as
`spot`. -/
theorem not_storedTierAgrees_certainBut :
    ¬ StoredTierAgrees
      (storeAssessment planRow [] (calculate (certainBut (332 / 1000)) none) 0 none none 0) := by
  have hscore : weightedScore 1 1 (332 / 1000) none = 7996 / 10000 := by
    rw [weightedScore]
    norm_num [validationFailed]
  intro h
  have htier : some (tierOf (weightedSum (certainBut (332 / 1000)) none).clampUnit) =
      some (tierOf (numeric43 (weightedSum (certainBut (332 / 1000)) none).clampUnit)) := h
  rw [weightedSum_eq (e := certainBut (332 / 1000)) rfl rfl rfl none, hscore, tierOf_clampUnit_fin,
    tierOf_numeric43_clampUnit, if_neg (by norm_num), if_pos (by norm_num),
    if_pos (by norm_num)] at htier
  cases htier

end ZubotIngestion
