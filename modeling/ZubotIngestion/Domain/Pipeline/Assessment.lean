import ZubotIngestion.Domain.Pipeline.Validation

/-!
# Assessments of longer companions

The validator looks for the extracted values in the text of the companion, and the calculator
lowers the overall confidence when it reports one. A companion to which text is added, behind white
space or before it, is never assessed worse for it: fewer fields are reported, a companion that
passed passes, and neither the overall confidence nor the tier falls. The penalty is smaller than
the step between two thresholds, so the tier rises by one at most.

## Main definitions

* `Lengthens`: text has been added at the ends.
* `ConfidenceTier.rank`: the order of the tiers.
* `Outdoes`: one validated assessment is no worse than another.

## Main results

* `outdoes_of_lengthens`: lengthened companions are assessed no worse.
-/

namespace ZubotIngestion

open Text

/-! ### Lengthened texts -/

/-- `longer` is `text` with more before and behind it, joined at white space. -/
def Lengthens (text longer : String) : Prop :=
  ∃ front back : List Char, longer.toList = front ++ (text.toList ++ back) ∧
    (∀ c ∈ front.getLast?, isSpace c = true) ∧ ∀ c ∈ back.head?, isSpace c = true

namespace Lengthens

variable {text longer : String}

theorem subset (h : Lengthens text longer) : text.toList ⊆ longer.toList := by
  obtain ⟨front, back, hlonger, -, -⟩ := h
  rw [hlonger]
  exact List.Subset.trans (List.subset_append_left _ _) (List.subset_append_right _ _)

theorem length_le (h : Lengthens text longer) : text.length ≤ longer.length := by
  obtain ⟨front, back, hlonger, -, -⟩ := h
  rw [← String.length_toList, ← String.length_toList, hlonger, List.length_append,
    List.length_append]
  omega

/-- What the text mentions the longer one mentions. -/
theorem mentions (h : Lengthens text longer) (tables : CaseTables) {valueStr : String}
    (hmentions : mentions tables text valueStr = true) :
    ZubotIngestion.mentions tables longer valueStr = true := by
  obtain ⟨front, back, hlonger, hfront, hback⟩ := h
  refine contains_iff.mpr ((contains_iff.mp hmentions).trans ?_)
  rw [CaseTables.lower, CaseTables.lower, String.toList_ofList, String.toList_ofList, hlonger]
  exact mapInContext_between _ (fun c hc => tables.stops_lowerIn (hfront c hc))
    fun c hc => tables.stops_lowerIn (hback c hc)

end Lengthens

theorem strip_eq_empty_iff {text : String} :
    strip text = "" ↔ ∀ c ∈ text.toList, isSpace c = true := by
  constructor
  · intro h c hc
    by_contra hspace
    exact strip_ne_empty hc (Bool.eq_false_iff.mpr hspace) h
  · intro h
    rw [strip, List.dropWhile_eq_nil_iff.mpr h]
    rfl

/-! ### The validator -/

section Validator

variable {tables : CaseTables} {text longer : String} {extraction : ExtractionResult}

/-- At most one issue is about the text itself. -/
theorem length_textIssues_le (text : String) : (textIssues text).length ≤ 1 := by
  rw [textIssues]
  split_ifs <;> simp

/-- A longer text has no new issues of its own, unless the text was blank. -/
theorem textIssues_sublist (h : Lengthens text longer) (hblank : strip text ≠ "") :
    (textIssues longer).Sublist (textIssues text) := by
  have hblank' : strip longer ≠ "" := by
    rw [Ne, strip_eq_empty_iff] at hblank ⊢
    exact fun hall => hblank fun c hc => hall c (h.subset hc)
  rw [textIssues, textIssues, if_neg hblank, if_neg hblank']
  split_ifs with hlonger htext
  · exact List.Sublist.refl _
  · exact absurd (h.length_le.trans_lt hlonger) htext
  · exact List.nil_sublist _
  · exact List.Sublist.refl _

/-- A field that is reported of the longer text is reported of the text. -/
theorem isReported_of_lengthens (h : Lengthens text longer) {field : ExtractedField}
    (hreported : isReported tables longer extraction field = true) :
    isReported tables text extraction field = true := by
  rw [isReported, decide_eq_true_iff] at hreported ⊢
  refine ⟨hreported.1, fun hany => hreported.2 ?_⟩
  obtain ⟨valueStr, hvalue, hmentions⟩ := (Option.any_eq_true _ _).mp hany
  exact (Option.any_eq_true _ _).mpr ⟨valueStr, hvalue, h.mentions tables hmentions⟩

/-- The reported fields of the longer text are among those of the text. -/
theorem reported_sublist (h : Lengthens text longer) :
    (fieldSpecs.filter (isReported tables longer extraction)).Sublist
      (fieldSpecs.filter (isReported tables text extraction)) :=
  List.monotone_filter_right _ fun _ => isReported_of_lengthens h

/-- The longer text has no new issues, unless the text was blank. -/
theorem issues_sublist (h : Lengthens text longer) (hblank : strip text ≠ "") :
    (validate tables longer extraction).issues.Sublist
      (validate tables text extraction).issues := by
  rw [issues_validate, issues_validate]
  exact (textIssues_sublist h hblank).append ((reported_sublist h).map _)

/-- It never has more. -/
theorem length_issues_le (h : Lengthens text longer) :
    (validate tables longer extraction).issues.length ≤
      (validate tables text extraction).issues.length := by
  by_cases hblank : strip text = ""
  · have htext : textIssues text = ["empty_companion"] := if_pos hblank
    rw [issues_validate, issues_validate, htext]
    simp only [List.length_append, List.length_map, List.length_singleton]
    exact Nat.add_le_add (length_textIssues_le longer) (reported_sublist h).length_le
  · exact (issues_sublist h hblank).length_le

/-- A companion passes iff it has no issues. -/
theorem passed_iff : (validate tables text extraction).passed = true ↔
    (validate tables text extraction).issues.length = 0 := by
  rw [validate, List.isEmpty_iff, List.length_eq_zero_iff]

/-- A field that is claimed with confidence. -/
def isClaimed (extraction : ExtractionResult) (field : ExtractedField) : Bool :=
  ¬ field.confidence extraction ≤ 0

variable (tables text extraction) in
/-- The loop counts the claimed fields, and those of them that are not reported. -/
theorem counts_check (c : Coverage) (field : ExtractedField) :
    (c.check tables text extraction field).totalFieldsWithConfidence =
        c.totalFieldsWithConfidence + (if isClaimed extraction field then 1 else 0) ∧
      (c.check tables text extraction field).fieldsReferenced = c.fieldsReferenced +
        if isClaimed extraction field && !isReported tables text extraction field then 1
        else 0 := by
  rw [Coverage.check]
  by_cases hconfidence : field.confidence extraction ≤ 0
  · simp [isClaimed, hconfidence]
  · rw [if_neg hconfidence]
    cases hvalue : fieldValueStr (field.value? extraction) with
    | none => simp [isClaimed, isReported, hconfidence, hvalue]
    | some valueStr =>
      by_cases hmentions : ZubotIngestion.mentions tables text valueStr = true
      · simp [isClaimed, isReported, hconfidence, hvalue, hmentions]
      · simp [isClaimed, isReported, hconfidence, hvalue, hmentions]

variable (tables text extraction) in
/-- The counts of the whole loop. -/
theorem counts_coverage : (coverage tables text extraction).totalFieldsWithConfidence =
      fieldSpecs.countP (isClaimed extraction) ∧
    (coverage tables text extraction).fieldsReferenced = fieldSpecs.countP fun field =>
      isClaimed extraction field && !isReported tables text extraction field := by
  have hfold (fields : List ExtractedField) (c : Coverage) :
      (fields.foldl (Coverage.check tables text extraction) c).totalFieldsWithConfidence =
          c.totalFieldsWithConfidence + fields.countP (isClaimed extraction) ∧
        (fields.foldl (Coverage.check tables text extraction) c).fieldsReferenced =
          c.fieldsReferenced + fields.countP fun field =>
            isClaimed extraction field && !isReported tables text extraction field := by
    induction fields generalizing c with
    | nil => exact ⟨rfl, rfl⟩
    | cons field fields ih =>
      obtain ⟨htotal, hreferenced⟩ := ih (c.check tables text extraction field)
      obtain ⟨htotal', hreferenced'⟩ := counts_check tables text extraction c field
      rw [List.foldl_cons, htotal, hreferenced, htotal', hreferenced', List.countP_cons,
        List.countP_cons]
      constructor <;> omega
  simpa [coverage] using hfold fieldSpecs ⟨textIssues text, 0, 0⟩

/-- The quality score of the longer text is at least that of the text. -/
theorem qualityScore_le (h : Lengthens text longer) :
    (validate tables text extraction).qualityScore ≤
      (validate tables longer extraction).qualityScore := by
  obtain ⟨htotal, hreferenced⟩ := counts_coverage tables text extraction
  obtain ⟨htotal', hreferenced'⟩ := counts_coverage tables longer extraction
  have hle : (coverage tables text extraction).fieldsReferenced ≤
      (coverage tables longer extraction).fieldsReferenced := by
    rw [hreferenced, hreferenced']
    refine List.countP_mono_left fun field _ hfield => ?_
    rw [Bool.and_eq_true, Bool.not_eq_true'] at hfield ⊢
    refine ⟨hfield.1, Bool.eq_false_iff.mpr fun hreported => ?_⟩
    rw [isReported_of_lengthens h hreported] at hfield
    exact Bool.noConfusion hfield.2
  show (coverage tables text extraction).qualityScore ≤
    (coverage tables longer extraction).qualityScore
  rw [Coverage.qualityScore, Coverage.qualityScore, htotal, htotal']
  cases fieldSpecs.countP (isClaimed extraction) with
  | zero => exact PyFloat.fin_le_fin.mpr le_rfl
  | succ total =>
    show (PyFloat.fin (mkRat _ (total + 1))).clampUnit ≤
      (PyFloat.fin (mkRat _ (total + 1))).clampUnit
    rw [PyFloat.clampUnit_fin, PyFloat.clampUnit_fin, PyFloat.fin_le_fin]
    refine max_le_max le_rfl (min_le_min_right _ ?_)
    rw [Rat.mkRat_eq_div, Rat.mkRat_eq_div]
    gcongr

end Validator

/-! ### The calculator -/

/-- The order of the tiers. -/
def ConfidenceTier.rank : ConfidenceTier → ℕ
  | .review => 0
  | .spot => 1
  | .auto => 2

/-- No float is less than itself. -/
theorem PyFloat.not_lt_self (f : PyFloat) : ¬ f < f := by
  cases f with
  | fin q => exact PyFloat.fin_lt_fin.not.mpr (lt_irrefl q)
  | nan => exact PyFloat.not_nan_lt _
  | inf => exact Bool.false_ne_true
  | negInf => exact Bool.false_ne_true

/-- The penalty does not raise a score, and lowers its tier by one at most. -/
theorem penalty_lowers (weighted : PyFloat) :
    ¬ weighted.clampUnit < (weighted + confidenceValidationPenalty).clampUnit ∧
      (tierOf (weighted + confidenceValidationPenalty).clampUnit).rank ≤
        (tierOf weighted.clampUnit).rank ∧
      (tierOf weighted.clampUnit).rank ≤
        (tierOf (weighted + confidenceValidationPenalty).clampUnit).rank + 1 := by
  cases weighted with
  | nan => exact ⟨PyFloat.not_lt_self _, le_rfl, Nat.le_succ _⟩
  | inf => exact ⟨PyFloat.not_lt_self _, le_rfl, Nat.le_succ _⟩
  | negInf => exact ⟨PyFloat.not_lt_self _, le_rfl, Nat.le_succ _⟩
  | fin q =>
    rw [confidenceValidationPenalty, PyFloat.fin_add_fin, tierOf_clampUnit_fin,
      tierOf_clampUnit_fin, PyFloat.clampUnit_fin, PyFloat.clampUnit_fin, PyFloat.fin_lt_fin]
    refine ⟨not_lt.mpr (max_le_max le_rfl (min_le_min_right _ (by linarith))), ?_, ?_⟩
    · split_ifs <;> simp only [ConfidenceTier.rank] <;> first | omega | linarith
    · split_ifs <;> simp only [ConfidenceTier.rank] <;> first | omega | linarith

/-- The assessment is no worse with a validation that passes when another one does. -/
theorem calculate_mono (extraction : ExtractionResult) {validation better : ValidationResult}
    (h : validation.passed = true → better.passed = true) :
    ¬ (calculate extraction (some better)).overallConfidence <
        (calculate extraction (some validation)).overallConfidence ∧
      (calculate extraction (some validation)).tier.rank ≤
        (calculate extraction (some better)).tier.rank ∧
      (calculate extraction (some better)).tier.rank ≤
        (calculate extraction (some validation)).tier.rank + 1 := by
  have hsum (v : ValidationResult) : weightedSum extraction (some v) =
      if v.passed then weightedSum extraction none
      else weightedSum extraction none + confidenceValidationPenalty := by
    rw [weightedSum, weightedSum, validationFailed]
    cases v.passed <;> rfl
  show ¬ (weightedSum extraction (some better)).clampUnit <
      (weightedSum extraction (some validation)).clampUnit ∧
    (tierOf (weightedSum extraction (some validation)).clampUnit).rank ≤
      (tierOf (weightedSum extraction (some better)).clampUnit).rank ∧
    (tierOf (weightedSum extraction (some better)).clampUnit).rank ≤
      (tierOf (weightedSum extraction (some validation)).clampUnit).rank + 1
  rw [hsum, hsum]
  by_cases hpassed : validation.passed = true
  · rw [if_pos hpassed, if_pos (h hpassed)]
    exact ⟨PyFloat.not_lt_self _, le_rfl, Nat.le_succ _⟩
  · rw [if_neg hpassed]
    split_ifs
    · exact penalty_lowers _
    · exact ⟨PyFloat.not_lt_self _, le_rfl, Nat.le_succ _⟩

/-- What validating the one companion and calculating the confidence is no worse for than for the
other. -/
structure Outdoes (tables : CaseTables) (extraction : ExtractionResult) (text longer : String) :
    Prop where
  reported : (validate tables longer extraction).issues.length ≤
    (validate tables text extraction).issues.length
  qualityScore : (validate tables text extraction).qualityScore ≤
    (validate tables longer extraction).qualityScore
  passed : (validate tables text extraction).passed = true →
    (validate tables longer extraction).passed = true
  overall : ¬ (calculate extraction (some (validate tables longer extraction))).overallConfidence <
    (calculate extraction (some (validate tables text extraction))).overallConfidence
  tier : (calculate extraction (some (validate tables text extraction))).tier.rank ≤
    (calculate extraction (some (validate tables longer extraction))).tier.rank
  tierStep : (calculate extraction (some (validate tables longer extraction))).tier.rank ≤
    (calculate extraction (some (validate tables text extraction))).tier.rank + 1

/-- **Longer companions are assessed no worse.** Where text is added to a companion before or
behind white space, no more issues are reported, none that was not reported before unless the
companion was blank, the quality score does not fall, a companion that passed passes, and neither
the overall confidence nor the tier falls; the tier rises by one at most. -/
theorem outdoes_of_lengthens (tables : CaseTables) (extraction : ExtractionResult)
    {text longer : String} (h : Lengthens text longer) :
    Outdoes tables extraction text longer ∧
      (strip text ≠ "" → (validate tables longer extraction).issues.Sublist
        (validate tables text extraction).issues) := by
  have hpassed : (validate tables text extraction).passed = true →
      (validate tables longer extraction).passed = true := fun htext =>
    passed_iff.mpr (Nat.le_zero.mp ((length_issues_le h).trans_eq (passed_iff.mp htext)))
  obtain ⟨hoverall, htier, hstep⟩ := calculate_mono extraction hpassed
  exact ⟨⟨length_issues_le h, qualityScore_le h, hpassed, hoverall, htier, hstep⟩,
    issues_sublist h⟩

/-- An extraction with a drawing number and a title. -/
def sheetExtraction : ExtractionResult where
  drawingNumber := some "P-1"
  drawingNumberConfidence := 1
  title := some "Floor Plan"
  titleConfidence := 1
  documentType := none
  documentTypeConfidence := 0

/-- A sentence that names both is added to a companion. -/
theorem outdoes_of_lengthens_sheet :
    Lengthens "One sheet." "One sheet. It is sheet P-1, the floor plan of the ground floor." ∧
      Outdoes asciiTables sheetExtraction "One sheet."
        "One sheet. It is sheet P-1, the floor plan of the ground floor." := by
  have hlengthens :
      Lengthens "One sheet." "One sheet. It is sheet P-1, the floor plan of the ground floor." :=
    ⟨[], " It is sheet P-1, the floor plan of the ground floor.".toList, by decide,
      fun _ hc => (Option.not_mem_none _ hc).elim, fun _ hc => Option.mem_some.mp hc ▸ rfl⟩
  exact ⟨hlengthens, (outdoes_of_lengthens _ _ hlengthens).1⟩

end ZubotIngestion
