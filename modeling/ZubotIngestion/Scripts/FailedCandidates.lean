import ZubotIngestion.Scripts.RegressionCheck

/-!
# Failed candidates

A document that a candidate has failed on keeps its three compared fields empty, and is said to be
scored as a total miss. The score of two empty values is that of a perfect match, though: a failed
document scores a third for every compared field that the baseline has not found either, and a
candidate that has failed on every document of such a corpus can pass.

## Main definitions

* `FailuresMiss`: failed documents score zero, and a candidate that fails on all of them is
  rejected.
* `PopulatedWhereFailed`: the baseline has found every compared field of the failed documents.

## Main results

* `documentScore_failed`: what a failed document scores.
* `failuresMiss_iff`: failures are misses iff the baseline is populated where the candidate fails.
* `winner_succeeded`: under this condition a winner has succeeded on some document.
-/

namespace ZubotIngestion

/-! ### What a failed document scores -/

/-- A document that has failed has no field. -/
theorem get_asFields_of_failed {doc : DocRun} (h : (runSingleDoc doc).ok = false)
    (fieldName : String) : (runSingleDoc doc).asFields.get fieldName = none := by
  rw [runSingleDoc] at h ⊢
  cases hresult : doc.result with
  | ok result =>
    rw [hresult] at h
    cases h
  | error exc =>
    refine Fields.get_eq_none (fun field hfield => ?_) fieldName
    simp only [DocOutputs.asFields, List.mem_cons, List.not_mem_nil, or_false] at hfield
    rcases hfield with rfl | rfl | rfl <;> rfl

/-- The last output of a failed document, as the comparison finds it, has no field. -/
theorem get_asFields_of_find? {corpus : List DocRun} {path : String} {doc : DocOutputs}
    (hfound : (byPath (runCorpus corpus)).find? path = some doc) (hfailed : doc.ok = false)
    (fieldName : String) : doc.asFields.get fieldName = none := by
  obtain ⟨run, -, rfl⟩ := List.mem_map.mp (Store.Table.mem_of_find?_ofList hfound)
  exact get_asFields_of_failed hfailed fieldName

variable (tables : CaseTables)

/-- The sum of an indicator counts. -/
theorem sum_map_indicator {α : Type} (p : α → Prop) [DecidablePred p] (xs : List α) :
    (xs.map fun x => if p x then (1 : ℚ) else 0).sum = xs.countP fun x => decide (p x) := by
  induction xs with
  | nil => rfl
  | cons x xs ih =>
    rw [List.map_cons, List.sum_cons, ih, List.countP_cons]
    by_cases hx : p x <;> simp [hx, add_comm]

/-- A document without fields scores a third for every compared field that the baseline has not
found either. -/
theorem documentScore_failed (baselineFields : Fields) {candidateFields : Fields}
    (h : ∀ fieldName, candidateFields.get fieldName = none) :
    (documentScore tables baselineFields candidateFields).1 =
      (comparedFields.countP fun fieldName =>
        decide (normalizeField tables (baselineFields.get fieldName) = "") : ℕ) / 3 := by
  have hscores : (documentScore tables baselineFields candidateFields).2.map Prod.snd =
      comparedFields.map fun fieldName =>
        if normalizeField tables (baselineFields.get fieldName) = "" then 1 else 0 := by
    simp only [documentScore, List.map_map, Function.comp_def, h, fieldSimilarity_none]
  have hlength : ((documentScore tables baselineFields candidateFields).2.map Prod.snd).length =
      3 := rfl
  calc (documentScore tables baselineFields candidateFields).1
      = fmean ((documentScore tables baselineFields candidateFields).2.map Prod.snd) := rfl
    _ = _ := by rw [fmean, hlength, hscores, sum_map_indicator, Nat.cast_ofNat]

/-- A document without fields is a total miss iff the baseline has found every compared field. -/
theorem documentScore_failed_eq_zero_iff (baselineFields : Fields) {candidateFields : Fields}
    (h : ∀ fieldName, candidateFields.get fieldName = none) :
    (documentScore tables baselineFields candidateFields).1 = 0 ↔
      ∀ fieldName ∈ comparedFields,
        normalizeField tables (baselineFields.get fieldName) ≠ "" := by
  rw [documentScore_failed tables baselineFields h, div_eq_zero_iff,
    or_iff_left (OfNat.ofNat_ne_zero 3), Nat.cast_eq_zero, List.countP_eq_zero]
  simp only [decide_eq_true_eq, ne_eq]

/-! ### Failures as misses -/

section Runs

variable (baselineOutputs candidateOutputs : List DocOutputs)

/-- A document that the candidate has failed on, and the baseline has not, scores zero. So a
candidate that has failed on every document scores zero, and does not meet a positive tolerance. -/
structure FailuresMiss : Prop where
  misses : ∀ comparison ∈ compareRuns tables baselineOutputs candidateOutputs,
    comparison.candidateOk = false → comparison.overallScore = 0
  mean : (∀ doc ∈ candidateOutputs, doc.ok = false) →
    corpusMeanSimilarity (compareRuns tables baselineOutputs candidateOutputs) = 0
  rejected : (∀ doc ∈ candidateOutputs, doc.ok = false) →
    ∀ (model : String) (baselineMeanLatency : ℚ) (tolerance : PyFloat), 0 < tolerance →
      (buildCandidateReport model (compareRuns tables baselineOutputs candidateOutputs)
        candidateOutputs baselineMeanLatency tolerance).passed = false

/-- Of a document that the candidate has failed on, and the baseline has not, the baseline has
found every compared field, and not as a blank one. -/
def PopulatedWhereFailed : Prop :=
  ∀ path baselineDoc candidateDoc, (byPath baselineOutputs).find? path = some baselineDoc →
    (byPath candidateOutputs).find? path = some candidateDoc → baselineDoc.ok = true →
    candidateDoc.ok = false → ∀ fieldName ∈ comparedFields,
      normalizeField tables (baselineDoc.asFields.get fieldName) ≠ ""

variable {tables baselineOutputs candidateOutputs}

/-- A score of zero does not meet a positive tolerance. -/
theorem passesTolerance_zero {tolerance : PyFloat} (h : 0 < tolerance) :
    passesTolerance 0 tolerance = false := by
  refine decide_eq_false fun hle => ?_
  cases tolerance with
  | fin q => exact absurd (PyFloat.fin_le_fin.mp hle) (not_le.mpr (PyFloat.fin_lt_fin.mp h))
  | nan => cases h
  | inf => cases hle
  | negInf => cases h

/-- The compared documents of a candidate that has failed on all of them. -/
theorem candidateOk_of_mem_compareRuns (h : ∀ doc ∈ candidateOutputs, doc.ok = false)
    {comparison : DocComparison}
    (hmem : comparison ∈ compareRuns tables baselineOutputs candidateOutputs) :
    comparison.candidateOk = false := by
  obtain ⟨path, baselineDoc, candidateDoc, -, hcandidate, -, rfl⟩ := mem_compareRuns_iff.mp hmem
  exact h candidateDoc (Store.Table.mem_of_find?_ofList hcandidate)

/-- That failed documents score zero carries the rest. -/
theorem FailuresMiss.of_misses
    (h : ∀ comparison ∈ compareRuns tables baselineOutputs candidateOutputs,
      comparison.candidateOk = false → comparison.overallScore = 0) :
    FailuresMiss tables baselineOutputs candidateOutputs := by
  have hmean : (∀ doc ∈ candidateOutputs, doc.ok = false) →
      corpusMeanSimilarity (compareRuns tables baselineOutputs candidateOutputs) = 0 :=
    fun hfailed => corpusMeanSimilarity_eq_zero fun comparison hmem =>
      h comparison hmem (candidateOk_of_mem_compareRuns hfailed hmem)
  refine ⟨h, hmean, fun hfailed model baselineMeanLatency tolerance htolerance => ?_⟩
  rw [buildCandidateReport, hmean hfailed]
  exact passesTolerance_zero htolerance

end Runs

/-- Where the baseline is populated, failed documents are total misses. -/
theorem failuresMiss_of_populated {baseline candidate : List DocRun}
    (h : PopulatedWhereFailed tables (runCorpus baseline) (runCorpus candidate)) :
    FailuresMiss tables (runCorpus baseline) (runCorpus candidate) := by
  refine .of_misses fun comparison hmem hfailed => ?_
  obtain ⟨path, baselineDoc, candidateDoc, hbaseline, hcandidate, hok, rfl⟩ :=
    mem_compareRuns_iff.mp hmem
  exact (documentScore_failed_eq_zero_iff tables baselineDoc.asFields
    (get_asFields_of_find? hcandidate hfailed)).mpr
      (h path baselineDoc candidateDoc hbaseline hcandidate hok hfailed)

/-- Failed documents are total misses iff the baseline is populated wherever the candidate has
failed. -/
theorem failuresMiss_iff (baseline candidate : List DocRun) :
    FailuresMiss tables (runCorpus baseline) (runCorpus candidate) ↔
      PopulatedWhereFailed tables (runCorpus baseline) (runCorpus candidate) := by
  refine ⟨?_, failuresMiss_of_populated tables⟩
  intro h path baselineDoc candidateDoc hbaseline hcandidate hok hfailed
  have hmem : compareDocs tables baselineDoc candidateDoc ∈
      compareRuns tables (runCorpus baseline) (runCorpus candidate) :=
    mem_compareRuns_iff.mpr ⟨path, baselineDoc, candidateDoc, hbaseline, hcandidate, hok, rfl⟩
  exact (documentScore_failed_eq_zero_iff tables baselineDoc.asFields
    (get_asFields_of_find? hcandidate hfailed)).mp (h.misses _ hmem hfailed)

/-- A run of the pipeline that has found nothing. -/
def nothingFound : PipelineResult where
  extractionResult := emptyExtractionResult.assess fallbackAssessment
  companionResult := none
  sidecar := emptySidecar planJob
  confidenceAssessment := fallbackAssessment
  errors := []
  pipelineTrace := PipelineLog.pipelineTrace {}
  otelTraceId := ""

/-- A corpus of one document. -/
def planRun (result : Except PyException PipelineResult) : List DocRun :=
  [{ path := "plan.pdf", filename := "plan.pdf", result := result, elapsed := 1 }]

/-- Where the baseline has found nothing, a candidate that raises on the only document passes. -/
theorem not_failuresMiss_nothingFound :
    ¬ FailuresMiss asciiTables (runCorpus (planRun (.ok nothingFound)))
      (runCorpus (planRun (.error (.error "RuntimeError" "model not found")))) := by
  intro h
  have htolerance : (0 : PyFloat) < .fin (85 / 100) := PyFloat.fin_lt_fin.mpr (by norm_num)
  have hrejected := h.rejected (by decide) "qwen2.5:3b" 1 (.fin (85 / 100)) htolerance
  have hpassed : (buildCandidateReport "qwen2.5:3b"
      (compareRuns asciiTables (runCorpus (planRun (.ok nothingFound)))
        (runCorpus (planRun (.error (.error "RuntimeError" "model not found")))))
      (runCorpus (planRun (.error (.error "RuntimeError" "model not found")))) 1
      (.fin (85 / 100))).passed = true := by
    decide +kernel
  rw [hpassed] at hrejected
  cases hrejected

/-! ### The gate -/

/-- Where the baseline is populated, a model that has failed on every document is not adopted. -/
theorem winner_succeeded {baselineModel cpuFallback winner : String} {baseline : List DocRun}
    {candidates : List (String × List DocRun)} {tolerance : PyFloat} (htolerance : 0 < tolerance)
    (hpopulated : ∀ c ∈ candidates,
      PopulatedWhereFailed tables (runCorpus baseline) (runCorpus c.2))
    (h : (runRegressionCheck tables baselineModel (runCorpus baseline)
      (candidates.map fun c => (c.1, runCorpus c.2)) cpuFallback tolerance).winner = some winner) :
    ∃ candidate, (winner, candidate) ∈ candidates ∧
      ∃ doc ∈ runCorpus candidate, doc.ok = true := by
  obtain ⟨before, outputs, after, hsplit, -, hmeets, -⟩ := winner_passed h
  have hmem : (winner, outputs) ∈ candidates.map fun c => (c.1, runCorpus c.2) := by
    simp [hsplit]
  obtain ⟨⟨_, candidate⟩, hcandidate, heq⟩ := List.mem_map.mp hmem
  obtain ⟨rfl, rfl⟩ := Prod.mk.inj heq
  refine ⟨candidate, hcandidate, ?_⟩
  by_contra hfailed
  push Not at hfailed
  have hzero := (failuresMiss_of_populated tables (hpopulated _ hcandidate)).mean
    fun doc hdoc => Bool.eq_false_iff.mpr (hfailed doc hdoc)
  rw [hzero] at hmeets
  exact absurd hmeets (of_decide_eq_false (passesTolerance_zero htolerance))

end ZubotIngestion
