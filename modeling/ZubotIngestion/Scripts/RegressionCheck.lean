import Mathlib.Algebra.Order.BigOperators.Group.List
import ZubotIngestion.Python.Lower
import ZubotIngestion.Services.Orchestrator
import ZubotIngestion.Store.Table
import ZubotIngestion.Text.Matching

/-!
# The regression check

`scripts/regression_check.py` runs a corpus with a baseline model and then with one candidate after
the other, compares the fields that were extracted, and stops at the first candidate whose mean
similarity meets the tolerance. Scores and latencies are finite floats, read as rationals. The
warnings about documents that are skipped, the command line and the report files are left out.

## Main definitions

* `DocOutputs`, `runSingleDoc`, `runCorpus`: the outputs of one model.
* `documentScore`, `compareRuns`, `corpusMeanSimilarity`: how similar two runs are.
* `buildCandidateReport`, `runRegressionCheck`: the candidates that are tried, and the winner.

## Main results

* `mem_compareRuns_iff`: which documents are compared.
* `corpusMeanSimilarity_mem`: every score is a number of the unit interval.
* `winner_passed`: the winner is the last candidate tried, and the first that has passed.
* `fallback_recommended`: without a winner every candidate has been tried.
-/

namespace ZubotIngestion

/-! ### The outputs of a run -/

/-- `COMPARED_FIELDS`. -/
def comparedFields : List String := ["drawing_number", "title", "document_type"]

/-- The compared fields of a document, by their names. -/
abbrev Fields : Type := List (String × Option String)

/-- `fields.get(field_name)`. -/
def Fields.get (fields : Fields) (fieldName : String) : Option String :=
  (fields.lookup fieldName).join

theorem Fields.get_eq_none {fields : Fields} (h : ∀ field ∈ fields, field.2 = none)
    (fieldName : String) : fields.get fieldName = none := by
  rw [Fields.get]
  cases hlookup : fields.lookup fieldName with
  | none => rfl
  | some value =>
    obtain ⟨before, after, hfields, -⟩ := List.lookup_eq_some_iff.mp hlookup
    have hmem : (fieldName, value) ∈ fields := by simp [hfields]
    exact h _ hmem

/-- `DocOutputs`: what was extracted from one document under one model. -/
structure DocOutputs where
  path : String
  filename : String
  drawingNumber : Option String
  title : Option String
  documentType : Option String
  latencySeconds : ℚ
  ok : Bool := true
  error : Option String := none

/-- `as_fields`. -/
def DocOutputs.asFields (doc : DocOutputs) : Fields :=
  [("drawing_number", doc.drawingNumber), ("title", doc.title),
    ("document_type", doc.documentType)]

/-- `_extract_doc_outputs`. -/
def extractDocOutputs (path filename : String) (result : PipelineResult) (latencySeconds : ℚ) :
    DocOutputs where
  path := path
  filename := filename
  drawingNumber := result.extractionResult.drawingNumber
  title := result.extractionResult.title
  documentType := result.extractionResult.documentType.map DocumentType.value
  latencySeconds := latencySeconds

/-- One document of a run: how the pipeline has ended for it, and how long it took. -/
structure DocRun where
  path : String
  filename : String
  result : Except PyException PipelineResult
  elapsed : ℚ

/-- `_run_single_doc`: an exception is recorded, and the fields are left empty. -/
def runSingleDoc (doc : DocRun) : DocOutputs :=
  match doc.result with
  | .error exc =>
    { path := doc.path
      filename := doc.filename
      drawingNumber := none
      title := none
      documentType := none
      latencySeconds := doc.elapsed
      ok := false
      error := some (formatError exc) }
  | .ok result => extractDocOutputs doc.path doc.filename result doc.elapsed

/-- `_run_corpus`. -/
def runCorpus (corpus : List DocRun) : List DocOutputs := corpus.map runSingleDoc

/-! ### Similarity -/

section Similarity

variable (tables : CaseTables)

/-- `normalize_field`. -/
def normalizeField : Option String → String
  | none => ""
  | some value => tables.lower (" ".intercalate (splitWhitespace (strip value)))

/-- `field_similarity`. -/
def fieldSimilarity (baseline candidate : Option String) : ℚ :=
  let a := normalizeField tables baseline
  let b := normalizeField tables candidate
  if a = "" ∧ b = "" then 1 else Text.similarity a.toList b.toList

/-- A similarity is a number of the unit interval. -/
theorem fieldSimilarity_mem (baseline candidate : Option String) :
    0 ≤ fieldSimilarity tables baseline candidate ∧
      fieldSimilarity tables baseline candidate ≤ 1 := by
  rw [fieldSimilarity]
  split_ifs
  · exact ⟨zero_le_one, le_rfl⟩
  · exact Text.similarity_mem _ _

/-- A field that the candidate lacks is a perfect match of an empty one, and a total miss of any
other. -/
theorem fieldSimilarity_none (baseline : Option String) :
    fieldSimilarity tables baseline none =
      if normalizeField tables baseline = "" then 1 else 0 := by
  rw [fieldSimilarity]
  split_ifs with hboth hblank hblank
  · rfl
  · exact absurd hboth.1 hblank
  · exact absurd ⟨hblank, rfl⟩ hboth
  · exact Text.similarity_nil_right (mt String.toList_eq_nil_iff.mp hblank)

/-- `statistics.fmean` of at least one value. -/
def fmean (values : List ℚ) : ℚ := values.sum / values.length

/-- The mean of numbers of the unit interval is one of them. -/
theorem fmean_mem {values : List ℚ} (h : ∀ value ∈ values, 0 ≤ value ∧ value ≤ 1) :
    0 ≤ fmean values ∧ fmean values ≤ 1 := by
  have hsum : values.sum ≤ values.length := by
    simpa using List.sum_le_card_nsmul values 1 fun value hvalue => (h value hvalue).2
  exact ⟨div_nonneg (List.sum_nonneg fun value hvalue => (h value hvalue).1) (Nat.cast_nonneg _),
    div_le_one_of_le₀ hsum (Nat.cast_nonneg _)⟩

theorem fmean_eq_zero {values : List ℚ} (h : ∀ value ∈ values, value = 0) : fmean values = 0 := by
  rw [fmean, List.sum_eq_zero h, zero_div]

/-- `document_score`: the mean of the scores of the compared fields, and these scores. -/
def documentScore (baselineFields candidateFields : Fields) : ℚ × List (String × ℚ) :=
  let scores := comparedFields.map fun fieldName =>
    (fieldName, fieldSimilarity tables (baselineFields.get fieldName)
      (candidateFields.get fieldName))
  (fmean (scores.map Prod.snd), scores)

/-- The scores that the score of a document is the mean of. -/
theorem fieldScore_mem {baselineFields candidateFields : Fields} {score : ℚ}
    (h : score ∈ (documentScore tables baselineFields candidateFields).2.map Prod.snd) :
    0 ≤ score ∧ score ≤ 1 := by
  obtain ⟨entry, hentry, rfl⟩ := List.mem_map.mp h
  obtain ⟨fieldName, -, rfl⟩ := List.mem_map.mp hentry
  exact fieldSimilarity_mem tables _ _

/-- The score of a document is a number of the unit interval. -/
theorem documentScore_mem (baselineFields candidateFields : Fields) :
    0 ≤ (documentScore tables baselineFields candidateFields).1 ∧
      (documentScore tables baselineFields candidateFields).1 ≤ 1 :=
  fmean_mem fun _ hscore => fieldScore_mem tables hscore

/-- `DocComparison`: a candidate against the baseline, for one document. -/
structure DocComparison where
  path : String
  filename : String
  baseline : Fields
  candidate : Fields
  fieldScores : List (String × ℚ)
  overallScore : ℚ
  latencySeconds : ℚ
  candidateOk : Bool
  candidateError : Option String

/-- `corpus_mean_similarity`. -/
def corpusMeanSimilarity (comparisons : List DocComparison) : ℚ :=
  if comparisons = [] then 0 else fmean (comparisons.map DocComparison.overallScore)

/-- `passes_tolerance`. -/
def passesTolerance (meanSimilarity : ℚ) (tolerance : PyFloat) : Bool :=
  decide (tolerance ≤ .fin meanSimilarity)

/-- `{d.path: d for d in outputs}`. -/
def byPath (outputs : List DocOutputs) : Store.Table DocOutputs.path := Store.Table.ofList outputs

/-- The comparison of two documents with one path. -/
def compareDocs (baselineDoc candidateDoc : DocOutputs) : DocComparison :=
  let (overall, fieldScores) :=
    documentScore tables baselineDoc.asFields candidateDoc.asFields
  { path := baselineDoc.path
    filename := baselineDoc.filename
    baseline := baselineDoc.asFields
    candidate := candidateDoc.asFields
    fieldScores := fieldScores
    overallScore := overall
    latencySeconds := candidateDoc.latencySeconds
    candidateOk := candidateDoc.ok
    candidateError := candidateDoc.error }

/-- `compare_runs`: documents without a candidate, and those on which the baseline has failed, are
skipped. -/
def compareRuns (baselineOutputs candidateOutputs : List DocOutputs) : List DocComparison :=
  (byPath baselineOutputs).rows.filterMap fun baselineDoc =>
    match (byPath candidateOutputs).find? baselineDoc.path with
    | none => none
    | some candidateDoc =>
      if baselineDoc.ok then some (compareDocs tables baselineDoc candidateDoc) else none

variable {tables} {baselineOutputs candidateOutputs : List DocOutputs}

/-- Compared are the documents that both runs have a last output for, unless it is one of the
failures of the baseline. -/
theorem mem_compareRuns_iff {comparison : DocComparison} :
    comparison ∈ compareRuns tables baselineOutputs candidateOutputs ↔
      ∃ path baselineDoc candidateDoc,
        (byPath baselineOutputs).find? path = some baselineDoc ∧
          (byPath candidateOutputs).find? path = some candidateDoc ∧ baselineDoc.ok = true ∧
            comparison = compareDocs tables baselineDoc candidateDoc := by
  rw [compareRuns, List.mem_filterMap]
  constructor
  · rintro ⟨baselineDoc, hrow, hcomparison⟩
    cases hcandidate : (byPath candidateOutputs).find? baselineDoc.path with
    | none =>
      rw [hcandidate] at hcomparison
      cases hcomparison
    | some candidateDoc =>
      rw [hcandidate] at hcomparison
      obtain ⟨hok, hcompared⟩ := Option.ite_none_right_eq_some.mp hcomparison
      cases hcompared
      exact ⟨baselineDoc.path, baselineDoc, candidateDoc,
        ((byPath baselineOutputs).mem_rows_iff baselineDoc).mp hrow, hcandidate, hok, rfl⟩
  · rintro ⟨path, baselineDoc, candidateDoc, hbaseline, hcandidate, hok, rfl⟩
    have hpath : baselineDoc.path = path := Store.Table.key_eq_of_find? hbaseline
    refine ⟨baselineDoc, ((byPath baselineOutputs).mem_rows_iff_exists _).mpr ⟨path, hbaseline⟩, ?_⟩
    simp only [hpath, hcandidate, hok, if_true]

/-- The score of a run is a number of the unit interval. -/
theorem corpusMeanSimilarity_mem :
    0 ≤ corpusMeanSimilarity (compareRuns tables baselineOutputs candidateOutputs) ∧
      corpusMeanSimilarity (compareRuns tables baselineOutputs candidateOutputs) ≤ 1 := by
  rw [corpusMeanSimilarity]
  split_ifs
  · exact ⟨le_rfl, zero_le_one⟩
  · refine fmean_mem fun score hscore => ?_
    obtain ⟨comparison, hcomparison, rfl⟩ := List.mem_map.mp hscore
    obtain ⟨_, baselineDoc, candidateDoc, _, _, _, rfl⟩ := mem_compareRuns_iff.mp hcomparison
    exact documentScore_mem tables baselineDoc.asFields candidateDoc.asFields

/-- The score of a run is zero as soon as the score of every document is. -/
theorem corpusMeanSimilarity_eq_zero {comparisons : List DocComparison}
    (h : ∀ comparison ∈ comparisons, comparison.overallScore = 0) :
    corpusMeanSimilarity comparisons = 0 := by
  rw [corpusMeanSimilarity]
  split_ifs
  · rfl
  · exact fmean_eq_zero (List.forall_mem_map.mpr h)

end Similarity

/-! ### The candidates -/

/-- `CandidateReport`. -/
structure CandidateReport where
  model : String
  meanSimilarity : ℚ
  meanLatencySeconds : ℚ
  latencyDeltaPct : ℚ
  passed : Bool
  perDoc : List DocComparison := []

/-- The mean latency of the documents that have not failed. -/
def meanLatency (outputs : List DocOutputs) : ℚ :=
  let latencies := (outputs.filter DocOutputs.ok).map DocOutputs.latencySeconds
  if latencies = [] then 0 else fmean latencies

/-- `_build_candidate_report`. -/
def buildCandidateReport (model : String) (comparisons : List DocComparison)
    (candidateOutputs : List DocOutputs) (baselineMeanLatency : ℚ) (tolerance : PyFloat) :
    CandidateReport where
  model := model
  meanSimilarity := corpusMeanSimilarity comparisons
  meanLatencySeconds := meanLatency candidateOutputs
  latencyDeltaPct :=
    if 0 < baselineMeanLatency then
      (meanLatency candidateOutputs - baselineMeanLatency) / baselineMeanLatency * 100
    else 0
  passed := passesTolerance (corpusMeanSimilarity comparisons) tolerance
  perDoc := comparisons

/-- `_build_recommendation`. -/
def buildRecommendation (winner : Option String) (candidateReports : List CandidateReport)
    (cpuFallback : String) : String :=
  match winner with
  | some winner => s!"adopt {winner}"
  | none =>
    let tried := ", ".intercalate (candidateReports.map CandidateReport.model)
    s!"fallback to CPU text-{cpuFallback}: every GPU candidate ({tried}) failed the similarity " ++
      "tolerance. See docs/PERFORMANCE.md 'Regression check' section for how to reconfigure Ollama."

/-- `RegressionResult`. -/
structure RegressionResult where
  baselineModel : String
  baselineOutputs : List DocOutputs
  candidateReports : List CandidateReport
  winner : Option String
  recommendation : String
  tolerance : PyFloat
  cpuFallback : String

/-- The loop over the candidates: it stops at the first one that passes. -/
def tryCandidates (report : String → List DocOutputs → CandidateReport) :
    List (String × List DocOutputs) → List CandidateReport × Option String
  | [] => ([], none)
  | (candidate, candidateOutputs) :: candidates =>
    let candidateReport := report candidate candidateOutputs
    if candidateReport.passed then ([candidateReport], some candidate)
    else
      let (candidateReports, winner) := tryCandidates report candidates
      (candidateReport :: candidateReports, winner)

section Candidates

variable {report : String → List DocOutputs → CandidateReport}
  {candidates : List (String × List DocOutputs)}

/-- Without a winner every candidate has been tried, and none has passed. -/
theorem tryCandidates_none (h : (tryCandidates report candidates).2 = none) :
    (tryCandidates report candidates).1 = candidates.map (fun c => report c.1 c.2) ∧
      ∀ c ∈ candidates, (report c.1 c.2).passed = false := by
  induction candidates with
  | nil => exact ⟨rfl, fun _ hc => absurd hc List.not_mem_nil⟩
  | cons candidate candidates ih =>
    rw [tryCandidates] at h ⊢
    split_ifs at h ⊢ with hpassed
    obtain ⟨hreports, hnone⟩ := ih h
    exact ⟨congrArg _ hreports,
      List.forall_mem_cons.mpr ⟨Bool.eq_false_iff.mpr hpassed, hnone⟩⟩

/-- The winner passes, no candidate before it does, and none behind it is tried. -/
theorem tryCandidates_some {winner : String}
    (h : (tryCandidates report candidates).2 = some winner) :
    ∃ before outputs after, candidates = before ++ (winner, outputs) :: after ∧
      (tryCandidates report candidates).1 =
        before.map (fun c => report c.1 c.2) ++ [report winner outputs] ∧
      (report winner outputs).passed = true ∧
      ∀ c ∈ before, (report c.1 c.2).passed = false := by
  induction candidates with
  | nil => cases h
  | cons candidate candidates ih =>
    rw [tryCandidates] at h ⊢
    split_ifs at h ⊢ with hpassed
    · cases h
      exact ⟨[], candidate.2, candidates, rfl, rfl, hpassed,
        fun _ hc => absurd hc List.not_mem_nil⟩
    · obtain ⟨before, outputs, after, rfl, hreports, hwinner, hbefore⟩ := ih h
      exact ⟨candidate :: before, outputs, after, rfl, congrArg _ hreports, hwinner,
        List.forall_mem_cons.mpr ⟨Bool.eq_false_iff.mpr hpassed, hbefore⟩⟩

end Candidates

/-- `run_regression_check`; every candidate comes with the outputs of its run, if it is run. -/
def runRegressionCheck (tables : CaseTables) (baselineModel : String)
    (baselineOutputs : List DocOutputs) (candidates : List (String × List DocOutputs))
    (cpuFallback : String) (tolerance : PyFloat) : RegressionResult :=
  let baselineMeanLatency := meanLatency baselineOutputs
  let (candidateReports, winner) := tryCandidates (fun candidate candidateOutputs =>
    buildCandidateReport candidate (compareRuns tables baselineOutputs candidateOutputs)
      candidateOutputs baselineMeanLatency tolerance) candidates
  { baselineModel := baselineModel
    baselineOutputs := baselineOutputs
    candidateReports := candidateReports
    winner := winner
    recommendation := buildRecommendation winner candidateReports cpuFallback
    tolerance := tolerance
    cpuFallback := cpuFallback }

section Runs

variable {tables : CaseTables} {baselineModel cpuFallback : String}
  {baselineOutputs : List DocOutputs} {candidates : List (String × List DocOutputs)}
  {tolerance : PyFloat}

/-- The winner is the last candidate that is reported, and the first whose score meets the
tolerance. -/
theorem winner_passed {winner : String}
    (h : (runRegressionCheck tables baselineModel baselineOutputs candidates cpuFallback
      tolerance).winner = some winner) :
    ∃ before outputs after, candidates = before ++ (winner, outputs) :: after ∧
      (runRegressionCheck tables baselineModel baselineOutputs candidates cpuFallback
        tolerance).candidateReports.map CandidateReport.model =
          before.map Prod.fst ++ [winner] ∧
      tolerance ≤ .fin (corpusMeanSimilarity (compareRuns tables baselineOutputs outputs)) ∧
      ∀ c ∈ before,
        ¬ tolerance ≤ .fin (corpusMeanSimilarity (compareRuns tables baselineOutputs c.2)) := by
  obtain ⟨before, outputs, after, hcandidates, hreports, hpassed, hbefore⟩ := tryCandidates_some h
  refine ⟨before, outputs, after, hcandidates, ?_, of_decide_eq_true hpassed,
    fun c hc => of_decide_eq_false (hbefore c hc)⟩
  refine (congrArg (List.map CandidateReport.model) hreports).trans ?_
  rw [List.map_append, List.map_map]
  rfl

/-- Without a winner the recommendation names every candidate, and none of them has met the
tolerance. -/
theorem fallback_recommended
    (h : (runRegressionCheck tables baselineModel baselineOutputs candidates cpuFallback
      tolerance).winner = none) :
    (runRegressionCheck tables baselineModel baselineOutputs candidates cpuFallback
        tolerance).candidateReports.map CandidateReport.model = candidates.map Prod.fst ∧
      ∀ c ∈ candidates,
        ¬ tolerance ≤ .fin (corpusMeanSimilarity (compareRuns tables baselineOutputs c.2)) := by
  obtain ⟨hreports, hfailed⟩ := tryCandidates_none h
  refine ⟨?_, fun c hc => of_decide_eq_false (hfailed c hc)⟩
  refine (congrArg (List.map CandidateReport.model) hreports).trans ?_
  rw [List.map_map]
  rfl

end Runs

end ZubotIngestion
