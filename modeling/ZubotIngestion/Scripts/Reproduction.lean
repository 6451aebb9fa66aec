import ZubotIngestion.Scripts.RegressionCheck

/-!
# Candidates that reproduce the baseline

The strictest tolerance that the regression check takes is one. What passes it is not merely close
to the baseline: as only a text itself is as similar as possible, a candidate passes iff it has
found the same fields in every compared document, up to case and white space, and some document has
been compared at all.

## Main definitions

* `AgreesOn`: two documents have the same compared fields.
* `Reproduces`: a run has the same fields as the baseline.

## Main results

* `corpusMeanSimilarity_eq_one_iff`: only a reproduction scores one.
* `strictWinner_iff`: at tolerance one the winner is the first reproduction.
-/

namespace ZubotIngestion

variable (tables : CaseTables)

/-! ### Scores of one -/

/-- Two fields score one iff they are the same up to case and white space. -/
theorem fieldSimilarity_eq_one_iff (baseline candidate : Option String) :
    fieldSimilarity tables baseline candidate = 1 ↔
      normalizeField tables baseline = normalizeField tables candidate := by
  rw [fieldSimilarity]
  split_ifs with hblank
  · exact iff_of_true rfl (hblank.1.trans hblank.2.symm)
  · exact (Text.similarity_eq_one_iff _ _).trans String.toList_inj

/-- A mean of numbers that are at most one is one iff all of them are. -/
theorem fmean_eq_one_iff {values : List ℚ} (hne : values ≠ []) (h : ∀ value ∈ values, value ≤ 1) :
    fmean values = 1 ↔ ∀ value ∈ values, value = 1 := by
  have hlength : (values.length : ℚ) ≠ 0 := by
    exact_mod_cast mt List.length_eq_zero_iff.mp hne
  rw [fmean, div_eq_one_iff_eq hlength]
  clear hlength hne
  induction values with
  | nil => simp
  | cons value values ih =>
    obtain ⟨hvalue, hvalues⟩ := List.forall_mem_cons.mp h
    have hsum : values.sum ≤ values.length := by
      simpa using List.sum_le_card_nsmul values 1 hvalues
    have hrest : values.sum = values.length ↔ ∀ value ∈ values, value = 1 := ih hvalues
    rw [List.sum_cons, List.length_cons, Nat.cast_succ, List.forall_mem_cons, ← hrest]
    constructor
    · intro heq
      constructor <;> linarith
    · rintro ⟨rfl, heq⟩
      rw [heq, add_comm]

/-- Two documents have the same compared fields, up to case and white space. -/
def AgreesOn (baselineFields candidateFields : Fields) : Prop :=
  ∀ fieldName ∈ comparedFields, normalizeField tables (baselineFields.get fieldName) =
    normalizeField tables (candidateFields.get fieldName)

/-- Only a document with the same fields scores one. -/
theorem documentScore_eq_one_iff (baselineFields candidateFields : Fields) :
    (documentScore tables baselineFields candidateFields).1 = 1 ↔
      AgreesOn tables baselineFields candidateFields := by
  have hscores : (documentScore tables baselineFields candidateFields).2.map Prod.snd =
      comparedFields.map fun fieldName => fieldSimilarity tables (baselineFields.get fieldName)
        (candidateFields.get fieldName) := by
    rw [documentScore, List.map_map]
    rfl
  calc (documentScore tables baselineFields candidateFields).1 = 1
      ↔ ∀ score ∈ (documentScore tables baselineFields candidateFields).2.map Prod.snd,
          score = 1 :=
        fmean_eq_one_iff (hscores ▸ List.cons_ne_nil _ _) fun _ hscore =>
          (fieldScore_mem tables hscore).2
    _ ↔ AgreesOn tables baselineFields candidateFields := by
        rw [hscores, List.forall_mem_map]
        simp only [fieldSimilarity_eq_one_iff, AgreesOn]

/-! ### Reproductions -/

/-- A candidate reproduces a baseline: there is a document that both runs have an output for and
that the baseline has not failed on, and on every such document the two runs agree. -/
structure Reproduces (baselineOutputs candidateOutputs : List DocOutputs) : Prop where
  compared : ∃ path baselineDoc candidateDoc, (byPath baselineOutputs).find? path =
    some baselineDoc ∧ (byPath candidateOutputs).find? path = some candidateDoc ∧
      baselineDoc.ok = true
  agrees : ∀ path baselineDoc candidateDoc, (byPath baselineOutputs).find? path =
    some baselineDoc → (byPath candidateOutputs).find? path = some candidateDoc →
      baselineDoc.ok = true → AgreesOn tables baselineDoc.asFields candidateDoc.asFields

variable {tables} {baselineOutputs candidateOutputs : List DocOutputs}

/-- Something is compared iff some document is comparable. -/
theorem compareRuns_ne_nil_iff : compareRuns tables baselineOutputs candidateOutputs ≠ [] ↔
    ∃ path baselineDoc candidateDoc, (byPath baselineOutputs).find? path = some baselineDoc ∧
      (byPath candidateOutputs).find? path = some candidateDoc ∧ baselineDoc.ok = true := by
  rw [ne_eq, List.eq_nil_iff_forall_not_mem, not_forall_not]
  constructor
  · rintro ⟨comparison, hmem⟩
    obtain ⟨path, baselineDoc, candidateDoc, hbaseline, hcandidate, hok, -⟩ :=
      mem_compareRuns_iff.mp hmem
    exact ⟨path, baselineDoc, candidateDoc, hbaseline, hcandidate, hok⟩
  · rintro ⟨path, baselineDoc, candidateDoc, hbaseline, hcandidate, hok⟩
    exact ⟨_, mem_compareRuns_iff.mpr
      ⟨path, baselineDoc, candidateDoc, hbaseline, hcandidate, hok, rfl⟩⟩

/-- Only a reproduction scores one. -/
theorem corpusMeanSimilarity_eq_one_iff :
    corpusMeanSimilarity (compareRuns tables baselineOutputs candidateOutputs) = 1 ↔
      Reproduces tables baselineOutputs candidateOutputs := by
  rw [corpusMeanSimilarity]
  split_ifs with hnone
  · have hnot : ¬ Reproduces tables baselineOutputs candidateOutputs :=
      fun h => compareRuns_ne_nil_iff.mpr h.compared hnone
    exact iff_of_false zero_ne_one hnot
  · rw [fmean_eq_one_iff (mt List.map_eq_nil_iff.mp hnone) (List.forall_mem_map.mpr ?_),
      List.forall_mem_map]
    · constructor
      · refine fun h => ⟨compareRuns_ne_nil_iff.mp hnone, ?_⟩
        intro path baselineDoc candidateDoc hbaseline hcandidate hok
        exact (documentScore_eq_one_iff tables _ _).mp (h _ (mem_compareRuns_iff.mpr
          ⟨path, baselineDoc, candidateDoc, hbaseline, hcandidate, hok, rfl⟩))
      · intro h comparison hmem
        obtain ⟨path, baselineDoc, candidateDoc, hbaseline, hcandidate, hok, rfl⟩ :=
          mem_compareRuns_iff.mp hmem
        exact (documentScore_eq_one_iff tables _ _).mpr
          (h.agrees path baselineDoc candidateDoc hbaseline hcandidate hok)
    · intro comparison hmem
      obtain ⟨_, baselineDoc, candidateDoc, _, _, _, rfl⟩ := mem_compareRuns_iff.mp hmem
      exact (documentScore_mem tables baselineDoc.asFields candidateDoc.asFields).2

variable (tables) in
/-- A candidate passes at tolerance one iff it reproduces the baseline. -/
theorem passesTolerance_one_iff :
    passesTolerance (corpusMeanSimilarity (compareRuns tables baselineOutputs candidateOutputs))
      (.fin 1) = true ↔ Reproduces tables baselineOutputs candidateOutputs := by
  rw [passesTolerance, decide_eq_true_eq, PyFloat.fin_le_fin, ← corpusMeanSimilarity_eq_one_iff]
  exact ⟨fun h => le_antisymm corpusMeanSimilarity_mem.2 h, fun h => h.ge⟩

/-! ### The strict check -/

/-- The loop ends with the first candidate that passes. -/
theorem tryCandidates_eq_some_iff {report : String → List DocOutputs → CandidateReport}
    {candidates : List (String × List DocOutputs)} {winner : String} :
    (tryCandidates report candidates).2 = some winner ↔
      ∃ before outputs after, candidates = before ++ (winner, outputs) :: after ∧
        (report winner outputs).passed = true ∧ ∀ c ∈ before, (report c.1 c.2).passed = false := by
  constructor
  · intro h
    obtain ⟨before, outputs, after, hcandidates, -, hpassed, hbefore⟩ := tryCandidates_some h
    exact ⟨before, outputs, after, hcandidates, hpassed, hbefore⟩
  · rintro ⟨before, outputs, after, rfl, hpassed, hbefore⟩
    induction before with
    | nil => rw [List.nil_append, tryCandidates, if_pos hpassed]
    | cons candidate before ih =>
      obtain ⟨hfailed, hbefore⟩ := List.forall_mem_cons.mp hbefore
      rw [List.cons_append, tryCandidates, if_neg (Bool.eq_false_iff.mp hfailed)]
      exact ih hbefore

section Strict

variable (tables : CaseTables) (baselineModel cpuFallback : String)
  (baselineOutputs : List DocOutputs) (candidates : List (String × List DocOutputs))

/-- The check at tolerance one. -/
def strictCheck : RegressionResult :=
  runRegressionCheck tables baselineModel baselineOutputs candidates cpuFallback (.fin 1)

/-- At tolerance one the winner is the first candidate that reproduces the baseline, and the check
falls back to the CPU iff no candidate does. -/
theorem strictWinner_iff :
    (∀ winner,
      (strictCheck tables baselineModel cpuFallback baselineOutputs candidates).winner =
          some winner ↔
        ∃ before outputs after, candidates = before ++ (winner, outputs) :: after ∧
          Reproduces tables baselineOutputs outputs ∧
            ∀ c ∈ before, ¬ Reproduces tables baselineOutputs c.2) ∧
      ((strictCheck tables baselineModel cpuFallback baselineOutputs candidates).winner = none ↔
        ∀ c ∈ candidates, ¬ Reproduces tables baselineOutputs c.2) := by
  have hreport (outputs : List DocOutputs) : passesTolerance (corpusMeanSimilarity
      (compareRuns tables baselineOutputs outputs)) (.fin 1) = false ↔
        ¬ Reproduces tables baselineOutputs outputs :=
    Bool.eq_false_iff.trans (passesTolerance_one_iff tables).not
  have hsome (winner : String) :
      (strictCheck tables baselineModel cpuFallback baselineOutputs candidates).winner =
          some winner ↔
        ∃ before outputs after, candidates = before ++ (winner, outputs) :: after ∧
          Reproduces tables baselineOutputs outputs ∧
            ∀ c ∈ before, ¬ Reproduces tables baselineOutputs c.2 := by
    simp only [← passesTolerance_one_iff tables, Bool.not_eq_true]
    exact tryCandidates_eq_some_iff
  refine ⟨hsome, fun h c hc => (hreport c.2).mp ((tryCandidates_none h).2 c hc), fun h => ?_⟩
  cases hwinner :
      (strictCheck tables baselineModel cpuFallback baselineOutputs candidates).winner with
  | none => rfl
  | some winner =>
    obtain ⟨before, outputs, after, rfl, hreproduces, -⟩ := (hsome winner).mp hwinner
    have hmem : (winner, outputs) ∈ before ++ (winner, outputs) :: after :=
      List.mem_append_right _ List.mem_cons_self
    exact absurd hreproduces (h _ hmem)

end Strict

end ZubotIngestion
