import ZubotIngestion.Domain.Pipeline.Sidecar
import ZubotIngestion.Services.CeleryApp
import ZubotIngestion.Services.Degradation

/-!
# The confidence of the sidecar and of the job

A run of the pipeline with the sidecar builder and the confidence calculator of this repository.
The builder runs first: the extraction has no overall score yet, so it computes the weighted sum
itself, without the penalty of a failed companion validation. The calculator applies the penalty.
So the two differ wherever a run is penalised and written to ChromaDB all the same.

## Main definitions

* `builtAnswer`: the environment of the pipeline with the real builder and calculator.
* `Stage3Succeeds`, `ValidationFails`, `SidecarAgrees`: what is said about a run.

## Main results

* `penalised_differs_iff`: which weighted sums the penalty changes and leaves in a written tier.
* `sidecarAgrees_iff`: when sidecar and job agree.
-/

namespace ZubotIngestion

open Effects

section Built

variable {σ : Type} (schemaError? : Dict → Option String)
  (answer : (op : Op) → σ → Except PyException op.Res × σ)

/-- The environment of a run with the real sidecar builder and the real calculator. `answer`
answers everything else. -/
def builtAnswer : (op : Op) → σ → Except PyException op.Res × σ
  | .build extraction companion job, s =>
    (buildSidecar schemaError? extraction companion job, s)
  | .calculate extraction validation, s => (.ok (calculate extraction validation), s)
  | op, s => answer op s

/-- The builder builds, and the calculator calculates. -/
def Built : (op : Op) → Except PyException op.Res → Prop
  | .build extraction companion job, r => r = buildSidecar schemaError? extraction companion job
  | .calculate extraction validation, r => r = .ok (calculate extraction validation)
  | _, _ => True

theorem builtAnswer_spec (hanswer : ∀ op s, Answered op (answer op s).1) (op : Op) (s : σ) :
    Answered op (builtAnswer schemaError? answer op s).1 ∧
      Built schemaError? op (builtAnswer schemaError? answer op s).1 := by
  cases op with
  | build extraction companion job => exact ⟨fun h => absurd h Bool.false_ne_true, rfl⟩
  | calculate extraction validation => exact ⟨fun _ => ⟨_, rfl⟩, rfl⟩
  | _ => exact ⟨hanswer _ s, trivial⟩

end Built

/-! ### What is said about a run -/

/-- Stage 3 has not raised. -/
def Stage3Succeeds (calls : List Call) : Prop :=
  ∀ (extraction : ExtractionResult) (companion : Option CompanionResult) (job : Job)
    (exc : PyException), ⟨.build extraction companion job, .error exc⟩ ∉ calls

/-- The companion was validated and did not pass. -/
def ValidationFails (calls : List Call) : Prop :=
  ∃ (text : String) (extraction : ExtractionResult) (validation : ValidationResult),
    ⟨.validate text extraction, .ok validation⟩ ∈ calls ∧ validation.passed = false

/-- Every sidecar that is written states the confidence score that the job is persisted with. -/
def SidecarAgrees (calls : List Call) (result : PipelineResult) : Prop :=
  ∀ (documentId : String) (sidecar : SidecarDocument) (deploymentId nodeId : Option ℤ)
    (r : Except PyException Bool),
    ⟨.writeMetadata documentId sidecar deploymentId nodeId, r⟩ ∈ calls →
      sidecar.metadataAttributes.get? "extraction_confidence" =
        (resultPayload result).get? "confidence_score"

/-! ### The penalty -/

/-- The penalty changes the clamped sum, and the run is still written, just if the sum is at least
`0.6` and less than `1.1`. -/
theorem penalised_differs_iff (w : PyFloat) :
    tierOf (w + confidenceValidationPenalty).clampUnit ≠ .review ∧
        w.clampUnit ≠ (w + confidenceValidationPenalty).clampUnit ↔
      ∃ q : ℚ, w = .fin q ∧ 6 / 10 ≤ q ∧ q < 11 / 10 := by
  cases w with
  | nan => simp
  | inf =>
    have hinf : PyFloat.inf + confidenceValidationPenalty = .inf := rfl
    simp [hinf]
  | negInf =>
    have hclamp : (PyFloat.negInf + confidenceValidationPenalty).clampUnit =
        (PyFloat.fin 0).clampUnit := by
      rw [PyFloat.clampUnit_fin, min_eq_left zero_le_one, max_self]
      rfl
    have hreview : tierOf (PyFloat.fin 0).clampUnit = .review := by
      rw [tierOf_clampUnit_fin]
      norm_num
    simp [hclamp, hreview]
  | fin q =>
    have hsum : PyFloat.fin q + confidenceValidationPenalty = .fin (q - 1 / 10) := by
      rw [confidenceValidationPenalty, PyFloat.fin_add_fin]
      congr 1
      linarith
    have htier : tierOf (PyFloat.fin (q - 1 / 10)).clampUnit ≠ .review ↔ 6 / 10 ≤ q := by
      rw [tierOf_clampUnit_fin]
      split_ifs with hauto hspot
      · exact iff_of_true ConfidenceTier.noConfusion (by linarith)
      · exact iff_of_true ConfidenceTier.noConfusion (by linarith)
      · exact iff_of_false (fun h => h rfl) (by linarith)
    have hclamp (hwritten : 6 / 10 ≤ q) :
        (PyFloat.fin q).clampUnit ≠ (PyFloat.fin (q - 1 / 10)).clampUnit ↔ q < 11 / 10 := by
      rw [PyFloat.clampUnit_fin, PyFloat.clampUnit_fin, max_eq_right, max_eq_right, ne_eq,
        PyFloat.fin.injEq]
      · constructor
        · intro hdiffers
          by_contra hless
          rw [min_eq_right, min_eq_right] at hdiffers
          · exact hdiffers rfl
          · linarith
          · linarith
        · intro hless heq
          rw [min_eq_left (show q - 1 / 10 ≤ 1 by linarith)] at heq
          rcases min_choice q 1 with h | h <;> rw [h] at heq <;> linarith
      · exact le_min (by linarith) zero_le_one
      · exact le_min (by linarith) zero_le_one
    rw [hsum, htier]
    constructor
    · rintro ⟨hwritten, hdiffers⟩
      exact ⟨q, rfl, hwritten, (hclamp hwritten).mp hdiffers⟩
    · rintro ⟨q', hq, hwritten, hless⟩
      obtain rfl := PyFloat.fin.inj hq
      exact ⟨hwritten, (hclamp hwritten).mpr hless⟩

/-! ### The answers of a run -/

/-- The calls of the validator. -/
def Op.isValidate : Op → Bool
  | .validate .. => true
  | _ => false

/-- The calls of the metadata writer. -/
def Op.isWrite : Op → Bool
  | .writeMetadata .. => true
  | _ => false

namespace PipelineAnswers

variable {schemaError? : Dict → Option String} {a : PipelineAnswers} {x : PipelineInput}

/-- The extractions are merged without an overall score. -/
theorem confidenceScore_afterStage1 (a : PipelineAnswers) :
    a.afterStage1.1.confidenceScore = none := rfl

/-- The sidecar states the clamped sum without a penalty, or zero if Stage 3 has raised. -/
theorem extractionConfidence_cases (hbuilt : ∀ c ∈ a.calls x, Built schemaError? c.1 c.2) :
    (a.afterStage3 x).1.metadataAttributes.get? "extraction_confidence" =
        some (.float (weightedSum a.afterStage1.1 none).clampUnit) ∨
      (a.afterStage3 x).1.metadataAttributes.get? "extraction_confidence" = some (.float 0) ∧
        ¬ Stage3Succeeds (a.calls x) := by
  have hbuild : a.sidecar = buildSidecar schemaError? a.afterStage1.1 a.afterStage2.1 x.job :=
    hbuilt _ mem_calls_build
  rw [afterStage3]
  cases hsidecar : a.sidecar with
  | error exc => exact Or.inr ⟨rfl, fun hstage3 => hstage3 _ _ _ _ (hsidecar ▸ mem_calls_build)⟩
  | ok sidecar =>
    have hstated := extractionConfidence_buildSidecar schemaError? (hbuild ▸ hsidecar)
    rw [deriveConfidence, confidenceScore_afterStage1] at hstated
    exact Or.inl hstated

/-- The sidecar of a Stage 3 that has not raised states the clamped sum without a penalty. -/
theorem get?_extractionConfidence (hbuilt : ∀ c ∈ a.calls x, Built schemaError? c.1 c.2)
    (hstage3 : Stage3Succeeds (a.calls x)) :
    (a.afterStage3 x).1.metadataAttributes.get? "extraction_confidence" =
      some (.float (weightedSum a.afterStage1.1 none).clampUnit) :=
  (extractionConfidence_cases hbuilt).resolve_right fun h => h.2 hstage3

/-- The calculator sees the outcome of the validation. -/
theorem confidenceAssessment_eq (hbuilt : ∀ c ∈ a.calls x, Built schemaError? c.1 c.2) :
    (a.result x).confidenceAssessment = calculate a.afterStage1.1 (a.afterValidation x).1 :=
  confidenceAssessment_of_ok (hbuilt _ mem_calls_calculate)

/-- The validator is called in the companion validation only. -/
theorem callsOf_isValidate : callsOf Op.isValidate (a.calls x) =
    callsOf Op.isValidate (a.validationCalls x) := by
  have hmetadata := a.callsOf_metadataCalls x (p := Op.isValidate) (fun _ _ _ _ => rfl) rfl
  have hindex := a.callsOf_indexCalls x (p := Op.isValidate) (fun _ _ _ _ => rfl) rfl
  have hcallback := a.callsOf_callbackCalls x (p := Op.isValidate) (fun _ _ _ => rfl) rfl
  simp only [calls, stageCalls, callsOf_append, hmetadata, hindex, hcallback, List.append_nil]
  simp [callsOf, Op.isValidate]

/-- The metadata writer is called behind the confidence calculation only. -/
theorem callsOf_isWrite : callsOf Op.isWrite (a.calls x) =
    callsOf Op.isWrite (a.metadataCalls x) := by
  have hvalidation := a.callsOf_validationCalls x (p := Op.isWrite) fun _ _ => rfl
  have hindex := a.callsOf_indexCalls x (p := Op.isWrite) (fun _ _ _ _ => rfl) rfl
  have hcallback := a.callsOf_callbackCalls x (p := Op.isWrite) (fun _ _ _ => rfl) rfl
  simp only [calls, stageCalls, callsOf_append, hvalidation, hindex, hcallback, List.append_nil]
  simp [callsOf, Op.isWrite]

/-- A selected call of the run is one of the calls that are selected. -/
theorem mem_of_callsOf_eq {p : Op → Bool} {calls : List Call}
    (h : callsOf p (a.calls x) = callsOf p calls) {c : Call} (hc : p c.1 = true) :
    c ∈ a.calls x ↔ c ∈ calls := by
  have hselected : c ∈ callsOf p (a.calls x) ↔ c ∈ callsOf p calls := by rw [h]
  simpa only [callsOf, List.mem_filter, hc, and_true] using hselected

/-- Some sidecar is written just if the tier is not `REVIEW`, and it is the one of Stage 3. -/
theorem forall_writeMetadata {P : SidecarDocument → Prop} :
    (∀ (documentId : String) (sidecar : SidecarDocument) (deploymentId nodeId : Option ℤ)
        (r : Except PyException Bool),
        ⟨.writeMetadata documentId sidecar deploymentId nodeId, r⟩ ∈ a.calls x → P sidecar) ↔
      (a.tier x ≠ .review → P (a.afterStage3 x).1) := by
  have hmem {c : Call} (hc : c.1.isWrite = true) : c ∈ a.calls x ↔ c ∈ a.metadataCalls x :=
    mem_of_callsOf_eq callsOf_isWrite hc
  constructor
  · intro h htier
    refine h x.job.fileHash _ x.deploymentId x.nodeId a.wrote ((hmem rfl).mpr ?_)
    rw [metadataCalls, if_pos htier]
    exact List.mem_cons_self
  · intro h documentId sidecar deploymentId nodeId r hcall
    have hcall := (hmem rfl).mp hcall
    rw [metadataCalls] at hcall
    split_ifs at hcall with htier
    · rcases List.mem_cons.mp hcall with hcall | hcall
      · cases hcall
        exact h htier
      · cases List.mem_singleton.mp hcall
    · cases hcall

/-- The validation fails just if the calculator sees it fail. -/
theorem validationFails_iff :
    ValidationFails (a.calls x) ↔ validationFailed (a.afterValidation x).1 = true := by
  have hmem {c : Call} (hc : c.1.isValidate = true) : c ∈ a.calls x ↔ c ∈ a.validationCalls x :=
    mem_of_callsOf_eq callsOf_isValidate hc
  rw [afterValidation]
  cases htext : validatedText? x.wiring a.afterStage2.1 with
  | none =>
    refine iff_of_false ?_ Bool.false_ne_true
    rintro ⟨text, extraction, validation, hcall, -⟩
    have hcall := (hmem rfl).mp hcall
    rw [validationCalls, htext] at hcall
    cases hcall
  | some text =>
    constructor
    · rintro ⟨text', extraction, validation, hcall, hfailed⟩
      have hcall := (hmem rfl).mp hcall
      rw [validationCalls, htext] at hcall
      obtain ⟨hop, hvalidation⟩ := Sigma.mk.inj (List.mem_singleton.mp hcall)
      cases hop
      rw [← eq_of_heq hvalidation]
      exact Bool.not_eq_true' _ ▸ hfailed
    · intro hfailed
      cases hvalidation : a.validation with
      | error exc =>
        rw [hvalidation] at hfailed
        cases hfailed
      | ok validation =>
        rw [hvalidation] at hfailed
        refine ⟨text, a.afterStage1.1, validation, (hmem rfl).mpr ?_, ?_⟩
        · rw [validationCalls, htext, hvalidation]
          exact List.mem_singleton_self _
        · exact Bool.not_eq_true' _ ▸ hfailed

/-- The penalty of a failed validation is added to the sum without it. -/
theorem weightedSum_afterValidation (a : PipelineAnswers) (x : PipelineInput) :
    weightedSum a.afterStage1.1 (a.afterValidation x).1 =
      if validationFailed (a.afterValidation x).1 then
        weightedSum a.afterStage1.1 none + confidenceValidationPenalty
      else weightedSum a.afterStage1.1 none := rfl

/-- Sidecar and job agree unless the run is penalised in between and written all the same. -/
theorem sidecarAgrees_calls_iff (hbuilt : ∀ c ∈ a.calls x, Built schemaError? c.1 c.2)
    (hstage3 : Stage3Succeeds (a.calls x)) :
    SidecarAgrees (a.calls x) (a.result x) ↔
      ¬ (ValidationFails (a.calls x) ∧ ∃ q : ℚ,
        weightedSum (a.result x).extractionResult none = .fin q ∧ 6 / 10 ≤ q ∧ q < 11 / 10) := by
  have hsum : weightedSum (a.result x).extractionResult none = weightedSum a.afterStage1.1 none :=
    rfl
  have hscore : (resultPayload (a.result x)).get? "confidence_score" =
      some (.float (weightedSum a.afterStage1.1 (a.afterValidation x).1).clampUnit) := by
    rw [resultPayload, confidenceAssessment_eq hbuilt]
    simp [Dict.get?_cons, calculate]
  have htier : a.tier x =
      tierOf (weightedSum a.afterStage1.1 (a.afterValidation x).1).clampUnit := by
    have htier : a.tier x = (a.result x).confidenceAssessment.tier := rfl
    rw [htier, confidenceAssessment_eq hbuilt]
    rfl
  rw [SidecarAgrees, forall_writeMetadata, get?_extractionConfidence hbuilt hstage3, hscore, htier,
    validationFails_iff, hsum, ← penalised_differs_iff, weightedSum_afterValidation]
  cases validationFailed (a.afterValidation x).1 with
  | false => simp
  | true => simp

end PipelineAnswers

/-- The sidecar that is written states the score of the job unless the companion was validated and
did not pass, and the weighted sum of the field confidences is at least `0.6` and less than `1.1`:
the builder does not see the penalty, and with it the tier is still one that is written. The sum is
the one that the code computes, whose arithmetic is exact here. -/
theorem sidecarAgrees_iff {σ : Type} (schemaError? : Dict → Option String)
    {answer : (op : Op) → σ → Except PyException op.Res × σ}
    (hanswer : ∀ op s, Answered op (answer op s).1) (x : PipelineInput) (s : σ) :
    ∃ result,
      (Program.run (S := services) (builtAnswer schemaError? answer) x.run s).1 = .ok result ∧
      (Stage3Succeeds
          (Program.trace (S := services) (builtAnswer schemaError? answer) x.run s) →
        (SidecarAgrees
            (Program.trace (S := services) (builtAnswer schemaError? answer) x.run s) result ↔
          ¬ (ValidationFails
              (Program.trace (S := services) (builtAnswer schemaError? answer) x.run s) ∧
            ∃ q : ℚ, weightedSum result.extractionResult none = .fin q ∧
              6 / 10 ≤ q ∧ q < 11 / 10))) := by
  obtain ⟨a, htrace, hresult, hbuilt⟩ :=
    runPipeline_answers (builtAnswer_spec schemaError? answer hanswer) x s
  rw [htrace]
  exact ⟨a.result x, hresult, a.sidecarAgrees_calls_iff hbuilt⟩

/-! ### A penalised run -/

/-- All fields are found with confidence `0.9`, and the validator rejects the companion. -/
def penalisedEnv : Env :=
  { Env.calm 0 .auto with
    extraction := fun _ =>
      { drawingNumber := some "A-101"
        drawingNumberConfidence := .fin (9 / 10)
        title := some "GROUND FLOOR PLAN"
        titleConfidence := .fin (9 / 10)
        documentType := some .floorPlan
        documentTypeConfidence := .fin (9 / 10) }
    companion := ⟨"A plan.", 1, true, false, none⟩
    validation := ⟨false, ["companion_too_short"], 1⟩ }

/-- A run with a companion validator. -/
def validatedInput : PipelineInput := { plainInput with wiring := ⟨true, false, false⟩ }

/-- The environment of that run, with a schema that accepts every sidecar. -/
abbrev penalisedAnswer : (op : Op) → World → Except PyException op.Res × World :=
  builtAnswer (fun _ => none) (answer penalisedEnv)

theorem sidecarAgrees_iff_penalised : ∃ result,
    (Program.run (S := services) penalisedAnswer validatedInput.run World.empty).1 = .ok result ∧
    (Stage3Succeeds
        (Program.trace (S := services) penalisedAnswer validatedInput.run World.empty) →
      (SidecarAgrees
          (Program.trace (S := services) penalisedAnswer validatedInput.run World.empty) result ↔
        ¬ (ValidationFails
            (Program.trace (S := services) penalisedAnswer validatedInput.run World.empty) ∧
          ∃ q : ℚ, weightedSum result.extractionResult none = .fin q ∧
            6 / 10 ≤ q ∧ q < 11 / 10))) :=
  sidecarAgrees_iff (fun _ => none) (answered_answer penalisedEnv) validatedInput World.empty

/-- The sidecar of that run is written with `0.9`, and the job is persisted with `0.8`. -/
theorem not_sidecarAgrees_penalised : ¬ ∀ result,
    (Program.run (S := services) penalisedAnswer validatedInput.run World.empty).1 = .ok result →
    Stage3Succeeds
      (Program.trace (S := services) penalisedAnswer validatedInput.run World.empty) →
    SidecarAgrees
      (Program.trace (S := services) penalisedAnswer validatedInput.run World.empty) result := by
  have hfails : ValidationFails
      (Program.trace (S := services) penalisedAnswer validatedInput.run World.empty) :=
    ⟨_, _, _, List.mem_of_getElem? (i := 9) rfl, rfl⟩
  have hsum : ((Program.run (S := services) penalisedAnswer validatedInput.run
      World.empty).1.toOption.map fun result => weightedSum result.extractionResult none) =
        some (.fin (9 / 10)) := by
    decide +kernel
  obtain ⟨a, htrace, hresult, hbuilt⟩ := runPipeline_answers
    (builtAnswer_spec (fun _ => none) (answer penalisedEnv) (answered_answer penalisedEnv))
    validatedInput World.empty
  rw [hresult] at hsum
  rw [htrace] at hfails ⊢
  have hstage3 : Stage3Succeeds (a.calls validatedInput) := by
    intro extraction companion job exc hcall
    have hbuild : .error exc = buildSidecar (fun _ => none) extraction companion job :=
      hbuilt _ hcall
    rw [buildSidecar_eq] at hbuild
    cases hbuild
  intro hagrees
  exact (a.sidecarAgrees_calls_iff hbuilt hstage3).mp (hagrees _ hresult hstage3)
    ⟨hfails, 9 / 10, Option.some.inj hsum, by norm_num, by norm_num⟩

end ZubotIngestion
