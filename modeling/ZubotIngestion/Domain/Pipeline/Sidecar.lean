import ZubotIngestion.Domain.Pipeline.Confidence
import ZubotIngestion.Python.Text

/-!
# The sidecar builder

`SidecarBuilder.build`: three required attributes, up to six optional ones, and a check of the
whole against a JSON schema. The library that checks the schema is a parameter: it accepts the
attributes or gives a message. The confidence of the sidecar is a weighted sum of its own, unless
the extraction carries an overall score.

## Main definitions

* `deriveConfidence`, `buildRequired`, `buildOptionalCandidates`, `mergeWithBudget`.
* `buildSidecar`.

## Main results

* `buildSidecar_eq`: the budget suffices, so only the schema refuses a sidecar.
* `extractionConfidence_buildSidecar`: the confidence that a built sidecar states.
-/

namespace ZubotIngestion

/-- `MAX_SIDECAR_METADATA_KEYS`. -/
def maxSidecarMetadataKeys : ℕ := 10

/-- `UNKNOWN_DOCUMENT_TYPE`. -/
def unknownDocumentType : String := "unknown"

/-- `_WEIGHT_DRAWING_NUMBER`. -/
def sidecarWeightDrawingNumber : PyFloat := .fin (40 / 100)

/-- `_WEIGHT_TITLE`. -/
def sidecarWeightTitle : PyFloat := .fin (30 / 100)

/-- `_WEIGHT_DOCUMENT_TYPE`. -/
def sidecarWeightDocumentType : PyFloat := .fin (30 / 100)

/-- `_derive_confidence`. -/
def deriveConfidence (extraction : ExtractionResult) : PyFloat :=
  match extraction.confidenceScore with
  | some explicit => explicit.clampUnit
  | none =>
    (extraction.drawingNumberConfidence * sidecarWeightDrawingNumber +
      extraction.titleConfidence * sidecarWeightTitle +
      extraction.documentTypeConfidence * sidecarWeightDocumentType).clampUnit

/-- `_build_required`. -/
def buildRequired (job : Job) (extraction : ExtractionResult) (confidenceScore : PyFloat) : Dict :=
  [("source_filename", .str job.filename),
    ("document_type",
      .str ((extraction.documentType.map DocumentType.value).getD unknownDocumentType)),
    ("extraction_confidence", .float confidenceScore)]

/-- The optional attributes in the order of `OPTIONAL_ATTRIBUTE_KEYS`. -/
def optionalAttributes (extraction : ExtractionResult) : List (String × Option String) :=
  [("drawing_number", extraction.drawingNumber), ("title", extraction.title),
    ("discipline", extraction.discipline.map Discipline.value), ("revision", extraction.revision),
    ("building_zone", extraction.buildingZone), ("project", extraction.project)]

/-- `_build_optional_candidates`: the attributes that are not blank, stripped. -/
def buildOptionalCandidates (extraction : ExtractionResult) : List (String × String) :=
  (optionalAttributes extraction).filterMap fun item =>
    (item.2.bind fun raw => orNone (strip raw)).map fun normalized => (item.1, normalized)

/-- What `_merge_with_budget` has merged and dropped. -/
structure Merge where
  merged : Dict
  budget : ℕ
  dropped : List String := []

/-- One turn of the loop of `_merge_with_budget`. -/
def Merge.add (m : Merge) (candidate : String × String) : Merge :=
  if 0 < m.budget then
    { m with
      merged := m.merged.insert candidate.1 (.str candidate.2)
      budget := m.budget - 1 }
  else { m with dropped := m.dropped ++ [candidate.1] }

/-- `_merge_with_budget`. -/
def mergeWithBudget (required : Dict) (optionalCandidates : List (String × String)) : Merge :=
  optionalCandidates.foldl Merge.add ⟨required, maxSidecarMetadataKeys - required.length, []⟩

/-- `SidecarValidationError`, with the names of the dropped fields. -/
def sidecarValidationError (message : String) (droppedFields : List String) : PyException :=
  .error "SidecarValidationError"
    (if droppedFields = [] then message
    else message ++ " (dropped optional fields: " ++ ", ".intercalate droppedFields ++ ")")

/-- The text of the companion, if one was generated. -/
def sidecarCompanionText (companion : Option CompanionResult) : Option String :=
  (companion.filter CompanionResult.companionGenerated).map CompanionResult.companionText

section Build

variable (schemaError? : Dict → Option String)

/-- `SidecarBuilder.build`. `schemaError?` is the message of `jsonschema.validate` where it refuses
the attributes. -/
def buildSidecar (extraction : ExtractionResult) (companion : Option CompanionResult) (job : Job) :
    Except PyException SidecarDocument :=
  let required := buildRequired job extraction (deriveConfidence extraction)
  let optionalCandidates := buildOptionalCandidates extraction
  let m := mergeWithBudget required optionalCandidates
  if m.dropped ≠ [] then
    let limit := maxSidecarMetadataKeys
    let keys := required.length + optionalCandidates.length
    .error (sidecarValidationError
      s!"Sidecar metadata exceeds {limit} key limit ({keys} > {limit})" m.dropped)
  else
    match schemaError? m.merged with
    | some message =>
      .error (sidecarValidationError
        s!"Sidecar metadata failed JSON Schema validation: {message}" [])
    | none =>
      .ok {
        metadataAttributes := m.merged
        companionText := sidecarCompanionText companion
        sourceFilename := job.filename
        fileHash := job.fileHash }

/-! ### The budget -/

/-- As long as the budget lasts, candidates are merged and none is dropped. -/
theorem foldl_add_of_le (candidates : List (String × String)) (m : Merge)
    (h : candidates.length ≤ m.budget) :
    candidates.foldl Merge.add m =
      ⟨candidates.foldl (fun merged item => merged.insert item.1 (.str item.2)) m.merged,
        m.budget - candidates.length, m.dropped⟩ := by
  induction candidates generalizing m with
  | nil => rfl
  | cons candidate candidates ih =>
    rw [List.length_cons] at h
    have hbudget : 0 < m.budget := by omega
    rw [List.foldl_cons, ih _ (by rw [Merge.add, if_pos hbudget]; dsimp only; omega), Merge.add,
      if_pos hbudget, List.foldl_cons, List.length_cons]
    congr 1
    dsimp only
    omega

theorem length_buildOptionalCandidates_le (extraction : ExtractionResult) :
    (buildOptionalCandidates extraction).length ≤ 6 :=
  List.length_filterMap_le _ _

/-- The attributes of the sidecar: the required ones, and the optional candidates. -/
def sidecarAttributes (extraction : ExtractionResult) (job : Job) : Dict :=
  (buildOptionalCandidates extraction).foldl
    (fun merged item => merged.insert item.1 (.str item.2))
    (buildRequired job extraction (deriveConfidence extraction))

/-- The budget suffices: only the schema refuses a sidecar. -/
theorem buildSidecar_eq (extraction : ExtractionResult) (companion : Option CompanionResult)
    (job : Job) : buildSidecar schemaError? extraction companion job =
      match schemaError? (sidecarAttributes extraction job) with
      | some message =>
        .error (sidecarValidationError
          s!"Sidecar metadata failed JSON Schema validation: {message}" [])
      | none =>
        .ok {
          metadataAttributes := sidecarAttributes extraction job
          companionText := sidecarCompanionText companion
          sourceFilename := job.filename
          fileHash := job.fileHash } := by
  have hmerge : mergeWithBudget (buildRequired job extraction (deriveConfidence extraction))
      (buildOptionalCandidates extraction) =
        ⟨sidecarAttributes extraction job, 7 - (buildOptionalCandidates extraction).length, []⟩ :=
    foldl_add_of_le _ _ ((length_buildOptionalCandidates_le extraction).trans (Nat.le_succ 6))
  rw [buildSidecar, hmerge]
  rfl

/-- No optional attribute replaces a required one. -/
theorem get?_extractionConfidence_sidecarAttributes (extraction : ExtractionResult) (job : Job) :
    (sidecarAttributes extraction job).get? "extraction_confidence" =
      some (.float (deriveConfidence extraction)) := by
  have hfold (candidates : List (String × String)) (merged : Dict)
      (hkeys : ∀ item ∈ candidates, item.1 ≠ "extraction_confidence") :
      (candidates.foldl (fun merged item => merged.insert item.1 (.str item.2)) merged).get?
        "extraction_confidence" = merged.get? "extraction_confidence" := by
    induction candidates generalizing merged with
    | nil => rfl
    | cons item candidates ih =>
      rw [List.foldl_cons, ih _ fun item hitem => hkeys item (List.mem_cons_of_mem _ hitem)]
      exact Dict.get?_insert_of_ne (hkeys item List.mem_cons_self) _ _
  refine (hfold _ _ fun item hitem => ?_).trans rfl
  obtain ⟨raw, hraw, hitem⟩ := List.mem_filterMap.mp hitem
  obtain ⟨normalized, -, rfl⟩ := Option.map_eq_some_iff.mp hitem
  have hnames : ∀ raw ∈ optionalAttributes extraction, raw.1 ≠ "extraction_confidence" := by
    simp [optionalAttributes]
  exact hnames raw hraw

/-- The confidence that a built sidecar states. -/
theorem extractionConfidence_buildSidecar {extraction : ExtractionResult}
    {companion : Option CompanionResult} {job : Job} {sidecar : SidecarDocument}
    (h : buildSidecar schemaError? extraction companion job = .ok sidecar) :
    sidecar.metadataAttributes.get? "extraction_confidence" =
      some (.float (deriveConfidence extraction)) := by
  rw [buildSidecar_eq] at h
  cases hschema : schemaError? (sidecarAttributes extraction job) with
  | some message =>
    rw [hschema] at h
    cases h
  | none =>
    rw [hschema] at h
    obtain rfl := Except.ok.inj h
    exact get?_extractionConfidence_sidecarAttributes extraction job

end Build

end ZubotIngestion
