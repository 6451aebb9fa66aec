import ZubotIngestion.Infrastructure.Database
import ZubotIngestion.Python.Integers

/-!
# Entities and rows

The conversions of `infrastructure/database/repository.py` between entities and the objects of the
ORM, before these are stored: identifiers of deployments and nodes and the members of enumerations
are kept as strings, an empty path and a confidence that is NaN as `None`. The columns that no
conversion sets or reads are left out.

## Main definitions

* `limitedStrOrNone`, `intOrNone`, `Printable`: the identifiers.
* `BatchORM`, `JobORM`: the objects of the ORM.
* `batchToObject`, `objectToBatch`, `jobToObject`, `objectToJob`.

## Main results

* `objectToBatch_batchToObject`, `objectToJob_jobToObject`: the round trips.
* `stored_jobToObject`: the row that is stored of the object of a job.
-/

namespace ZubotIngestion

/-! ### Enumerations -/

/-- `ValueError` of a string that is no member of an enumeration. -/
def notAMember (text className : String) : PyException :=
  .error "ValueError" s!"'{text}' is not a valid {className}"

/-- The member of an enumeration with the given string. -/
def memberOf {α : Type} (members : List α) (value : α → String) (className text : String) :
    Except PyException α :=
  match members.find? fun member => decide (value member = text) with
  | some member => .ok member
  | none => .error (notAMember text className)

/-- `JobStatus(text)`. -/
def jobStatusOf : String → Except PyException JobStatus :=
  memberOf [.queued, .processing, .inProgress, .completed, .failed, .review, .rejected, .cached]
    JobStatus.value "JobStatus"

/-- `ExtractionMode(text)`. -/
def extractionModeOf : String → Except PyException ExtractionMode :=
  memberOf [.auto, .drawing, .title, .fast, .accurate] ExtractionMode.value "ExtractionMode"

/-- `ConfidenceTier(text)`. -/
def confidenceTierOf : String → Except PyException ConfidenceTier :=
  memberOf [.auto, .spot, .review] ConfidenceTier.value "ConfidenceTier"

@[simp] theorem jobStatusOf_value (status : JobStatus) :
    jobStatusOf status.value = .ok status := by
  cases status <;> rfl

@[simp] theorem extractionModeOf_value (mode : ExtractionMode) :
    extractionModeOf mode.value = .ok mode := by
  cases mode <;> rfl

/-! ### Identifiers -/

/-- `_str_or_none`, with the limit of `str`. -/
def limitedStrOrNone : Option ℤ → Except PyException (Option String)
  | none => .ok none
  | some value => (strOfInt value).map some

/-- `_int_or_none`: a text that is no integer counts as no identifier. -/
def intOrNone (otherDigit? : Char → Option ℕ) : Option String → Option ℤ
  | none => none
  | some value => (intOfStr otherDigit? value).toOption

/-- `str` prints the identifier, if there is one. -/
def Printable (value : Option ℤ) : Prop :=
  ∀ i, value = some i → Text.digitCount 10 i.natAbs ≤ maxStrDigits

/-- An identifier that is printed is read back. -/
theorem exists_limitedStrOrNone {value : Option ℤ} (h : Printable value)
    (otherDigit? : Char → Option ℕ) :
    ∃ text, limitedStrOrNone value = .ok text ∧ intOrNone otherDigit? text = value := by
  cases value with
  | none => exact ⟨none, rfl, rfl⟩
  | some i =>
    have hprint : strOfInt i = .ok (toString i) := if_pos (h i rfl)
    refine ⟨some (toString i), ?_, ?_⟩
    · rw [limitedStrOrNone, hprint]
      rfl
    · rw [intOrNone, intOfStr_toString (h i rfl)]
      rfl

/-! ### Batches -/

/-- `BatchORM`. -/
structure BatchORM where
  id : BatchId
  deploymentId : Option String
  nodeId : Option String
  callbackUrl : Option String
  mode : String
  createdBy : String
  totalJobs : ℤ
  status : String
  createdAt : Timestamp
  updatedAt : Timestamp

/-- `_batch_to_orm`. -/
def batchToObject (batch : Batch) : Except PyException BatchORM := do
  let deploymentId ← limitedStrOrNone batch.deploymentId
  let nodeId ← limitedStrOrNone batch.nodeId
  return {
    id := batch.batchId
    deploymentId := deploymentId
    nodeId := nodeId
    callbackUrl := batch.callbackUrl
    mode := batch.mode.value
    createdBy := batch.createdBy
    totalJobs := batch.totalJobs
    status := batch.status.value
    createdAt := batch.createdAt
    updatedAt := batch.updatedAt }

/-- `_to_batch`. -/
def objectToBatch (otherDigit? : Char → Option ℕ) (row : BatchORM) : Except PyException Batch := do
  let status ← jobStatusOf row.status
  let mode ← extractionModeOf row.mode
  return {
    batchId := row.id
    status := status
    totalJobs := row.totalJobs
    callbackUrl := row.callbackUrl
    deploymentId := intOrNone otherDigit? row.deploymentId
    nodeId := intOrNone otherDigit? row.nodeId
    createdBy := row.createdBy
    createdAt := row.createdAt
    updatedAt := row.updatedAt
    mode := mode }

/-- A batch whose identifiers are printed comes back as it was. -/
theorem objectToBatch_batchToObject (otherDigit? : Char → Option ℕ) {batch : Batch}
    (hdeployment : Printable batch.deploymentId) (hnode : Printable batch.nodeId) :
    batchToObject batch >>= objectToBatch otherDigit? = .ok batch := by
  obtain ⟨deploymentId, hdeploymentId, hdeploymentBack⟩ :=
    exists_limitedStrOrNone hdeployment otherDigit?
  obtain ⟨nodeId, hnodeId, hnodeBack⟩ := exists_limitedStrOrNone hnode otherDigit?
  rw [batchToObject, hdeploymentId, hnodeId]
  change objectToBatch otherDigit? _ = _
  rw [objectToBatch]
  simp only [jobStatusOf_value, extractionModeOf_value, hdeploymentBack, hnodeBack]
  rfl

/-! ### Jobs -/

/-- `JobORM`. -/
structure JobORM where
  id : JobId
  batchId : BatchId
  filename : String
  fileHash : FileHash
  filePath : Option String
  status : String
  result : Option Dict
  confidenceTier : Option String
  confidenceScore : Option PyFloat
  processingTimeMs : Option ℤ
  otelTraceId : Option String
  errorMessage : Option String
  pipelineTrace : Option Dict
  createdAt : Timestamp
  updatedAt : Timestamp

/-- `_job_to_orm`. -/
def jobToObject (job : Job) : JobORM where
  id := job.jobId
  batchId := job.batchId
  filename := job.filename
  fileHash := job.fileHash
  filePath := orNone job.filePath
  status := job.status.value
  result := job.result
  confidenceTier := job.confidenceTier.map ConfidenceTier.value
  confidenceScore :=
    match job.overallConfidence with
    | some .nan => none
    | score => score
  processingTimeMs := job.processingTimeMs
  otelTraceId := job.otelTraceId
  errorMessage := job.errorMessage
  pipelineTrace := job.pipelineTrace
  createdAt := job.createdAt
  updatedAt := job.updatedAt

/-- The tier of an object: an empty string counts as none. -/
def tierOrNone : Option String → Except PyException (Option ConfidenceTier)
  | none => .ok none
  | some text => if text = "" then .ok none else (confidenceTierOf text).map some

/-- `_to_job`. -/
def objectToJob (row : JobORM) : Except PyException Job := do
  let status ← jobStatusOf row.status
  let confidenceTier ← tierOrNone row.confidenceTier
  return {
    jobId := row.id
    batchId := row.batchId
    filename := row.filename
    fileHash := row.fileHash
    filePath := row.filePath.getD ""
    status := status
    result := row.result
    errorMessage := row.errorMessage
    pipelineTrace := row.pipelineTrace
    otelTraceId := row.otelTraceId
    processingTimeMs := row.processingTimeMs
    createdAt := row.createdAt
    updatedAt := row.updatedAt
    confidenceTier := confidenceTier
    overallConfidence := row.confidenceScore }

/-- A confidence, unless it is NaN. -/
def withoutNan : Option PyFloat → Option PyFloat
  | some .nan => none
  | score => score

theorem tierOrNone_value (tier : Option ConfidenceTier) :
    tierOrNone (tier.map ConfidenceTier.value) = .ok tier := by
  rcases tier with _ | tier
  · rfl
  · cases tier <;> rfl

theorem getD_orNone (text : String) : (orNone text).getD "" = text := by
  rw [orNone]
  split_ifs with h
  · exact h.symm
  · rfl

/-- A job comes back as it was, without a confidence that is NaN. -/
theorem objectToJob_jobToObject (job : Job) : objectToJob (jobToObject job) =
    .ok { job with overallConfidence := withoutNan job.overallConfidence } := by
  rw [objectToJob, jobToObject]
  simp only [jobStatusOf_value, tierOrNone_value, getD_orNone]
  rfl

/-- The row that is stored of an object: the members of its enumerations, and three decimals of its
score. -/
def JobORM.stored (row : JobORM) : Except PyException JobRow := do
  let status ← jobStatusOf row.status
  let confidenceTier ← tierOrNone row.confidenceTier
  return {
    id := row.id
    batchId := row.batchId
    filename := row.filename
    fileHash := row.fileHash
    filePath := row.filePath
    status := status
    result := row.result
    confidenceTier := confidenceTier
    confidenceScore := row.confidenceScore.map numeric43
    processingTimeMs := row.processingTimeMs
    otelTraceId := row.otelTraceId
    errorMessage := row.errorMessage
    pipelineTrace := row.pipelineTrace
    createdAt := row.createdAt
    updatedAt := row.updatedAt }

/-- The row of a job is what is stored of its object. -/
theorem stored_jobToObject (job : Job) : (jobToObject job).stored = .ok (jobToOrm job) := by
  rw [JobORM.stored, jobToObject, jobToOrm]
  simp only [jobStatusOf_value, tierOrNone_value]
  rcases job.overallConfidence with _ | (_ | _ | _ | _) <;> rfl

/-! ### Both round trips -/

/-- A batch whose identifiers have at most 4300 digits comes back as it was, and so does every job,
without a confidence that is NaN. -/
theorem objects_round_trip (otherDigit? : Char → Option ℕ) {batch : Batch}
    (hdeployment : Printable batch.deploymentId) (hnode : Printable batch.nodeId) (job : Job) :
    batchToObject batch >>= objectToBatch otherDigit? = .ok batch ∧
      objectToJob (jobToObject job) =
        .ok { job with overallConfidence := withoutNan job.overallConfidence } :=
  ⟨objectToBatch_batchToObject otherDigit? hdeployment hnode, objectToJob_jobToObject job⟩

/-- A batch of no jobs for a deployment. -/
def emptyBatch (deploymentId : ℤ) : Batch where
  batchId := 0
  status := .queued
  totalJobs := 0
  callbackUrl := none
  deploymentId := some deploymentId
  nodeId := some 0
  createdBy := "reviewer"
  createdAt := 0
  updatedAt := 0
  mode := .auto

theorem objects_round_trip_negative :
    batchToObject (emptyBatch (-7)) >>= objectToBatch (fun _ => none) = .ok (emptyBatch (-7)) ∧
      objectToJob (jobToObject { planJob with overallConfidence := some .nan }) = .ok planJob := by
  refine @objects_round_trip (fun _ => none) (emptyBatch (-7)) ?_ ?_
    { planJob with overallConfidence := some .nan }
  · rintro i h
    obtain rfl := Option.some.inj h
    decide
  · rintro i h
    obtain rfl := Option.some.inj h
    decide

/-- The power of ten with `d` zeros has more than `d` digits. -/
theorem not_digitCount_pow_le {d : ℕ} (hd : 0 < d) :
    ¬ Text.digitCount 10 ((10 : ℤ) ^ d).natAbs ≤ d := by
  rw [Text.digitCount_le_iff (by decide) hd, Int.natAbs_pow]
  exact lt_irrefl _

/-- The power of ten with as many zeros as digits are printed is not printed. -/
theorem strOfInt_pow_maxStrDigits : ∃ exc, strOfInt (10 ^ maxStrDigits) = .error exc := by
  rw [strOfInt, if_neg (not_digitCount_pow_le (by decide))]
  exact ⟨_, rfl⟩

/-- A batch whose deployment is not printed has no object. -/
theorem batchToObject_emptyBatch {deploymentId : ℤ} {exc : PyException}
    (h : strOfInt deploymentId = .error exc) :
    batchToObject (emptyBatch deploymentId) = .error exc := by
  have hprint : limitedStrOrNone (emptyBatch deploymentId).deploymentId = .error exc := by
    rw [emptyBatch, limitedStrOrNone, h]
    rfl
  rw [batchToObject, hprint]
  rfl

/-- A batch for the deployment `10 ** 4300` does not come back. -/
theorem not_forall_round_trip :
    ¬ ∀ (batch : Batch) (job : Job),
      batchToObject batch >>= objectToBatch (fun _ => none) = .ok batch ∧
        objectToJob (jobToObject job) =
          .ok { job with overallConfidence := withoutNan job.overallConfidence } := by
  intro h
  obtain ⟨exc, hexc⟩ := strOfInt_pow_maxStrDigits
  generalize (10 : ℤ) ^ maxStrDigits = deploymentId at hexc
  have hbatch := (h (emptyBatch deploymentId) planJob).1
  rw [batchToObject_emptyBatch hexc] at hbatch
  cases hbatch

end ZubotIngestion
