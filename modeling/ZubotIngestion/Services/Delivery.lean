import ZubotIngestion.Api.Review
import ZubotIngestion.Services.JobService
import ZubotIngestion.Services.TaskRun

/-!
# Deliveries to the stores

An attempt of the extraction task upserts its sidecar to ChromaDB and indexes its companion in
Elasticsearch, both before it writes its result. The upsert is made unless the tier is `REVIEW`; the
indexing is made for every generated companion, whatever the tier. No other request calls a store.

## Main definitions

* `ResultGuarantee`: a result is written behind the pipeline run it is the result of.
* `TaskAnswers.Generated`: the run has generated a companion.

## Main results

* `extractDocumentTask_results`: every attempt keeps `ResultGuarantee`.
* `TaskAnswers.writeMetadata_mem`, `TaskAnswers.indexCompanion_mem`: when an attempt calls a store.
* `submitBatch_pipelineFree`, `decision_pipelineFree`: the other requests do not.
-/

namespace ZubotIngestion

open Effects

/-! ### Results come behind their run -/

namespace TaskAnswers

/-- The calls before the result write. -/
def processedCalls (k : TaskAnswers) (settings : Settings) : List Call :=
  k.prelude ++ k.pipeline.calls (k.input settings) ++ [⟨.elapsedMs, .ok k.processingTimeMs⟩]

/-- Stage 2 has generated a companion. -/
def Generated (k : TaskAnswers) : Prop :=
  ∃ companion, k.pipeline.afterStage2.1 = some companion ∧ companion.companionGenerated = true

theorem processedCalls_isPrefix (k : TaskAnswers) (settings : Settings) :
    k.processedCalls settings <+: k.calls settings := by
  refine ⟨[⟨persistResult k.job.jobId (k.result settings) k.processingTimeMs, .ok k.updated⟩] ++
    k.reviewCalls settings ++ [⟨.sessionCommit, .ok ()⟩], ?_⟩
  simp only [calls, outcomeCalls, processedCalls, List.append_assoc]

end TaskAnswers

/-- The only result an attempt writes is that of its pipeline run, which has ended before. -/
def ResultGuarantee (settings : Settings) (jobId : JobId) (t : List Call) (op : Op) : Prop :=
  op.isResult = true → ∃ k : TaskAnswers, k.job.jobId = jobId ∧ t = k.processedCalls settings ∧
    op = persistResult jobId (k.result settings) k.processingTimeMs

section Results

variable {settings : Settings} {jobId : JobId}

theorem resultGuarantee_of_not {op : Op} (hop : op.isResult = false) (t : List Call) :
    ResultGuarantee settings jobId t op :=
  fun h => absurd (hop.symm.trans h) Bool.false_ne_true

theorem resultGuarantee_of_isPipeline {op : Op} (t : List Call) (hop : op.isPipeline = true) :
    ResultGuarantee settings jobId t op := by
  refine resultGuarantee_of_not ?_ t
  cases op <;> first
    | rfl
    | exact absurd hop Bool.false_ne_true

/-- The attempt may end at any point. -/
def NoPromise {α : Type} (_ : List Call) (_ : Except PyException α) : Prop := True

theorem persistOutcome_results (settings : Settings) (k : TaskAnswers) :
    Program.Safe Sensible (ResultGuarantee settings k.job.jobId) NoPromise
      (persistOutcome k.job.jobId (k.result settings) k.processingTimeMs)
      (k.processedCalls settings) := by
  refine Program.Safe.perform_bind (fun _ => ⟨k, rfl, rfl, rfl⟩) (fun _ _ => trivial) fun _ _ => ?_
  dsimp only
  split_ifs
  · exact Program.Safe.perform_bind (resultGuarantee_of_not rfl _) (fun _ _ => trivial)
      fun _ _ => trivial
  · trivial

theorem extractJob_results (settings : Settings) (job : Job) :
    Program.Safe Sensible (ResultGuarantee settings job.jobId) NoPromise
      (extractJob settings job) [⟨.getJob job.jobId, .ok (some job)⟩] := by
  refine Program.Safe.attempt_bind (resultGuarantee_of_not rfl _) fun batch _ => ?_
  refine Program.Safe.perform_bind (resultGuarantee_of_not rfl _) (fun _ _ => trivial)
    fun pdfBytes _ => ?_
  refine Program.Safe.perform_bind (resultGuarantee_of_not rfl _) (fun _ _ => trivial)
    fun wiring _ => ?_
  refine Program.Safe.perform_bind (resultGuarantee_of_not rfl _) (fun _ _ => trivial) fun _ _ => ?_
  let input : PipelineInput := ⟨wiring, job, pdfBytes, (routingOf batch).deploymentId,
    (routingOf batch).nodeId, (routingOf batch).callbackUrl, settings.apiKey⟩
  refine (Program.safe_bind _ _ _).mpr
    (safe_pipeline (fun t _ => resultGuarantee_of_isPipeline t) input fun a => ?_)
  refine Program.Safe.perform_bind (resultGuarantee_of_not rfl _) (fun _ _ => trivial)
    fun ms _ => ?_
  exact persistOutcome_results settings ⟨job, batch, pdfBytes, wiring, a, ms, none⟩

/-- Every attempt keeps `ResultGuarantee`. -/
theorem extractDocumentTask_results (settings : Settings) (jobId : JobId) (retries : ℕ) :
    Program.Safe Sensible (ResultGuarantee settings jobId) NoPromise
      (extractDocumentTask settings jobId retries) [] := by
  have hbody : Program.Safe Sensible (ResultGuarantee settings jobId) NoPromise
      (perform (.getJob jobId) >>= extractFound settings jobId) [] := by
    refine Program.Safe.perform_bind (resultGuarantee_of_not rfl _) (fun _ _ => trivial)
      fun found hfound => ?_
    cases found with
    | none => trivial
    | some job =>
      obtain rfl : job.jobId = jobId := hfound.foundById
      exact extractJob_results settings job
  have htask : Program.Safe Sensible (ResultGuarantee settings jobId) NoPromise
      (runExtractDocumentTask settings jobId) [] :=
    hbody.bind (fun _ _ _ => Program.Safe.perform_bind (resultGuarantee_of_not rfl _)
      (fun _ _ => trivial) fun _ _ => trivial) fun _ _ _ => trivial
  refine (Program.safe_bind _ _ _).mpr ((Program.safe_attempt _ _).mpr ?_)
  refine htask.mono (fun _ _ h => h) (fun _ _ h => h) fun t r _ => ?_
  cases r with
  | ok reply => trivial
  | error exc =>
    dsimp only
    split_ifs
    · refine (Program.safe_bind _ _ _).mpr ((Program.safe_attempt _ _).mpr ?_)
      exact Program.Safe.perform_bind (resultGuarantee_of_not rfl _) (fun _ _ => trivial)
        fun _ _ => Program.Safe.perform_bind (resultGuarantee_of_not rfl _) (fun _ _ => trivial)
          fun _ _ => trivial
    · trivial

end Results

/-! ### The calls of the stores -/

/-- A write to ChromaDB or Elasticsearch. -/
def Op.isStoreWrite : Op → Bool
  | .writeMetadata .. | .indexCompanion .. => true
  | _ => false

/-- A pipeline run writes to a store in two of its stages. -/
theorem PipelineAnswers.storeWrites_calls (a : PipelineAnswers) (x : PipelineInput) :
    callsOf Op.isStoreWrite (a.calls x) =
      callsOf Op.isStoreWrite (a.metadataCalls x) ++ callsOf Op.isStoreWrite (a.indexCalls x) := by
  have hvalidation := a.callsOf_validationCalls x (p := Op.isStoreWrite) fun _ _ => rfl
  have hstages : callsOf Op.isStoreWrite (a.stageCalls x) = [] := by
    simp only [stageCalls, callsOf_append, hvalidation, List.append_nil]
    rfl
  have hcallback := a.callsOf_callbackCalls x (p := Op.isStoreWrite) (fun _ _ _ => rfl) rfl
  simp only [calls, callsOf_append, hstages, hcallback, List.nil_append, List.append_nil]
  exact List.append_nil _

namespace TaskAnswers

variable (k : TaskAnswers) (settings : Settings)

/-- An attempt writes to a store in these stages only. -/
theorem mem_of_isStoreWrite {c : Call} (hc : c ∈ k.calls settings)
    (hstore : c.1.isStoreWrite = true) :
    c ∈ k.pipeline.metadataCalls (k.input settings) ∨
      c ∈ k.pipeline.indexCalls (k.input settings) := by
  have hp : ∀ op : Op, op.isPipeline = false → op.isStoreWrite = false := by
    intro op hop
    cases op <;> first
      | rfl
      | exact absurd hop Bool.true_eq_false_eq_False
  have hselected : c ∈ callsOf Op.isStoreWrite (k.calls settings) :=
    List.mem_filter.mpr ⟨hc, hstore⟩
  rw [k.callsOf_calls settings hp rfl, k.pipeline.storeWrites_calls] at hselected
  rcases List.mem_append.mp hselected with h | h
  · exact Or.inl (List.mem_filter.mp h).1
  · exact Or.inr (List.mem_filter.mp h).1

variable {k settings}

/-- An attempt whose tier is not `REVIEW` upserts a sidecar, for the pair of its batch. -/
theorem writeMetadata_mem (h : k.tier settings ≠ .review) :
    ⟨.writeMetadata k.job.fileHash (k.result settings).sidecar (routingOf k.batch).deploymentId
      (routingOf k.batch).nodeId, k.pipeline.wrote⟩ ∈ k.processedCalls settings := by
  have hcalls : k.pipeline.metadataCalls (k.input settings) = _ := if_pos h
  refine List.mem_append_left _ (List.mem_append_right _ ?_)
  simp only [PipelineAnswers.calls, hcalls, List.mem_append, List.mem_cons]
  exact Or.inl (Or.inl (Or.inl (Or.inr (Or.inl rfl))))

/-- A generated companion is indexed, if there is an indexer. -/
theorem indexCompanion_mem (k : TaskAnswers) (settings : Settings)
    (hwired : k.wiring.searchIndexer = true) (h : k.Generated) :
    ∃ extraction companion, ⟨.indexCompanion k.job.fileHash extraction companion
      (routingOf k.batch).deploymentId, k.pipeline.indexed⟩ ∈ k.processedCalls settings := by
  obtain ⟨companion, hcompanion, hgenerated⟩ := h
  have hindexed : indexedCompanion? (k.input settings).wiring k.pipeline.afterStage2.1 =
      some companion := by
    rw [hcompanion, indexedCompanion?, Option.filter_some, if_pos]
    rw [hgenerated, Bool.and_true]
    exact hwired
  refine ⟨k.pipeline.assessed (k.input settings), companion,
    List.mem_append_left _ (List.mem_append_right _ ?_)⟩
  simp only [PipelineAnswers.calls, PipelineAnswers.indexCalls, hindexed, List.mem_append,
    List.mem_cons]
  exact Or.inl (Or.inl (Or.inr (Or.inl rfl)))

/-- Only an attempt whose tier is not `REVIEW` upserts, under the hash of its file and for the pair
it has loaded. -/
theorem of_writeMetadata_mem {documentId : String} {sidecar : SidecarDocument}
    {deploymentId nodeId : Option ℤ} {r : Except PyException Bool}
    (h : ⟨.writeMetadata documentId sidecar deploymentId nodeId, r⟩ ∈ k.calls settings) :
    documentId = k.job.fileHash ∧ deploymentId = (routingOf k.batch).deploymentId ∧
      nodeId = (routingOf k.batch).nodeId ∧ k.tier settings ≠ .review := by
  rcases k.mem_of_isStoreWrite settings h rfl with h | h
  · rw [PipelineAnswers.metadataCalls] at h
    split_ifs at h with htier
    · simp only [List.mem_cons, List.not_mem_nil, or_false] at h
      rcases h with h | h
      · cases h
        exact ⟨rfl, rfl, rfl, htier⟩
      · cases h
    · cases h
  · rw [PipelineAnswers.indexCalls] at h
    split at h
    · simp only [List.mem_cons, List.not_mem_nil, or_false] at h
      rcases h with h | h <;> cases h
    · cases h

/-- Only an attempt that has generated a companion indexes one, under the hash of its file. -/
theorem of_indexCompanion_mem {documentId : String} {extraction : ExtractionResult}
    {companion : CompanionResult} {deploymentId : Option ℤ} {r : Except PyException Bool}
    (h : ⟨.indexCompanion documentId extraction companion deploymentId, r⟩ ∈ k.calls settings) :
    documentId = k.job.fileHash ∧ k.Generated := by
  rcases k.mem_of_isStoreWrite settings h rfl with h | h
  · rw [PipelineAnswers.metadataCalls] at h
    split_ifs at h
    · simp only [List.mem_cons, List.not_mem_nil, or_false] at h
      rcases h with h | h <;> cases h
    · cases h
  · rw [PipelineAnswers.indexCalls] at h
    cases hindexed : indexedCompanion? (k.input settings).wiring k.pipeline.afterStage2.1 with
    | none =>
      rw [hindexed] at h
      cases h
    | some generated =>
      obtain ⟨hsome, hflags⟩ := Option.filter_eq_some_iff.mp hindexed
      simp only [hindexed, List.mem_cons, List.not_mem_nil, or_false] at h
      rcases h with h | h
      · cases h
        exact ⟨rfl, _, hsome, (Bool.and_eq_true_iff.mp hflags).2⟩
      · cases h

end TaskAnswers

/-! ### Requests that do not run the pipeline -/

/-- No call of the pipeline is made. -/
def PipelineFree (_ : List Call) (op : Op) : Prop := op.isPipeline = false

section PipelineFree

theorem submitFile_pipelineFree (fileHash : FileHash) (batchId : BatchId) (now : Timestamp)
    (file : UploadedFile) :
    Program.Only (fun op : Op => op.isPipeline = false) (submitFile fileHash batchId now file) := by
  refine Program.Only.perform_bind rfl fun existing => ?_
  cases existing.filter fun job => decide (job.status = .completed) with
  | some job => trivial
  | none =>
    refine Program.Only.perform_bind rfl fun _ => ?_
    exact Program.Only.perform_bind rfl fun _ => trivial

theorem submitFiles_pipelineFree (sha256 : Bytes → FileHash) (batchId : BatchId) (now : Timestamp)
    (files : List UploadedFile) :
    Program.Only (fun op : Op => op.isPipeline = false) (submitFiles sha256 batchId now files) := by
  induction files with
  | nil => trivial
  | cons file files ih =>
    exact (submitFile_pipelineFree _ batchId now file).bind fun _ => ih.bind fun _ => trivial

theorem enqueueAll_pipelineFree (jobs : List Job) :
    Program.Only (fun op : Op => op.isPipeline = false) (enqueueAll jobs) := by
  induction jobs with
  | nil => trivial
  | cons job jobs ih => exact Program.Only.perform_bind rfl fun _ => ih

/-- A submission makes no call of the pipeline. -/
theorem submitBatch_pipelineFree (settings : Settings) (sha256 : Bytes → FileHash)
    (files : List UploadedFile) (params : SubmissionParams) (userId : String) :
    Program.Safe Sensible PipelineFree NoPromise
      (submitBatch settings sha256 files params userId) [] := by
  suffices honly : Program.Only (fun op : Op => op.isPipeline = false)
      (submitBatch settings sha256 files params userId) from honly.safe []
  unfold submitBatch
  split_ifs
  · trivial
  cases files.findSome? (uploadError? settings) with
  | some exc => trivial
  | none =>
    refine Program.Only.perform_bind rfl fun now => ?_
    refine Program.Only.perform_bind rfl fun batchId => ?_
    refine Program.Only.perform_bind rfl fun _ => ?_
    refine (submitFiles_pipelineFree sha256 batchId now files).bind fun submitted => ?_
    refine Program.Only.perform_bind rfl fun _ => ?_
    exact (enqueueAll_pipelineFree submitted.2).bind fun _ => trivial

theorem reviewedJob_pipelineFree (jobId : PathJobId) (parsedId : JobId) :
    Program.Only (fun op : Op => op.isPipeline = false) (reviewedJob jobId parsedId) := by
  refine Program.Only.perform_bind rfl fun found => ?_
  cases found with
  | none => trivial
  | some job =>
    dsimp only
    rw [ensureReviewTier]
    split_ifs <;> trivial

theorem session_pipelineFree (jobId : PathJobId) {body : Prog (Option Job)}
    (hbody : Program.Only (fun op : Op => op.isPipeline = false) body) :
    Program.Only (fun op : Op => op.isPipeline = false) (withSession body >>= respond jobId) := by
  have hscope : Program.Only (fun op : Op => op.isPipeline = false) (withSession body) :=
    hbody.bind fun _ => Program.Only.perform_bind rfl fun _ => trivial
  refine hscope.bind fun updated => ?_
  cases updated <;> trivial

/-- A review request makes no call of the pipeline. -/
theorem decision_pipelineFree (jobId : PathJobId) (d : Decision) :
    Program.Safe Sensible PipelineFree NoPromise (d.run jobId) [] := by
  suffices honly : Program.Only (fun op : Op => op.isPipeline = false) (d.run jobId) from
    honly.safe []
  cases hid : jobId.uuid? with
  | none =>
    cases d <;> simp only [Decision.run, approveReview, rejectReview, parseJobId, hid] <;> trivial
  | some parsedId =>
    have hload : Program.Only (fun op : Op => op.isPipeline = false)
        (perform (.getJob parsedId) : Prog (Option Job)) := (Program.only_perform _).mpr rfl
    cases d with
    | approve body =>
      rw [Decision.run, approveReview, parseJobId, hid]
      refine session_pipelineFree jobId ((reviewedJob_pipelineFree jobId parsedId).bind fun _ => ?_)
      exact Program.Only.perform_bind rfl fun _ => Program.Only.perform_bind rfl fun _ => hload
    | reject body =>
      rw [Decision.run, rejectReview, parseJobId, hid]
      refine session_pipelineFree jobId ((reviewedJob_pipelineFree jobId parsedId).bind fun _ => ?_)
      exact Program.Only.perform_bind rfl fun _ => hload

end PipelineFree

end ZubotIngestion
