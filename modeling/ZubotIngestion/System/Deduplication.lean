import ZubotIngestion.System.Stores

/-!
# Deduplication and the collections

A submission answers a file from any completed job with the same hash, whatever the batch of that
job. Nothing is published then: a document is upserted by an attempt of the extraction task, into
the collection of the batch of its own job. So a file that was answered from the cache has its
document where the answering job has put it, which need not be the collection of the batch it was
submitted with.

## Main definitions

* `CollectionsComplete`: the collection of a batch has a document for each of its files.
* `Placed`: where the document of a submitted file is.

## Main results

* `placed_of_submitted`: the document of a file is in the collection of the job that answers it.
-/

namespace ZubotIngestion

open Effects Store

/-- The outcome of the job may be published. -/
def Publishable (row : JobRow) : Prop :=
  row.confidenceTier = some .auto ∨ row.confidenceTier = some .spot ∨ isApproved row.result = true

/-- The tasks of a submission have finished with outcomes that may be published. -/
def TasksPublishable (w : World) (result : BatchSubmissionResult) : Prop :=
  ∀ summary ∈ result.jobs, summary.status ≠ .cached →
    ∃ row : JobRow, w.jobs.find? summary.jobId = some row ∧ Publishable row

/-- Once its tasks have finished so, the collection of a batch has a document for each of its
files. -/
def CollectionsComplete (sha256 : Bytes → FileHash) (P : System) : Prop :=
  ∀ th ∈ P.threads, ∀ files params userId result, th.request = .submit files params userId →
    th.outcome? = some (.ok (.submitted result)) → TasksPublishable P.state result →
    ∀ file ∈ files, P.state.HasDocument (collectionOf params.deploymentId params.nodeId)
      (sha256 file.content)

/-- The job of a summary, its batch, and the document of its file. -/
structure Placed (P : System) (params : SubmissionParams) (summary : JobSummary) (row : JobRow)
    (batch : Batch) : Prop where
  found : P.state.jobs.find? summary.jobId = some row
  fileHash : row.fileHash = summary.fileHash
  filed : (P.state.batches.find? fun b => decide (b.batchId = row.batchId)) = some batch
  /-- A job that was not taken from the cache belongs to the batch that was submitted. -/
  own : summary.status ≠ .cached →
    batch.deploymentId = params.deploymentId ∧ batch.nodeId = params.nodeId
  /-- The document is in the collection of the batch, or in the default one if an attempt could not
  load the batch. -/
  document : row.confidenceTier = some .auto ∨ row.confidenceTier = some .spot →
    P.state.HasDocument (collectionOf batch.deploymentId batch.nodeId) summary.fileHash ∨
      BatchUnknown P row ∧ P.state.HasDocument (collectionOf none none) summary.fileHash

/-! ### Summaries and their lookups -/

/-- The summaries have the hashes of the files, in order. -/
theorem fileHash_summaries (sha256 : Bytes → FileHash) (k : SubmissionAnswers) :
    (k.result sha256).jobs.map JobSummary.fileHash =
      k.uploads.map fun file => sha256 file.content := by
  simp only [SubmissionAnswers.result, SubmissionAnswers.summaries, SubmissionAnswers.uploads,
    List.map_map]
  refine List.map_congr_left fun a _ => ?_
  rcases a.cases with ⟨existing, hcached, -, -⟩ | ⟨hnew, -⟩
  · exact congrArg JobSummary.fileHash (summary_of_cached hcached)
  · exact congrArg JobSummary.fileHash (summary_of_new hnew)

/-- Every file was looked up. -/
theorem lookup_mem_calls (sha256 : Bytes → FileHash) (params : SubmissionParams) (userId : String)
    {k : SubmissionAnswers} {a : FileAnswers} (ha : a ∈ k.files) :
    ⟨.getJobByFileHash (sha256 a.file.content), .ok a.existing⟩ ∈
      k.calls sha256 params userId := by
  have hcall : (⟨.getJobByFileHash (sha256 a.file.content), .ok a.existing⟩ : Call) ∈
      k.fileCalls sha256 := List.mem_flatMap.mpr ⟨a, ha, List.mem_cons_self⟩
  rw [k.calls_split]
  exact List.mem_append_left _ (List.mem_append_right _ hcall)

section Runs

variable {settings : Settings} {sha256 : Bytes → FileHash} {moves : List SystemMove}

/-- A row with its batch, for a job whose columns are known. -/
theorem placed_of_identity (hwrites : StoreWritesSucceed (reached settings sha256 moves))
    {params : SubmissionParams} {summary : JobSummary}
    {identity : JobId × BatchId × String × FileHash}
    (hidentity : identity ∈ identities (reached settings sha256 moves).state)
    (hid : identity.1 = summary.jobId) (hhash : identity.2.2.2 = summary.fileHash)
    (hown : summary.status ≠ .cached → ∀ batch, ((reached settings sha256 moves).state.batches.find?
        fun b => decide (b.batchId = identity.2.1)) = some batch →
      batch.deploymentId = params.deploymentId ∧ batch.nodeId = params.nodeId) :
    ∃ row batch, Placed (reached settings sha256 moves) params summary row batch := by
  obtain ⟨row, hrow, rfl⟩ := List.mem_map.mp hidentity
  obtain ⟨b, hb, hbid⟩ := filed_reached moves _ hidentity
  have hsome : ((reached settings sha256 moves).state.batches.find? fun b =>
      decide (b.batchId = row.batchId)).isSome :=
    List.find?_isSome.mpr ⟨b, hb, decide_eq_true hbid⟩
  obtain ⟨batch, hbatch⟩ := Option.isSome_iff_exists.mp hsome
  have hfound := ((reached settings sha256 moves).state.jobs.table.mem_rows_iff row).mp hrow
  refine ⟨row, batch, hid ▸ hfound, hhash, hbatch, fun h => hown h batch hbatch, fun htier => ?_⟩
  rw [← hhash]
  refine (document_of_tier hwrites hrow htier).imp_left ?_
  rintro ⟨batch', hbatch', hdocument⟩
  obtain rfl := Option.some.inj (hbatch.symm.trans hbatch')
  exact hdocument

/-- Every summary of a submission has a job with a batch, and if the tier of the job is `AUTO` or
`SPOT`, the file has its document in the collection of that batch. -/
theorem placed_of_submitted (settings : Settings) (sha256 : Bytes → FileHash)
    (moves : List SystemMove) (hwrites : StoreWritesSucceed (reached settings sha256 moves))
    (th : Serving) (hth : th ∈ (reached settings sha256 moves).threads) (files : List UploadedFile)
    (params : SubmissionParams) (userId : String)
    (hrequest : th.request = .submit files params userId)
    (result : BatchSubmissionResult) (hresult : th.outcome? = some (.ok (.submitted result))) :
    (result.jobs.map JobSummary.fileHash = files.map fun file => sha256 file.content) ∧
      ∀ summary ∈ result.jobs, ∃ row batch,
        Placed (reached settings sha256 moves) params summary row batch := by
  obtain ⟨params', userId', k, hk, -, ht, rfl⟩ := script_of_submitted hth hresult
  obtain ⟨rfl, rfl, rfl⟩ := Request.submit.inj (hrequest.symm.trans hk)
  refine ⟨fileHash_summaries sha256 k, fun summary hsummary => ?_⟩
  obtain ⟨a, ha, rfl⟩ := List.mem_map.mp hsummary
  rcases a.cases with ⟨existing, hcached, hexisting, -⟩ | ⟨hnew, -⟩
  · -- the job that the deduplication query has returned
    have hlookup := lookup_mem_calls sha256 params userId ha
    rw [hexisting, ← ht] at hlookup
    obtain ⟨hidentity, hhash⟩ := (grounded_reached.2 th hth).byHash _ _ hlookup
    rw [summary_of_cached hcached]
    exact placed_of_identity hwrites hidentity rfl hhash fun h => absurd rfl h
  · -- a new job of the batch
    have hcreated : k.createCall sha256 params userId ∈ th.trace := ht ▸ k.createCall_mem _ _ _
    have hpersisted := persisted_reached settings sha256 moves hth _ _ _ hcreated
    have hjob : newJob (a.path k.batchId) a.file (sha256 a.file.content) k.now ∈
        k.jobs sha256 := mem_jobs_of_new ha hnew
    have hnewRow := List.mem_map_of_mem (f := fun job =>
      (newRow (k.batch sha256 params userId) job).identity) hjob
    rw [← hpersisted.rows] at hnewRow
    rw [summary_of_new hnew]
    refine placed_of_identity hwrites (List.mem_filter.mp hnewRow).1 rfl rfl
      fun _ batch hbatch => ?_
    obtain rfl := Option.some.inj (hpersisted.found.symm.trans hbatch)
    exact ⟨rfl, rfl⟩

end Runs

/-! ### A file that two deployments submit -/

/-- A PDF for node `7` of the deployment. -/
def planUploadTo (deploymentId : ℤ) : Request :=
  .submit [⟨"plan.pdf", pdfMagic⟩] ⟨.auto, none, some deploymentId, some 7⟩ "reviewer"

/-- Deployment `1` submits the PDF, job `2` is extracted, and deployment `2` submits it again. -/
def twoDeploymentsPlan : List SystemMove :=
  .start (planUploadTo 1) :: (calls 0 2 (.accepting 1 .auto) ++ calls 0 6 (.accepting 2 .auto)) ++
    .start (.extract 2 0) :: calls 1 30 (.accepting 0 .auto) ++
    .start (planUploadTo 2) :: calls 2 10 (.accepting 3 .auto)

theorem storeWritesSucceed_twoDeploymentsPlan :
    StoreWritesSucceed (reached plainSettings oneDigest twoDeploymentsPlan) := by
  refine (writesSucceed_of_accepting fun i env h => ?_).stores
  simp only [twoDeploymentsPlan, calls, List.mem_append, List.mem_cons, List.mem_replicate,
    reduceCtorEq, false_or, Move.step.injEq] at h
  rcases h with ((⟨-, -, rfl⟩ | ⟨-, -, rfl⟩) | ⟨-, -, rfl⟩) | ⟨-, -, rfl⟩ <;>
    exact accepting_accepting _ _

theorem placed_of_submitted_twoDeploymentsPlan :
    ∃ th ∈ (reached plainSettings oneDigest twoDeploymentsPlan).threads, ∃ result,
      th.outcome? = some (.ok (.submitted result)) ∧
        ∀ summary ∈ result.jobs, ∃ row batch,
          Placed (reached plainSettings oneDigest twoDeploymentsPlan)
            ⟨.auto, none, some 2, some 7⟩ summary row batch :=
  ⟨_, List.mem_cons_of_mem _ (List.mem_cons_of_mem _ List.mem_cons_self), _, rfl,
    (placed_of_submitted plainSettings oneDigest twoDeploymentsPlan
      storeWritesSucceed_twoDeploymentsPlan _
      (List.mem_cons_of_mem _ (List.mem_cons_of_mem _ List.mem_cons_self)) _ _ _ rfl _ rfl).2⟩

set_option maxRecDepth 2048 in
/-- The PDF is only in the collection of deployment `1`. -/
theorem not_collectionsComplete_twoDeploymentsPlan :
    ¬∀ (settings : Settings) (sha256 : Bytes → FileHash) (moves : List SystemMove),
      StoreWritesSucceed (reached settings sha256 moves) →
        CollectionsComplete sha256 (reached settings sha256 moves) := by
  intro h
  obtain ⟨th, hth, result, hrequest, hresult, hstatus⟩ :
      ∃ th ∈ (reached plainSettings oneDigest twoDeploymentsPlan).threads, ∃ result,
        th.request = planUploadTo 2 ∧ th.outcome? = some (.ok (.submitted result)) ∧
          result.jobs.map JobSummary.status = [.cached] :=
    ⟨_, List.mem_cons_of_mem _ (List.mem_cons_of_mem _ List.mem_cons_self), _, rfl, rfl, rfl⟩
  -- no task belongs to the second batch
  have htasks : TasksPublishable (reached plainSettings oneDigest twoDeploymentsPlan).state
      result := by
    intro summary hsummary hnew
    have hmem := List.mem_map_of_mem (f := JobSummary.status) hsummary
    rw [hstatus] at hmem
    exact absurd (List.mem_singleton.mp hmem) hnew
  have hdocument := h plainSettings oneDigest twoDeploymentsPlan
    storeWritesSucceed_twoDeploymentsPlan th hth _ _ _ result hrequest hresult htasks
    ⟨"plan.pdf", pdfMagic⟩ List.mem_cons_self
  have hdeployments : ((reached plainSettings oneDigest
      twoDeploymentsPlan).state.jobs.journal.filterMap upsertOf?).map MetadataWrite.deploymentId =
        [some 1] := rfl
  obtain ⟨sidecar, deploymentId, nodeId, hcollection, hnote⟩ := World.hasDocument_iff.mp hdocument
  obtain ⟨rfl, -⟩ := collectionOf_injective hcollection
  have hupsert := List.mem_map_of_mem (f := MetadataWrite.deploymentId)
    (List.mem_filterMap.mpr ⟨_, hnote, rfl⟩ : _ ∈ List.filterMap upsertOf? _)
  rw [hdeployments] at hupsert
  simp at hupsert

end ZubotIngestion
