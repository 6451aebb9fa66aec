import ZubotIngestion.System.Stores

/-!
# The stores and the review gate

A job is public if its tier is `AUTO` or `SPOT`, or if a reviewer has approved it. Its sidecar
should be in the ChromaDB collection of its batch and its companion in Elasticsearch exactly then.
The pipeline holds back the sidecar of a review-tier run, but not its companion, and an approval
writes to neither store. So a review-tier job is treated right only as long as nobody approves it
and it has no companion, unless other runs of the same file have written to its collection. A job
with another tier misses its collection if its batch could not be loaded.

## Main definitions

* `AtRest`, `WritesSucceed`: the states and the runs that are considered.
* `IsPublic`, `GatesStores`: the rule.
* `RanUngated`: a run that writes to a collection.

## Main results

* `hasDocument_iff_ranUngated`, `hasCompanion_iff_generated`: what the stores have, by the runs of
  a file.
* `gatesStores_iff`: for which jobs the stores follow the rule.
-/

namespace ZubotIngestion

open Effects Store

/-- All requests have returned or raised. -/
def AtRest (P : System) : Prop := ∀ th ∈ P.threads, th.outcome?.isSome = true

instance (P : System) : Decidable (AtRest P) :=
  inferInstanceAs (Decidable (∀ th ∈ P.threads, _))

/-- The attempt has been run to its end. -/
def Ran (settings : Settings) (P : System) (k : TaskAnswers) : Prop :=
  ∃ th ∈ P.threads, (∃ reply, th.outcome? = some (.ok (.extracted reply))) ∧
    th.trace = k.calls settings

theorem Ran.exists_trace {settings : Settings} {P : System} {k : TaskAnswers}
    (h : Ran settings P k) : ∃ th ∈ P.threads, k.processedCalls settings <+: th.trace := by
  obtain ⟨th, hth, -, ht⟩ := h
  exact ⟨th, hth, ht ▸ k.processedCalls_isPrefix settings⟩

/-- A reviewer has approved the job. -/
def Approved (P : System) (jobId : JobId) : Prop :=
  ∃ th ∈ P.threads, ∃ pathId body response, th.request = .decide pathId (.approve body) ∧
    pathId.uuid? = some jobId ∧ th.outcome? = some (.ok (.decided response))

/-- The job is public, by its tier or by an approval. -/
def IsPublic (P : System) (row : JobRow) : Prop :=
  row.confidenceTier = some .auto ∨ row.confidenceTier = some .spot ∨ Approved P row.id

/-- A run of the job has generated a companion. -/
def HasGenerated (settings : Settings) (P : System) (jobId : JobId) : Prop :=
  ∃ k, Ran settings P k ∧ k.job.jobId = jobId ∧ k.Generated

/-- A run of a file with this hash, for the pair of this collection, had a tier other than
`REVIEW`. -/
def RanUngated (settings : Settings) (P : System) (collection : String) (fileHash : FileHash) :
    Prop :=
  ∃ k, Ran settings P k ∧ k.job.fileHash = fileHash ∧ k.tier settings ≠ .review ∧
    collectionOf (routingOf k.batch).deploymentId (routingOf k.batch).nodeId = collection

/-- The collection of the job has its document, and Elasticsearch its companion, exactly if the job
is public. -/
structure GatesStores (settings : Settings) (indexer : ElasticsearchSearchIndexer) (P : System)
    (row : JobRow) : Prop where
  chroma : P.state.HasDocument (P.state.collectionOfJob row) row.fileHash ↔ IsPublic P row
  elasticsearch : HasGenerated settings P row.id →
    (P.state.HasCompanion indexer row.fileHash ↔ IsPublic P row)

section Runs

variable {settings : Settings} {sha256 : Bytes → FileHash} {moves : List SystemMove}
  {indexer : ElasticsearchSearchIndexer}

/-- At rest, a call of a store was made by an attempt that was run to its end. -/
theorem ran_of_isStoreWrite (hrest : AtRest (reached settings sha256 moves))
    (hwrites : WritesSucceed (reached settings sha256 moves)) {th : Serving}
    (hth : th ∈ (reached settings sha256 moves).threads) {c : Call} (hc : c ∈ th.trace)
    (hstore : c.1.isStoreWrite = true) :
    ∃ k, Ran settings (reached settings sha256 moves) k ∧ c ∈ k.calls settings := by
  have hpipeline : c.1.isPipeline = true := by
    obtain ⟨op, r⟩ := c
    cases op <;> first
      | rfl
      | cases hstore
  obtain ⟨pre, post, htrace⟩ := List.append_of_mem hc
  have hcall := (delivers_reached th hth pre c post htrace).1
  obtain ⟨outcome, ho⟩ := Option.isSome_iff_exists.mp (hrest th hth)
  have houtcome := (reached_sound settings sha256 moves).outcome hth ho
  cases hrequest : th.request with
  | extract jobId retries =>
    rw [hrequest] at houtcome
    obtain ⟨r, hpost, rfl⟩ := houtcome
    cases r with
    | ok reply =>
      obtain ⟨k, -, ht, -⟩ := hpost.returned reply rfl
      exact ⟨k, ⟨th, hth, ⟨reply, ho⟩, ht⟩, ht ▸ hc⟩
    | error exc =>
      rcases hpost.interrupted exc rfl with hnone | ⟨c', hc', hcommit, hraised⟩
      · exact absurd (hpipeline.symm.trans (callsOf_eq_nil.mp hnone c hc))
          Bool.true_eq_false_eq_False
      · exact absurd hraised (hwrites.commits th hth c' hc' hcommit)
  | submit files params userId =>
    rw [hrequest] at hcall
    exact absurd (hpipeline.symm.trans hcall) Bool.true_eq_false_eq_False
  | decide jobId decision =>
    rw [hrequest] at hcall
    exact absurd (hpipeline.symm.trans hcall) Bool.true_eq_false_eq_False

/-- At rest, a collection has a document for the files with a run whose tier is not `REVIEW`, for
the pair of the collection. -/
theorem hasDocument_iff_ranUngated (hrest : AtRest (reached settings sha256 moves))
    (hwrites : WritesSucceed (reached settings sha256 moves)) (collection : String)
    (fileHash : FileHash) :
    (reached settings sha256 moves).state.HasDocument collection fileHash ↔
      RanUngated settings (reached settings sha256 moves) collection fileHash := by
  constructor
  · intro hdocument
    obtain ⟨sidecar, deploymentId, nodeId, rfl, hnote⟩ := World.hasDocument_iff.mp hdocument
    obtain ⟨th, hth, ⟨op, r⟩, hc, hadds⟩ := explained_reached _ hnote
    have hop : op = .writeMetadata fileHash sidecar deploymentId nodeId := by
      have hn := hadds.note?
      cases op <;> cases hn
      rfl
    subst hop
    obtain ⟨k, hran, hmem⟩ := ran_of_isStoreWrite hrest hwrites hth hc rfl
    obtain ⟨hhash, rfl, rfl, htier⟩ := TaskAnswers.of_writeMetadata_mem hmem
    exact ⟨k, hran, hhash.symm, htier, rfl⟩
  · rintro ⟨k, hran, rfl, htier, rfl⟩
    obtain ⟨th, hth, hpre⟩ := hran.exists_trace
    exact document_of_run hwrites.stores hth hpre htier

/-- At rest, Elasticsearch has a companion for the files with a run that has generated one, whatever
its tier. -/
theorem hasCompanion_iff_generated (hrest : AtRest (reached settings sha256 moves))
    (hwrites : WritesSucceed (reached settings sha256 moves)) (fileHash : FileHash) :
    (reached settings sha256 moves).state.HasCompanion indexer fileHash ↔
      ∃ k, Ran settings (reached settings sha256 moves) k ∧ k.job.fileHash = fileHash ∧
        k.Generated := by
  constructor
  · intro hcompanion
    obtain ⟨extraction, companion, deploymentId, hnote⟩ := World.hasCompanion_iff.mp hcompanion
    obtain ⟨th, hth, ⟨op, r⟩, hc, hadds⟩ := explained_reached _ hnote
    have hop : op = .indexCompanion fileHash extraction companion deploymentId := by
      have hn := hadds.note?
      cases op <;> cases hn
      rfl
    subst hop
    obtain ⟨k, hran, hmem⟩ := ran_of_isStoreWrite hrest hwrites hth hc rfl
    obtain ⟨hhash, hgenerated⟩ := TaskAnswers.of_indexCompanion_mem hmem
    exact ⟨k, hran, hhash.symm, hgenerated⟩
  · rintro ⟨k, hran, rfl, hgenerated⟩
    obtain ⟨th, hth, hpre⟩ := hran.exists_trace
    have hbuild : (⟨.buildOrchestrator, .ok k.wiring⟩ : Call) ∈ th.trace := by
      refine hpre.subset (List.mem_append_left _ (List.mem_append_left _ ?_))
      exact List.mem_append_left _ (List.mem_append_right _ List.mem_cons_self)
    have hwired : k.wiring.searchIndexer = true := hwrites.wired th hth _ hbuild
    obtain ⟨extraction, companion, hcall⟩ := k.indexCompanion_mem settings hwired hgenerated
    have hmem := hpre.subset hcall
    have hnote := stored_reached th hth _ hmem rfl (hwrites.stores th hth _ hmem) _ rfl
    exact World.hasCompanion_iff.mpr ⟨_, _, _, hnote⟩

/-- A job whose tier is `AUTO` or `SPOT` has its document in the collection of its batch, unless an
attempt could not load the batch. -/
theorem hasDocument_of_tier (hwrites : WritesSucceed (reached settings sha256 moves)) {row : JobRow}
    (hrow : row ∈ (reached settings sha256 moves).state.jobs.table.rows)
    (htier : row.confidenceTier = some .auto ∨ row.confidenceTier = some .spot)
    (hloaded : ¬BatchUnknown (reached settings sha256 moves) row) :
    (reached settings sha256 moves).state.HasDocument
      ((reached settings sha256 moves).state.collectionOfJob row) row.fileHash := by
  rcases document_of_tier hwrites.stores hrow htier with ⟨batch, hbatch, hdocument⟩ | ⟨hunknown, -⟩
  · rw [World.collectionOfJob, hbatch]
    exact hdocument
  · exact absurd hunknown hloaded

end Runs

/-! ### A run with an indexer -/

/-- One PDF is submitted and extracted as job `2`. -/
def companionPlan (tier : ConfidenceTier) : List SystemMove :=
  .start planUpload :: (calls 0 2 (.accepting 1 tier) ++ calls 0 6 (.accepting 2 tier)) ++
    .start (.extract 2 0) :: calls 1 30 (.accepting 0 tier)

/-- Job `2` is then approved. -/
def approvedCompanionPlan : List SystemMove :=
  companionPlan .review ++ .start (.decide planId (.approve ⟨"first", none⟩)) ::
    calls 2 5 (.accepting 0 .review)

theorem accepting_companionPlan {tier : ConfidenceTier} {i : ℕ} {env : Env}
    (h : .step i env ∈ companionPlan tier) : env.Accepting := by
  simp only [companionPlan, calls, List.mem_append, List.mem_cons, List.mem_replicate,
    reduceCtorEq, false_or, Move.step.injEq] at h
  rcases h with (⟨-, -, rfl⟩ | ⟨-, -, rfl⟩) | ⟨-, -, rfl⟩ <;> exact accepting_accepting _ _

end ZubotIngestion
