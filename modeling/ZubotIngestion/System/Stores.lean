import ZubotIngestion.Infrastructure.ChromaDB
import ZubotIngestion.Infrastructure.Elasticsearch
import ZubotIngestion.Services.Conservation
import ZubotIngestion.Services.Delivery
import ZubotIngestion.System.Submissions

/-!
# The stores behind a run

ChromaDB and Elasticsearch hold what the upserts and the PUTs of a run have put there. Both are
recorded in the journal, so what a store holds goes back to the calls of the requests, and if the
writes of a run succeed, every call of a store is found in it.

A result in the database goes back to an attempt too. The attempt has written to the stores before,
so a job that has ever had a tier other than `REVIEW` has a document in ChromaDB: in the collection
of its batch, or in the default one if the attempt could not load the batch.

## Main definitions

* `World.collections`, `World.companions`: what the stores hold.
* `StoreWritesSucceed`, `WritesSucceed`: no write of the run fails.
* `Grounded`: what a request has loaded is in the database.

## Main results

* `explained_reached`: every entry of the journal goes back to a call.
* `stored_reached`: a successful write to a store is found there.
* `document_of_tier`: jobs whose tier is `AUTO` or `SPOT` have a document.
-/

namespace ZubotIngestion

open Effects Store

/-! ### What the stores hold -/

/-- The upsert a journal entry records. -/
def upsertOf? : JobEntry → Option MetadataWrite
  | .noted (.upserted documentId sidecar deploymentId nodeId) =>
    some ⟨documentId, sidecar, deploymentId, nodeId, ⟨true, .ok ()⟩⟩
  | _ => none

/-- The PUT a journal entry records. -/
def putOf? : JobEntry → Option IndexRequest
  | .noted (.indexed documentId extraction companion deploymentId) =>
    some ⟨documentId, extraction, companion, deploymentId, ⟨true, .ok 201⟩⟩
  | _ => none

namespace World

variable (w : World)

/-- What ChromaDB holds. -/
def collections : Collections := writeAll (w.jobs.journal.filterMap upsertOf?)

/-- What Elasticsearch holds. -/
def companions (indexer : ElasticsearchSearchIndexer) : Cluster :=
  indexAll indexer (w.jobs.journal.filterMap putOf?)

/-- The collection has a document with this identifier. -/
def HasDocument (collection documentId : String) : Prop :=
  ∃ record ∈ w.collections collection, record.documentId = documentId

/-- The collection of the batch of a job. -/
def collectionOfJob (row : JobRow) : String :=
  let routing := routingOf (.ok (w.batches.find? fun b => decide (b.batchId = row.batchId)))
  collectionOf routing.deploymentId routing.nodeId

/-- Elasticsearch has a companion with this identifier. -/
def HasCompanion (indexer : ElasticsearchSearchIndexer) (documentId : String) : Prop :=
  (w.companions indexer (indexer.documentUrl documentId)).isSome

variable {w}

theorem hasDocument_iff {collection documentId : String} : w.HasDocument collection documentId ↔
    ∃ sidecar deploymentId nodeId, collectionOf deploymentId nodeId = collection ∧
      .noted (.upserted documentId sidecar deploymentId nodeId) ∈ w.jobs.journal := by
  simp only [HasDocument, collections, mem_writeAll, List.mem_filterMap]
  constructor
  · rintro ⟨_, ⟨write, ⟨e, he, hwrite⟩, -, hname, rfl⟩, rfl⟩
    obtain ⟨n, rfl⟩ : ∃ n, e = .noted n := by
      cases e with
      | noted n => exact ⟨n, rfl⟩
      | _ => cases hwrite
    cases n with
    | upserted documentId sidecar deploymentId nodeId =>
      obtain rfl := Option.some.inj hwrite
      exact ⟨sidecar, deploymentId, nodeId, hname, he⟩
    | _ => cases hwrite
  · rintro ⟨sidecar, deploymentId, nodeId, hname, he⟩
    exact ⟨_, ⟨_, ⟨_, he, rfl⟩, rfl, hname, rfl⟩, rfl⟩

theorem hasCompanion_iff {indexer : ElasticsearchSearchIndexer} {documentId : String} :
    w.HasCompanion indexer documentId ↔ ∃ extraction companion deploymentId,
      .noted (.indexed documentId extraction companion deploymentId) ∈ w.jobs.journal := by
  simp only [HasCompanion, companions, isSome_indexAll_iff, List.mem_filterMap]
  constructor
  · rintro ⟨request, ⟨e, he, hrequest⟩, -, rfl⟩
    obtain ⟨n, rfl⟩ : ∃ n, e = .noted n := by
      cases e with
      | noted n => exact ⟨n, rfl⟩
      | _ => cases hrequest
    cases n with
    | indexed documentId extraction companion deploymentId =>
      obtain rfl := Option.some.inj hrequest
      exact ⟨extraction, companion, deploymentId, he⟩
    | _ => cases hrequest
  · rintro ⟨extraction, companion, deploymentId, he⟩
    exact ⟨_, ⟨_, he, rfl⟩, rfl, rfl⟩

end World

/-! ### Entries go back to calls -/

/-- The call may have added the entry. -/
def Adds (c : Call) (e : JobEntry) : Prop := ∃ es, Journals (fun _ => False) c es ∧ e ∈ es

/-- A note is left by the call that says so. -/
theorem Adds.note? {c : Call} {n : Note} (h : Adds c (.noted n)) : c.1.note? = some n := by
  obtain ⟨es, hes, he⟩ := h
  rcases hes.cases with ⟨jobId, u, now, -, rfl⟩ | ⟨batch, jobs, -, rfl⟩ | ⟨n', hn', rfl⟩ | ⟨rfl, -⟩
  · cases List.mem_singleton.mp he
  · obtain ⟨job, -, hjob⟩ := List.mem_map.mp he
    cases hjob
  · cases List.mem_singleton.mp he
    exact hn'
  · cases he

/-- An update is written by the call that asks for it. -/
theorem Adds.update? {c : Call} {jobId : JobId} {u : JobUpdate} (h : Adds c (.wrote jobId u)) :
    ∃ f now, c.1.update? = some (jobId, f) ∧ u = f now := by
  obtain ⟨es, hes, he⟩ := h
  rcases hes.cases with ⟨jobId', f, now, hu, rfl⟩ | ⟨batch, jobs, -, rfl⟩ | ⟨n, -, rfl⟩ | ⟨rfl, -⟩
  · cases List.mem_singleton.mp he
    exact ⟨f, now, hu, rfl⟩
  · obtain ⟨job, -, hjob⟩ := List.mem_map.mp he
    cases hjob
  · cases List.mem_singleton.mp he
  · cases he

/-! ### Successful writes -/

/-- The call is no write to a store, or the store has reported success. -/
def Stored : (op : Op) → Except PyException op.Res → Prop
  | .writeMetadata .., r => r = .ok true
  | .indexCompanion .., r => r = .ok true
  | _, _ => True

/-- All writes to the stores succeed. -/
def StoreWritesSucceed (P : System) : Prop := ∀ th ∈ P.threads, ∀ c ∈ th.trace, Stored c.1 c.2

/-- A successful write to a store is recorded. -/
theorem mem_journal_of_stored {env : Env} {op : Op} {w : World} (hop : op.isStoreWrite = true)
    (h : Stored op (answer env op w).1) {n : Note} (hn : op.note? = some n) :
    .noted n ∈ (answer env op w).2.jobs.journal := by
  cases op with
  | writeMetadata documentId sidecar deploymentId nodeId =>
    obtain rfl := Option.some.inj hn
    have hok : (answer env (.writeMetadata documentId sidecar deploymentId nodeId) w).1 =
        .ok true := h
    have heffect := answer_of_ok hok
    rw [heffect] at hok ⊢
    have hwrote : env.wrote = true := Except.ok.inj hok
    simp only [effect, hwrote, if_true]
    exact List.mem_append_right _ List.mem_cons_self
  | indexCompanion documentId extraction companion deploymentId =>
    obtain rfl := Option.some.inj hn
    have hok : (answer env (.indexCompanion documentId extraction companion deploymentId) w).1 =
        .ok true := h
    have heffect := answer_of_ok hok
    rw [heffect] at hok ⊢
    have hindexed : env.indexed = true := Except.ok.inj hok
    simp only [effect, hindexed, if_true]
    exact List.mem_append_right _ List.mem_cons_self
  | _ => cases hop

/-- The successful writes among some calls are recorded. -/
def AllStored (t : List Call) (w : World) : Prop :=
  ∀ c ∈ t, c.1.isStoreWrite = true → Stored c.1 c.2 → ∀ n, c.1.note? = some n →
    .noted n ∈ w.jobs.journal

/-! ### Loaded jobs and batches -/

/-- The columns of a job no update touches. -/
def Job.identity (job : Job) : JobId × BatchId × String × FileHash :=
  (job.jobId, job.batchId, job.filename, job.fileHash)

/-- Rows and batches stay. -/
theorem grows_answer (env : Env) (op : Op) (w : World) :
    identities w ⊆ identities (answer env op w).2 ∧ ∀ batchId batch,
      (w.batches.find? fun b => decide (b.batchId = batchId)) = some batch →
        ((answer env op w).2.batches.find? fun b => decide (b.batchId = batchId)) = some batch := by
  rcases batches_answer env op w with ⟨hbatches, hrows⟩ | ⟨batch', jobs, -, hcreate⟩
  · rw [hbatches, hrows]
    exact ⟨List.Subset.refl _, fun _ _ h => h⟩
  · obtain ⟨-, hbatches, hrows⟩ := batches_createBatch? hcreate
    rw [hbatches, hrows]
    refine ⟨List.subset_append_left _ _, fun batchId batch h => ?_⟩
    rw [List.find?_append, h, Option.some_or]

/-- What a request has loaded is in the database. -/
structure Grounded (t : List Call) (w : World) : Prop where
  /-- A job that was found has a row. -/
  byId : ∀ jobId job, ⟨.getJob jobId, .ok (some job)⟩ ∈ t → job.identity ∈ identities w
  /-- A job that was found by its hash has this hash. -/
  byHash : ∀ fileHash job, ⟨.getJobByFileHash fileHash, .ok (some job)⟩ ∈ t →
    job.identity ∈ identities w ∧ job.fileHash = fileHash
  /-- The batch of a job that was found is found. -/
  batch : ∀ pre post jobId job found, t = pre ++ ⟨.getBatch job.batchId, .ok found⟩ :: post →
    ⟨.getJob jobId, .ok (some job)⟩ ∈ pre → ∃ batch, found = some batch ∧
      (w.batches.find? fun b => decide (b.batchId = job.batchId)) = some batch

theorem Grounded.nil (w : World) : Grounded [] w where
  byId _ _ h := nomatch h
  byHash _ _ h := nomatch h
  batch _ _ _ _ _ h :=
    absurd h.symm (List.append_ne_nil_of_right_ne_nil _ (List.cons_ne_nil _ _))

/-- What is in the database stays there. -/
theorem Grounded.kept {t : List Call} {w : World} (h : Grounded t w) (env : Env) (op : Op) :
    Grounded t (answer env op w).2 := by
  obtain ⟨hrows, hbatches⟩ := grows_answer env op w
  refine ⟨fun jobId job hjob => hrows (h.byId jobId job hjob), fun fileHash job hjob => ?_,
    fun pre post jobId job found ht hjob => ?_⟩
  · obtain ⟨hmem, hhash⟩ := h.byHash fileHash job hjob
    exact ⟨hrows hmem, hhash⟩
  · obtain ⟨batch, hfound, hbatch⟩ := h.batch pre post jobId job found ht hjob
    exact ⟨batch, hfound, hbatches _ _ hbatch⟩

/-- The rows a lookup can return. -/
theorem identity_of_getJob {w : World} {jobId : JobId} {job : Job}
    (h : getJob w.jobs.table jobId = some job) : job.identity ∈ identities w := by
  obtain ⟨row, hrow, rfl⟩ := Option.map_eq_some_iff.mp h
  have hmem : row ∈ w.jobs.table.rows :=
    (w.jobs.table.mem_rows_iff_exists row).mpr ⟨jobId, hrow⟩
  exact List.mem_map.mpr ⟨row, hmem, rfl⟩

/-- A lookup of the request itself is answered from the database. -/
theorem Grounded.concat {t : List Call} {w : World} (hw : Filed w) (h : Grounded t w) (env : Env)
    (op : Op) : Grounded (t ++ [⟨op, (answer env op w).1⟩]) (answer env op w).2 := by
  have hold := h.kept env op
  have hread : ∀ {op : Op} {v : op.Res}, (answer env op w).1 = .ok v →
      (effect env op w).1 = .ok v := fun hok => by rwa [answer_of_ok hok] at hok
  refine ⟨fun jobId job hjob => ?_, fun fileHash job hjob => ?_,
    fun pre post jobId job found ht hjob => ?_⟩
  · rcases List.mem_append.mp hjob with hjob | hjob
    · exact hold.byId jobId job hjob
    · obtain ⟨rfl, hanswer⟩ := Sigma.mk.inj (List.mem_singleton.mp hjob)
      have hget := Except.ok.inj (hread (eq_of_heq hanswer).symm)
      exact (grows_answer env _ w).1 (identity_of_getJob hget)
  · rcases List.mem_append.mp hjob with hjob | hjob
    · exact hold.byHash fileHash job hjob
    · obtain ⟨rfl, hanswer⟩ := Sigma.mk.inj (List.mem_singleton.mp hjob)
      have hget := Except.ok.inj (hread (eq_of_heq hanswer).symm)
      obtain ⟨row, hrow, hhash, -, rfl⟩ := getJobByFileHash_some hget
      exact ⟨(grows_answer env _ w).1 (List.mem_map.mpr ⟨row, hrow, rfl⟩), hhash⟩
  · rcases List.eq_nil_or_concat post with rfl | ⟨post', e, rfl⟩
    · obtain ⟨rfl, hc⟩ := List.append_inj' ht rfl
      obtain ⟨rfl, hanswer⟩ := Sigma.mk.inj (List.head_eq_of_cons_eq hc)
      have hget := Except.ok.inj (hread (eq_of_heq hanswer))
      -- the batch of a row has been persisted with it
      obtain ⟨batch, hbatch, hid⟩ := hw _ (h.byId jobId job hjob)
      have hsome : (w.batches.find? fun b => decide (b.batchId = job.batchId)).isSome :=
        List.find?_isSome.mpr ⟨batch, hbatch, decide_eq_true hid⟩
      obtain ⟨batch', hbatch'⟩ := Option.isSome_iff_exists.mp hsome
      exact ⟨batch', hget.symm.trans hbatch', (grows_answer env _ w).2 _ _ hbatch'⟩
    · rw [List.concat_eq_append, ← List.cons_append, ← List.append_assoc] at ht
      exact hold.batch pre post' jobId job found (List.append_inj' ht rfl).1 hjob

/-! ### Runs -/

/-- What a request guarantees of its calls of the pipeline and of its result write. -/
def Delivers (settings : Settings) : Request → List Call → Op → Prop
  | .extract jobId _ => ResultGuarantee settings jobId
  | .submit .. | .decide .. => PipelineFree

theorem launch_delivers (settings : Settings) (sha256 : Bytes → FileHash) (request : Request) :
    (launch settings sha256 request).Safe Sensible (Delivers settings request) NoPromise [] := by
  cases request with
  | extract jobId retries =>
    exact (extractDocumentTask_results settings jobId retries).map Reply.extracted
      (fun _ _ _ => trivial) fun _ _ _ => trivial
  | submit files params userId =>
    exact (submitBatch_pipelineFree settings sha256 files params userId).map Reply.submitted
      (fun _ _ _ => trivial) fun _ _ _ => trivial
  | decide jobId decision =>
    exact (decision_pipelineFree jobId decision).map Reply.decided (fun _ _ _ => trivial)
      fun _ _ _ => trivial

section Runs

variable {settings : Settings} {sha256 : Bytes → FileHash} {moves : List SystemMove}

/-- Every entry of the journal goes back to a call of some request. -/
theorem explained_reached : ∀ e ∈ (reached settings sha256 moves).state.jobs.journal,
    (reached settings sha256 moves).Explained Adds e := by
  refine Pool.explained_exec (H := fun (w : World) e => e ∈ w.jobs.journal)
    (fun env op w e he => ?_) (fun _ h => absurd h List.not_mem_nil) moves
  obtain ⟨es, hjournal, hes⟩ := journal_answer env op w
  rw [hjournal] at he
  exact (List.mem_append.mp he).imp_right fun he => ⟨es, hes.mono fun _ h => h.elim, he⟩

/-- Every successful write to a store is recorded. -/
theorem stored_reached : ∀ th ∈ (reached settings sha256 moves).threads,
    AllStored th.trace (reached settings sha256 moves).state := by
  have hother : ∀ (env : Env) op t w, AllStored t w → AllStored t (answer env op w).2 := by
    intro env op t w ht c hc hop hstored n hn
    obtain ⟨es, hjournal, -⟩ := journal_answer env op w
    rw [hjournal]
    exact List.mem_append_left _ (ht c hc hop hstored n hn)
  refine Pool.traces_exec (fun _ _ h => absurd h List.not_mem_nil)
    (fun env op t w ht c hc => ?_) hother (fun _ h => absurd h List.not_mem_nil) moves
  rcases List.mem_append.mp hc with hc | hc
  · exact hother env op t w ht c hc
  · rw [List.mem_singleton.mp hc]
    exact fun hop hstored n hn => mem_journal_of_stored hop hstored hn

/-- Every row belongs to a batch, and every request is grounded. -/
theorem grounded_reached : Filed (reached settings sha256 moves).state ∧
    ∀ th ∈ (reached settings sha256 moves).threads,
      Grounded th.trace (reached settings sha256 moves).state :=
  Pool.traces_exec_of_invariant (fun env op _ => filed_answer env op) (fun w _ => Grounded.nil w)
    (fun env op _ _ hw ht => ht.concat hw env op) (fun env op _ _ _ ht => ht.kept env op)
    ⟨fun _ h => absurd h List.not_mem_nil, fun _ h => absurd h List.not_mem_nil⟩ moves

/-- Every request delivers. -/
theorem delivers_reached : ∀ th ∈ (reached settings sha256 moves).threads,
    Program.Kept Sensible (Delivers settings th.request) th.trace := by
  have hempty : Pool.Sound (fun _ => True) Sensible (Delivers settings) (fun _ => NoPromise)
      (⟨.empty, []⟩ : System) :=
    ⟨trivial, fun _ h => (nomatch h), fun _ h => (nomatch h)⟩
  exact (hempty.exec (fun env op w _ => sensible_answer env op w) (fun _ _ _ _ _ _ _ => trivial)
    (launch_delivers settings sha256) moves).calls

/-! ### Documents of jobs -/

/-- Two rows with one identifier are the same row. -/
theorem identity_unique {w : World} {row : JobRow} {identity : JobId × BatchId × String × FileHash}
    (hrow : w.jobs.find? row.id = some row) (hidentity : identity ∈ identities w)
    (hid : identity.1 = row.id) : identity = row.identity := by
  obtain ⟨row', hrow', rfl⟩ := List.mem_map.mp hidentity
  have hfound := (w.jobs.table.mem_rows_iff row').mp hrow'
  have hsame : w.jobs.find? row.id = some row' := hid ▸ hfound
  rw [Option.some.inj (hsame.symm.trans hrow)]

/-- A result that was written goes back to a pipeline run in an attempt of the task. -/
theorem run_of_result {jobId : JobId} {u : JobUpdate} {tier : ConfidenceTier}
    (hu : .wrote jobId u ∈ (reached settings sha256 moves).state.jobs.journal)
    (htier : u.newConfidence.map Prod.fst = some tier) :
    ∃ th ∈ (reached settings sha256 moves).threads, ∃ k : TaskAnswers,
      (∃ retries, th.request = .extract jobId retries) ∧ k.job.jobId = jobId ∧
        k.tier settings = tier ∧ k.processedCalls settings <+: th.trace := by
  obtain ⟨th, hth, c, hc, hadds⟩ := explained_reached _ hu
  obtain ⟨f, now, hupdate, rfl⟩ := hadds.update?
  obtain ⟨pre, post, htrace⟩ := List.append_of_mem hc
  have hcall := (delivers_reached th hth pre c post htrace).1
  have hkept := ((reached_sound settings sha256 moves).calls th hth pre c post htrace).1
  have hresult : c.1.isResult = true := by
    obtain ⟨op, r⟩ := c
    cases op <;> cases hupdate
    · cases htier
    · rfl
  cases hrequest : th.request with
  | extract jobId' retries =>
    rw [hrequest] at hcall
    obtain ⟨k, hk, hpre, hop⟩ := hcall hresult
    rw [hop] at hupdate
    obtain ⟨rfl, rfl⟩ := Prod.mk.inj (Option.some.inj hupdate)
    exact ⟨th, hth, k, ⟨retries, hrequest⟩, hk, Option.some.inj htier,
      ⟨c :: post, hpre ▸ htrace.symm⟩⟩
  | submit files params userId =>
    rw [hrequest] at hkept
    have hisUpdate : c.1.isUpdate = true := by rw [Op.isUpdate, hupdate]; rfl
    exact absurd (hisUpdate.symm.trans hkept.1) Bool.true_eq_false_eq_False
  | decide jobId' decision =>
    rw [hrequest] at hkept
    have hisUpdate : c.1.isUpdate = true := by rw [Op.isUpdate, hupdate]; rfl
    obtain ⟨-, parsedId, job, reviewedAt, -, -, -, hop⟩ := hkept.2 hisUpdate
    rw [hop] at hresult
    cases hresult

/-- An attempt to extract the job could not load its batch. -/
def BatchUnknown (P : System) (row : JobRow) : Prop :=
  ∃ th ∈ P.threads, (∃ retries, th.request = .extract row.id retries) ∧
    ∃ exc, ⟨.getBatch row.batchId, .error exc⟩ ∈ th.trace

section Attempt

variable {row : JobRow} {th : Serving} {k : TaskAnswers}

/-- The job that an attempt has loaded is the one of the row. -/
theorem identity_of_run (hth : th ∈ (reached settings sha256 moves).threads)
    (hpre : k.processedCalls settings <+: th.trace)
    (hrow : (reached settings sha256 moves).state.jobs.find? row.id = some row)
    (hid : k.job.jobId = row.id) : k.job.batchId = row.batchId ∧ k.job.fileHash = row.fileHash := by
  have hload : (⟨.getJob k.job.jobId, .ok (some k.job)⟩ : Call) ∈ th.trace :=
    hpre.subset List.mem_cons_self
  have hidentity := identity_unique hrow ((grounded_reached.2 th hth).byId _ _ hload) hid
  exact ⟨congrArg (fun i => i.2.1) hidentity, congrArg (fun i => i.2.2.2) hidentity⟩

/-- An attempt that got through its pipeline with another tier than `REVIEW` has upserted the
document of its file. -/
theorem document_of_run (hwrites : StoreWritesSucceed (reached settings sha256 moves))
    (hth : th ∈ (reached settings sha256 moves).threads)
    (hpre : k.processedCalls settings <+: th.trace) (htier : k.tier settings ≠ .review) :
    (reached settings sha256 moves).state.HasDocument
      (collectionOf (routingOf k.batch).deploymentId (routingOf k.batch).nodeId)
      k.job.fileHash := by
  have hcall := hpre.subset (TaskAnswers.writeMetadata_mem htier)
  have hnote := stored_reached th hth _ hcall rfl (hwrites th hth _ hcall) _ rfl
  exact World.hasDocument_iff.mpr ⟨_, _, _, rfl, hnote⟩

/-- It has loaded the batch of its job, or it could not load it. -/
theorem batch_of_run (hth : th ∈ (reached settings sha256 moves).threads)
    (hpre : k.processedCalls settings <+: th.trace) :
    (∃ batch, k.batch = .ok (some batch) ∧
        ((reached settings sha256 moves).state.batches.find? fun b =>
          decide (b.batchId = k.job.batchId)) = some batch) ∨
      ∃ exc, k.batch = .error exc ∧ ⟨.getBatch k.job.batchId, .error exc⟩ ∈ th.trace := by
  obtain ⟨post, hpost⟩ := hpre
  have hlookup : th.trace = [⟨.getJob k.job.jobId, .ok (some k.job)⟩] ++
      ⟨.getBatch k.job.batchId, k.batch⟩ :: ((k.processedCalls settings).drop 2 ++ post) :=
    hpost.symm
  cases hbatch : k.batch with
  | error exc =>
    rw [hlookup, hbatch]
    exact Or.inr ⟨exc, rfl, List.mem_append_right _ List.mem_cons_self⟩
  | ok found =>
    rw [hbatch] at hlookup
    obtain ⟨batch, rfl, hfound⟩ :=
      (grounded_reached.2 th hth).batch _ _ _ _ _ hlookup List.mem_cons_self
    exact Or.inl ⟨batch, rfl, hfound⟩

end Attempt

/-- A job whose tier is `AUTO` or `SPOT` has a document in the collection of its batch, or in the
default collection if an attempt could not load the batch. -/
theorem document_of_tier (hwrites : StoreWritesSucceed (reached settings sha256 moves))
    {row : JobRow} (hrow : row ∈ (reached settings sha256 moves).state.jobs.table.rows)
    (hpublic : row.confidenceTier = some .auto ∨ row.confidenceTier = some .spot) :
    (∃ batch, ((reached settings sha256 moves).state.batches.find? fun b =>
        decide (b.batchId = row.batchId)) = some batch ∧
      (reached settings sha256 moves).state.HasDocument
        (collectionOf batch.deploymentId batch.nodeId) row.fileHash) ∨
    BatchUnknown (reached settings sha256 moves) row ∧
      (reached settings sha256 moves).state.HasDocument (collectionOf none none) row.fileHash := by
  obtain ⟨tier, htier, hne⟩ : ∃ tier, row.confidenceTier = some tier ∧ tier ≠ .review := by
    rcases hpublic with h | h
    · exact ⟨.auto, h, ConfidenceTier.noConfusion⟩
    · exact ⟨.spot, h, ConfidenceTier.noConfusion⟩
  have hfound := ((reached settings sha256 moves).state.jobs.table.mem_rows_iff row).mp hrow
  obtain ⟨h, hh, rfl⟩ := JournaledTable.exists_history hfound
  -- the tier is that of some result in the history, and so of an attempt
  have hlast := (serviceHistory_reached hh).tier_row.symm.trans htier
  obtain ⟨u, hu, hutier⟩ := List.mem_filterMap.mp (List.mem_of_getLast? hlast)
  obtain ⟨th, hth, k, hrequest, hid, rfl, hpre⟩ := run_of_result ((mem_of_history? hh).2 u hu)
    hutier
  obtain ⟨hbatchId, hhash⟩ := identity_of_run hth hpre hfound hid
  have hdocument := document_of_run hwrites hth hpre hne
  have hbatch := batch_of_run hth hpre
  rw [hhash] at hdocument
  rw [hbatchId] at hbatch
  rcases hbatch with ⟨batch, hbatch, hfoundBatch⟩ | ⟨exc, hbatch, hmem⟩
  · rw [hbatch] at hdocument
    exact Or.inl ⟨batch, hfoundBatch, hdocument⟩
  · rw [hbatch] at hdocument
    exact Or.inr ⟨⟨th, hth, hrequest, exc, hmem⟩, hdocument⟩

end Runs

/-! ### Runs in which all writes succeed -/

/-- An orchestrator has a search indexer; `build_orchestrator` always injects one. -/
def Wired : (op : Op) → Except PyException op.Res → Prop
  | .buildOrchestrator, .ok wiring => wiring.searchIndexer = true
  | _, _ => True

/-- No write fails, neither to the stores nor to the database. -/
structure WritesSucceed (P : System) : Prop where
  stores : StoreWritesSucceed P
  commits : ∀ th ∈ P.threads, ∀ c ∈ th.trace, c.1.isCommit = true → ¬ Raised c.2
  wired : ∀ th ∈ P.threads, ∀ c ∈ th.trace, Wired c.1 c.2

/-- The stores accept everything, and there is an indexer. -/
structure Env.Accepting (env : Env) : Prop where
  effective : env.Effective
  wrote : env.wrote = true
  indexed : env.indexed = true
  wired : env.wiring.searchIndexer = true

/-- In such environments all writes succeed. -/
theorem writesSucceed_of_accepting {settings : Settings} {sha256 : Bytes → FileHash}
    {moves : List SystemMove} (h : ∀ i env, .step i env ∈ moves → env.Accepting) :
    WritesSucceed (reached settings sha256 moves) := by
  have hcalls : ∀ {A : (op : Op) → Except PyException op.Res → Prop},
      (∀ env op w, env.Accepting → A op (effect env op w).1) →
      ∀ th ∈ (reached settings sha256 moves).threads, ∀ c ∈ th.trace, A c.1 c.2 := by
    intro A hA
    refine Pool.answered_exec (fun env op w henv => ?_) (fun _ hth => absurd hth List.not_mem_nil) h
    rw [henv.effective.answer_eq op w]
    exact hA env op w henv
  refine ⟨hcalls fun env op w henv => ?_,
    hcalls (A := fun op r => op.isCommit = true → ¬ Raised r) fun env op w _ => ?_,
    hcalls fun env op w henv => ?_⟩
  · cases op with
    | writeMetadata => exact congrArg Except.ok henv.wrote
    | indexCompanion => exact congrArg Except.ok henv.indexed
    | _ => trivial
  · rintro hop ⟨exc, hraised⟩
    cases op <;> first
      | exact absurd hop Bool.false_ne_true
      | cases hraised
  · cases op with
    | buildOrchestrator => exact henv.wired
    | _ => trivial

/-- Everything is accepted, and every run generates a companion. -/
def Env.accepting (uuid : ℕ) (tier : ConfidenceTier) : Env :=
  { Env.calm uuid tier with
    wiring := ⟨false, true, true⟩
    companion := ⟨"A plan.", 1, true, true, none⟩ }

theorem accepting_accepting (uuid : ℕ) (tier : ConfidenceTier) :
    (Env.accepting uuid tier).Accepting :=
  ⟨fun _ => rfl, rfl, rfl, rfl⟩

end ZubotIngestion
