import ZubotIngestion.Api.Lookups
import ZubotIngestion.Infrastructure.UuidColumn
import ZubotIngestion.System.Inputs
import ZubotIngestion.System.Polling

/-!
# Links between the responses

The responses name jobs and batches by the texts of their identifiers, and a client follows these
texts to the lookup routes. Rows and batches are never removed, and every row belongs to a batch,
so in every reachable state each text that has been handed out leads to its record: from the
response of a submission to the batch and to every job, from a job to its batch, and from a batch
to its jobs. Identifiers are read back as themselves as long as `uuid4` draws numbers of 128 bits.

## Main definitions

* `taskArgument`, `parseTaskArgument`: the argument of the extraction task.
* `LinksResolve`: every text leads to its record.

## Main results

* `identifier_readBack`: every text form of an identifier is read back as the identifier.
* `linksResolve_reached`: in every reachable state, every text leads to its record.
-/

namespace ZubotIngestion

open Effects Store

section Texts

variable (repr : String → String) (otherDigit? : Char → Option ℕ)
  (isoformat : Timestamp → String)

/-- The argument of the task that `enqueue_extraction` puts into the queue. -/
def taskArgument (jobId : JobId) : String := uuidStr jobId

/-- The identifier that `extract_document_task` reads from its argument. -/
def parseTaskArgument (jobId : String) : Except PyException JobId :=
  uuidOfStr repr otherDigit? jobId

/-- What a job shows of itself, on its own and in a list. -/
def JobBody.summary (detail : JobBody) : SummaryBody :=
  ⟨detail.jobId, detail.filename, detail.status, detail.fileHash, detail.result⟩

/-- The columns of an entry that no update touches. -/
def SummaryBody.file (entry : SummaryBody) : String × String × FileHash :=
  (entry.jobId, entry.filename, entry.fileHash)

/-- What a response of 202 leads to: a batch with the fields of the form and one entry for each
queued job, and jobs with the hashes of the files. -/
structure ResponseResolves (w : World) (params : SubmissionParams) (body : SubmissionBody) :
    Prop where
  batch : ∃ view, getBatchEndpoint repr otherDigit? isoformat w body.batchId = .ok view ∧
    view.batchId = body.batchId ∧ view.callbackUrl = params.callbackUrl ∧
      view.deploymentId = params.deploymentId ∧ view.nodeId = params.nodeId ∧
        view.jobs.map SummaryBody.file = (body.jobs.filter fun entry =>
          decide (entry.status = JobStatus.queued.value)).map SummaryBody.file ∧
            view.progress.total = view.jobs.length
  jobs : ∀ entry ∈ body.jobs, ∃ detail,
    getJobEndpoint repr otherDigit? isoformat w entry.jobId = .ok detail ∧
      detail.jobId = entry.jobId ∧ detail.fileHash = entry.fileHash ∧
        (entry.status = JobStatus.queued.value →
          detail.batchId = body.batchId ∧ detail.filename = entry.filename)

/-- Every text leads to its record. -/
structure LinksResolve (P : System) : Prop where
  responses : ∀ th ∈ P.threads, ∀ result, th.outcome? = some (.ok (.submitted result)) →
    ∃ files params userId, th.request = .submit files params userId ∧
      ResponseResolves repr otherDigit? isoformat P.state params (serializeResult result)
  /-- A job leads to its batch, which lists it. -/
  jobs : ∀ row ∈ P.state.jobs.table.rows, ∃ detail view,
    getJobEndpoint repr otherDigit? isoformat P.state (uuidStr row.id) = .ok detail ∧
      detail.jobId = uuidStr row.id ∧
        getBatchEndpoint repr otherDigit? isoformat P.state detail.batchId = .ok view ∧
          view.batchId = detail.batchId ∧ detail.summary ∈ view.jobs
  /-- A batch leads to its jobs, which name it. -/
  batches : ∀ batch ∈ P.state.batches, ∃ view,
    getBatchEndpoint repr otherDigit? isoformat P.state (uuidStr batch.batchId) = .ok view ∧
      view.batchId = uuidStr batch.batchId ∧ ∀ entry ∈ view.jobs, ∃ detail,
        getJobEndpoint repr otherDigit? isoformat P.state entry.jobId = .ok detail ∧
          detail.summary = entry ∧ detail.batchId = view.batchId

variable {repr otherDigit? isoformat}

/-- **Identifiers survive their texts.** An identifier that goes out as the argument of a task, in
the body of a response or to a column comes back as itself, in the task, in the lookup and review
routes and from the column; and a column of any database tells it apart from all others. -/
theorem identifier_readBack {u : ℕ} (h : u < uuidBound) :
    parseTaskArgument repr otherDigit? (taskArgument u) = .ok u ∧
      parseJobText repr otherDigit? (uuidStr u) = .ok u ∧
      parseBatchText repr otherDigit? (uuidStr u) = .ok u ∧
      (PathJobId.ofText repr otherDigit? (uuidStr u)).uuid? = some u ∧
      (uuidStr u).length = 36 ∧
      ∀ dialect, processResultValue repr otherDigit? (processBindParam dialect (some u)) =
          .ok (some u) ∧
        ∀ id?, processBindParam dialect id? = processBindParam dialect (some u) ↔ id? = some u := by
  have hread := uuidOfStr_uuidStr repr otherDigit? h
  refine ⟨hread, parsePathId_uuidStr h _, parsePathId_uuidStr h _, ?_, length_uuidStr h,
    fun dialect => ⟨?_, fun id? => (processBindParam_injective dialect).eq_iff⟩⟩
  · rw [PathJobId.ofText, hread]
    rfl
  · refine processResultValue_processBindParam dialect fun id hid => ?_
    obtain rfl := Option.some.inj hid
    exact h

/-- So does the largest one. -/
theorem identifier_readBack_max : 2 ^ 128 - 1 < uuidBound ∧
    parseTaskArgument id (fun _ => none) (taskArgument (2 ^ 128 - 1)) = .ok (2 ^ 128 - 1) :=
  ⟨by decide, (identifier_readBack (by decide)).1⟩

/-! ### The lookups of rows -/

section Lookups

variable {w : World}

/-- The row with an identity. -/
theorem exists_row_of_identity {identity : JobId × BatchId × String × FileHash}
    (h : identity ∈ identities w) :
    ∃ row : JobRow, row.identity = identity ∧ row ∈ w.jobs.table.rows := by
  obtain ⟨row, hrow, hidentity⟩ := List.mem_map.mp h
  exact ⟨row, hidentity, hrow⟩

variable (repr otherDigit? isoformat) in
/-- A row is answered with its own entry. -/
theorem getJobEndpoint_of_row {row : JobRow} (hid : row.id < uuidBound)
    (hrow : row ∈ w.jobs.table.rows) :
    ∃ detail, getJobEndpoint repr otherDigit? isoformat w (uuidStr row.id) = .ok detail ∧
      detail.summary = serializeSummary (jobToSummary (toJob row)) ∧
        detail.batchId = uuidStr row.batchId := by
  obtain ⟨detail, hdetail, hjobId, hbatchId, hfilename, hhash, hstatus, hresult⟩ :=
    getJobEndpoint_uuidStr repr otherDigit? isoformat hid ((w.jobs.table.mem_rows_iff row).mp hrow)
  refine ⟨detail, hdetail, ?_, hbatchId⟩
  rw [JobBody.summary, hjobId, hfilename, hstatus, hhash, hresult]
  rfl

variable (repr otherDigit? isoformat) in
/-- A batch that is there is answered with the entries of its rows. -/
theorem getBatchEndpoint_of_mem {batchId : BatchId} (hid : batchId < uuidBound)
    (h : ∃ batch ∈ w.batches, batch.batchId = batchId) :
    ∃ view, getBatchEndpoint repr otherDigit? isoformat w (uuidStr batchId) = .ok view ∧
      view.batchId = uuidStr batchId ∧ view.jobs = (w.rowsOf batchId).map fun row =>
        serializeSummary (jobToSummary (toJob row)) := by
  obtain ⟨batch, hbatch, hbatchId⟩ := h
  have hsome : (w.batches.find? fun b => decide (b.batchId = batchId)).isSome = true :=
    List.find?_isSome.mpr ⟨batch, hbatch, decide_eq_true hbatchId⟩
  obtain ⟨found, hfound⟩ := Option.isSome_iff_exists.mp hsome
  obtain rfl : found.batchId = batchId := of_decide_eq_true
    (List.find?_some (p := fun b : Batch => decide (b.batchId = batchId)) hfound)
  obtain ⟨view, hview, hviewId, -, -, -, -, hjobs⟩ :=
    getBatchEndpoint_uuidStr repr otherDigit? isoformat hid hfound
  exact ⟨view, hview, hviewId, hjobs⟩

end Lookups

/-! ### The rows of a submission -/

section Submission

variable {w : World} {sha256 : Bytes → FileHash} {params : SubmissionParams} {userId : String}
  {k : SubmissionAnswers}

/-- The columns of an identity that a response shows. -/
def shownColumns (identity : JobId × BatchId × String × FileHash) : String × String × FileHash :=
  (uuidStr identity.1, identity.2.2.1, identity.2.2.2)

/-- The rows of a persisted batch show its new jobs. -/
theorem files_of_persisted {batch : Batch} {jobs : List Job} (h : Persisted w batch jobs) :
    (w.rowsOf batch.batchId).map
        (SummaryBody.file ∘ fun row => serializeSummary (jobToSummary (toJob row))) =
      jobs.map fun job => shownColumns (newRow batch job).identity := by
  have hrows := congrArg (List.map shownColumns)
    ((identities_rowsOf w batch.batchId).trans h.rows)
  rw [List.map_map, List.map_map] at hrows
  exact hrows

/-- So do the queued summaries. -/
theorem files_queued (sha256 : Bytes → FileHash) (params : SubmissionParams) (userId : String)
    (k : SubmissionAnswers) :
    (k.result sha256).queued.map (SummaryBody.file ∘ serializeSummary) =
      (k.jobs sha256).map fun job =>
        shownColumns (newRow (k.batch sha256 params userId) job).identity := by
  refine List.forall₂_eq_eq_eq ▸ List.forall₂_map_left_iff.mpr (List.forall₂_map_right_iff.mpr
    ((forall₂_queued sha256 k.batchId k.now k.files).imp fun summary job h => ?_))
  have hrow := h.2 (k.batch sha256 params userId) rfl
  exact Prod.ext (congrArg uuidStr hrow.id.symm)
    (Prod.ext hrow.filename.symm hrow.fileHash.symm)

/-- The identity behind the summary of a file. -/
theorem identity_of_answers {t : List Call} (hgrounded : Grounded t w)
    (ht : t = k.calls sha256 params userId)
    (hpersisted : Persisted w (k.batch sha256 params userId) (k.jobs sha256)) {a : FileAnswers}
    (ha : a ∈ k.files) :
    ∃ identity ∈ identities w, identity.1 = (a.summary sha256).jobId ∧
      identity.2.2.2 = (a.summary sha256).fileHash ∧
        ((serializeSummary (a.summary sha256)).status = JobStatus.queued.value →
          identity.2.1 = k.batchId ∧ identity.2.2.1 = (a.summary sha256).filename) := by
  rcases a.cases with ⟨job, hcached, hfound, -⟩ | ⟨hnew, -⟩
  · -- the completed job was found by the hash of the file
    have hlookup : ⟨.getJobByFileHash (sha256 a.file.content), .ok (some job)⟩ ∈ t := by
      have hcall : ⟨.getJobByFileHash (sha256 a.file.content), .ok a.existing⟩ ∈
          k.fileCalls sha256 := List.mem_flatMap.mpr ⟨a, ha, List.mem_cons_self⟩
      rw [ht, k.calls_split, ← hfound]
      exact List.mem_append_left _ (List.mem_append_right _ hcall)
    obtain ⟨hidentity, hhash⟩ := hgrounded.byHash _ _ hlookup
    have hstatus : JobStatus.cached.value ≠ JobStatus.queued.value := by decide
    rw [summary_of_cached hcached]
    exact ⟨job.identity, hidentity, rfl, hhash, fun h => absurd h hstatus⟩
  · have hjob : newJob (a.path k.batchId) a.file (sha256 a.file.content) k.now ∈ k.jobs sha256 :=
      List.mem_filterMap.mpr ⟨a, ha, job?_of_new hnew⟩
    have hmem := hpersisted.rows ▸ List.mem_map_of_mem
      (f := fun job => (newRow (k.batch sha256 params userId) job).identity) hjob
    rw [summary_of_new hnew]
    exact ⟨_, (List.mem_filter.mp hmem).1, rfl, rfl, fun _ => ⟨rfl, rfl⟩⟩

end Submission

/-! ### Runs -/

section Runs

variable {settings : Settings} {sha256 : Bytes → FileHash} {moves : List SystemMove}

theorem mem_drawnIds {P : System} {th : Serving} (hth : th ∈ P.threads) {id : ℕ}
    (h : ⟨.uuid4, .ok id⟩ ∈ th.trace) : id ∈ drawnIds P :=
  List.mem_flatMap.mpr ⟨th, hth, List.mem_filterMap.mpr ⟨_, h, rfl⟩⟩

/-- The identifier of a batch has been drawn. -/
theorem drawn_of_batch {batch : Batch}
    (hbatch : batch ∈ (reached settings sha256 moves).state.batches) :
    batch.batchId ∈ drawnIds (reached settings sha256 moves) := by
  have hexplained : ∀ batch : Batch, batch ∈ (reached settings sha256 moves).state.batches →
      (reached settings sha256 moves).Explained
        (fun (c : Call) batch => ∃ jobs, c.1 = Op.createBatch batch jobs) batch := by
    refine Pool.explained_exec (H := fun (w : World) batch => batch ∈ w.batches)
      (fun env op w batch hmem => ?_) (fun _ h => absurd h List.not_mem_nil) moves
    rcases batches_answer env op w with ⟨hsame, -⟩ | ⟨created, jobs, rfl, hcreate⟩
    · rw [hsame] at hmem
      exact Or.inl hmem
    · rw [(batches_createBatch? hcreate).2.1] at hmem
      rcases List.mem_append.mp hmem with hmem | hmem
      · exact Or.inl hmem
      · rw [List.mem_singleton.mp hmem]
        exact Or.inr ⟨jobs, rfl⟩
  obtain ⟨th, hth, ⟨op, r⟩, hc, jobs, hop⟩ := hexplained batch hbatch
  obtain ⟨pre, post, htrace, hcall⟩ := requestCall_of_mem hth hc
  obtain rfl : op = .createBatch batch jobs := hop
  obtain ⟨batchId, params, userId, now, rfl, hdrawn, -⟩ := hcall.createBatch
  exact mem_drawnIds hth (htrace ▸ List.mem_append_left _ hdrawn)

/-- The identifier of a job has been drawn. -/
theorem drawn_of_row {row : JobRow}
    (hrow : row ∈ (reached settings sha256 moves).state.jobs.table.rows) :
    row.id ∈ drawnIds (reached settings sha256 moves) := by
  obtain ⟨content, -, -, -, hfile⟩ := storedFile_reached hrow
  obtain ⟨th, hth, u, post, r, htrace⟩ := drawn_of_file hfile
  exact mem_drawnIds hth (by simp [htrace])

variable (repr otherDigit? isoformat)
  (hids : ∀ id ∈ drawnIds (reached settings sha256 moves), id < uuidBound)
include hids

/-- A job leads to its batch, which lists it. -/
theorem resolve_row {row : JobRow}
    (hrow : row ∈ (reached settings sha256 moves).state.jobs.table.rows) :
    ∃ detail view, getJobEndpoint repr otherDigit? isoformat
        (reached settings sha256 moves).state (uuidStr row.id) = .ok detail ∧
      detail.jobId = uuidStr row.id ∧
        getBatchEndpoint repr otherDigit? isoformat (reached settings sha256 moves).state
          detail.batchId = .ok view ∧
          view.batchId = detail.batchId ∧ detail.summary ∈ view.jobs := by
  obtain ⟨detail, hdetail, hsummary, hbatchId⟩ :=
    getJobEndpoint_of_row repr otherDigit? isoformat (hids _ (drawn_of_row hrow)) hrow
  have hfiled : Filed (reached settings sha256 moves).state := filed_reached moves
  obtain ⟨batch, hbatch, hid⟩ := hfiled row.identity (List.mem_map_of_mem hrow)
  obtain ⟨view, hview, hviewId, hjobs⟩ := getBatchEndpoint_of_mem repr otherDigit? isoformat
    (hids _ (hid ▸ drawn_of_batch hbatch)) ⟨batch, hbatch, hid⟩
  refine ⟨detail, view, hdetail, congrArg SummaryBody.jobId hsummary, ?_,
    hviewId.trans hbatchId.symm, ?_⟩
  · rw [hbatchId]
    exact hview
  · rw [hsummary, hjobs]
    exact List.mem_map_of_mem (List.mem_filter.mpr ⟨hrow, decide_eq_true rfl⟩)

/-- A batch leads to its jobs, which name it. -/
theorem resolve_batch {batch : Batch}
    (hbatch : batch ∈ (reached settings sha256 moves).state.batches) :
    ∃ view, getBatchEndpoint repr otherDigit? isoformat (reached settings sha256 moves).state
        (uuidStr batch.batchId) = .ok view ∧
      view.batchId = uuidStr batch.batchId ∧ ∀ entry ∈ view.jobs, ∃ detail,
        getJobEndpoint repr otherDigit? isoformat (reached settings sha256 moves).state
          entry.jobId = .ok detail ∧ detail.summary = entry ∧ detail.batchId = view.batchId := by
  obtain ⟨view, hview, hviewId, hjobs⟩ := getBatchEndpoint_of_mem repr otherDigit? isoformat
    (hids _ (drawn_of_batch hbatch)) ⟨batch, hbatch, rfl⟩
  refine ⟨view, hview, hviewId, fun entry hentry => ?_⟩
  rw [hjobs] at hentry
  obtain ⟨row, hrow, rfl⟩ := List.mem_map.mp hentry
  obtain ⟨hrow, hid⟩ := List.mem_filter.mp hrow
  obtain ⟨detail, hdetail, hsummary, hbatchId⟩ :=
    getJobEndpoint_of_row repr otherDigit? isoformat (hids _ (drawn_of_row hrow)) hrow
  refine ⟨detail, hdetail, hsummary, ?_⟩
  rw [hbatchId, hviewId, of_decide_eq_true hid]

/-- A job whose identity was seen leads to its record. -/
theorem resolve_identity {identity : JobId × BatchId × String × FileHash}
    (h : identity ∈ identities (reached settings sha256 moves).state) :
    ∃ detail, getJobEndpoint repr otherDigit? isoformat (reached settings sha256 moves).state
        (uuidStr identity.1) = .ok detail ∧ detail.jobId = uuidStr identity.1 ∧
      detail.batchId = uuidStr identity.2.1 ∧ detail.filename = identity.2.2.1 ∧
        detail.fileHash = identity.2.2.2 := by
  obtain ⟨row, rfl, hrow⟩ := exists_row_of_identity h
  obtain ⟨detail, hdetail, hjobId, hbatchId, hfilename, hhash, -, -⟩ :=
    getJobEndpoint_uuidStr repr otherDigit? isoformat
      (hids _ (drawn_of_row hrow))
      (((reached settings sha256 moves).state.jobs.table.mem_rows_iff row).mp hrow)
  exact ⟨detail, hdetail, hjobId, hbatchId, hfilename, hhash⟩

/-- A response of 202 leads to its batch and its jobs. -/
theorem resolve_response {th : Serving} (hth : th ∈ (reached settings sha256 moves).threads)
    {params : SubmissionParams} {userId : String} {k : SubmissionAnswers}
    (ht : th.trace = k.calls sha256 params userId) :
    ResponseResolves repr otherDigit? isoformat (reached settings sha256 moves).state params
      (serializeResult (k.result sha256)) := by
  have hcreated : k.createCall sha256 params userId ∈ th.trace := ht ▸ k.createCall_mem _ _ _
  have hpersisted := persisted_reached settings sha256 moves hth _ _ _ hcreated
  have hbatchId : (k.batch sha256 params userId).batchId < uuidBound := by
    refine hids _ (mem_drawnIds hth ?_)
    rw [ht, k.calls_eq]
    exact List.mem_cons_of_mem _ List.mem_cons_self
  refine ⟨?_, fun entry hentry => ?_⟩
  · obtain ⟨view, hview, hviewId, hcallback, hdeployment, hnode, hprogress, hjobs⟩ :=
      getBatchEndpoint_uuidStr repr otherDigit? isoformat hbatchId hpersisted.found
    refine ⟨view, hview, hviewId, hcallback, hdeployment, hnode, ?_, ?_⟩
    · rw [filter_queued_serializeResult, hjobs, List.map_map, List.map_map]
      exact (files_of_persisted hpersisted).trans (files_queued sha256 params userId k).symm
    · rw [hprogress, hjobs, List.length_map]
      exact List.length_map _
  · obtain ⟨summary, hsummary, rfl⟩ := List.mem_map.mp hentry
    obtain ⟨a, ha, rfl⟩ := List.mem_map.mp hsummary
    obtain ⟨identity, hidentity, hid, hhash, hqueued⟩ := identity_of_answers
      (grounded_reached.2 th hth) ht hpersisted ha
    obtain ⟨detail, hdetail, hjobId, hdetailBatch, hfilename, hdetailHash⟩ :=
      resolve_identity repr otherDigit? isoformat hids hidentity
    have hentryId : (serializeSummary (a.summary sha256)).jobId = uuidStr identity.1 :=
      congrArg uuidStr hid.symm
    refine ⟨detail, hentryId ▸ hdetail, hjobId.trans hentryId.symm, hdetailHash.trans hhash,
      fun hstatus => ?_⟩
    obtain ⟨hbatch, hname⟩ := hqueued hstatus
    exact ⟨hdetailBatch.trans (congrArg uuidStr hbatch), hfilename.trans hname⟩

end Runs

end Texts

end ZubotIngestion
