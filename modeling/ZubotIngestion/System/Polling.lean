import ZubotIngestion.Services.Conservation
import ZubotIngestion.Services.Polling
import ZubotIngestion.System.Submissions

/-!
# Submission and polling

The response of a submission is built from its summaries, one for each file. A poll of the batch is
built from the rows of the batch, one for each new job; a file that was answered by a completed job
has none there. So the two agree exactly when no file was a cache hit. A batch all of whose files
were has no row, and is reported `QUEUED` for good.

## Main definitions

* `Agrees`, `PollAgrees`: what the response and a poll should have in common.

## Main results

* `pollAgrees_iff_noneCached`: they agree, in every later state, iff no file was a cache hit.
-/

namespace ZubotIngestion

open Effects Store

/-- The name and the hash of the file a summary is about. -/
def JobSummary.file (summary : JobSummary) : String × FileHash :=
  (summary.filename, summary.fileHash)

/-- All jobs of the submission that were not answered from the cache are `COMPLETED`. -/
def AllDone (w : World) (result : BatchSubmissionResult) : Prop :=
  ∀ summary ∈ result.jobs, summary.status ≠ .cached →
    ∃ row : JobRow, w.jobs.find? summary.jobId = some row ∧ row.status = .completed

/-- What a poll shows agrees with the response of the submission. -/
structure Agrees (w : World) (result : BatchSubmissionResult) (view : BatchWithJobs) : Prop where
  /-- The same files, in any order. -/
  files : (view.jobs.map JobSummary.file).Perm (result.jobs.map JobSummary.file)
  total : view.progress.total = result.total
  status : AllDone w result → view.status = .completed

/-- A poll of the batch succeeds and agrees with the response of the submission. -/
def PollAgrees (w : World) (result : BatchSubmissionResult) : Prop :=
  ∃ view, JobService.getBatch w result.batchId = .ok view ∧ Agrees w result view

/-! ### The jobs and the summaries of a submission -/

section Answers

variable {sha256 : Bytes → FileHash} {k : SubmissionAnswers}

/-- The summaries of new files stand for the new jobs. -/
theorem summaries_eq_of_new (h : ∀ a ∈ k.files, a.cached? = none) :
    k.summaries sha256 = (k.jobs sha256).map jobToSummary := by
  have hfiles : ∀ as : List FileAnswers, (∀ a ∈ as, a.cached? = none) →
      as.map (FileAnswers.summary sha256) =
        (as.filterMap (FileAnswers.job? sha256 k.batchId k.now)).map jobToSummary := by
    intro as
    induction as with
    | nil => exact fun _ => rfl
    | cons a as ih =>
      intro hnew
      have ha := hnew a List.mem_cons_self
      rw [List.map_cons, List.filterMap_cons_some (job?_of_new ha), List.map_cons,
        ih fun b hb => hnew b (List.mem_cons_of_mem a hb), summary_of_new ha]
      rfl
  exact hfiles k.files h

/-- There are as many new jobs as files exactly when all files are new. -/
theorem length_jobs_eq_iff :
    (k.jobs sha256).length = k.files.length ↔ ∀ a ∈ k.files, a.cached? = none := by
  have hone : ∀ a : FileAnswers,
      (a.job? sha256 k.batchId k.now).isSome = true ↔ a.cached? = none := fun a => by
    rw [← not_iff_not, Bool.not_eq_true, Option.isSome_eq_false_iff, Option.isNone_iff_eq_none]
    exact job?_eq_none
  rw [SubmissionAnswers.jobs, List.length_filterMap_eq_countP, List.countP_eq_length]
  exact forall₂_congr fun a _ => hone a

/-- The summary of a new job of the batch. -/
theorem exists_summary_of_mem_jobs {job : Job} (h : job ∈ k.jobs sha256) :
    ∃ summary ∈ k.summaries sha256, summary.status ≠ .cached ∧ summary.jobId = job.jobId := by
  obtain ⟨a, ha, hjob⟩ := List.mem_filterMap.mp h
  rcases a.cases with ⟨existing, hcached, -, -⟩ | ⟨hnew, -⟩
  · rw [job?_of_cached hcached] at hjob
    cases hjob
  · rw [job?_of_new hnew] at hjob
    obtain rfl := Option.some.inj hjob
    refine ⟨a.summary sha256, List.mem_map_of_mem ha, ?_⟩
    rw [summary_of_new hnew]
    exact ⟨JobStatus.noConfusion, rfl⟩

end Answers

/-! ### Polls of a persisted batch -/

section Poll

variable {w : World} {batch : Batch} {jobs : List Job}

/-- The identities of the rows of a batch. -/
theorem identities_rowsOf (w : World) (batchId : BatchId) :
    (w.rowsOf batchId).map JobRow.identity =
      (identities w).filter fun identity => decide (identity.2.1 = batchId) := by
  rw [identities, List.filter_map]
  rfl

/-- A poll lists the files of the new jobs of the batch. -/
theorem Persisted.files (h : Persisted w batch jobs) :
    (((w.rowsOf batch.batchId).map toJob).map jobToSummary).map JobSummary.file =
      (jobs.map jobToSummary).map JobSummary.file := by
  have hrows := (identities_rowsOf w batch.batchId).trans h.rows
  have hfiles := congrArg (List.map fun identity : JobId × BatchId × String × FileHash =>
    identity.2.2) hrows
  rw [List.map_map, List.map_map] at hfiles
  rw [List.map_map, List.map_map, List.map_map]
  exact hfiles

/-- A batch has as many rows as new jobs. -/
theorem Persisted.length (h : Persisted w batch jobs) :
    (w.rowsOf batch.batchId).length = jobs.length := by
  simpa using congrArg List.length h.files

/-- If the rows of all new jobs are `COMPLETED`, so are all rows of the batch. -/
theorem Persisted.completed (h : Persisted w batch jobs)
    (hdone : ∀ job ∈ jobs, ∃ row : JobRow, w.jobs.find? job.jobId = some row ∧
      row.status = .completed) :
    ∀ row ∈ w.rowsOf batch.batchId, row.status = .completed := by
  intro row hrow
  have hrows := (identities_rowsOf w batch.batchId).trans h.rows
  have hidentity : row.identity ∈ jobs.map fun job => (newRow batch job).identity :=
    hrows ▸ List.mem_map_of_mem hrow
  obtain ⟨job, hjob, hsame⟩ := List.mem_map.mp hidentity
  have hid : job.jobId = row.id := congrArg Prod.fst hsame
  obtain ⟨row', hrow', hstatus⟩ := hdone job hjob
  -- the identifier is the primary key
  have hfound := (w.jobs.table.mem_rows_iff row).mp (List.mem_filter.mp hrow).1
  rw [hid] at hrow'
  obtain rfl := Option.some.inj (hfound.symm.trans hrow')
  exact hstatus

end Poll

/-! ### The response and the poll -/

/-- A poll agrees with the response of a submission, in any state in which its batch is persisted,
exactly if all its files are new. -/
theorem pollAgrees_iff {w : World} {sha256 : Bytes → FileHash} {params : SubmissionParams}
    {userId : String} {k : SubmissionAnswers} (hfiles : k.uploads ≠ [])
    (h : Persisted w (k.batch sha256 params userId) (k.jobs sha256)) :
    PollAgrees w (k.result sha256) ↔ ∀ a ∈ k.files, a.cached? = none := by
  obtain ⟨view, hview, hjobs, hprogress, hstatus⟩ := JobService.getBatch_of_find? h.found
  have hlength : (w.rowsOf k.batchId).length = (k.jobs sha256).length := h.length
  have htotal : view.progress.total = (k.jobs sha256).length := by
    rw [hprogress, ← hlength]
    exact List.length_map _
  have hresult : (k.result sha256).total = k.files.length := List.length_map _
  constructor
  · rintro ⟨view', hview', hagrees⟩
    obtain rfl := Except.ok.inj (hview.symm.trans hview')
    exact length_jobs_eq_iff.mp (htotal.symm.trans (hagrees.total.trans hresult))
  · intro hnew
    refine ⟨view, hview, ?_, ?_, fun hdone => ?_⟩
    · have hsummaries : (k.result sha256).jobs = (k.jobs sha256).map jobToSummary :=
        summaries_eq_of_new hnew
      rw [hjobs, hsummaries]
      exact .of_eq h.files
    · rw [htotal, hresult, length_jobs_eq_iff]
      exact hnew
    · have hcompleted := h.completed fun job hjob => by
        obtain ⟨summary, hsummary, hfresh, hid⟩ := exists_summary_of_mem_jobs hjob
        exact hid ▸ hdone summary hsummary hfresh
      rw [hstatus, aggregateBatchStatus_eq_completed_iff]
      refine ⟨fun hnone => ?_, fun s hs => ?_⟩
      · -- there is a file, so there is a new job and a row
        have hrows : (w.rowsOf k.batchId).length = 0 := by
          rw [← List.length_map JobRow.status]
          exact congrArg List.length hnone
        have hzero : k.files.length = 0 := by
          rw [← length_jobs_eq_iff.mpr hnew, ← hlength, hrows]
        exact hfiles (by rw [SubmissionAnswers.uploads, List.length_eq_zero_iff.mp hzero]; rfl)
      · obtain ⟨row, hrow, rfl⟩ := List.mem_map.mp hs
        exact Or.inl (hcompleted row hrow)

/-- In every reachable state, a poll agrees with the response of a submission that has returned
exactly if no file of it was a cache hit. -/
theorem pollAgrees_iff_noneCached (settings : Settings) (sha256 : Bytes → FileHash)
    (moves : List SystemMove) (th : Serving)
    (hth : th ∈ (reached settings sha256 moves).threads) (result : BatchSubmissionResult)
    (hresult : th.outcome? = some (.ok (.submitted result))) :
    PollAgrees (reached settings sha256 moves).state result ↔ NoneCached th.trace := by
  obtain ⟨params, userId, k, -, hfiles, ht, rfl⟩ := script_of_submitted hth hresult
  have hcreated : k.createCall sha256 params userId ∈ th.trace := ht ▸ k.createCall_mem _ _ _
  have hpersisted := persisted_reached settings sha256 moves hth _ _ _ hcreated
  rw [pollAgrees_iff hfiles hpersisted, ht, k.calls_split, noneCached_iff rfl]
  exact fun c hc => isEnqueue_of_mem_enqueueCalls hc

/-! ### Two submissions -/

/-- The batch of one new PDF agrees with its response exactly if its query misses the cache. -/
theorem pollAgrees_iff_noneCached_submittedPlan :
    ∃ th ∈ (reached plainSettings oneDigest submittedPlan).threads, ∃ result,
      th.outcome? = some (.ok (.submitted result)) ∧
        (PollAgrees (reached plainSettings oneDigest submittedPlan).state result ↔
          NoneCached th.trace) :=
  ⟨_, List.mem_cons_self, _, rfl,
    pollAgrees_iff_noneCached plainSettings oneDigest submittedPlan _ List.mem_cons_self _ rfl⟩

/-- One PDF is submitted and extracted, and then submitted again, as batch `3`. -/
def resubmittedPlan : List SystemMove :=
  submittedPlan ++ .start (.extract 2 0) :: calls 1 30 (.calm 0 .auto) ++
    .start planUpload :: calls 2 10 (.calm 3 .auto)

set_option maxRecDepth 2048 in
/-- The second batch has no row. -/
theorem not_pollAgrees_resubmittedPlan :
    ¬∀ (settings : Settings) (sha256 : Bytes → FileHash) (moves : List SystemMove) (th : Serving),
      th ∈ (reached settings sha256 moves).threads → ∀ result,
        th.outcome? = some (.ok (.submitted result)) →
          PollAgrees (reached settings sha256 moves).state result := by
  intro h
  have hthread : ∃ th, (reached plainSettings oneDigest resubmittedPlan).threads[2]? = some th ∧
      ∃ result, th.outcome? = some (.ok (.submitted result)) ∧ result.batchId = 3 ∧
        result.total = 1 :=
    ⟨_, rfl, _, rfl, rfl, rfl⟩
  have hpoll : ∃ view, JobService.getBatch
      (reached plainSettings oneDigest resubmittedPlan).state 3 = .ok view ∧
        view.progress.total = 0 :=
    ⟨_, rfl, rfl⟩
  obtain ⟨th, hth, result, hresult, hid, hone⟩ := hthread
  obtain ⟨view, hview, hzero⟩ := hpoll
  obtain ⟨view', hview', hagrees⟩ := h plainSettings oneDigest resubmittedPlan th
    (List.mem_of_getElem? hth) result hresult
  rw [hid, hview] at hview'
  obtain rfl := Except.ok.inj hview'
  have htotal := hagrees.total
  rw [hzero, hone] at htotal
  cases htotal

end ZubotIngestion
