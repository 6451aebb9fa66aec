import ZubotIngestion.Services.Delivery
import ZubotIngestion.Services.SubmissionRun

/-!
# The calls of a submission

Every call a submission can make, and what it has done by then. A file is written right behind
drawing the identifier that names it, and only if it has passed the validation; a batch is persisted
when the files of all its jobs are written, and a task is enqueued behind the confirmed transaction
that has its row. What a submission guarantees of a call is read off this list.

## Main definitions

* `WrittenJob`: the file of a new job has been written.
* `SubmissionCall`: the calls of a submission, each with the calls before it.

## Main results

* `submitBatch_calls`: a submission makes no other calls.
-/

namespace ZubotIngestion

open Effects

/-- The job is a new one of the batch, for a valid file that has been written under its
identifier. -/
def WrittenJob (settings : Settings) (sha256 : Bytes → FileHash) (batchId : BatchId)
    (t : List Call) (job : Job) : Prop :=
  ∃ file now, uploadError? settings file = none ∧
    ⟨.writeBytes ⟨tempPdfRoot, batchId, job.jobId⟩ file.content, .ok ()⟩ ∈ t ∧
      job = newJob ⟨tempPdfRoot, batchId, job.jobId⟩ file (sha256 file.content) now

theorem WrittenJob.mono {settings : Settings} {sha256 : Bytes → FileHash} {batchId : BatchId}
    {t t' : List Call} {job : Job} (h : WrittenJob settings sha256 batchId t job) (ht : t ⊆ t') :
    WrittenJob settings sha256 batchId t' job := by
  obtain ⟨file, now, hvalid, hwrite, hjob⟩ := h
  exact ⟨file, now, hvalid, ht hwrite, hjob⟩

/-- A call of a submission, and the calls made before it. -/
inductive SubmissionCall (settings : Settings) (sha256 : Bytes → FileHash) :
    List Call → Op → Prop
  | now (t : List Call) : SubmissionCall settings sha256 t .now
  | uuid4 (t : List Call) : SubmissionCall settings sha256 t .uuid4
  | mkdir (t : List Call) (batchId : BatchId) :
      SubmissionCall settings sha256 t (.mkdir tempPdfRoot batchId)
  | lookup (t : List Call) (file : UploadedFile) :
      SubmissionCall settings sha256 t (.getJobByFileHash (sha256 file.content))
  /-- The identifier of the job has just been drawn. -/
  | write (t : List Call) (batchId : BatchId) (jobId : JobId) (file : UploadedFile)
      (hvalid : uploadError? settings file = none) :
      SubmissionCall settings sha256 (t ++ [⟨.uuid4, .ok jobId⟩])
        (.writeBytes ⟨tempPdfRoot, batchId, jobId⟩ file.content)
  /-- The identifier of the batch has been drawn, and the files of all new jobs have been
  written. -/
  | create (t : List Call) (batchId : BatchId) (jobs : List Job) (params : SubmissionParams)
      (userId : String) (now : Timestamp) (hbatch : ⟨.uuid4, .ok batchId⟩ ∈ t)
      (hjobs : ∀ job ∈ jobs, WrittenJob settings sha256 batchId t job) :
      SubmissionCall settings sha256 t
        (.createBatch (newBatch batchId jobs params userId now) jobs)
  /-- The transaction with the row of the job has been confirmed. -/
  | enqueue (t : List Call) (batch : Batch) (jobs : List Job) (created : Batch)
      (hcreate : ⟨.createBatch batch jobs, .ok created⟩ ∈ t) (job : Job) (hjob : job ∈ jobs) :
      SubmissionCall settings sha256 t (.enqueueExtraction job.jobId)

section Submission

variable {settings : Settings} {sha256 : Bytes → FileHash} {batchId : BatchId}

/-- What the deduplication pass promises: the files of its new jobs have been written. -/
def PassPost (settings : Settings) (sha256 : Bytes → FileHash) (batchId : BatchId)
    (t t' : List Call) (r : Except PyException (List JobSummary × List Job)) : Prop :=
  t <+: t' ∧ ∀ summaries jobs, r = .ok (summaries, jobs) →
    ∀ job ∈ jobs, WrittenJob settings sha256 batchId t' job

theorem submitFile_calls (now : Timestamp) {file : UploadedFile}
    (hvalid : uploadError? settings file = none) (t : List Call) :
    Program.Safe Sensible (SubmissionCall settings sha256)
      (fun t' r => t <+: t' ∧ ∀ summary job?, r = .ok (summary, job?) →
        ∀ job ∈ job?, WrittenJob settings sha256 batchId t' job)
      (submitFile (sha256 file.content) batchId now file) t := by
  have hprepends : ∀ u : List Call, t <+: t ++ u := fun u => List.prefix_append t u
  refine Program.Safe.perform_bind (.lookup t file)
    (fun _ _ => ⟨hprepends _, fun _ _ h => nomatch h⟩) fun existing _ => ?_
  cases existing.filter fun job => decide (job.status = .completed) with
  | some job =>
    refine ⟨hprepends _, fun summary job? h => ?_⟩
    obtain ⟨-, rfl⟩ := Prod.mk.inj (Except.ok.inj h)
    exact fun _ h => nomatch h
  | none =>
    refine Program.Safe.perform_bind (.uuid4 _)
      (fun _ _ => ⟨by rw [List.append_assoc]; exact hprepends _, fun _ _ h => nomatch h⟩)
      fun jobId _ => ?_
    refine Program.Safe.perform_bind (.write _ batchId jobId file hvalid)
      (fun _ _ => ⟨by simp only [List.append_assoc]; exact hprepends _, fun _ _ h => nomatch h⟩)
      fun _ _ => ?_
    refine ⟨by simp only [List.append_assoc]; exact hprepends _, fun summary job? h job hjob => ?_⟩
    obtain ⟨-, rfl⟩ := Prod.mk.inj (Except.ok.inj h)
    obtain rfl := Option.some.inj hjob
    exact ⟨file, now, hvalid, List.mem_append_right _ List.mem_cons_self, rfl⟩

theorem submitFiles_calls (now : Timestamp) {files : List UploadedFile}
    (hvalid : ∀ file ∈ files, uploadError? settings file = none) (t : List Call) :
    Program.Safe Sensible (SubmissionCall settings sha256)
      (PassPost settings sha256 batchId t) (submitFiles sha256 batchId now files) t := by
  induction files generalizing t with
  | nil =>
    refine ⟨List.prefix_refl t, fun summaries jobs h => ?_⟩
    obtain ⟨-, rfl⟩ := Prod.mk.inj (Except.ok.inj h)
    exact fun _ h => nomatch h
  | cons file files ih =>
    obtain ⟨hfile, hrest⟩ := List.forall_mem_cons.mp hvalid
    refine (submitFile_calls now hfile t).bind (fun t₁ first hfirst => ?_)
      fun t₁ exc hexc => ⟨hexc.1, fun _ _ h => nomatch h⟩
    refine (ih hrest t₁).bind (fun t₂ rest hpost => ?_)
      fun t₂ exc hexc => ⟨hfirst.1.trans hexc.1, fun _ _ h => nomatch h⟩
    refine ⟨hfirst.1.trans hpost.1, fun summaries jobs h job hjob => ?_⟩
    obtain ⟨-, rfl⟩ := Prod.mk.inj (Except.ok.inj h)
    rcases List.mem_append.mp hjob with hjob | hjob
    · exact (hfirst.2 first.1 first.2 rfl job (Option.mem_toList.mp hjob)).mono hpost.1.subset
    · exact hpost.2 rest.1 rest.2 rfl job hjob

theorem enqueueAll_calls {batch : Batch} {all : List Job} {created : Batch} {jobs : List Job}
    (hjobs : jobs ⊆ all) {t : List Call} (ht : ⟨.createBatch batch all, .ok created⟩ ∈ t) :
    Program.Safe Sensible (SubmissionCall settings sha256) NoPromise (enqueueAll jobs) t := by
  induction jobs generalizing t with
  | nil => trivial
  | cons job jobs ih =>
    obtain ⟨hjob, hrest⟩ := List.cons_subset.mp hjobs
    exact Program.Safe.perform_bind (.enqueue t batch all created ht job hjob) (fun _ _ => trivial)
      fun _ _ => ih hrest (List.mem_append_left _ ht)

end Submission

/-- A submission makes no other calls. -/
theorem submitBatch_calls (settings : Settings) (sha256 : Bytes → FileHash)
    (files : List UploadedFile) (params : SubmissionParams) (userId : String) :
    Program.Safe Sensible (SubmissionCall settings sha256) NoPromise
      (submitBatch settings sha256 files params userId) [] := by
  unfold submitBatch
  split_ifs
  · trivial
  cases hvalid : files.findSome? (uploadError? settings) with
  | some exc => trivial
  | none =>
    refine Program.Safe.perform_bind (.now _) (fun _ _ => trivial) fun now _ => ?_
    refine Program.Safe.perform_bind (.uuid4 _) (fun _ _ => trivial) fun batchId _ => ?_
    refine Program.Safe.perform_bind (.mkdir _ batchId) (fun _ _ => trivial) fun _ _ => ?_
    refine (submitFiles_calls now (List.findSome?_eq_none_iff.mp hvalid) _).bind
      (fun t submitted hpass => ?_) fun _ _ _ => trivial
    have hdrawn : ⟨.uuid4, .ok batchId⟩ ∈ t := hpass.1.subset (by simp)
    refine Program.Safe.perform_bind
      (.create t batchId submitted.2 params userId now hdrawn
        (hpass.2 submitted.1 submitted.2 rfl)) (fun _ _ => trivial) fun created _ => ?_
    exact (enqueueAll_calls (List.Subset.refl _)
      (List.mem_append_right _ List.mem_cons_self)).bind (fun _ _ _ => trivial)
      fun _ _ _ => trivial

end ZubotIngestion
