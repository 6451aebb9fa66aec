import ZubotIngestion.Effects.Trace
import ZubotIngestion.Services.SubmissionRun

/-!
# The script of a submission

The calls `submit_batch` makes, in the order it makes them, are decided by the answers it gets. A
submission is rejected before its first call, or it makes all calls of its script and returns, or
it breaks off in the script with the exception of a call.

## Main definitions

* `FileAnswers`, `SubmissionAnswers`: the answers, with the calls, the summaries, the new jobs and
  the result they lead to.
* `rejection?`: the exception of a rejected submission.

## Main results

* `submitBatch_runs`: the three ways a submission ends.
-/

namespace ZubotIngestion

open Effects

/-- The answers the deduplication pass gets for one file. -/
structure FileAnswers where
  file : UploadedFile
  /-- What the deduplication query returns. -/
  existing : Option Job
  /-- The identifier of the new job, if one is made. -/
  jobId : JobId

namespace FileAnswers

variable (sha256 : Bytes → FileHash) (batchId : BatchId) (now : Timestamp) (a : FileAnswers)

/-- The completed job that answers the file. -/
def cached? : Option Job := a.existing.filter fun job => decide (job.status = .completed)

/-- The path of the new file. -/
def path : PdfPath := ⟨tempPdfRoot, batchId, a.jobId⟩

/-- The calls that store a new file. -/
def storeCalls : List Call :=
  match a.cached? with
  | some _ => []
  | none => [⟨.uuid4, .ok a.jobId⟩, ⟨.writeBytes (a.path batchId) a.file.content, .ok ()⟩]

/-- The calls for the file. -/
def calls : List Call :=
  ⟨.getJobByFileHash (sha256 a.file.content), .ok a.existing⟩ :: a.storeCalls batchId

/-- The summary of the file. -/
def summary : JobSummary :=
  match a.cached? with
  | some job => cachedSummary a.file (sha256 a.file.content) job
  | none => queuedSummary a.file (sha256 a.file.content) a.jobId

/-- The new job of the file, if no completed job answers it. -/
def job? : Option Job :=
  match a.cached? with
  | some _ => none
  | none => some (newJob (a.path batchId) a.file (sha256 a.file.content) now)

end FileAnswers

/-- The call that enqueues a job. -/
def enqueueCall (job : Job) : Call := ⟨.enqueueExtraction job.jobId, .ok ()⟩

/-- Answers for a file that is not served. -/
def FileAnswers.unserved (file : UploadedFile) : FileAnswers := ⟨file, none, 0⟩

@[simp] theorem map_file_unserved (files : List UploadedFile) :
    (files.map FileAnswers.unserved).map FileAnswers.file = files := by
  simp [Function.comp_def, FileAnswers.unserved]

/-- The answers a submission gets. -/
structure SubmissionAnswers where
  now : Timestamp
  batchId : BatchId
  files : List FileAnswers
  /-- What `create_batch` returns. -/
  created : Batch

namespace SubmissionAnswers

variable (sha256 : Bytes → FileHash) (params : SubmissionParams) (userId : String)
  (k : SubmissionAnswers)

/-- The submitted files. -/
def uploads : List UploadedFile := k.files.map FileAnswers.file

/-- The summaries, one for each file. -/
def summaries : List JobSummary := k.files.map (FileAnswers.summary sha256)

/-- The new jobs. -/
def jobs : List Job := k.files.filterMap (FileAnswers.job? sha256 k.batchId k.now)

/-- The new batch. -/
def batch : Batch := newBatch k.batchId (k.jobs sha256) params userId k.now

/-- The calls before the deduplication pass. -/
def openingCalls : List Call :=
  [⟨.now, .ok k.now⟩, ⟨.uuid4, .ok k.batchId⟩, ⟨.mkdir tempPdfRoot k.batchId, .ok ()⟩]

/-- The calls of the deduplication pass. -/
def fileCalls : List Call := k.files.flatMap (FileAnswers.calls sha256 k.batchId)

/-- The call that persists the batch. -/
def createCall : Call :=
  ⟨.createBatch (k.batch sha256 params userId) (k.jobs sha256), .ok k.created⟩

/-- The calls that enqueue the new jobs. -/
def enqueueCalls : List Call := (k.jobs sha256).map enqueueCall

/-- All calls of the submission. -/
def calls : List Call :=
  k.openingCalls ++ k.fileCalls sha256 ++ [k.createCall sha256 params userId] ++
    k.enqueueCalls sha256

theorem calls_eq : k.calls sha256 params userId =
    ⟨.now, .ok k.now⟩ :: ⟨.uuid4, .ok k.batchId⟩ :: ⟨.mkdir tempPdfRoot k.batchId, .ok ()⟩ ::
      (k.fileCalls sha256 ++ k.createCall sha256 params userId :: k.enqueueCalls sha256) := by
  simp [calls, openingCalls]

/-- The script around the call that persists the batch. -/
theorem calls_split : k.calls sha256 params userId = k.openingCalls ++ k.fileCalls sha256 ++
    ⟨.createBatch (k.batch sha256 params userId) (k.jobs sha256), .ok k.created⟩ ::
      k.enqueueCalls sha256 := by
  simp [calls, createCall]

theorem createCall_mem : k.createCall sha256 params userId ∈ k.calls sha256 params userId :=
  List.mem_append_left _ (List.mem_append_right _ List.mem_cons_self)

/-- What the submission returns. -/
def result : BatchSubmissionResult where
  batchId := k.batchId
  jobs := k.summaries sha256
  total := (k.summaries sha256).length
  pollUrl := buildPollUrl k.batchId

end SubmissionAnswers

/-- The exception with which the validation pass rejects a submission. -/
def rejection? (settings : Settings) (files : List UploadedFile) : Option PyException :=
  if files = [] then some (.error "InvalidPDFError" "No files provided")
  else files.findSome? (uploadError? settings)

/-! ### The parts of a submission -/

/-- One file is served as its answers say, or a call for it raises. -/
theorem submitFile_runs {sha256 : Bytes → FileHash} {batchId : BatchId} {now : Timestamp}
    {file : UploadedFile} {t : List Call} {r : Except PyException (JobSummary × Option Job)}
    (h : (submitFile (sha256 file.content) batchId now file).Runs t r) :
    ∃ a : FileAnswers, a.file = file ∧
      (t = a.calls sha256 batchId ∧ r = .ok (a.summary sha256, a.job? sha256 batchId now) ∨
        ∃ exc, r = .error exc ∧ BrokeOff (a.calls sha256 batchId) t exc) := by
  rcases Program.runs_perform_bind.mp h with
    ⟨(existing : Option Job), t', rfl, hfound⟩ | ⟨exc, rfl, rfl⟩
  · cases hcached : existing.filter fun job => decide (job.status = .completed) with
    | some job =>
      rw [hcached] at hfound
      obtain ⟨rfl, rfl⟩ := Program.runs_ret.mp hfound
      refine ⟨⟨file, existing, 0⟩, rfl, Or.inl ?_⟩
      simp [FileAnswers.calls, FileAnswers.storeCalls, FileAnswers.summary, FileAnswers.job?,
        FileAnswers.cached?, hcached]
    | none =>
      rw [hcached] at hfound
      have hcalls : ∀ jobId, FileAnswers.calls sha256 batchId ⟨file, existing, jobId⟩ =
          [⟨.getJobByFileHash (sha256 file.content), .ok existing⟩, ⟨.uuid4, .ok jobId⟩,
            ⟨.writeBytes ⟨tempPdfRoot, batchId, jobId⟩ file.content, .ok ()⟩] := by
        intro jobId
        simp [FileAnswers.calls, FileAnswers.storeCalls, FileAnswers.path, FileAnswers.cached?,
          hcached]
      rcases Program.runs_perform_bind.mp hfound with
        ⟨(jobId : ℕ), t', rfl, hwrite⟩ | ⟨exc, rfl, rfl⟩
      · refine ⟨⟨file, existing, jobId⟩, rfl, ?_⟩
        rcases Program.runs_perform_bind.mp hwrite with ⟨_, t', rfl, hret⟩ | ⟨exc, rfl, rfl⟩
        · obtain ⟨rfl, rfl⟩ := Program.runs_ret.mp hret
          refine Or.inl ⟨(hcalls jobId).symm, ?_⟩
          simp [FileAnswers.summary, FileAnswers.job?, FileAnswers.path, FileAnswers.cached?,
            hcached]
        · refine Or.inr ⟨exc, rfl, ?_⟩
          rw [hcalls]
          exact ((BrokeOff.head _ _ _ _).cons _).cons _
      · refine ⟨⟨file, existing, 0⟩, rfl, Or.inr ⟨exc, rfl, ?_⟩⟩
        rw [hcalls]
        exact (BrokeOff.head _ _ _ _).cons _
  · exact ⟨⟨file, none, 0⟩, rfl, Or.inr ⟨exc, rfl, BrokeOff.head _ _ _ _⟩⟩

/-- The deduplication pass serves the files in order, up to the first call that raises. -/
theorem submitFiles_runs {sha256 : Bytes → FileHash} {batchId : BatchId} {now : Timestamp}
    {files : List UploadedFile} {t : List Call}
    {r : Except PyException (List JobSummary × List Job)}
    (h : (submitFiles sha256 batchId now files).Runs t r) :
    ∃ as : List FileAnswers, as.map FileAnswers.file = files ∧
      (t = as.flatMap (FileAnswers.calls sha256 batchId) ∧
          r = .ok (as.map (FileAnswers.summary sha256),
            as.filterMap (FileAnswers.job? sha256 batchId now)) ∨
        ∃ exc, r = .error exc ∧
          BrokeOff (as.flatMap (FileAnswers.calls sha256 batchId)) t exc) := by
  induction files generalizing t r with
  | nil =>
    obtain ⟨rfl, rfl⟩ := Program.runs_ret.mp h
    exact ⟨[], rfl, Or.inl ⟨rfl, rfl⟩⟩
  | cons file files ih =>
    rw [submitFiles, Program.runs_bind] at h
    rcases h with ⟨t₁, t₂, first, rfl, hfirst, h⟩ | ⟨exc, hfirst, rfl⟩
    · obtain ⟨a, rfl, ⟨rfl, hok⟩ | ⟨exc, hexc, -⟩⟩ := submitFile_runs hfirst
      swap
      · cases hexc
      obtain rfl := Except.ok.inj hok
      rcases Program.runs_bind.mp h with ⟨t₂, t₃, rest, rfl, hrest, hret⟩ | ⟨exc, hrest, rfl⟩
      · obtain ⟨as, rfl, ⟨rfl, hok⟩ | ⟨exc, hexc, -⟩⟩ := ih hrest
        swap
        · cases hexc
        obtain rfl := Except.ok.inj hok
        obtain ⟨rfl, rfl⟩ := Program.runs_ret.mp hret
        refine ⟨a :: as, rfl, Or.inl ⟨by simp, ?_⟩⟩
        cases hjob : a.job? sha256 batchId now <;> simp [hjob]
      · obtain ⟨as, rfl, ⟨-, hok⟩ | ⟨exc', hexc, hbroke⟩⟩ := ih hrest
        · cases hok
        obtain rfl := Except.error.inj hexc
        exact ⟨a :: as, rfl, Or.inr ⟨exc, rfl, by simpa using hbroke.prepend _⟩⟩
    · obtain ⟨a, rfl, ⟨-, hok⟩ | ⟨exc', hexc, hbroke⟩⟩ := submitFile_runs hfirst
      · cases hok
      obtain rfl := Except.error.inj hexc
      refine ⟨a :: files.map FileAnswers.unserved, ?_, Or.inr ⟨exc, rfl, ?_⟩⟩
      · rw [List.map_cons, map_file_unserved]
      · exact hbroke.append _

/-- The jobs are enqueued in order, up to the first call that raises. -/
theorem enqueueAll_runs {jobs : List Job} {t : List Call} {r : Except PyException Unit}
    (h : (enqueueAll jobs).Runs t r) :
    t = jobs.map enqueueCall ∧ r = .ok () ∨
      ∃ exc, r = .error exc ∧ BrokeOff (jobs.map enqueueCall) t exc := by
  induction jobs generalizing t with
  | nil => exact Or.inl (Program.runs_ret.mp h)
  | cons job jobs ih =>
    rcases Program.runs_perform_bind.mp h with ⟨_, t', rfl, hrest⟩ | ⟨exc, rfl, rfl⟩
    · rcases ih hrest with ⟨rfl, rfl⟩ | ⟨exc, rfl, hbroke⟩
      · exact Or.inl ⟨rfl, rfl⟩
      · exact Or.inr ⟨exc, rfl, hbroke.cons _⟩
    · exact Or.inr ⟨exc, rfl, BrokeOff.head _ _ _ _⟩

/-- The batch is persisted and its jobs are enqueued, up to the first call that raises. -/
theorem persist_runs {batch : Batch} {jobs : List Job} {result : BatchSubmissionResult}
    {t : List Call} {r : Except PyException BatchSubmissionResult}
    (h : Program.Runs (do
      let _ ← perform (.createBatch batch jobs)
      enqueueAll jobs
      return result) t r) :
    ∃ created : Batch,
      t = ⟨.createBatch batch jobs, .ok created⟩ :: jobs.map enqueueCall ∧ r = .ok result ∨
        ∃ exc, r = .error exc ∧
          BrokeOff ((⟨.createBatch batch jobs, .ok created⟩ : Call) :: jobs.map enqueueCall) t
            exc := by
  rcases Program.runs_perform_bind.mp h with
    ⟨(created : Batch), t', rfl, henqueue⟩ | ⟨exc, rfl, rfl⟩
  · refine ⟨created, ?_⟩
    rcases Program.runs_bind.mp henqueue with ⟨t₁, t₂, _, rfl, hloop, hret⟩ | ⟨exc, hloop, rfl⟩
    · obtain ⟨rfl, rfl⟩ := Program.runs_ret.mp hret
      rcases enqueueAll_runs hloop with ⟨rfl, -⟩ | ⟨exc, hexc, -⟩
      · exact Or.inl ⟨by rw [List.append_nil], rfl⟩
      · cases hexc
    · rcases enqueueAll_runs hloop with ⟨-, hok⟩ | ⟨exc', hexc, hbroke⟩
      · cases hok
      · obtain rfl := Except.error.inj hexc
        exact Or.inr ⟨exc, rfl, hbroke.cons _⟩
  · exact ⟨batch, Or.inr ⟨exc, rfl, BrokeOff.head _ _ _ _⟩⟩

/-- How a submission that is not rejected ends: with all calls of a script, or broken off in
one. -/
def Scripted (sha256 : Bytes → FileHash) (files : List UploadedFile) (params : SubmissionParams)
    (userId : String) (t : List Call) (r : Except PyException BatchSubmissionResult) : Prop :=
  ∃ k : SubmissionAnswers, k.uploads = files ∧
    (t = k.calls sha256 params userId ∧ r = .ok (k.result sha256) ∨
      ∃ exc, r = .error exc ∧ BrokeOff (k.calls sha256 params userId) t exc)

section

variable {sha256 : Bytes → FileHash} {files : List UploadedFile} {params : SubmissionParams}
  {userId : String}

/-- A submission that breaks off in a script, its files not all served. -/
theorem scripted_of_brokeOff {k : SubmissionAnswers} {t : List Call} {exc : PyException}
    (hk : k.uploads = files) (h : BrokeOff (k.calls sha256 params userId) t exc) :
    Scripted sha256 files params userId t (.error exc) :=
  ⟨k, hk, Or.inr ⟨exc, rfl, h⟩⟩

/-- The script from the deduplication pass on. -/
theorem files_runs {now : Timestamp} {batchId : BatchId} {t : List Call}
    {r : Except PyException BatchSubmissionResult}
    (h : Program.Runs (do
      let (summaries, jobs) ← submitFiles sha256 batchId now files
      let _ ← perform (.createBatch (newBatch batchId jobs params userId now) jobs)
      enqueueAll jobs
      return ⟨batchId, summaries, summaries.length, buildPollUrl batchId⟩) t r) :
    Scripted sha256 files params userId
      (⟨.now, .ok now⟩ :: ⟨.uuid4, .ok batchId⟩ :: ⟨.mkdir tempPdfRoot batchId, .ok ()⟩ :: t)
      r := by
  rcases Program.runs_bind.mp h with
    ⟨t₁, t₂, pass, rfl, hpass, hpersist⟩ | ⟨exc, hpass, rfl⟩
  · obtain ⟨as, hfiles, ⟨rfl, hok⟩ | ⟨exc, hexc, -⟩⟩ := submitFiles_runs hpass
    swap
    · cases hexc
    obtain rfl := Except.ok.inj hok
    obtain ⟨created, hend⟩ := persist_runs hpersist
    let k : SubmissionAnswers := ⟨now, batchId, as, created⟩
    have hcalls : k.calls sha256 params userId = [⟨.now, .ok now⟩, ⟨.uuid4, .ok batchId⟩,
        ⟨.mkdir tempPdfRoot batchId, .ok ()⟩] ++ (k.fileCalls sha256 ++
          (k.createCall sha256 params userId :: k.enqueueCalls sha256)) := k.calls_eq _ _ _
    rcases hend with ⟨rfl, rfl⟩ | ⟨exc, rfl, hbroke⟩
    · exact ⟨k, hfiles, Or.inl ⟨hcalls.symm, rfl⟩⟩
    · refine scripted_of_brokeOff (k := k) hfiles ?_
      rw [hcalls]
      exact (hbroke.prepend _).prepend _
  · obtain ⟨as, hfiles, ⟨-, hok⟩ | ⟨exc', hexc, hbroke⟩⟩ := submitFiles_runs hpass
    · cases hok
    obtain rfl := Except.error.inj hexc
    let k : SubmissionAnswers := ⟨now, batchId, as, newBatch batchId [] params userId now⟩
    refine scripted_of_brokeOff (k := k) hfiles ?_
    rw [k.calls_eq]
    exact (((hbroke.append _).cons _).cons _).cons _

end

/-- A submission is rejected before its first call, or it makes all calls of its script and
returns, or it breaks off in the script with the exception of a call. -/
theorem submitBatch_runs {settings : Settings} {sha256 : Bytes → FileHash}
    {files : List UploadedFile} {params : SubmissionParams} {userId : String} {t : List Call}
    {r : Except PyException BatchSubmissionResult}
    (h : (submitBatch settings sha256 files params userId).Runs t r) :
    (∃ exc, rejection? settings files = some exc ∧ t = [] ∧ r = .error exc) ∨
      rejection? settings files = none ∧ Scripted sha256 files params userId t r := by
  rw [submitBatch] at h
  by_cases hnone : files = []
  · rw [if_pos hnone] at h
    obtain ⟨rfl, rfl⟩ := Program.runs_raise.mp h
    exact Or.inl ⟨_, if_pos hnone, rfl, rfl⟩
  rw [if_neg hnone] at h
  have hrejection : rejection? settings files = files.findSome? (uploadError? settings) :=
    if_neg hnone
  cases hinvalid : files.findSome? (uploadError? settings) with
  | some exc =>
    rw [hinvalid] at h hrejection
    obtain ⟨rfl, rfl⟩ := Program.runs_raise.mp h
    exact Or.inl ⟨exc, hrejection, rfl, rfl⟩
  | none =>
    rw [hinvalid] at h hrejection
    refine Or.inr ⟨hrejection, ?_⟩
    -- A break-off leaves answers open; they are filled in arbitrarily.
    let k (now : Timestamp) (batchId : BatchId) : SubmissionAnswers :=
      ⟨now, batchId, files.map FileAnswers.unserved, newBatch batchId [] params userId now⟩
    have hk : ∀ now batchId, (k now batchId).uploads = files := fun _ _ => map_file_unserved files
    have hcalls := fun now batchId => (k now batchId).calls_eq sha256 params userId
    rcases Program.runs_perform_bind.mp h with
      ⟨(now : Timestamp), t, rfl, hbatch⟩ | ⟨exc, rfl, rfl⟩
    · rcases Program.runs_perform_bind.mp hbatch with
        ⟨(batchId : ℕ), t, rfl, hmkdir⟩ | ⟨exc, rfl, rfl⟩
      · rcases Program.runs_perform_bind.mp hmkdir with ⟨_, t, rfl, hfiles⟩ | ⟨exc, rfl, rfl⟩
        · exact files_runs hfiles
        · refine scripted_of_brokeOff (hk now batchId) ?_
          rw [hcalls]
          exact ((BrokeOff.head _ _ _ _).cons _).cons _
      · refine scripted_of_brokeOff (hk now 0) ?_
        rw [hcalls]
        exact (BrokeOff.head _ _ _ _).cons _
    · refine scripted_of_brokeOff (hk 0 0) ?_
      rw [hcalls]
      exact BrokeOff.head _ _ _ _

/-! ### Every script is followed by some submission -/

theorem runs_submitFile (sha256 : Bytes → FileHash) (batchId : BatchId) (now : Timestamp)
    (a : FileAnswers) :
    (submitFile (sha256 a.file.content) batchId now a.file).Runs (a.calls sha256 batchId)
      (.ok (a.summary sha256, a.job? sha256 batchId now)) := by
  refine Program.runs_perform_bind.mpr (Or.inl ⟨a.existing, a.storeCalls batchId, rfl, ?_⟩)
  simp only [FileAnswers.storeCalls, FileAnswers.summary, FileAnswers.job?]
  cases hcached : a.cached? with
  | some job =>
    rw [FileAnswers.cached?] at hcached
    rw [hcached]
    exact .ret _
  | none =>
    rw [FileAnswers.cached?] at hcached
    rw [hcached]
    refine Program.runs_perform_bind.mpr (Or.inl ⟨a.jobId, _, rfl, ?_⟩)
    exact Program.runs_perform_bind.mpr (Or.inl ⟨(), [], rfl, .ret _⟩)

theorem runs_submitFiles (sha256 : Bytes → FileHash) (batchId : BatchId) (now : Timestamp)
    (as : List FileAnswers) :
    (submitFiles sha256 batchId now (as.map FileAnswers.file)).Runs
      (as.flatMap (FileAnswers.calls sha256 batchId))
      (.ok (as.map (FileAnswers.summary sha256),
        as.filterMap (FileAnswers.job? sha256 batchId now))) := by
  induction as with
  | nil => exact .ret _
  | cons a as ih =>
    rw [List.flatMap_cons]
    refine Program.runs_bind.mpr (Or.inl ⟨_, _, _, rfl, runs_submitFile sha256 batchId now a, ?_⟩)
    refine Program.runs_bind.mpr (Or.inl ⟨_, [], _, (List.append_nil _).symm, ih, ?_⟩)
    refine Program.runs_ret.mpr ⟨rfl, ?_⟩
    cases hjob : a.job? sha256 batchId now <;> simp [hjob]

theorem runs_enqueueAll (jobs : List Job) :
    (enqueueAll jobs).Runs (jobs.map enqueueCall) (.ok ()) := by
  induction jobs with
  | nil => exact .ret ()
  | cons job jobs ih => exact Program.runs_perform_bind.mpr (Or.inl ⟨(), _, rfl, ih⟩)

/-- A submission that is not rejected follows every script for its files. -/
theorem runs_submitBatch {settings : Settings} {k : SubmissionAnswers}
    (h : rejection? settings k.uploads = none) (sha256 : Bytes → FileHash)
    (params : SubmissionParams) (userId : String) :
    (submitBatch settings sha256 k.uploads params userId).Runs (k.calls sha256 params userId)
      (.ok (k.result sha256)) := by
  have hnone : k.uploads ≠ [] := by
    intro hnil
    rw [rejection?, if_pos hnil] at h
    cases h
  rw [rejection?, if_neg hnone] at h
  rw [submitBatch, if_neg hnone, h, k.calls_eq]
  refine Program.runs_perform_bind.mpr (Or.inl ⟨k.now, _, rfl, ?_⟩)
  refine Program.runs_perform_bind.mpr (Or.inl ⟨k.batchId, _, rfl, ?_⟩)
  refine Program.runs_perform_bind.mpr (Or.inl ⟨(), _, rfl, ?_⟩)
  refine Program.runs_bind.mpr
    (Or.inl ⟨_, _, _, rfl, runs_submitFiles sha256 k.batchId k.now k.files, ?_⟩)
  refine Program.runs_perform_bind.mpr (Or.inl ⟨k.created, _, rfl, ?_⟩)
  exact Program.runs_bind.mpr (Or.inl ⟨_, [], (), (List.append_nil _).symm,
    runs_enqueueAll (k.jobs sha256), .ret _⟩)

/-- The parameters of a submission without a callback. -/
def planParams : SubmissionParams := ⟨.auto, none, none, none⟩

/-- The answers of a submission of one new PDF, as job `2` of batch `1`. -/
def planAnswers : SubmissionAnswers where
  now := 1
  batchId := 1
  files := [⟨⟨"plan.pdf", pdfMagic⟩, none, 2⟩]
  created := newBatch 1 [] planParams "reviewer" 1

/-- The submission of that PDF follows its script. -/
theorem runs_plan :
    (submitBatch ⟨"", 1000⟩ (fun _ => "9f86d081") planAnswers.uploads planParams "reviewer").Runs
      (planAnswers.calls (fun _ => "9f86d081") planParams "reviewer")
      (.ok (planAnswers.result fun _ => "9f86d081")) :=
  runs_submitBatch (by decide) _ _ _

/-! ### Where the batch is persisted -/

/-- What was enqueued is all that follows the batch. -/
def Op.isEnqueue : Op → Bool
  | .enqueueExtraction _ => true
  | _ => false

theorem isEnqueue_of_mem_enqueueCalls {sha256 : Bytes → FileHash} {k : SubmissionAnswers} {c : Call}
    (hc : c ∈ k.enqueueCalls sha256) : c.1.isEnqueue = true := by
  obtain ⟨job, -, rfl⟩ := List.mem_map.mp hc
  rfl

/-- The calls of the deduplication pass, one file at a time. -/
theorem mem_fileCalls {sha256 : Bytes → FileHash} {k : SubmissionAnswers} {c : Call}
    (hc : c ∈ k.fileCalls sha256) : ∃ a ∈ k.files,
      c = ⟨.getJobByFileHash (sha256 a.file.content), .ok a.existing⟩ ∨
        a.cached? = none ∧ (c = ⟨.uuid4, .ok a.jobId⟩ ∨
          c = ⟨.writeBytes (a.path k.batchId) a.file.content, .ok ()⟩) := by
  obtain ⟨a, ha, hc⟩ := List.mem_flatMap.mp hc
  refine ⟨a, ha, ?_⟩
  rcases List.mem_cons.mp hc with rfl | hc
  · exact Or.inl rfl
  rw [FileAnswers.storeCalls] at hc
  cases hcached : a.cached? with
  | some job =>
    rw [hcached] at hc
    cases hc
  | none =>
    rw [hcached] at hc
    exact Or.inr ⟨rfl, by simpa using hc⟩

/-- What is called before the batch is persisted. -/
theorem of_mem_before {sha256 : Bytes → FileHash} {k : SubmissionAnswers} {p : Op → Prop}
    (hnow : p .now) (huuid : p .uuid4) (hmkdir : ∀ root batchId, p (.mkdir root batchId))
    (hlookup : ∀ fileHash, p (.getJobByFileHash fileHash))
    (hwrite : ∀ path content, p (.writeBytes path content)) {c : Call}
    (hc : c ∈ k.openingCalls ++ k.fileCalls sha256) : p c.1 := by
  rcases List.mem_append.mp hc with hc | hc
  · simp only [SubmissionAnswers.openingCalls, List.mem_cons, List.not_mem_nil, or_false] at hc
    rcases hc with rfl | rfl | rfl
    · exact hnow
    · exact huuid
    · exact hmkdir _ _
  · obtain ⟨a, -, rfl | ⟨-, rfl | rfl⟩⟩ := mem_fileCalls hc
    · exact hlookup _
    · exact huuid
    · exact hwrite _ _

/-- Nothing is inserted or enqueued before the batch is persisted. -/
theorem notLate_of_mem_before {sha256 : Bytes → FileHash} {k : SubmissionAnswers} {c : Call}
    (hc : c ∈ k.openingCalls ++ k.fileCalls sha256) :
    c.1.isInsertion = false ∧ c.1.isEnqueue = false :=
  of_mem_before (p := fun op => op.isInsertion = false ∧ op.isEnqueue = false) ⟨rfl, rfl⟩
    ⟨rfl, rfl⟩ (fun _ _ => ⟨rfl, rfl⟩) (fun _ => ⟨rfl, rfl⟩) (fun _ _ => ⟨rfl, rfl⟩) hc

/-- A trace that breaks off among the enqueueing calls enqueues only. -/
theorem isEnqueue_of_brokeOff {sha256 : Bytes → FileHash} {k : SubmissionAnswers} {t : List Call}
    {exc : PyException} (h : BrokeOff (k.enqueueCalls sha256) t exc) {c : Call} (hc : c ∈ t) :
    c.1.isEnqueue = true := by
  rcases h.mem hc with hc | ⟨-, v, hc⟩
  · exact isEnqueue_of_mem_enqueueCalls hc
  · exact (isEnqueue_of_mem_enqueueCalls hc :)

/-- A script that was followed beyond the deduplication pass. -/
theorem split_at_createBatch {sha256 : Bytes → FileHash} {params : SubmissionParams}
    {userId : String} {k : SubmissionAnswers} {t : List Call}
    (h : t = k.calls sha256 params userId ∨ ∃ exc, BrokeOff (k.calls sha256 params userId) t exc)
    {c : Call} (hmem : c ∈ t) (hc : c.1.isInsertion = true) :
    ∃ created rest, t = k.openingCalls ++ k.fileCalls sha256 ++
      ⟨(k.createCall sha256 params userId).1, created⟩ :: rest ∧
        ∀ c ∈ rest, c.1.isEnqueue = true := by
  have hbefore : ∀ c' ∈ k.openingCalls ++ k.fileCalls sha256, c'.1 ≠ c.1 := by
    intro c' hc' heq
    rw [← heq, (notLate_of_mem_before hc').1] at hc
    cases hc
  rcases h with rfl | ⟨exc, hbroke⟩
  · exact ⟨_, _, k.calls_split _ _ _, fun c hc => isEnqueue_of_mem_enqueueCalls hc⟩
  rw [k.calls_split] at hbroke
  rcases hbroke.append_cases with hearly | ⟨t', rfl, hlate⟩
  · rcases hearly.mem hmem with hin | ⟨-, v, hin⟩
    · exact (hbefore c hin rfl).elim
    · exact (hbefore ⟨c.1, .ok v⟩ hin rfl).elim
  · rcases hlate.cons_cases with rfl | ⟨rest, rfl, hrest⟩
    · exact ⟨_, [], rfl, fun _ h => nomatch h⟩
    · exact ⟨_, rest, rfl, fun c hc => isEnqueue_of_brokeOff hrest hc⟩

/-- A submission that got to persisting its batch has answered all its files before, and enqueued
jobs only afterwards. -/
theorem exists_of_createBatch {settings : Settings} {sha256 : Bytes → FileHash}
    {files : List UploadedFile} {params : SubmissionParams} {userId : String} {t : List Call}
    {r : Except PyException BatchSubmissionResult}
    (h : (submitBatch settings sha256 files params userId).Runs t r) {batch : Batch}
    {jobs : List Job} {created : Except PyException Batch}
    (hmem : ⟨.createBatch batch jobs, created⟩ ∈ t) :
    ∃ k : SubmissionAnswers, k.uploads = files ∧ batch = k.batch sha256 params userId ∧
      jobs = k.jobs sha256 ∧ ∃ rest, t = k.openingCalls ++ k.fileCalls sha256 ++
        ⟨.createBatch batch jobs, created⟩ :: rest ∧ ∀ c ∈ rest, c.1.isEnqueue = true := by
  rcases submitBatch_runs h with ⟨exc, -, rfl, -⟩ | ⟨-, k, hk, hend⟩
  · cases hmem
  have hfollowed : t = k.calls sha256 params userId ∨
      ∃ exc, BrokeOff (k.calls sha256 params userId) t exc := by
    rcases hend with ⟨ht, -⟩ | ⟨exc, -, hbroke⟩
    · exact Or.inl ht
    · exact Or.inr ⟨exc, hbroke⟩
  obtain ⟨created', rest, rfl, hrest⟩ := split_at_createBatch hfollowed hmem rfl
  -- The batch is persisted once, so the given call is the one of the script.
  have hone : (⟨.createBatch batch jobs, created⟩ : Call) =
      ⟨(k.createCall sha256 params userId).1, created'⟩ := by
    rcases List.mem_append.mp hmem with hin | hin
    · exact absurd (notLate_of_mem_before hin).1 Bool.true_eq_false_eq_False
    · rcases List.mem_cons.mp hin with heq | hin
      · exact heq
      · exact absurd (hrest _ hin) Bool.false_ne_true
  cases hone
  exact ⟨k, hk, rfl, rfl, rest, rfl, hrest⟩

/-! ### Cache hits -/

/-- Every deduplication query of the run was answered with a completed job. -/
def AllCached (t : List Call) : Prop :=
  ∀ fileHash, ∀ existing : Option Job, ⟨.getJobByFileHash fileHash, .ok existing⟩ ∈ t →
    ∃ job, existing = some job ∧ job.status = .completed

/-- No deduplication query of the run was answered with a completed job. -/
def NoneCached (t : List Call) : Prop :=
  ∀ fileHash, ∀ existing : Option Job, ⟨.getJobByFileHash fileHash, .ok existing⟩ ∈ t →
    ¬∃ job, existing = some job ∧ job.status = .completed

theorem cached?_isSome (a : FileAnswers) :
    a.cached? ≠ none ↔ ∃ job, a.existing = some job ∧ job.status = .completed := by
  rw [Option.ne_none_iff_exists']
  refine exists_congr fun job => ?_
  rw [FileAnswers.cached?, Option.filter_eq_some_iff, decide_eq_true_eq]

theorem job?_eq_none {sha256 : Bytes → FileHash} {batchId : BatchId} {now : Timestamp}
    {a : FileAnswers} : a.job? sha256 batchId now = none ↔ a.cached? ≠ none := by
  rw [FileAnswers.job?]
  cases a.cached? <;> simp

/-- A batch has no new job exactly when every file is answered by a completed job. -/
theorem jobs_eq_nil {sha256 : Bytes → FileHash} {k : SubmissionAnswers} :
    k.jobs sha256 = [] ↔ ∀ a ∈ k.files, a.cached? ≠ none := by
  rw [SubmissionAnswers.jobs, List.filterMap_eq_nil_iff]
  exact forall₂_congr fun a _ => job?_eq_none

/-- The deduplication queries of a run that got beyond its deduplication pass are those for the
files. -/
theorem forall_lookups_iff {p : Option Job → Prop} {sha256 : Bytes → FileHash}
    {k : SubmissionAnswers} {c : Call} {rest : List Call} (hc : c.1.isInsertion = true)
    (hrest : ∀ c ∈ rest, c.1.isEnqueue = true) :
    (∀ fileHash, ∀ existing : Option Job, ⟨.getJobByFileHash fileHash, .ok existing⟩ ∈
      k.openingCalls ++ k.fileCalls sha256 ++ c :: rest → p existing) ↔
        ∀ a ∈ k.files, p a.existing := by
  constructor
  · intro h a ha
    refine h (sha256 a.file.content) a.existing ?_
    refine List.mem_append_left _ (List.mem_append_right _ ?_)
    exact List.mem_flatMap.mpr ⟨a, ha, List.mem_cons_self⟩
  · intro h fileHash existing hmem
    rcases List.mem_append.mp hmem with hmem | hmem
    · rcases List.mem_append.mp hmem with hmem | hmem
      · simp [SubmissionAnswers.openingCalls] at hmem
      · obtain ⟨a, ha, heq | ⟨-, heq | heq⟩⟩ := mem_fileCalls hmem
        · cases heq
          exact h a ha
        · cases heq
        · cases heq
    · rcases List.mem_cons.mp hmem with rfl | hmem
      · cases hc
      · cases hrest _ hmem

/-- In such a run all queries hit the cache exactly when all files are answered by completed
jobs. -/
theorem allCached_iff {sha256 : Bytes → FileHash} {k : SubmissionAnswers} {c : Call}
    {rest : List Call} (hc : c.1.isInsertion = true) (hrest : ∀ c ∈ rest, c.1.isEnqueue = true) :
    AllCached (k.openingCalls ++ k.fileCalls sha256 ++ c :: rest) ↔
      ∀ a ∈ k.files, a.cached? ≠ none := by
  rw [AllCached, forall_lookups_iff hc hrest]
  exact forall₂_congr fun a _ => (cached?_isSome a).symm

/-- In such a run no query hits the cache exactly when all files are new. -/
theorem noneCached_iff {sha256 : Bytes → FileHash} {k : SubmissionAnswers} {c : Call}
    {rest : List Call} (hc : c.1.isInsertion = true) (hrest : ∀ c ∈ rest, c.1.isEnqueue = true) :
    NoneCached (k.openingCalls ++ k.fileCalls sha256 ++ c :: rest) ↔
      ∀ a ∈ k.files, a.cached? = none := by
  rw [NoneCached, forall_lookups_iff hc hrest]
  refine forall₂_congr fun a _ => ?_
  rw [← cached?_isSome, not_not]

end ZubotIngestion
