import ZubotIngestion.Services.JobService
import ZubotIngestion.Services.Journaling

/-!
# One batch submission

What `submit_batch` asks of the database: it updates no row, it inserts only new jobs, and every
summary it marks `CACHED` stands for a job that the deduplication query has returned.

## Main definitions

* `IsNewJob`, `SubmissionGuarantee`, `SubmissionPost`.

## Main results

* `submitBatch_safe`: every submission keeps `SubmissionGuarantee` and satisfies `SubmissionPost`.
-/

namespace ZubotIngestion

open Effects

/-- A job as `submit_batch` makes it. -/
def IsNewJob (job : Job) : Prop :=
  ∃ path file fileHash now, job = newJob path file fileHash now

/-- Whether a call inserts rows. -/
def Op.isInsertion : Op → Bool
  | .createBatch .. => true
  | _ => false

/-- What a submission guarantees of its next call. -/
def SubmissionGuarantee (_ : List Call) (op : Op) : Prop :=
  op.isUpdate = false ∧ ∀ batch jobs, op = .createBatch batch jobs → ∀ job ∈ jobs, IsNewJob job

/-- A summary that is not `CACHED`, or one of a `COMPLETED` job that was loaded. -/
def SummaryOf (P : Job → Prop) (summary : JobSummary) : Prop :=
  summary.status = .cached → ∃ job, P job ∧ job.status = .completed ∧
    summary.jobId = job.jobId ∧ summary.result = job.result

/-- What a finished submission promises, if the deduplication query returned jobs satisfying `P`
only. -/
def SubmissionPost (P : Job → Prop) (_ : List Call)
    (r : Except PyException BatchSubmissionResult) : Prop :=
  ∀ result, r = .ok result → ∀ summary ∈ result.jobs, SummaryOf P summary

section Rules

variable {P : Job → Prop}

/-- A call that is neither an update nor the insertion of a batch may be made at any point. -/
theorem submissionGuarantee_of_read {op : Op} (hu : op.isUpdate = false)
    (hi : op.isInsertion = false) (trace : List Call) : SubmissionGuarantee trace op := by
  refine ⟨hu, fun batch jobs h => ?_⟩
  rw [h] at hi
  cases hi

/-- What the deduplication pass promises of summaries and new jobs. -/
def FilesPost (P : Job → Prop) (_ : List Call)
    (r : Except PyException (List JobSummary × List Job)) : Prop :=
  ∀ summaries jobs, r = .ok (summaries, jobs) →
    (∀ summary ∈ summaries, SummaryOf P summary) ∧ ∀ job ∈ jobs, IsNewJob job

/-- What it promises for one file. -/
def FilePost (P : Job → Prop) (_ : List Call)
    (r : Except PyException (JobSummary × Option Job)) : Prop :=
  ∀ summary job?, r = .ok (summary, job?) → SummaryOf P summary ∧ ∀ job ∈ job?, IsNewJob job

theorem submitFile_safe (fileHash : FileHash) (batchId : BatchId) (now : Timestamp)
    (file : UploadedFile) (t : List Call) :
    Program.Safe (Trusted P) SubmissionGuarantee (FilePost P)
      (submitFile fileHash batchId now file) t := by
  refine Program.Safe.perform_bind (submissionGuarantee_of_read rfl rfl _)
    (fun _ _ _ _ h => nomatch h) fun existing hexisting => ?_
  cases hcached : existing.filter fun job => decide (job.status = .completed) with
  | some job =>
    obtain ⟨rfl, hdone⟩ := Option.filter_eq_some_iff.mp hcached
    rintro summary job? h
    obtain ⟨rfl, rfl⟩ := Prod.mk.inj (Except.ok.inj h)
    exact ⟨fun _ => ⟨job, hexisting.loads, of_decide_eq_true hdone, rfl, rfl⟩, fun _ h => nomatch h⟩
  | none =>
    refine Program.Safe.perform_bind (submissionGuarantee_of_read rfl rfl _)
      (fun _ _ _ _ h => nomatch h) fun jobId _ => ?_
    refine Program.Safe.perform_bind (submissionGuarantee_of_read rfl rfl _)
      (fun _ _ _ _ h => nomatch h) fun _ _ => ?_
    rintro summary job? h
    obtain ⟨rfl, rfl⟩ := Prod.mk.inj (Except.ok.inj h)
    refine ⟨fun h => (nomatch h), fun job hjob => ?_⟩
    obtain rfl := Option.some.inj hjob
    exact ⟨_, _, _, _, rfl⟩

theorem submitFiles_safe (sha256 : Bytes → FileHash) (batchId : BatchId) (now : Timestamp)
    (files : List UploadedFile) (t : List Call) :
    Program.Safe (Trusted P) SubmissionGuarantee (FilesPost P)
      (submitFiles sha256 batchId now files) t := by
  induction files generalizing t with
  | nil =>
    rintro summaries jobs h
    obtain ⟨rfl, rfl⟩ := Prod.mk.inj (Except.ok.inj h)
    exact ⟨fun _ h => (nomatch h), fun _ h => nomatch h⟩
  | cons file files ih =>
    refine (submitFile_safe (sha256 file.content) batchId now file t).bind
      (fun t first hfirst => ?_) fun _ _ _ _ _ h => nomatch h
    refine (ih t).bind (fun t rest hrest => ?_) fun _ _ _ _ _ h => nomatch h
    obtain ⟨hsummary, hjob⟩ := hfirst first.1 first.2 rfl
    obtain ⟨hsummaries, hjobs⟩ := hrest rest.1 rest.2 rfl
    rintro summaries jobs h
    obtain ⟨rfl, rfl⟩ := Prod.mk.inj (Except.ok.inj h)
    refine ⟨List.forall_mem_cons.mpr ⟨hsummary, hsummaries⟩, fun job h => ?_⟩
    rcases List.mem_append.mp h with h | h
    · exact hjob job (Option.mem_toList.mp h)
    · exact hjobs job h

theorem enqueueAll_safe {Q : List Call → Except PyException Unit → Prop} (hQ : ∀ t r, Q t r)
    (jobs : List Job) (t : List Call) :
    Program.Safe (Trusted P) SubmissionGuarantee Q (enqueueAll jobs) t := by
  induction jobs generalizing t with
  | nil => exact hQ t (.ok ())
  | cons job jobs ih =>
    exact Program.Safe.perform_bind (submissionGuarantee_of_read rfl rfl _)
      (fun _ _ => hQ _ _) fun _ _ => ih _

end Rules

/-- Every submission keeps `SubmissionGuarantee` and satisfies `SubmissionPost`. -/
theorem submitBatch_safe (P : Job → Prop) (settings : Settings) (sha256 : Bytes → FileHash)
    (files : List UploadedFile) (params : SubmissionParams) (userId : String) :
    Program.Safe (Trusted P) SubmissionGuarantee (SubmissionPost P)
      (submitBatch settings sha256 files params userId) [] := by
  unfold submitBatch
  split_ifs
  · exact fun _ h => nomatch h
  cases files.findSome? (uploadError? settings) with
  | some exc => exact fun _ h => nomatch h
  | none =>
    refine Program.Safe.perform_bind (submissionGuarantee_of_read rfl rfl _)
      (fun _ _ _ h => nomatch h) fun now _ => ?_
    refine Program.Safe.perform_bind (submissionGuarantee_of_read rfl rfl _)
      (fun _ _ _ h => nomatch h) fun batchId _ => ?_
    refine Program.Safe.perform_bind (submissionGuarantee_of_read rfl rfl _)
      (fun _ _ _ h => nomatch h) fun _ _ => ?_
    refine (submitFiles_safe sha256 batchId now files _).bind (fun t submitted hsubmitted => ?_)
      fun _ _ _ _ h => nomatch h
    obtain ⟨hsummaries, hjobs⟩ := hsubmitted submitted.1 submitted.2 rfl
    refine Program.Safe.perform_bind ⟨rfl, fun _ jobs h => ?_⟩ (fun _ _ _ h => nomatch h)
      fun _ _ => ?_
    · obtain ⟨-, rfl⟩ := Op.createBatch.inj h
      exact hjobs
    refine (enqueueAll_safe (fun _ _ => trivial) submitted.2 _).bind (fun t _ _ => ?_)
      fun _ _ _ _ h => nomatch h
    rintro result h
    obtain rfl := Except.ok.inj h
    exact hsummaries

end ZubotIngestion
