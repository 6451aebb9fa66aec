import ZubotIngestion.Api.ReviewRun
import ZubotIngestion.Services.Histories
import ZubotIngestion.Services.SubmissionRun
import ZubotIngestion.Services.TaskRun

/-!
# The services together

Workers, submissions and reviewers run at the same time on one database. A run of the whole system
starts requests at any time and lets any of them make its next call, so it interleaves them at
their calls; a request that is never stepped again has crashed. Redeliveries and retries are
attempts of the extraction task started again, with any retry count.

## Main definitions

* `Request`, `Reply`, `launch`.
* `reached`: the state after a run.
* `Guarantee`, `Outcome`: the specification of each request.

## Main results

* `launch_safe`: every request satisfies its specification.
* `reached_sound`: in every reachable state, the journal holds what the services write only.
* `serviceHistory_reached`: every job row has a history the services can produce.
-/

namespace ZubotIngestion

open Effects Store

/-- What the system is asked to do. -/
inductive Request : Type where
  /-- One attempt of the extraction task, with the number of attempts before it. -/
  | extract (jobId : JobId) (retries : ℕ)
  | submit (files : List UploadedFile) (params : SubmissionParams) (userId : String)
  | decide (jobId : PathJobId) (decision : Decision)

/-- What a request returns. -/
inductive Reply : Type where
  | extracted (reply : TaskReply)
  | submitted (result : BatchSubmissionResult)
  | decided (response : ReviewResponse)

/-- The program that serves a request. -/
def launch (settings : Settings) (sha256 : Bytes → FileHash) : Request → Prog Reply
  | .extract jobId retries => Reply.extracted <$> extractDocumentTask settings jobId retries
  | .submit files params userId =>
    Reply.submitted <$> submitBatch settings sha256 files params userId
  | .decide jobId decision => Reply.decided <$> decision.run jobId

/-- The database with the requests running on it. -/
abbrev System : Type := Pool services PyException Reply Request World

/-- One request on its way. -/
abbrev Serving : Type := Thread services PyException Reply Request

/-- A request arrives, or one makes its next call. -/
abbrev SystemMove : Type := Move Request Env

/-- The system after some moves, from the empty database. -/
def reached (settings : Settings) (sha256 : Bytes → FileHash) (moves : List SystemMove) : System :=
  Pool.exec (launch settings sha256) answer ⟨.empty, []⟩ moves

/-! ### The specification of a request -/

/-- What a request guarantees of its next call. -/
def Guarantee : Request → List Call → Op → Prop
  | .extract jobId retries => TaskGuarantee jobId retries
  | .submit .. => SubmissionGuarantee
  | .decide jobId decision => DecisionGuarantee jobId decision

/-- What a finished request promises, if all jobs it loaded satisfy `P`. -/
def Outcome (settings : Settings) (P : Job → Prop) :
    Request → List Call → Except PyException Reply → Prop
  | .extract jobId retries, t, r =>
    ∃ r', AttemptPost settings jobId retries t r' ∧ r = r'.map Reply.extracted
  | .submit .., t, r => ∃ r', SubmissionPost P t r' ∧ r = r'.map Reply.submitted
  | .decide jobId decision, t, r =>
    ∃ r', DecisionPost jobId decision t r' ∧ r = r'.map Reply.decided

/-- Every request satisfies its specification. -/
theorem launch_safe (settings : Settings) (sha256 : Bytes → FileHash) (P : Job → Prop)
    (request : Request) :
    (launch settings sha256 request).Safe (Trusted P) (Guarantee request)
      (Outcome settings P request) [] := by
  cases request with
  | extract jobId retries =>
    have hsafe := (extractDocumentTask_safe settings jobId retries).mono
      (fun _ _ (h : Trusted P _ _) => h.sensible) (fun _ _ h => h) (fun _ _ h => h)
    exact hsafe.map Reply.extracted (fun t reply h => ⟨.ok reply, h, rfl⟩)
      fun t e h => ⟨.error e, h, rfl⟩
  | submit files params userId =>
    exact (submitBatch_safe P settings sha256 files params userId).map Reply.submitted
      (fun t result h => ⟨.ok result, h, rfl⟩) fun t e h => ⟨.error e, h, rfl⟩
  | decide jobId decision =>
    have hsafe := (decision_safe jobId decision).mono
      (fun _ _ (h : Trusted P _ _) => h.sensible) (fun _ _ h => h) (fun _ _ h => h)
    exact hsafe.map Reply.decided (fun t response h => ⟨.ok response, h, rfl⟩)
      fun t e h => ⟨.error e, h, rfl⟩

/-- A submission that has returned has kept its promise. -/
theorem Outcome.submitted {settings : Settings} {P : Job → Prop} {request : Request}
    {t : List Call} {result : BatchSubmissionResult}
    (h : Outcome settings P request t (.ok (.submitted result))) :
    SubmissionPost P t (.ok result) := by
  cases request with
  | extract jobId retries =>
    obtain ⟨r', -, hr'⟩ := h
    cases r' <;> cases hr'
  | submit files params userId =>
    obtain ⟨r', hpost, hr'⟩ := h
    cases r' <;> cases hr'
    exact hpost
  | decide jobId decision =>
    obtain ⟨r', -, hr'⟩ := h
    cases r' <;> cases hr'

/-- An attempt of the extraction task that has returned is described by its answers. -/
theorem Outcome.extracted {settings : Settings} {P : Job → Prop} {request : Request}
    {t : List Call} {reply : TaskReply}
    (h : Outcome settings P request t (.ok (.extracted reply))) :
    ∃ k : TaskAnswers, t = k.calls settings ∧ reply = k.reply settings := by
  cases request with
  | extract jobId retries =>
    obtain ⟨r', hpost, hr'⟩ := h
    cases r' <;> cases hr'
    obtain ⟨k, -, ht, hreply⟩ := hpost.returned reply rfl
    exact ⟨k, ht, hreply⟩
  | submit files params userId =>
    obtain ⟨r', -, hr'⟩ := h
    cases r' <;> cases hr'
  | decide jobId decision =>
    obtain ⟨r', -, hr'⟩ := h
    cases r' <;> cases hr'

/-! ### What the services write -/

/-- The entries the services make. -/
def ServiceEntry : JobEntry → Prop
  | .inserted row => FreshRow row
  | .wrote _ u => ServiceUpdate u
  | .noted _ => True

/-- The journal holds entries of the services only. -/
def Journaled (w : World) : Prop := ∀ e ∈ w.jobs.journal, ServiceEntry e

theorem freshRow_newRow {batch : Batch} {job : Job} (h : IsNewJob job) :
    FreshRow (newRow batch job) := by
  obtain ⟨path, file, fileHash, now, rfl⟩ := h
  exact ⟨rfl, rfl, rfl, rfl, rfl⟩

theorem AttemptUpdate.serviceUpdate {jobId jobId' : JobId} {op : Op} (h : AttemptUpdate jobId op)
    {f : Timestamp → JobUpdate} (hu : op.update? = some (jobId', f)) (now : Timestamp) :
    ServiceUpdate (f now) := by
  rcases h with (_ | ⟨result, ms⟩ | _) | exc
  · obtain ⟨-, rfl⟩ := Prod.mk.inj (Option.some.inj hu)
    exact .processing now
  · obtain ⟨-, rfl⟩ := Prod.mk.inj (Option.some.inj hu)
    exact .result result ms now
  · obtain ⟨-, rfl⟩ := Prod.mk.inj (Option.some.inj hu)
    exact .review now
  · obtain ⟨-, rfl⟩ := Prod.mk.inj (Option.some.inj hu)
    exact .failed (formatError exc) now

/-- The update of a guaranteed call is one of the services. -/
theorem Guarantee.serviceUpdate {request : Request} {t : List Call} {op : Op}
    (hop : Guarantee request t op) {jobId : JobId} {f : Timestamp → JobUpdate}
    (hu : op.update? = some (jobId, f)) (now : Timestamp) : ServiceUpdate (f now) := by
  have hupdate : op.isUpdate = true := by rw [Op.isUpdate, hu, Option.isSome_some]
  cases request with
  | extract jobId' retries =>
    exact ((hop.2 hupdate).mem (List.mem_append_right _ (List.mem_singleton_self op))).serviceUpdate
      hu now
  | submit files params userId =>
    exact absurd (hupdate.symm.trans hop.1) Bool.true_eq_false_eq_False
  | decide jobId' decision =>
    obtain ⟨-, parsedId, job, reviewedAt, -, -, -, rfl⟩ := hop.2 hupdate
    obtain ⟨-, rfl⟩ := Prod.mk.inj (Option.some.inj hu)
    cases decision with
    | approve body => exact .approved job.result body reviewedAt now
    | reject body => exact .failed (rejectionMessage body) now

/-- The jobs a guaranteed call inserts are new. -/
theorem Guarantee.isNewJob {request : Request} {t : List Call} {batch : Batch} {jobs : List Job}
    (hop : Guarantee request t (.createBatch batch jobs)) : ∀ job ∈ jobs, IsNewJob job := by
  cases request with
  | extract jobId retries => exact absurd hop.1 Bool.true_eq_false_eq_False
  | submit files params userId => exact hop.2 batch jobs rfl
  | decide jobId decision => exact absurd hop.1 Bool.true_eq_false_eq_False

/-- A guaranteed call adds entries of the services only. -/
theorem journaled_answer {request : Request} {t : List Call} {op : Op}
    (hop : Guarantee request t op) (env : Env) {w : World} (hw : Journaled w) :
    Journaled (answer env op w).2 := by
  obtain ⟨es, hjournal, hes⟩ := journal_answer env op w
  intro e he
  rw [hjournal] at he
  rcases List.mem_append.mp he with he | he
  · exact hw e he
  rcases hes.cases with ⟨jobId, f, now, hu, rfl⟩ | ⟨batch, jobs, rfl, rfl⟩ | ⟨n, -, rfl⟩ | ⟨rfl, -⟩
  · rw [List.mem_singleton.mp he]
    exact hop.serviceUpdate hu now
  · obtain ⟨job, hjob, rfl⟩ := List.mem_map.mp he
    exact freshRow_newRow (hop.isNewJob job hjob)
  · rw [List.mem_singleton.mp he]
    trivial
  · cases he

/-- In every reachable state the journal holds entries of the services only, and every request
has kept its specification. -/
theorem reached_sound (settings : Settings) (sha256 : Bytes → FileHash)
    (moves : List SystemMove) :
    (reached settings sha256 moves).Sound Journaled (Trusted fun _ => True) Guarantee
      (Outcome settings fun _ => True) := by
  have hempty : Pool.Sound Journaled (Trusted fun _ => True) Guarantee
      (Outcome settings fun _ => True) (⟨.empty, []⟩ : System) :=
    ⟨fun _ h => (nomatch h), fun _ h => (nomatch h), fun _ h => (nomatch h)⟩
  exact hempty.exec
    (fun env op w _ => ⟨sensible_answer env op w, loads_answer (fun _ _ => trivial) env op⟩)
    (fun env _ _ _ _ hw hop => journaled_answer hop env hw)
    (launch_safe settings sha256 fun _ => True) moves

/-- The histories in a journal of the services. -/
theorem Journaled.serviceHistory {w : World} (hw : Journaled w) {jobId : JobId} {h : JobHistory}
    (hh : w.jobs.history? jobId = some h) : ServiceHistory h := by
  obtain ⟨⟨horigin, -⟩, hwrites⟩ := mem_of_history? hh
  exact ⟨hw _ horigin, fun u hu => hw _ (hwrites u hu)⟩

/-- Every job row that is ever reached has a history the services can produce. -/
theorem serviceHistory_reached {settings : Settings} {sha256 : Bytes → FileHash}
    {moves : List SystemMove} {jobId : JobId} {h : JobHistory}
    (hh : (reached settings sha256 moves).state.jobs.history? jobId = some h) :
    ServiceHistory h :=
  (reached_sound settings sha256 moves).state.serviceHistory hh

/-! ### A small run -/

/-- Thread `i` makes `n` calls, all answered by `env`. -/
def calls (i n : ℕ) (env : Env) : List SystemMove := List.replicate n (.step i env)

/-- Settings without an API key. -/
def plainSettings : Settings := ⟨"", 1000⟩

/-- A digest for runs with one file. -/
def oneDigest (_ : Bytes) : FileHash := "9f86d081"

/-- One PDF, submitted without a callback. -/
def planUpload : Request :=
  .submit [⟨"plan.pdf", pdfMagic⟩] ⟨.auto, none, none, none⟩ "reviewer"

/-- Thread `0` submits one PDF, as job `2` of batch `1`. -/
def submittedPlan : List SystemMove :=
  .start planUpload :: (calls 0 2 (.calm 1 .review) ++ calls 0 6 (.calm 2 .review))

/-- Thread `1` then runs a first attempt with a review-tier outcome, up to its result write. -/
def persistedPlan : List SystemMove :=
  submittedPlan ++ .start (.extract 2 0) :: calls 1 21 (.calm 0 .review)

/-- Thread `1` also sets `REVIEW` and returns. -/
def extractedPlan : List SystemMove := persistedPlan ++ calls 1 2 (.calm 0 .review)

/-- The path parameter that names job `2`. -/
def planId : PathJobId := ⟨"2", "'2'", some 2⟩

/-- Thread `2` then approves job `2`. -/
def approvedPlan : List SystemMove :=
  extractedPlan ++ .start (.decide planId (.approve ⟨"first", none⟩)) :: calls 2 5 (.calm 0 .review)

end ZubotIngestion
