import ZubotIngestion.Services.AttemptCalls
import ZubotIngestion.Services.SubmissionCalls
import ZubotIngestion.System.Requests

/-!
# The calls of the requests

In every run each request makes the calls of its kind only, each behind the calls that have to come
before it. This holds at any point of the run, also for requests that have crashed on the way.

## Main definitions

* `RequestCall`: the calls of a request, each with the calls before it.

## Main results

* `calls_reached`: the calls of every run.
* `requestCall_of_mem`: a call of a trace and the calls before it.
-/

namespace ZubotIngestion

open Effects

/-- A call of a request, and the calls the request has made before it. -/
def RequestCall (settings : Settings) (sha256 : Bytes → FileHash) :
    Request → List Call → Op → Prop
  | .extract jobId _ => AttemptCall settings jobId
  | .submit .. => SubmissionCall settings sha256
  | .decide jobId decision => fun t op => DecisionGuarantee jobId decision t op ∧
    op.isPipeline = false

theorem launch_calls (settings : Settings) (sha256 : Bytes → FileHash) (request : Request) :
    (launch settings sha256 request).Safe Sensible (RequestCall settings sha256 request) NoPromise
      [] := by
  cases request with
  | extract jobId retries =>
    exact (extractDocumentTask_calls settings jobId retries).map Reply.extracted
      (fun _ _ _ => trivial) fun _ _ _ => trivial
  | submit files params userId =>
    exact (submitBatch_calls settings sha256 files params userId).map Reply.submitted
      (fun _ _ _ => trivial) fun _ _ _ => trivial
  | decide jobId decision =>
    have hcalls := (decision_safe jobId decision).and (decision_pipelineFree jobId decision)
    exact hcalls.map Reply.decided (fun _ _ _ => trivial) fun _ _ _ => trivial

section Runs

variable {settings : Settings} {sha256 : Bytes → FileHash}

/-- In every run the requests make the calls of their kinds. -/
theorem calls_reached (settings : Settings) (sha256 : Bytes → FileHash)
    (moves : List SystemMove) :
    (reached settings sha256 moves).Sound (fun _ => True) Sensible (RequestCall settings sha256)
      (fun _ => NoPromise) := by
  have hempty : Pool.Sound (fun _ => True) Sensible (RequestCall settings sha256)
      (fun _ => NoPromise) (⟨.empty, []⟩ : System) :=
    ⟨trivial, fun _ h => (nomatch h), fun _ h => (nomatch h)⟩
  exact hempty.exec (fun env op w _ => sensible_answer env op w) (fun _ _ _ _ _ _ _ => trivial)
    (launch_calls settings sha256) moves

/-- A call that a request has made, behind the calls before it. -/
theorem requestCall_of_mem {moves : List SystemMove} {th : Serving}
    (hth : th ∈ (reached settings sha256 moves).threads) {c : Call} (hc : c ∈ th.trace) :
    ∃ pre post, th.trace = pre ++ c :: post ∧ RequestCall settings sha256 th.request pre c.1 := by
  obtain ⟨pre, post, htrace⟩ := List.append_of_mem hc
  exact ⟨pre, post, htrace, ((calls_reached settings sha256 moves).calls th hth _ _ _ htrace).1⟩

end Runs

namespace RequestCall

variable {settings : Settings} {sha256 : Bytes → FileHash} {request : Request} {t : List Call}

/-- A batch is persisted by a submission. -/
theorem createBatch {batch : Batch} {jobs : List Job}
    (h : RequestCall settings sha256 request t (.createBatch batch jobs)) :
    ∃ batchId params userId now, batch = newBatch batchId jobs params userId now ∧
      ⟨.uuid4, .ok batchId⟩ ∈ t ∧ ∀ job ∈ jobs, WrittenJob settings sha256 batchId t job := by
  cases request with
  | extract jobId retries =>
    generalize hop : Op.createBatch batch jobs = op at h
    cases h with
    | pipeline l hid u hfrom =>
      subst hop
      cases hfrom
    | _ => cases hop
  | submit files params userId =>
    cases h with
    | create _ batchId _ params userId now hbatch hjobs =>
      exact ⟨batchId, params, userId, now, rfl, hbatch, hjobs⟩
  | decide jobId decision => exact absurd h.1.1 Bool.true_eq_false_eq_False

/-- A task is enqueued by a submission, behind the confirmed transaction with its row. -/
theorem enqueueExtraction {jobId : JobId}
    (h : RequestCall settings sha256 request t (.enqueueExtraction jobId)) :
    ∃ batch jobs, ∃ created : Batch, ⟨.createBatch batch jobs, .ok created⟩ ∈ t ∧
      ∃ job ∈ jobs, job.jobId = jobId := by
  cases request with
  | extract jobId' retries =>
    generalize hop : Op.enqueueExtraction jobId = op at h
    cases h with
    | pipeline l hid u hfrom =>
      subst hop
      cases hfrom
    | _ => cases hop
  | submit files params userId =>
    cases h with
    | enqueue _ batch jobs created hcreate job hjob =>
      exact ⟨batch, jobs, created, hcreate, job, hjob, rfl⟩
  | decide jobId' decision => exact absurd h.1.1 Bool.true_eq_false_eq_False

/-- A call of the pipeline is made by an attempt, behind what it has loaded. -/
theorem pipeline {op : Op} (h : RequestCall settings sha256 request t op)
    (hop : op.isPipeline = true) (hclock : op ≠ .elapsedMs) :
    ∃ jobId retries, ∃ l : Loaded, ∃ u, request = .extract jobId retries ∧ l.job.jobId = jobId ∧
      t = l.prelude ++ u ∧ FromInput (l.input settings) op := by
  cases request with
  | extract jobId retries =>
    cases h with
    | pipeline l hid u hfrom => exact ⟨jobId, retries, l, u, rfl, hid, rfl, hfrom⟩
    | elapsedMs => exact absurd rfl hclock
    | _ => cases hop
  | submit files params userId => cases h <;> cases hop
  | decide jobId decision => exact absurd (hop.symm.trans h.2) Bool.true_eq_false_eq_False

end RequestCall

end ZubotIngestion
