import ZubotIngestion.Services.CeleryApp
import ZubotIngestion.Services.Journaling

/-!
# One attempt of the extraction task

What an attempt asks of the database, whatever its collaborators answer and whatever happens
around it. Its updates come in a fixed order, and an attempt that returns has made exactly the
calls of `TaskAnswers.calls`, with the outcome of its pipeline run persisted at the end.

## Main definitions

* `AttemptUpdates`: the updates an attempt may have asked for, in order.
* `Interrupted`: why an attempt raised.
* `TaskAnswers`: the answers of an attempt that returns, with its calls and its reply.

## Main results

* `extractDocumentTask_safe`: every attempt keeps `TaskGuarantee` and, when it returns, is
  described by `TaskAnswers`.
-/

namespace ZubotIngestion

open Effects

/-! ### The updates of an attempt -/

/-- The `PROCESSING` write. -/
def markProcessing (jobId : JobId) : Op := .updateJobStatus jobId .processing none none

/-- The `REVIEW` override. -/
def markReview (jobId : JobId) : Op := .updateJobStatus jobId .review none none

/-- The `FAILED` write of an attempt that raised `exc`. -/
def markFailed (jobId : JobId) (exc : PyException) : Op :=
  .updateJobStatus jobId .failed none (some (formatError exc))

/-- The result write of a pipeline run. -/
def persistResult (jobId : JobId) (result : PipelineResult) (processingTimeMs : ℤ) : Op :=
  .updateJobResult jobId (resultPayload result) result.confidenceAssessment.tier
    result.confidenceAssessment.overallConfidence processingTimeMs (some result.otelTraceId)
    (some result.pipelineTrace)

/-- The updates that persist the outcome of a run, after the `PROCESSING` write. -/
inductive OutcomeUpdates (jobId : JobId) : List Op → Prop
  /-- None yet. -/
  | none : OutcomeUpdates jobId []
  /-- The job is being processed. -/
  | started : OutcomeUpdates jobId [markProcessing jobId]
  /-- The result is written. -/
  | persisted (result : PipelineResult) (ms : ℤ) :
      OutcomeUpdates jobId [markProcessing jobId, persistResult jobId result ms]
  /-- A review-tier result is routed to the reviewers. -/
  | routed (result : PipelineResult) (ms : ℤ) (h : result.confidenceAssessment.tier = .review) :
      OutcomeUpdates jobId
        [markProcessing jobId, persistResult jobId result ms, markReview jobId]

/-- The updates an attempt may ask for: those of its outcome, and on a terminal attempt one
`FAILED` write after them. -/
def AttemptUpdates (jobId : JobId) (retries : ℕ) (updates : List Op) : Prop :=
  OutcomeUpdates jobId updates ∨
    maxRetries ≤ retries ∧ ∃ outcome exc, OutcomeUpdates jobId outcome ∧
      updates = outcome ++ [markFailed jobId exc]

/-- An update of an outcome is one of three. -/
inductive OutcomeUpdate (jobId : JobId) : Op → Prop
  | processing : OutcomeUpdate jobId (markProcessing jobId)
  | result (result : PipelineResult) (ms : ℤ) : OutcomeUpdate jobId (persistResult jobId result ms)
  | review : OutcomeUpdate jobId (markReview jobId)

/-- An update of an attempt is one of its outcome or the `FAILED` write. -/
inductive AttemptUpdate (jobId : JobId) : Op → Prop
  | outcome {op : Op} (h : OutcomeUpdate jobId op) : AttemptUpdate jobId op
  | failed (exc : PyException) : AttemptUpdate jobId (markFailed jobId exc)

theorem OutcomeUpdates.mem {jobId : JobId} {updates : List Op} (h : OutcomeUpdates jobId updates)
    {op : Op} (hop : op ∈ updates) : OutcomeUpdate jobId op := by
  have hall : ∀ result ms, op ∈ [markProcessing jobId, persistResult jobId result ms,
      markReview jobId] → OutcomeUpdate jobId op := by
    intro result ms hop
    simp only [List.mem_cons, List.not_mem_nil, or_false] at hop
    rcases hop with rfl | rfl | rfl
    · exact .processing
    · exact .result result ms
    · exact .review
  cases h with
  | none => cases hop
  | started =>
    rw [List.mem_singleton.mp hop]
    exact .processing
  | persisted result ms => exact hall result ms (List.mem_append_left [markReview jobId] hop)
  | routed result ms _ => exact hall result ms hop

theorem AttemptUpdates.mem {jobId : JobId} {retries : ℕ} {updates : List Op}
    (h : AttemptUpdates jobId retries updates) {op : Op} (hop : op ∈ updates) :
    AttemptUpdate jobId op := by
  rcases h with h | ⟨-, outcome, exc, h, rfl⟩
  · exact .outcome (h.mem hop)
  · rcases List.mem_append.mp hop with hop | hop
    · exact .outcome (h.mem hop)
    · rw [List.mem_singleton.mp hop]
      exact .failed exc

/-- What an attempt guarantees of its next call. -/
def TaskGuarantee (jobId : JobId) (retries : ℕ) (trace : List Call) (op : Op) : Prop :=
  op.isSubmission = false ∧
    (op.isUpdate = true → AttemptUpdates jobId retries (updatesOf trace ++ [op]))

/-- The updates of an attempt on its way. -/
theorem attemptUpdates_of_kept {A : (op : Op) → Except PyException op.Res → Prop} {jobId : JobId}
    {retries : ℕ} {trace : List Call}
    (h : Program.Kept (S := services) A (TaskGuarantee jobId retries) trace) :
    AttemptUpdates jobId retries (updatesOf trace) := by
  induction trace using List.reverseRecOn with
  | nil => exact Or.inl .none
  | append_singleton trace c ih =>
    cases hc : c.1.isUpdate with
    | true =>
      have hone : updatesOf [c] = [c.1] := List.filter_cons_of_pos hc
      rw [updatesOf_append, hone]
      exact (h trace c [] rfl).1.2 hc
    | false =>
      have hone : updatesOf [c] = [] :=
        List.filter_cons_of_neg (by rw [hc]; exact Bool.false_ne_true)
      rw [updatesOf_append, hone, List.append_nil]
      refine ih fun pre c' post htrace => h pre c' (post ++ [c]) ?_
      rw [htrace, List.append_assoc, List.cons_append]

/-- A call that is answered in any way leaves the updates of an outcome. -/
theorem taskGuarantee_of_outcome {jobId : JobId} {retries : ℕ} {trace : List Call} (op : Op)
    (hs : op.isSubmission = false)
    (h : ∀ r : Except PyException op.Res, OutcomeUpdates jobId (updatesOf (trace ++ [⟨op, r⟩]))) :
    TaskGuarantee jobId retries trace op := by
  refine ⟨hs, fun hu => Or.inl ?_⟩
  have hop := h (.error (.error "" ""))
  rw [updatesOf_append] at hop
  have hone : updatesOf [⟨op, .error (.error "" "")⟩] = [op] := List.filter_cons_of_pos hu
  rwa [hone] at hop

theorem taskGuarantee_of_isPipeline {jobId : JobId} {retries : ℕ} {trace : List Call} {op : Op}
    (h : op.isPipeline = true) : TaskGuarantee jobId retries trace op := by
  cases op <;> first
    | exact absurd h Bool.false_ne_true
    | exact ⟨rfl, fun h => absurd h Bool.false_ne_true⟩

/-- The pipeline updates no row. -/
theorem updatesOf_calls (a : PipelineAnswers) (x : PipelineInput) : updatesOf (a.calls x) = [] := by
  have hcalls := a.callsOf_calls x (p := Op.isUpdate) (fun _ _ => rfl) (fun _ _ _ _ => rfl)
    (fun _ _ _ _ => rfl) (fun _ _ _ => rfl) rfl rfl
  rw [updatesOf_eq, hcalls]
  rfl

/-! ### Attempts that raise -/

/-- A result write. -/
def Op.isResult : Op → Bool
  | .updateJobResult .. => true
  | _ => false

/-- A commit of the task. -/
def Op.isCommit : Op → Bool
  | .updateJobStatus .. | .updateJobResult .. | .sessionCommit => true
  | _ => false

/-- Why an attempt raised: it has not got to its pipeline run, or one of its commits raised. -/
def Interrupted (t : List Call) : Prop :=
  callsOf Op.isPipeline t = [] ∨ ∃ c ∈ t, c.1.isCommit = true ∧ Raised c.2

theorem interrupted_concat (t : List Call) {op : Op} (hop : op.isCommit = true)
    (exc : PyException) : Interrupted (t ++ [⟨op, .error exc⟩]) :=
  Or.inr ⟨_, List.mem_append_right t List.mem_cons_self, hop, exc, rfl⟩

/-- The `FAILED` write comes behind the exception. -/
theorem Interrupted.append {t u : List Call} (h : Interrupted t)
    (hu : callsOf Op.isPipeline u = []) : Interrupted (t ++ u) := by
  rcases h with h | ⟨c, hc, hraised⟩
  · refine Or.inl ?_
    rw [callsOf_append, h, hu, List.append_nil]
  · exact Or.inr ⟨c, List.mem_append_left u hc, hraised⟩

/-! ### Attempts that return -/

/-- The answers of an attempt that returns. -/
structure TaskAnswers where
  job : Job
  batch : Except PyException (Option Batch)
  pdfBytes : Bytes
  wiring : Wiring
  pipeline : PipelineAnswers
  processingTimeMs : ℤ
  updated : Option Job

namespace TaskAnswers

variable (k : TaskAnswers) (settings : Settings)

/-- The input of the pipeline run. -/
def input : PipelineInput where
  wiring := k.wiring
  job := k.job
  pdfBytes := k.pdfBytes
  deploymentId := (routingOf k.batch).deploymentId
  nodeId := (routingOf k.batch).nodeId
  callbackUrl := (routingOf k.batch).callbackUrl
  apiKey := settings.apiKey

/-- The result of the pipeline run. -/
def result : PipelineResult := k.pipeline.result (k.input settings)

/-- The tier of the run. -/
def tier : ConfidenceTier := k.pipeline.tier (k.input settings)

/-- The calls before the pipeline run. -/
def prelude : List Call :=
  [⟨.getJob k.job.jobId, .ok (some k.job)⟩] ++ [⟨.getBatch k.job.batchId, k.batch⟩] ++
  [⟨.readBytes ⟨tempPdfRoot, k.job.batchId, k.job.jobId⟩, .ok k.pdfBytes⟩] ++
  [⟨.buildOrchestrator, .ok k.wiring⟩] ++ [⟨markProcessing k.job.jobId, .ok ()⟩]

/-- The `REVIEW` override, for the review tier. -/
def reviewCalls : List Call :=
  if statusForTier (k.tier settings) = .review then [⟨markReview k.job.jobId, .ok ()⟩] else []

/-- The calls after the pipeline run. -/
def outcomeCalls : List Call :=
  [⟨.elapsedMs, .ok k.processingTimeMs⟩] ++
  [⟨persistResult k.job.jobId (k.result settings) k.processingTimeMs, .ok k.updated⟩] ++
  k.reviewCalls settings

/-- All calls of the attempt. -/
def calls : List Call :=
  k.prelude ++ k.pipeline.calls (k.input settings) ++ k.outcomeCalls settings ++
    [⟨.sessionCommit, .ok ()⟩]

/-- The reply of the attempt. -/
def reply : TaskReply where
  jobId := k.job.jobId
  status := statusForTier (k.tier settings)
  confidenceScore := (k.result settings).confidenceAssessment.overallConfidence
  confidenceTier := k.tier settings

section Selection

variable {p : Op → Bool} (hp : ∀ op, op.isPipeline = false → p op = false)

include hp

/-- A selection among the calls of the pipeline selects nothing before it. -/
theorem callsOf_prelude : callsOf p k.prelude = [] := by
  have hnone : callsOf Op.isPipeline k.prelude = [] := rfl
  exact callsOf_eq_nil.mpr fun c hc => hp c.1 (callsOf_eq_nil.mp hnone c hc)

/-- It selects nothing behind it either, if it leaves out the clock. -/
theorem callsOf_outcomeCalls (helapsed : p .elapsedMs = false) :
    callsOf p (k.outcomeCalls settings ++ [⟨.sessionCommit, .ok ()⟩]) = [] := by
  have hreview : callsOf p (k.reviewCalls settings) = [] := by
    rw [reviewCalls]
    split_ifs
    · exact callsOf_cons_of_neg (hp _ rfl) []
    · rfl
  have hclock : callsOf p [⟨.elapsedMs, .ok k.processingTimeMs⟩] = [] :=
    callsOf_cons_of_neg helapsed []
  have hwrite : callsOf p [⟨persistResult k.job.jobId (k.result settings) k.processingTimeMs,
      .ok k.updated⟩] = [] := callsOf_cons_of_neg (hp _ rfl) []
  have hcommit : callsOf p [⟨.sessionCommit, .ok ()⟩] = [] := callsOf_cons_of_neg (hp _ rfl) []
  rw [outcomeCalls]
  simp only [callsOf_append, hclock, hwrite, hreview, hcommit, List.append_nil]

theorem callsOf_calls (helapsed : p .elapsedMs = false) :
    callsOf p (k.calls settings) = callsOf p (k.pipeline.calls (k.input settings)) := by
  rw [calls, List.append_assoc, callsOf_append, callsOf_append, k.callsOf_prelude hp,
    k.callsOf_outcomeCalls settings hp helapsed, List.nil_append, List.append_nil]

end Selection

end TaskAnswers

/-! ### The rules of an attempt -/

section Rules

variable {jobId : JobId} {retries : ℕ}

/-- A call that is neither an update nor part of a submission may be made at any point. -/
theorem taskGuarantee_of_read {op : Op} (hs : op.isSubmission = false) (hu : op.isUpdate = false)
    (trace : List Call) : TaskGuarantee jobId retries trace op :=
  ⟨hs, fun h => absurd (hu.symm.trans h) Bool.false_ne_true⟩

/-- A run of the pipeline inside a program that permits the calls of the pipeline. -/
theorem safe_pipeline {G : List Call → Op → Prop} (hG : ∀ t op, op.isPipeline = true → G t op)
    (x : PipelineInput) {Q : List Call → Except PyException PipelineResult → Prop} {t : List Call}
    (hQ : ∀ a : PipelineAnswers, Q (t ++ a.calls x) (.ok (a.result x))) :
    Program.Safe Sensible G Q x.run t := by
  have hrun : Program.Safe Sensible PipelineOnly
      (fun t r => ∃ a : PipelineAnswers, t = a.calls x ∧ r = .ok (a.result x)) x.run [] :=
    (runPipeline_safe x).mono (fun _ _ h => h.answered) (fun _ _ h => h) (fun _ _ h => h)
  have hframe : Program.Safe Sensible G Q x.run (t ++ []) := by
    refine hrun.frame t (fun u op h => hG (t ++ u) op h) ?_
    rintro u r ⟨a, rfl, rfl⟩
    exact hQ a
  rwa [List.append_nil] at hframe

end Rules

/-! ### The body of an attempt -/

/-- The updates of an attempt that has got behind its pipeline run. -/
theorem updatesOf_processed (k : TaskAnswers) (settings : Settings) (trace : List Call) :
    updatesOf (k.prelude ++ k.pipeline.calls (k.input settings) ++ trace) =
      markProcessing k.job.jobId :: updatesOf trace := by
  rw [updatesOf_append, updatesOf_append, updatesOf_calls, List.append_nil]
  rfl

/-- What the part of an attempt behind the job lookup promises. -/
structure ExtractPost (settings : Settings) (jobId : JobId) (t : List Call)
    (r : Except PyException TaskReply) : Prop where
  updates : OutcomeUpdates jobId (updatesOf t)
  returned : ∀ reply, r = .ok reply → ∃ k : TaskAnswers, k.job.jobId = jobId ∧
    t = k.prelude ++ k.pipeline.calls (k.input settings) ++ k.outcomeCalls settings ∧
    reply = k.reply settings
  raised : ∀ exc, r = .error exc → Interrupted t

theorem extractPost_error {settings : Settings} {jobId : JobId} {t : List Call}
    {exc : PyException} (h : OutcomeUpdates jobId (updatesOf t)) (hraised : Interrupted t) :
    ExtractPost settings jobId t (.error exc) :=
  ⟨h, fun _ h => (nomatch h), fun _ _ => hraised⟩

/-- An attempt that got to the end of its outcome is described by its answers. -/
theorem extractPost_ok {settings : Settings} (k : TaskAnswers) {t : List Call}
    (h : OutcomeUpdates k.job.jobId (updatesOf t))
    (ht : t = k.prelude ++ k.pipeline.calls (k.input settings) ++ k.outcomeCalls settings) :
    ExtractPost settings k.job.jobId t (.ok (k.reply settings)) :=
  ⟨h, fun _ hreply => ⟨k, rfl, ht, (Except.ok.inj hreply).symm⟩, fun _ h => nomatch h⟩

/-- The updates of an attempt from its result write on. -/
theorem outcomeUpdates_processed (k : TaskAnswers) (settings : Settings) {trace : List Call}
    {updates : List Op} (htrace : updatesOf trace = updates)
    (h : OutcomeUpdates k.job.jobId (markProcessing k.job.jobId :: updates)) :
    OutcomeUpdates k.job.jobId
      (updatesOf (k.prelude ++ k.pipeline.calls (k.input settings) ++ trace)) := by
  rw [updatesOf_processed, htrace]
  exact h

theorem safe_persistOutcome (settings : Settings) (k : TaskAnswers) (retries : ℕ) :
    Program.Safe Sensible (TaskGuarantee k.job.jobId retries) (ExtractPost settings k.job.jobId)
      (persistOutcome k.job.jobId (k.result settings) k.processingTimeMs)
      (k.prelude ++ k.pipeline.calls (k.input settings) ++
        [⟨.elapsedMs, .ok k.processingTimeMs⟩]) := by
  let write : Op := persistResult k.job.jobId (k.result settings) k.processingTimeMs
  have hwrite : ∀ r : Except PyException write.Res, OutcomeUpdates k.job.jobId
      (updatesOf (k.prelude ++ k.pipeline.calls (k.input settings) ++
        [⟨.elapsedMs, .ok k.processingTimeMs⟩] ++ [⟨write, r⟩])) := by
    intro r
    rw [List.append_assoc]
    exact outcomeUpdates_processed k settings rfl
      (.persisted (k.result settings) k.processingTimeMs)
  refine Program.Safe.perform_bind (taskGuarantee_of_outcome write rfl hwrite)
    (fun exc _ => extractPost_error (hwrite (.error exc)) (interrupted_concat _ rfl exc))
    fun updated _ => ?_
  by_cases htier : statusForTier (k.tier settings) = .review
  · have hreview : ∀ r : Except PyException (markReview k.job.jobId).Res,
        OutcomeUpdates k.job.jobId (updatesOf (k.prelude ++
          k.pipeline.calls (k.input settings) ++ [⟨.elapsedMs, .ok k.processingTimeMs⟩] ++
          [⟨write, .ok updated⟩] ++ [⟨markReview k.job.jobId, r⟩])) := by
      intro r
      rw [List.append_assoc, List.append_assoc]
      exact outcomeUpdates_processed k settings rfl
        (.routed (k.result settings) k.processingTimeMs (statusForTier_eq_review.mp htier))
    dsimp only
    rw [if_pos (show statusForTier (k.result settings).confidenceAssessment.tier = .review from
      htier)]
    refine Program.Safe.perform_bind
      (taskGuarantee_of_outcome (markReview k.job.jobId) rfl hreview)
      (fun exc _ => extractPost_error (hreview (.error exc)) (interrupted_concat _ rfl exc))
      fun _ _ => ?_
    have hcalls : TaskAnswers.reviewCalls { k with updated := updated } settings =
        [⟨markReview k.job.jobId, .ok ()⟩] := if_pos htier
    refine extractPost_ok { k with updated := updated } (hreview (.ok ())) ?_
    rw [TaskAnswers.outcomeCalls, hcalls]
    simp only [List.append_assoc]
    rfl
  · dsimp only
    rw [if_neg (show ¬ statusForTier (k.result settings).confidenceAssessment.tier = .review from
      htier)]
    have hcalls : TaskAnswers.reviewCalls { k with updated := updated } settings = [] :=
      if_neg htier
    refine extractPost_ok { k with updated := updated } (hwrite (.ok updated)) ?_
    rw [TaskAnswers.outcomeCalls, hcalls]
    simp only [List.append_assoc]
    rfl

theorem safe_extractJob (settings : Settings) (job : Job) (retries : ℕ) :
    Program.Safe Sensible (TaskGuarantee job.jobId retries) (ExtractPost settings job.jobId)
      (extractJob settings job) [⟨.getJob job.jobId, .ok (some job)⟩] := by
  refine Program.Safe.attempt_bind (taskGuarantee_of_read rfl rfl _) fun batch _ => ?_
  refine Program.Safe.perform_bind (taskGuarantee_of_read rfl rfl _)
    (fun _ _ => extractPost_error .none (Or.inl rfl)) fun pdfBytes _ => ?_
  refine Program.Safe.perform_bind (taskGuarantee_of_read rfl rfl _)
    (fun _ _ => extractPost_error .none (Or.inl rfl)) fun wiring _ => ?_
  refine Program.Safe.perform_bind ⟨rfl, fun _ => Or.inl .started⟩
    (fun _ _ => extractPost_error .started (Or.inl rfl)) fun _ _ => ?_
  let input : PipelineInput := ⟨wiring, job, pdfBytes, (routingOf batch).deploymentId,
    (routingOf batch).nodeId, (routingOf batch).callbackUrl, settings.apiKey⟩
  refine (Program.safe_bind _ _ _).mpr
    (safe_pipeline (fun _ _ => taskGuarantee_of_isPipeline) input fun a => ?_)
  refine Program.Safe.perform_bind (taskGuarantee_of_read rfl rfl _)
    (fun _ he => (he.not_error rfl).elim) fun ms _ => ?_
  exact safe_persistOutcome settings ⟨job, batch, pdfBytes, wiring, a, ms, none⟩ retries

/-! ### One attempt -/

/-- What one run of the task promises: its updates, and its calls and its reply if it returns. -/
structure RunPost (settings : Settings) (jobId : JobId) (t : List Call)
    (r : Except PyException TaskReply) : Prop where
  updates : OutcomeUpdates jobId (updatesOf t)
  returned : ∀ reply, r = .ok reply → ∃ k : TaskAnswers, k.job.jobId = jobId ∧
    t = k.calls settings ∧ reply = k.reply settings
  raised : ∀ exc, r = .error exc → Interrupted t

theorem runExtractDocumentTask_safe (settings : Settings) (jobId : JobId) (retries : ℕ) :
    Program.Safe Sensible (TaskGuarantee jobId retries) (RunPost settings jobId)
      (runExtractDocumentTask settings jobId) [] := by
  have hbody : Program.Safe Sensible (TaskGuarantee jobId retries) (ExtractPost settings jobId)
      (perform (.getJob jobId) >>= extractFound settings jobId) [] := by
    refine Program.Safe.perform_bind (taskGuarantee_of_read rfl rfl _)
      (fun _ _ => extractPost_error .none (Or.inl rfl)) fun found hfound => ?_
    cases found with
    | none => exact extractPost_error .none (Or.inl rfl)
    | some job =>
      obtain rfl : job.jobId = jobId := hfound.foundById
      exact safe_extractJob settings job retries
  refine hbody.bind (fun t reply hreply => ?_) fun t exc hexc =>
    ⟨hexc.updates, fun _ h => (nomatch h), hexc.raised⟩
  have hupdates := hreply.updates
  obtain ⟨k, hk, rfl, rfl⟩ := hreply.returned reply rfl
  have hcommit : ∀ r, updatesOf (k.prelude ++ k.pipeline.calls (k.input settings) ++
      k.outcomeCalls settings ++ [⟨.sessionCommit, r⟩]) = updatesOf (k.prelude ++
        k.pipeline.calls (k.input settings) ++ k.outcomeCalls settings) := by
    intro r
    rw [updatesOf_append]
    exact List.append_nil _
  refine Program.Safe.perform_bind (taskGuarantee_of_read rfl rfl _)
    (fun exc _ => ⟨?_, fun _ h => (nomatch h), fun _ _ => interrupted_concat _ rfl exc⟩)
    fun _ _ => ⟨?_, fun reply h => ⟨k, hk, rfl, ?_⟩, fun _ h => nomatch h⟩
  · rw [hcommit]
    exact hupdates
  · rw [hcommit]
    exact hupdates
  · exact (Except.ok.inj h).symm

/-- What one attempt promises. An attempt that returns is described by `TaskAnswers`. One that
raises has made the updates of an outcome, and if it is the terminal one, the `FAILED` write; it
raised because of what `Interrupted` names. -/
structure AttemptPost (settings : Settings) (jobId : JobId) (retries : ℕ) (t : List Call)
    (r : Except PyException TaskReply) : Prop where
  returned : ∀ reply, r = .ok reply → ∃ k : TaskAnswers, k.job.jobId = jobId ∧
    t = k.calls settings ∧ reply = k.reply settings
  raised : ∀ exc, r = .error exc → ∃ before after, OutcomeUpdates jobId (updatesOf before) ∧
    updatesOf after = [] ∧
      if maxRetries ≤ retries then ∃ r, t = before ++ ⟨markFailed jobId exc, r⟩ :: after
      else t = before ++ after
  interrupted : ∀ exc, r = .error exc → Interrupted t

/-- Every attempt keeps `TaskGuarantee`, and its calls are those of `AttemptPost`. -/
theorem extractDocumentTask_safe (settings : Settings) (jobId : JobId) (retries : ℕ) :
    Program.Safe Sensible (TaskGuarantee jobId retries) (AttemptPost settings jobId retries)
      (extractDocumentTask settings jobId retries) [] := by
  refine (Program.safe_bind _ _ _).mpr ((Program.safe_attempt _ _).mpr ?_)
  refine (runExtractDocumentTask_safe settings jobId retries).mono (fun _ _ h => h)
    (fun _ _ h => h) fun t r hr => ?_
  cases r with
  | ok reply => exact ⟨hr.returned, fun _ h => (nomatch h), fun _ h => nomatch h⟩
  | error exc =>
    have hinterrupted := hr.raised exc rfl
    have hpost : ∀ u, Interrupted u → (∃ after, updatesOf after = [] ∧
        if maxRetries ≤ retries then ∃ r, u = t ++ ⟨markFailed jobId exc, r⟩ :: after
        else u = t ++ after) → AttemptPost settings jobId retries u (.error exc) := by
      rintro u hu ⟨after, hafter, hcalls⟩
      refine ⟨fun _ h => (nomatch h), fun exc' h => ?_, fun _ _ => hu⟩
      obtain rfl : exc = exc' := Except.error.inj h
      exact ⟨t, after, hr.updates, hafter, hcalls⟩
    dsimp only
    split_ifs with hterminal
    · simp only [if_pos hterminal] at hpost
      have hfailed : ∀ r r', Interrupted (t ++ [⟨markFailed jobId exc, r⟩] ++
          [⟨.sessionCommit, r'⟩]) :=
        fun _ _ => (hinterrupted.append rfl).append rfl
      have hmark : Program.Safe Sensible (TaskGuarantee jobId retries)
          (fun u _ => AttemptPost settings jobId retries u (.error exc))
          (markJobFailed jobId exc) t := by
        refine Program.Safe.perform_bind
          ⟨rfl, fun _ => Or.inr ⟨hterminal, _, exc, hr.updates, rfl⟩⟩
          (fun e _ => hpost _ (hinterrupted.append rfl) ⟨[], rfl, .error e, rfl⟩) fun _ _ => ?_
        refine Program.Safe.perform_bind (taskGuarantee_of_read rfl rfl _)
          (fun e _ => hpost _ (hfailed _ _) ⟨[⟨.sessionCommit, .error e⟩], rfl, .ok (), ?_⟩)
          fun _ _ => hpost _ (hfailed _ _) ⟨[⟨.sessionCommit, .ok ()⟩], rfl, .ok (), ?_⟩
        · exact List.append_assoc _ _ _
        · exact List.append_assoc _ _ _
      exact (Program.safe_bind _ _ _).mpr ((Program.safe_attempt _ _).mpr hmark)
    · simp only [if_neg hterminal] at hpost
      exact hpost t hinterrupted ⟨[], rfl, (List.append_nil t).symm⟩

end ZubotIngestion
