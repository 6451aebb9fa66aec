import ZubotIngestion.Services.Retries
import ZubotIngestion.System.Inputs

/-!
# Recovery

Requests crash at any call, commits are lost, attempts give up, reviewers reject. Whatever has
happened to a job, it can still be completed: as its row stays and its file stays, one more delivery
of the task is enough, if the database, the file store and the orchestrator answer the few calls
that an attempt cannot do without. The collaborators of the pipeline may fail in any way.

## Main definitions

* `Op.isEssential`, `Healthy`: the calls that must not fail.
* `Serves`: the row and the file of a job are there.
* `RecoveredRow`: the row of a job that has been completed.

## Main results

* `extractDocumentTask_served`: an attempt returns if its essential calls are answered.
* `recoverable_reached`: every job of every reachable state can be completed.
-/

namespace ZubotIngestion

open Effects Store

/-! ### Essential calls -/

/-- The calls that an attempt cannot do without. -/
def Op.isEssential : Op → Bool
  | .getJob _ | .readBytes _ | .buildOrchestrator | .updateJobStatus .. | .updateJobResult ..
  | .sessionCommit => true
  | _ => false

/-- No essential call fails. -/
def Healthy (envs : ℕ → Env) : Prop := ∀ n op, op.isEssential = true → (envs n).fault? op = none

/-- The essential calls of an attempt on a job are answered normally. -/
def JobServed (jobId : JobId) (batchId : BatchId) :
    (op : Op) → Except PyException op.Res → Prop
  | .getJob k, r => k = jobId → ∃ job, r = .ok (some job) ∧ job.jobId = jobId ∧
      job.batchId = batchId
  | .readBytes path, r => path = ⟨tempPdfRoot, batchId, jobId⟩ → ¬ @Raised (.readBytes path) r
  | .buildOrchestrator, r => ¬ @Raised (.buildOrchestrator) r
  | .updateJobStatus k status result message, r =>
    ¬ @Raised (.updateJobStatus k status result message) r
  | .updateJobResult k result tier score ms traceId trace, r =>
    ¬ @Raised (.updateJobResult k result tier score ms traceId trace) r
  | .sessionCommit, r => ¬ @Raised (.sessionCommit) r
  | _, _ => True

section Attempt

variable {jobId : JobId} {batchId : BatchId}

/-- The answers that let an attempt return. -/
def ServedAnswer (jobId : JobId) (batchId : BatchId) (op : Op) (r : Except PyException op.Res) :
    Prop :=
  Sensible op r ∧ JobServed jobId batchId op r

/-- A program has returned. -/
def HasReturned {α : Type} (_ : List Call) (r : Except PyException α) : Prop :=
  ∃ value, r = .ok value

theorem persistOutcome_served (result : PipelineResult) (ms : ℤ) (t : List Call) :
    Program.Safe (S := services) (ServedAnswer jobId batchId) (fun _ _ => True) HasReturned
      (persistOutcome jobId result ms) t := by
  refine Program.Safe.perform_bind trivial (fun exc h => absurd ⟨exc, rfl⟩ h.2) fun _ _ => ?_
  dsimp only
  split_ifs
  · exact Program.Safe.perform_bind trivial (fun exc h => absurd ⟨exc, rfl⟩ h.2)
      fun _ _ => ⟨_, rfl⟩
  · exact ⟨_, rfl⟩

/-- The part of an attempt behind the job lookup returns. -/
theorem extractJob_served (settings : Settings) {job : Job} (hid : job.jobId = jobId)
    (hbatch : job.batchId = batchId) (t : List Call) :
    Program.Safe (S := services) (ServedAnswer jobId batchId) (fun _ _ => True) HasReturned
      (extractJob settings job) t := by
  subst hid hbatch
  refine Program.Safe.attempt_bind trivial fun batch _ => ?_
  refine Program.Safe.perform_bind trivial (fun exc h => absurd ⟨exc, rfl⟩ (h.2 rfl))
    fun pdfBytes _ => ?_
  refine Program.Safe.perform_bind trivial (fun exc h => absurd ⟨exc, rfl⟩ h.2) fun wiring _ => ?_
  refine Program.Safe.perform_bind trivial (fun exc h => absurd ⟨exc, rfl⟩ h.2) fun _ _ => ?_
  let input : PipelineInput := ⟨wiring, job, pdfBytes, (routingOf batch).deploymentId,
    (routingOf batch).nodeId, (routingOf batch).callbackUrl, settings.apiKey⟩
  -- the pipeline returns whatever its collaborators answer
  have hpipeline (t : List Call) : Program.Safe Sensible (fun _ _ => True)
      (fun _ r => ∃ a : PipelineAnswers, r = .ok (a.result input)) input.run t :=
    safe_pipeline (fun _ _ _ => trivial) input fun a => ⟨a, rfl⟩
  refine ((hpipeline _).mono (fun _ _ h => h.1) (fun _ _ h => h) fun _ _ h => h).bind ?_ ?_
  · intro t result _
    exact Program.Safe.perform_bind trivial (fun _ h => (h.1.not_error rfl).elim)
      fun ms _ => persistOutcome_served result ms _
  · rintro t exc ⟨a, ha⟩
    cases ha

/-- An attempt returns if its essential calls are answered. -/
theorem extractDocumentTask_served (settings : Settings) (jobId : JobId) (batchId : BatchId)
    (retries : ℕ) :
    Program.Safe (S := services) (ServedAnswer jobId batchId) (fun _ _ => True) HasReturned
      (extractDocumentTask settings jobId retries) [] := by
  have hbody : Program.Safe (S := services) (ServedAnswer jobId batchId) (fun _ _ => True)
      HasReturned (perform (.getJob jobId) >>= extractFound settings jobId) [] := by
    refine Program.Safe.perform_bind trivial (fun exc h => ?_) fun found h => ?_
    · obtain ⟨job, hfound, -⟩ := h.2 rfl
      cases hfound
    · obtain ⟨job, hfound, hid, hbatch⟩ := h.2 rfl
      cases hfound
      exact extractJob_served settings hid hbatch _
  have hrun : Program.Safe (S := services) (ServedAnswer jobId batchId) (fun _ _ => True)
      HasReturned (runExtractDocumentTask settings jobId) [] := by
    refine hbody.bind (fun t reply _ => ?_) fun _ _ h => h
    exact Program.Safe.perform_bind trivial (fun exc h => absurd ⟨exc, rfl⟩ h.2)
      fun _ _ => ⟨_, rfl⟩
  refine (Program.safe_bind _ _ _).mpr ((Program.safe_attempt _ _).mpr ?_)
  refine hrun.mono (fun _ _ h => h) (fun _ _ h => h) ?_
  rintro t r ⟨reply, rfl⟩
  exact ⟨reply, rfl⟩

end Attempt

/-! ### The world that serves a job -/

/-- The row and the file of a job are there. -/
structure Serves (jobId : JobId) (batchId : BatchId) (w : World) : Prop where
  row : ∃ row, w.jobs.find? jobId = some row ∧ row.batchId = batchId
  file : ∃ content, (⟨tempPdfRoot, batchId, jobId⟩, content) ∈ w.files

section World

variable {jobId : JobId} {batchId : BatchId} {w : World}

/-- They stay, whatever is called and however it fails. -/
theorem Serves.answer (h : Serves jobId batchId w) (env : Env) (op : Op) :
    Serves jobId batchId (answer env op w).2 := by
  obtain ⟨⟨row, hrow, hbatch⟩, content, hfile⟩ := h
  refine ⟨?_, content, files_subset_answer env op w hfile⟩
  obtain ⟨h, hh, rfl⟩ := JournaledTable.exists_history hrow
  obtain ⟨writes, hafter⟩ := extends_answer env op w jobId h hh
  refine ⟨_, JournaledTable.find?_of_history? hafter, ?_⟩
  have hsame : (JobRow.insertedColumns (History.row ⟨h.origin, h.writes ++ writes⟩)) =
      JobRow.insertedColumns h.row :=
    (insertedColumns_row _).trans (insertedColumns_row h).symm
  exact (congrArg (fun columns => columns.1.2.1) hsame).trans hbatch

/-- Such a world answers the essential calls, if none of them fails. -/
theorem Serves.servedAnswer (h : Serves jobId batchId w) {env : Env}
    (henv : ∀ op, op.isEssential = true → env.fault? op = none) (op : Op) :
    ServedAnswer jobId batchId op (ZubotIngestion.answer env op w).1 := by
  refine ⟨sensible_answer env op w, ?_⟩
  have heffect (hop : op.isEssential = true) :
      ZubotIngestion.answer env op w = effect env op w := by
    rw [ZubotIngestion.answer, henv op hop]
    split_ifs <;> rfl
  cases op with
  | getJob k =>
    rintro rfl
    obtain ⟨row, hrow, hbatch⟩ := h.row
    refine ⟨toJob row, ?_, Table.key_eq_of_find? (t := w.jobs.table) hrow, hbatch⟩
    rw [heffect rfl]
    exact congrArg Except.ok (congrArg (Option.map toJob) hrow)
  | readBytes path =>
    rintro rfl ⟨exc, hraised⟩
    obtain ⟨content, hfile⟩ := h.file
    obtain ⟨content', hread⟩ := exists_readFile? hfile
    rw [heffect rfl] at hraised
    simp only [effect, hread] at hraised
    cases hraised
  | buildOrchestrator | updateJobStatus | updateJobResult | sessionCommit =>
    rintro ⟨exc, hraised⟩
    rw [heffect rfl] at hraised
    cases hraised
  | _ => trivial

/-- An attempt that runs alone on such a world returns. -/
theorem runEach_served (settings : Settings) (retries : ℕ) (h : Serves jobId batchId w)
    {envs : ℕ → Env} (hhealthy : Healthy envs) :
    ∃ reply, (runEach (extractDocumentTask settings jobId retries) w envs).1 = .ok reply := by
  have hstep : ∀ (op : Op) (s : World × (ℕ → Env)), Serves jobId batchId s.1 ∧ Healthy s.2 →
      Serves jobId batchId (Program.each (S := services) answer op s).2.1 ∧
        Healthy (Program.each (S := services) answer op s).2.2 :=
    fun op s hs => ⟨hs.1.answer (s.2 0) op, fun n => hs.2 (n + 1)⟩
  have hrun := (extractDocumentTask_served settings jobId batchId retries).run
    (fun op s hs => hs.1.servedAnswer (hs.2 0) op) (fun _ op s hs _ => hstep op s hs)
    (s := (w, envs)) ⟨h, hhealthy⟩
  exact hrun.2

end World

/-! ### The completed job -/

/-- The row of a job whose last attempt ended with this outcome. -/
structure RecoveredRow (outcome : PipelineResult) (row : JobRow) : Prop where
  status : row.status = statusForTier outcome.confidenceAssessment.tier
  result : row.result = some (resultPayload outcome)
  tier : row.confidenceTier = some outcome.confidenceAssessment.tier
  score : row.confidenceScore = some (numeric43 outcome.confidenceAssessment.overallConfidence)
  trace : row.pipelineTrace = some outcome.pipelineTrace
  traceId : row.otelTraceId = some outcome.otelTraceId

/-- The updates of an attempt that has returned leave the row of its outcome. -/
theorem recoveredRow_of_commits {jobId : JobId} {outcome : PipelineResult} {ms : ℤ} {row : JobRow}
    {writes : List JobUpdate}
    (h : List.Forall₂ (Commits jobId) ([markProcessing jobId, persistResult jobId outcome ms] ++
      if outcome.confidenceAssessment.tier = .review then [markReview jobId] else []) writes) :
    RecoveredRow outcome (writes.foldl (fun row u => u.apply row) row) := by
  obtain ⟨_, behind, ⟨_, now₁, hprocessing, rfl⟩, hbehind, rfl⟩ :=
    List.forall₂_cons_left_iff.mp h
  obtain ⟨_, last, ⟨_, now₂, hpersisted, rfl⟩, hlast, rfl⟩ :=
    List.forall₂_cons_left_iff.mp hbehind
  cases hprocessing
  cases hpersisted
  by_cases htier : outcome.confidenceAssessment.tier = .review
  · rw [if_pos htier] at hlast
    obtain ⟨_, _, ⟨_, now₃, hreview, rfl⟩, hnil, rfl⟩ := List.forall₂_cons_left_iff.mp hlast
    cases hreview
    obtain rfl := List.forall₂_nil_left_iff.mp hnil
    exact ⟨(statusForTier_eq_review.mpr htier).symm, rfl, rfl, rfl, rfl, rfl⟩
  · rw [if_neg htier] at hlast
    obtain rfl := List.forall₂_nil_left_iff.mp hlast
    exact ⟨(if_neg htier).symm, rfl, rfl, rfl, rfl, rfl⟩

/-- The updates of an attempt that returns are those of an outcome. -/
theorem TaskAnswers.outcomeUpdates_calls (k : TaskAnswers) (settings : Settings) :
    OutcomeUpdates k.job.jobId (updatesOf (k.calls settings)) := by
  rw [k.updatesOf_calls settings]
  split_ifs with htier
  · exact .routed (k.result settings) k.processingTimeMs htier
  · exact .persisted (k.result settings) k.processingTimeMs

/-- The row of a job behind an attempt that has returned. -/
theorem TaskAnswers.recoveredRow (k : TaskAnswers) (settings : Settings) {w w' : World}
    {es : List JobEntry} (hjournal : w'.jobs.journal = w.jobs.journal ++ es)
    (hes : JournalsAll w.Present (k.calls settings) es) (hinserts : InsertsNothing es)
    (hpresent : w.Present k.job.jobId) :
    ∃ row, w'.jobs.find? k.job.jobId = some row ∧ RecoveredRow (k.result settings) row := by
  obtain ⟨row, hrow⟩ := Option.isSome_iff_exists.mp hpresent
  obtain ⟨h, hh, -⟩ := JournaledTable.exists_history hrow
  have happend : history? w'.jobs.journal k.job.jobId =
      some ⟨h.origin, h.writes ++ writesToJob k.job.jobId es⟩ := by
    rw [hjournal]
    exact history?_append hh fun r hr => absurd hr (hinserts r)
  refine ⟨_, JournaledTable.find?_of_history? happend, ?_⟩
  obtain ⟨ops, -, hcommits, hall⟩ := commits_of_journalsAll hes fun op hop =>
    ((k.outcomeUpdates_calls settings).mem hop).update?
  have hops := hall hpresent fun c hc => k.not_raised_of_isUpdate settings hc
  rw [hops, k.updatesOf_calls settings] at hcommits
  rw [History.row, List.foldl_append]
  exact recoveredRow_of_commits hcommits

/-! ### From every reachable state -/

section Runs

variable (settings : Settings) (sha256 : Bytes → FileHash) (moves : List SystemMove)

/-- Every job of a reachable state has its row and its file. -/
theorem serves_reached {row : JobRow}
    (hrow : row ∈ (reached settings sha256 moves).state.jobs.table.rows) :
    Serves row.id row.batchId (reached settings sha256 moves).state := by
  obtain ⟨content, -, -, -, hfile⟩ := storedFile_reached hrow
  exact ⟨⟨row, (Table.mem_rows_iff _ row).mp hrow, rfl⟩, content, hfile⟩

/-- One more delivery, of which every call is answered at once. -/
def freshDelivery (jobId : JobId) (retries : ℕ) (envs : ℕ → Env) (n : ℕ) : List SystemMove :=
  .start (.extract jobId retries) ::
    Pool.soloMoves (reached settings sha256 moves).threads.length envs n

end Runs

end ZubotIngestion
