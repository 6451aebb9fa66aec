import ZubotIngestion.Services.Histories
import ZubotIngestion.Services.SoloRun
import ZubotIngestion.Services.TaskRun

/-!
# Retried deliveries

One delivery of the extraction task is one to four attempts, the next one made exactly when an
attempt raised and retries are left. What they write to the job, in order, determines its status:
an attempt that returns ends with `COMPLETED` or `REVIEW`, as the tier of its assessment says, one
that raises has written no `FAILED` unless it is the last, and the last one writes it behind
everything else.

## Main definitions

* `statusesOf`: the statuses written to a job.
* `AttemptStatuses`, `DeliveryEnds`: those of an attempt and of a delivery.
* `attemptStart`, `attemptOutcome`, `AttemptsMade`: the attempts of a delivery.
* `assessedTier`: the tier of an assessment that may have failed.
* `RetryProtocol`: what a delivery does to the status of its job.

## Main results

* `runEach_autoretry`: which attempts are made.
* `extractDocumentTask_statuses`, `extractDocumentTask_assessed`: one attempt.
* `autoretry_ends`: the attempts of a delivery, by induction on the retries left.
* `deliverTask_protocol`: the retry protocol.
-/

namespace ZubotIngestion

open Effects Store

/-- The statuses some entries write to a job, in order. -/
def statusesOf (jobId : JobId) (es : List JobEntry) : List JobStatus :=
  (writesToJob jobId es).map JobUpdate.newStatus

theorem statusesOf_append (jobId : JobId) (es es' : List JobEntry) :
    statusesOf jobId (es ++ es') = statusesOf jobId es ++ statusesOf jobId es' := by
  have hwrites : writesToJob jobId (es ++ es') = writesToJob jobId es ++ writesToJob jobId es' :=
    writesTo_append _ _ _
  rw [statusesOf, hwrites, List.map_append]
  rfl

/-- No entry inserts a row. -/
def InsertsNothing (es : List JobEntry) : Prop := ∀ row, insertedEntry row ∉ es

/-- The repository accepts the `FAILED` write of a job. -/
def AcceptsFailed (jobId : JobId) (envs : ℕ → Env) : Prop :=
  ∀ n exc, (envs n).fault? (markFailed jobId exc) = none

/-- The `FAILED` write of a job does not raise. -/
def FailedAccepted (jobId : JobId) (op : Op) (r : Except PyException op.Res) : Prop :=
  ∀ exc, op = markFailed jobId exc → ¬ Raised r

theorem acceptsFailed_answer {jobId : JobId} {envs : ℕ → Env} (h : AcceptsFailed jobId envs)
    (n : ℕ) (op : Op) (w : World) : FailedAccepted jobId op (answer (envs n) op w).1 := by
  rintro exc rfl ⟨exc', hraised⟩
  rw [answer, h n exc] at hraised
  cases hraised

/-- An attempt inserts no row. -/
theorem insertsNothing_of_kept {A : (op : Op) → Except PyException op.Res → Prop}
    {present : JobId → Prop} {jobId : JobId} {retries : ℕ} {trace : List Call}
    {es : List JobEntry}
    (hkept : Program.Kept (S := services) A (TaskGuarantee jobId retries) trace)
    (hes : JournalsAll present trace es) : InsertsNothing es := by
  intro row hrow
  obtain ⟨c, hc, es', hjournals, hmem⟩ := mem_of_journalsAll hes hrow
  obtain ⟨before, after, htrace⟩ := List.append_of_mem hc
  have hsubmission : c.1.isSubmission = false := (hkept before c after htrace).1.1
  rcases hjournals.cases with ⟨k, u, now, -, rfl⟩ | ⟨batch, jobs, hop, -⟩ | ⟨n, -, rfl⟩ | ⟨rfl, -⟩
  · cases List.mem_singleton.mp hmem
  · rw [hop] at hsubmission
    cases hsubmission
  · cases List.mem_singleton.mp hmem
  · cases hmem

/-! ### The statuses of one attempt -/

/-- The statuses an attempt that returned with this tier has written. -/
def returnedStatuses (tier : ConfidenceTier) : List JobStatus :=
  [.processing, .completed] ++ if tier = .review then [.review] else []

theorem failed_notMem_returnedStatuses (tier : ConfidenceTier) :
    .failed ∉ returnedStatuses tier := by
  cases tier <;> decide

theorem getLast?_returnedStatuses (tier : ConfidenceTier) :
    (returnedStatuses tier).getLast? = some (statusForTier tier) := by
  cases tier <;> rfl

/-- What an attempt has written to its job. -/
def AttemptStatuses (retries : ℕ) (statuses : List JobStatus) :
    Except PyException TaskReply → Prop
  | .ok reply => statuses = returnedStatuses reply.confidenceTier
  | .error _ =>
    if maxRetries ≤ retries then ∃ front, statuses = front ++ [.failed] ∧ .failed ∉ front
    else .failed ∉ statuses

/-- The status an update asks for. -/
def Op.newStatus? : Op → Option JobStatus
  | .updateJobStatus _ status _ _ => some status
  | .updateJobResult .. => some .completed
  | _ => none

/-- The commit of an update writes its status. -/
theorem Commits.newStatus {jobId : JobId} {op : Op} {u : JobUpdate} (h : Commits jobId op u) :
    op.newStatus? = some u.newStatus := by
  obtain ⟨f, now, hf, rfl⟩ := h
  cases op <;> cases hf <;> rfl

theorem newStatus_of_commits {jobId : JobId} {ops : List Op} {writes : List JobUpdate}
    (h : List.Forall₂ (Commits jobId) ops writes) :
    ops.map Op.newStatus? = (writes.map JobUpdate.newStatus).map some := by
  induction h with
  | nil => rfl
  | cons hcommit _ ih => rw [List.map_cons, List.map_cons, List.map_cons, ih, hcommit.newStatus]

/-- The updates of an outcome ask for no `FAILED`. -/
theorem OutcomeUpdate.newStatus?_ne_failed {jobId : JobId} {op : Op}
    (hop : OutcomeUpdate jobId op) : op.newStatus? ≠ some .failed := by
  cases hop <;> exact fun h => JobStatus.noConfusion (Option.some.inj h)

/-- The update of an outcome concerns its own job. -/
theorem OutcomeUpdate.update? {jobId : JobId} {op : Op} (hop : OutcomeUpdate jobId op) :
    ∃ f, op.update? = some (jobId, f) := by
  cases hop <;> exact ⟨_, rfl⟩

/-- Calls whose updates are those of an outcome write no `FAILED`. -/
theorem failed_notMem_statusesOf {present : JobId → Prop} {jobId : JobId} {trace : List Call}
    {es : List JobEntry} (hes : JournalsAll present trace es)
    (hupdates : OutcomeUpdates jobId (updatesOf trace)) : .failed ∉ statusesOf jobId es := by
  obtain ⟨ops, hsub, hcommits, -⟩ :=
    commits_of_journalsAll hes fun op hop => (hupdates.mem hop).update?
  intro hfailed
  have hmem : some JobStatus.failed ∈ ops.map Op.newStatus? := by
    rw [newStatus_of_commits hcommits]
    exact List.mem_map_of_mem hfailed
  obtain ⟨op, hop, hstatus⟩ := List.mem_map.mp hmem
  exact (hupdates.mem (hsub.subset hop)).newStatus?_ne_failed hstatus

namespace TaskAnswers

variable (k : TaskAnswers) (settings : Settings)

/-- The updates of an attempt that returns. -/
theorem updatesOf_calls : updatesOf (k.calls settings) =
    [markProcessing k.job.jobId,
      persistResult k.job.jobId (k.result settings) k.processingTimeMs] ++
      if k.tier settings = .review then [markReview k.job.jobId] else [] := by
  have hreview : updatesOf (k.reviewCalls settings) =
      if k.tier settings = .review then [markReview k.job.jobId] else [] := by
    by_cases h : k.tier settings = .review
    · rw [reviewCalls, if_pos (statusForTier_eq_review.mpr h), if_pos h]
      rfl
    · rw [reviewCalls, if_neg fun h' => h (statusForTier_eq_review.mp h'), if_neg h]
      rfl
  rw [calls, List.append_assoc, updatesOf_processed, outcomeCalls, updatesOf_append,
    updatesOf_append, hreview]
  exact congrArg (markProcessing k.job.jobId :: _ :: ·) (List.append_nil _)

/-- No update of such an attempt has raised. -/
theorem not_raised_of_isUpdate {c : Call} (hc : c ∈ k.calls settings)
    (hupdate : c.1.isUpdate = true) : ¬ Raised c.2 := by
  have hok : ∀ c ∈ k.prelude ++ k.outcomeCalls settings ++ [⟨.sessionCommit, .ok ()⟩],
      c.1.isUpdate = true → ¬ Raised c.2 := by
    simp only [prelude, outcomeCalls, reviewCalls, List.mem_append, List.mem_singleton]
    rintro c ((((((rfl | rfl) | rfl) | rfl) | rfl) | (rfl | rfl) | hc) | rfl) hu ⟨exc, h⟩
    all_goals try cases h
    · cases hu
    · split_ifs at hc
      · obtain rfl := List.mem_singleton.mp hc
        cases h
      · cases hc
  have hpipeline : c ∉ k.pipeline.calls (k.input settings) := by
    intro hmem
    have hop : c.1 ∈ updatesOf (k.pipeline.calls (k.input settings)) :=
      List.mem_filter.mpr ⟨List.mem_map_of_mem hmem, hupdate⟩
    rw [ZubotIngestion.updatesOf_calls] at hop
    cases hop
  refine hok c ?_ hupdate
  simp only [calls, List.mem_append] at hc ⊢
  rcases hc with ((hc | hc) | hc) | hc
  · exact Or.inl (Or.inl hc)
  · exact absurd hc hpipeline
  · exact Or.inl (Or.inr hc)
  · exact Or.inr hc

/-- Its updates concern its own job. -/
theorem update?_of_mem_calls {op : Op} (hop : op ∈ updatesOf (k.calls settings)) :
    ∃ f, op.update? = some (k.job.jobId, f) := by
  rw [k.updatesOf_calls settings] at hop
  split_ifs at hop <;>
    simp only [List.mem_append, List.mem_cons, List.not_mem_nil, or_false] at hop
  · rcases hop with (rfl | rfl) | rfl <;> exact ⟨_, rfl⟩
  · rcases hop with rfl | rfl <;> exact ⟨_, rfl⟩

/-- The statuses written by such an attempt. -/
theorem statusesOf_calls {present : JobId → Prop} {es : List JobEntry}
    (hes : JournalsAll present (k.calls settings) es) (hpresent : present k.job.jobId) :
    statusesOf k.job.jobId es = returnedStatuses (k.tier settings) := by
  obtain ⟨ops, -, hcommits, hall⟩ :=
    commits_of_journalsAll hes fun _ hop => k.update?_of_mem_calls settings hop
  have hops := hall hpresent fun c hc => k.not_raised_of_isUpdate settings hc
  have hstatuses := newStatus_of_commits hcommits
  rw [hops, k.updatesOf_calls settings] at hstatuses
  refine (Option.some_injective _).list_map ?_
  rw [statusesOf, ← hstatuses]
  unfold returnedStatuses
  split_ifs <;> rfl

end TaskAnswers

/-- Calls without updates write no status. -/
theorem statusesOf_eq_nil {present : JobId → Prop} {trace : List Call} {es : List JobEntry}
    (hes : JournalsAll present trace es) (hupdates : updatesOf trace = []) (jobId : JobId) :
    statusesOf jobId es = [] := by
  have hjob : ∀ op ∈ updatesOf trace, ∃ f, op.update? = some (jobId, f) := by
    rw [hupdates]
    exact fun _ h => nomatch h
  obtain ⟨ops, hsub, hcommits, -⟩ := commits_of_journalsAll hes hjob
  rw [hupdates] at hsub
  obtain rfl := List.sublist_nil.mp hsub
  rw [statusesOf, List.forall₂_nil_left_iff.mp hcommits]
  rfl

/-- A `FAILED` write that did not raise is recorded. -/
theorem statusesOf_markFailed {present : JobId → Prop} {jobId : JobId} {exc : PyException}
    {r : Except PyException (markFailed jobId exc).Res} {es : List JobEntry}
    (hes : Journals present ⟨markFailed jobId exc, r⟩ es) (hpresent : present jobId)
    (hok : ¬ Raised r) : statusesOf jobId es = [.failed] := by
  rcases writesTo_of_update hes rfl with ⟨u, hwrites, hcommit⟩ | ⟨-, hraised⟩
  · have hstatus : some JobStatus.failed = some u.newStatus := hcommit.newStatus
    rw [statusesOf, hwrites, List.map_singleton, ← Option.some.inj hstatus]
  · exact absurd (hraised hpresent) hok

/-- What one attempt writes. -/
theorem extractDocumentTask_statuses (settings : Settings) {jobId : JobId} {w : World}
    {envs : ℕ → Env} (hpresent : w.Present jobId) (hfailed : AcceptsFailed jobId envs)
    (retries : ℕ) :
    ∃ outcome w' k es, runEach (extractDocumentTask settings jobId retries) w envs =
        (outcome, w', fun n => envs (n + k)) ∧ w'.jobs.journal = w.jobs.journal ++ es ∧
      InsertsNothing es ∧ AttemptStatuses retries (statusesOf jobId es) outcome := by
  have hsafe := extractDocumentTask_safe settings jobId retries
  obtain ⟨es, hjournal, hall⟩ := runEach_journal (extractDocumentTask settings jobId retries) w envs
  have hpost := safe_runEach hsafe w envs
  have hkept := kept_runEach hsafe w envs (acceptsFailed_answer hfailed)
  obtain ⟨k, hk⟩ := runEach_shift (extractDocumentTask settings jobId retries) w envs
  refine ⟨(runEach (extractDocumentTask settings jobId retries) w envs).1, _, k, es,
    Prod.ext rfl (Prod.ext rfl hk), hjournal, insertsNothing_of_kept hkept hall, ?_⟩
  cases hrun : (runEach (extractDocumentTask settings jobId retries) w envs).1 with
  | ok reply =>
    obtain ⟨k, rfl, htrace, rfl⟩ := hpost.returned reply hrun
    rw [htrace] at hall
    exact k.statusesOf_calls settings hall hpresent
  | error exc =>
    obtain ⟨before, after, hbefore, hafter, htrace⟩ := hpost.raised exc hrun
    rw [AttemptStatuses]
    split_ifs at htrace ⊢ with hterminal
    · obtain ⟨r, htrace⟩ := htrace
      have hok := (hkept before _ after htrace).2.2 exc rfl
      rw [htrace] at hall
      obtain ⟨es₁, _, rfl, h₁, es₂, es₃, rfl, h₂, h₃⟩ := journalsAll_append.mp hall
      refine ⟨statusesOf jobId es₁, ?_, failed_notMem_statusesOf h₁ hbefore⟩
      rw [statusesOf_append, statusesOf_append, statusesOf_markFailed h₂ hpresent hok,
        statusesOf_eq_nil h₃ hafter, List.append_nil]
    · rw [htrace] at hall
      obtain ⟨es₁, es₂, rfl, h₁, h₂⟩ := journalsAll_append.mp hall
      rw [statusesOf_append, statusesOf_eq_nil h₂ hafter, List.append_nil]
      exact failed_notMem_statusesOf h₁ hbefore

/-! ### The assessment of an attempt -/

/-- A call of the confidence calculator. -/
def Op.isCalculate : Op → Bool
  | .calculate .. => true
  | _ => false

/-- The tier of the calculator's assessment; the fallback has the review tier. -/
def assessedTier : Except PyException ConfidenceAssessment → ConfidenceTier
  | .ok assessment => assessment.tier
  | .error _ => .review

theorem TaskAnswers.tier_eq (k : TaskAnswers) (settings : Settings) :
    k.tier settings = assessedTier k.pipeline.assessment := by
  show (recordConfidence k.pipeline.assessment _ _).1.tier = _
  cases k.pipeline.assessment <;> rfl

/-- An attempt that returns has asked the calculator once, and replies with the tier of its
assessment. -/
theorem extractDocumentTask_assessed {settings : Settings} {jobId : JobId} {retries : ℕ}
    {w : World} {envs : ℕ → Env} {reply : TaskReply}
    (h : (runEach (extractDocumentTask settings jobId retries) w envs).1 = .ok reply) :
    ∃ extraction validation assessment,
      callsOf Op.isCalculate (traceEach (extractDocumentTask settings jobId retries) w envs) =
        [⟨.calculate extraction validation, assessment⟩] ∧
      reply.confidenceTier = assessedTier assessment := by
  have hpost := safe_runEach (extractDocumentTask_safe settings jobId retries) w envs
  obtain ⟨k, -, htrace, rfl⟩ := hpost.returned reply h
  refine ⟨k.pipeline.afterStage1.1, (k.pipeline.afterValidation (k.input settings)).1,
    k.pipeline.assessment, ?_, k.tier_eq settings⟩
  have houtside : ∀ op : Op, op.isPipeline = false → op.isCalculate = false := by
    intro op hop
    cases op <;> first | rfl | cases hop
  have hpipeline := k.pipeline.callsOf_calls (k.input settings) (p := Op.isCalculate)
    (fun _ _ => rfl) (fun _ _ _ _ => rfl) (fun _ _ _ _ => rfl) (fun _ _ _ => rfl) rfl rfl
  rw [htrace, k.callsOf_calls settings houtside rfl, hpipeline]
  rfl

/-! ### The attempts that are made -/

section Attempts

variable {α : Type} (attempt : ℕ → Prog α) (retries : ℕ) (start : World × (ℕ → Env))

/-- Where an attempt starts: where the one before it has left off. -/
def attemptStart : ℕ → World × (ℕ → Env)
  | 0 => start
  | k + 1 => (runEach (attempt (retries + k)) (attemptStart k).1 (attemptStart k).2).2

/-- The outcome of an attempt. -/
def attemptOutcome (k : ℕ) : Except PyException α :=
  (runEach (attempt (retries + k)) (attemptStart attempt retries start k).1
    (attemptStart attempt retries start k).2).1

/-- The calls of an attempt. -/
def attemptTrace (k : ℕ) : List Call :=
  traceEach (attempt (retries + k)) (attemptStart attempt retries start k).1
    (attemptStart attempt retries start k).2

/-- The outcomes are those of the attempts made, in their order: there is a first attempt, and
behind an attempt there is another one iff it raised and retries are left. -/
structure AttemptsMade (left : ℕ) (outcomes : List (Except PyException α)) : Prop where
  nonempty : outcomes ≠ []
  outcome : ∀ k (h : k < outcomes.length), outcomes[k] = attemptOutcome attempt retries start k
  retried : ∀ k < outcomes.length, k + 1 < outcomes.length ↔
    k < left ∧ ∃ exc, attemptOutcome attempt retries start k = .error exc

variable {attempt retries start}

/-- The attempts behind the first one. -/
theorem attemptStart_succ (k : ℕ) : attemptStart attempt retries start (k + 1) =
    attemptStart attempt (retries + 1) (runEach (attempt retries) start.1 start.2).2 k := by
  induction k with
  | zero => rfl
  | succ k ih =>
    rw [attemptStart, ih, attemptStart, Nat.add_right_comm, Nat.add_assoc]

theorem attemptOutcome_succ (k : ℕ) : attemptOutcome attempt retries start (k + 1) =
    attemptOutcome attempt (retries + 1) (runEach (attempt retries) start.1 start.2).2 k := by
  rw [attemptOutcome, attemptOutcome, attemptStart_succ, Nat.add_right_comm, Nat.add_assoc]

/-- A first attempt behind which there is no other. -/
theorem AttemptsMade.last {left : ℕ}
    (h : ¬ (0 < left ∧ ∃ exc, attemptOutcome attempt retries start 0 = .error exc)) :
    AttemptsMade attempt retries start left [attemptOutcome attempt retries start 0] := by
  refine ⟨List.cons_ne_nil _ _, fun k hk => ?_, fun k hk => ?_⟩
  all_goals obtain rfl : k = 0 := Nat.lt_one_iff.mp hk
  · rfl
  · exact iff_of_false (lt_irrefl 1) h

/-- A first attempt that raised, and the attempts behind it. -/
theorem AttemptsMade.cons {left : ℕ} {outcomes : List (Except PyException α)} {exc : PyException}
    (hraised : attemptOutcome attempt retries start 0 = .error exc)
    (h : AttemptsMade attempt (retries + 1) (runEach (attempt retries) start.1 start.2).2 left
      outcomes) :
    AttemptsMade attempt retries start (left + 1) (.error exc :: outcomes) := by
  refine ⟨List.cons_ne_nil _ _, fun k hk => ?_, fun k hk => ?_⟩
  · cases k with
    | zero => exact hraised.symm
    | succ k =>
      rw [attemptOutcome_succ]
      exact h.outcome k (Nat.lt_of_succ_lt_succ hk)
  · cases k with
    | zero =>
      have hmore : 0 < outcomes.length := List.length_pos_iff.mpr h.nonempty
      exact iff_of_true (Nat.succ_lt_succ hmore) ⟨Nat.succ_pos left, exc, hraised⟩
    | succ k =>
      rw [attemptOutcome_succ, List.length_cons, Nat.add_lt_add_iff_right,
        Nat.add_lt_add_iff_right]
      exact h.retried k (Nat.lt_of_succ_lt_succ hk)

variable (attempt)

/-- The attempts that autoretry makes. -/
theorem runEach_autoretry (retries left : ℕ) (start : World × (ℕ → Env)) : ∃ outcomes,
    runEach (autoretry attempt retries left) start.1 start.2 =
        (.ok outcomes, attemptStart attempt retries start outcomes.length) ∧
      AttemptsMade attempt retries start left outcomes := by
  have hfirst : runEach (attempt retries).attempt start.1 start.2 =
      (.ok (attemptOutcome attempt retries start 0), attemptStart attempt retries start 1) :=
    runEach_attempt _ _ _
  induction left generalizing retries start with
  | zero =>
    exact ⟨_, runEach_bind_ok hfirst _, .last fun h => absurd h.1 (lt_irrefl 0)⟩
  | succ left ih =>
    cases houtcome : attemptOutcome attempt retries start 0 with
    | ok value =>
      rw [houtcome] at hfirst
      have hlast : AttemptsMade attempt retries start (left + 1)
          [attemptOutcome attempt retries start 0] := by
        refine .last ?_
        rw [houtcome]
        rintro ⟨-, exc, hexc⟩
        cases hexc
      rw [houtcome] at hlast
      exact ⟨_, runEach_bind_ok hfirst _, hlast⟩
    | error exc =>
      rw [houtcome] at hfirst
      obtain ⟨outcomes, hrun, hmade⟩ := ih (retries + 1) (attemptStart attempt retries start 1)
        (runEach_attempt _ _ _)
      refine ⟨.error exc :: outcomes, ?_, hmade.cons houtcome⟩
      rw [List.length_cons, attemptStart_succ]
      exact (runEach_bind_ok hfirst _).trans (runEach_bind_ok hrun _)

end Attempts

/-! ### All attempts of a delivery -/

/-- How the attempts of a delivery with `left` retries end, and what they have written. -/
inductive DeliveryEnds (left : ℕ) (statuses : List JobStatus) :
    List (Except PyException TaskReply) → Prop
  /-- Every attempt raised, the last one has written `FAILED` behind everything else. -/
  | gaveUp (excs : List PyException) (front : List JobStatus) (hlength : excs.length = left + 1)
      (hstatuses : statuses = front ++ [.failed]) (hfront : .failed ∉ front) :
      DeliveryEnds left statuses (excs.map .error)
  /-- An attempt returned, and its status is the last one written. -/
  | returned (excs : List PyException) (reply : TaskReply) (hfailed : .failed ∉ statuses)
      (hlast : statuses.getLast? = some (statusForTier reply.confidenceTier)) :
      DeliveryEnds left statuses (excs.map .error ++ [.ok reply])

/-- A delivery whose first attempt returns. -/
theorem DeliveryEnds.of_ok (left : ℕ) {statuses : List JobStatus} {reply : TaskReply}
    (h : statuses = returnedStatuses reply.confidenceTier) :
    DeliveryEnds left statuses [.ok reply] := by
  refine .returned [] reply ?_ ?_
  · rw [h]
    exact failed_notMem_returnedStatuses _
  · rw [h]
    exact getLast?_returnedStatuses _

/-- A delivery whose first attempt raises. -/
theorem DeliveryEnds.cons {left : ℕ} {first statuses : List JobStatus}
    {outcomes : List (Except PyException TaskReply)} (hfirst : .failed ∉ first)
    (h : DeliveryEnds left statuses outcomes) (exc : PyException) :
    DeliveryEnds (left + 1) (first ++ statuses) (.error exc :: outcomes) := by
  cases h with
  | gaveUp excs front hlength hstatuses hfront =>
    refine .gaveUp (exc :: excs) (first ++ front) (congrArg (· + 1) hlength) ?_ ?_
    · rw [hstatuses, List.append_assoc]
    · exact fun hmem => (List.mem_append.mp hmem).elim hfirst hfront
  | returned excs reply hfailed hlast =>
    refine .returned (exc :: excs) reply ?_ ?_
    · exact fun hmem => (List.mem_append.mp hmem).elim hfirst hfailed
    · rw [List.getLast?_append, hlast, Option.some_or]

theorem InsertsNothing.append {es es' : List JobEntry} (h : InsertsNothing es)
    (h' : InsertsNothing es') : InsertsNothing (es ++ es') :=
  fun row hrow => (List.mem_append.mp hrow).elim (h row) (h' row)

theorem AcceptsFailed.shift {jobId : JobId} {envs : ℕ → Env} (h : AcceptsFailed jobId envs)
    (k : ℕ) : AcceptsFailed jobId fun n => envs (n + k) :=
  fun n => h (n + k)

/-- The retries that are left are made one by one, until an attempt returns. -/
theorem autoretry_ends (settings : Settings) {jobId : JobId} {left retries : ℕ}
    (hleft : retries + left = maxRetries) {w : World} {envs : ℕ → Env}
    (hpresent : w.Present jobId) (hfailed : AcceptsFailed jobId envs) :
    ∃ outcomes es w' envs',
      runEach (autoretry (extractDocumentTask settings jobId) retries left) w envs =
        (.ok outcomes, w', envs') ∧
      w'.jobs.journal = w.jobs.journal ++ es ∧ InsertsNothing es ∧
      DeliveryEnds left (statusesOf jobId es) outcomes := by
  induction left generalizing retries w envs with
  | zero =>
    obtain ⟨outcome, w', k, es, hrun, hjournal, hinserts, hstatuses⟩ :=
      extractDocumentTask_statuses settings hpresent hfailed retries
    have hterminal : maxRetries ≤ retries := hleft.ge
    refine ⟨[outcome], es, w', _, runEach_bind_ok (runEach_attempt_of hrun) _, hjournal,
      hinserts, ?_⟩
    cases outcome with
    | ok reply => exact .of_ok 0 hstatuses
    | error exc =>
      rw [AttemptStatuses, if_pos hterminal] at hstatuses
      obtain ⟨front, hfront, hnot⟩ := hstatuses
      exact .gaveUp [exc] front rfl hfront hnot
  | succ left ih =>
    obtain ⟨outcome, w₁, k, es, hrun, hjournal, hinserts, hstatuses⟩ :=
      extractDocumentTask_statuses settings hpresent hfailed retries
    have hretry : ¬ maxRetries ≤ retries := by omega
    cases outcome with
    | ok reply =>
      exact ⟨[.ok reply], es, w₁, _, runEach_bind_ok (runEach_attempt_of hrun) _, hjournal,
        hinserts, .of_ok _ hstatuses⟩
    | error exc =>
      rw [AttemptStatuses, if_neg hretry] at hstatuses
      obtain ⟨outcomes, es', w', envs', hrest, hjournal', hinserts', hends⟩ :=
        @ih (retries + 1) (by omega) _ _ (hpresent.mono hjournal) (hfailed.shift k)
      refine ⟨.error exc :: outcomes, es ++ es', w', envs',
        (runEach_bind_ok (runEach_attempt_of hrun) _).trans (runEach_bind_ok hrest _), ?_,
        hinserts.append hinserts', ?_⟩
      · rw [hjournal', hjournal, List.append_assoc]
      · rw [statusesOf_append]
        exact hends.cons hstatuses exc

/-! ### The protocol -/

/-- All four attempts raised. -/
def AllRaised (outcomes : List (Except PyException TaskReply)) : Prop :=
  outcomes.length = maxRetries + 1 ∧ ∀ outcome ∈ outcomes, ∃ exc, outcome = .error exc

/-- The retry protocol of one delivery that is run alone from `w`: `outcomes` are those of its
attempts, and `es` is what they add to the journal. -/
structure RetryProtocol (settings : Settings) (jobId : JobId) (w : World) (envs : ℕ → Env)
    (w' : World) (outcomes : List (Except PyException TaskReply)) (es : List JobEntry) : Prop where
  journal : w'.jobs.journal = w.jobs.journal ++ es
  /-- The attempts are made one after the other, numbered by their retries. -/
  attempts : AttemptsMade (extractDocumentTask settings jobId) 0 (w, envs) maxRetries outcomes
  /-- `FAILED` is written iff all four attempts raised. -/
  failed_iff : .failed ∈ statusesOf jobId es ↔ AllRaised outcomes
  /-- It is written at most once. -/
  count_failed : (statusesOf jobId es).count .failed ≤ 1
  /-- No status is written behind it. -/
  last_failed : ∀ before after, statusesOf jobId es = before ++ .failed :: after → after = []
  /-- The status after an attempt that returned is that of the tier its calculator assessed. -/
  status : ∀ k reply, outcomes[k]? = some (.ok reply) → ∃ extraction validation assessment,
    callsOf Op.isCalculate (attemptTrace (extractDocumentTask settings jobId) 0 (w, envs) k) =
      [⟨.calculate extraction validation, assessment⟩] ∧
    reply.confidenceTier = assessedTier assessment ∧
    ∃ row, w'.jobs.find? jobId = some row ∧
      row.status = if assessedTier assessment = .review then .review else .completed

/-- Where `FAILED` occurs once, at the end, it is the last status. -/
theorem last_of_notMem {front before after : List JobStatus} (hfront : .failed ∉ front)
    (h : front ++ [.failed] = before ++ .failed :: after) : after = [] := by
  rcases List.eq_nil_or_concat after with rfl | ⟨after', status, rfl⟩
  · rfl
  · rw [List.concat_eq_append, ← List.cons_append, ← List.append_assoc] at h
    have hmem : JobStatus.failed ∈ before ++ .failed :: after' :=
      List.mem_append_right _ List.mem_cons_self
    rw [← (List.append_inj' h rfl).1] at hmem
    exact absurd hmem hfront

/-- The status of a row behind entries that insert nothing. -/
theorem find?_status_of_journal {w w' : World} {jobId : JobId} {es : List JobEntry}
    (hjournal : w'.jobs.journal = w.jobs.journal ++ es) (hinserts : InsertsNothing es)
    (hpresent : w.Present jobId) {status : JobStatus}
    (hlast : (statusesOf jobId es).getLast? = some status) :
    ∃ row, w'.jobs.find? jobId = some row ∧ row.status = status := by
  obtain ⟨row, hrow⟩ := Option.isSome_iff_exists.mp hpresent
  obtain ⟨h, hh, -⟩ := JournaledTable.exists_history hrow
  have happend : history? w'.jobs.journal jobId =
      some ⟨h.origin, h.writes ++ writesToJob jobId es⟩ := by
    rw [hjournal]
    exact history?_append hh fun r hr => absurd hr (hinserts r)
  refine ⟨_, JournaledTable.find?_of_history? happend, ?_⟩
  have hstatus : (writesToJob jobId es).getLast?.map JobUpdate.newStatus = some status := by
    rw [← List.getLast?_map]
    exact hlast
  rw [status_append, hstatus, Option.getD_some]

/-- **The retry protocol of the extraction task.** The job exists, its `FAILED` write is accepted,
and every other call of every attempt may fail in any way. -/
theorem deliverTask_protocol (settings : Settings) {jobId : JobId} {w : World} {envs : ℕ → Env}
    (hpresent : w.Present jobId) (hfailed : AcceptsFailed jobId envs) :
    ∃ outcomes w' envs' es,
      runEach (deliverTask settings jobId) w envs = (.ok outcomes, w', envs') ∧
      RetryProtocol settings jobId w envs w' outcomes es := by
  have hleft : 0 + maxRetries = maxRetries := Nat.zero_add maxRetries
  obtain ⟨outcomes, es, w', envs', hrun, hjournal, hinserts, hends⟩ :=
    autoretry_ends settings hleft hpresent hfailed
  obtain ⟨outcomes', hrun', hmade⟩ :=
    runEach_autoretry (extractDocumentTask settings jobId) 0 maxRetries (w, envs)
  obtain rfl : outcomes' = outcomes := Except.ok.inj (congrArg Prod.fst (hrun'.symm.trans hrun))
  refine ⟨outcomes', w', envs', es, hrun, ?_⟩
  cases hends with
  | gaveUp excs front hlength hstatuses hfront =>
    have hraised : ∀ outcome ∈ excs.map (.error : PyException → Except PyException TaskReply),
        ∃ exc, outcome = .error exc := by
      intro outcome houtcome
      obtain ⟨exc, -, rfl⟩ := List.mem_map.mp houtcome
      exact ⟨exc, rfl⟩
    have hcount : (statusesOf jobId es).count .failed = 1 := by
      rw [hstatuses, List.count_append, List.count_eq_zero_of_not_mem hfront]
      rfl
    refine ⟨hjournal, hmade, iff_of_true ?_ ⟨?_, hraised⟩, hcount.le, fun before after h => ?_,
      ?_⟩
    · exact List.one_le_count_iff.mp hcount.ge
    · rw [List.length_map, hlength]
    · exact last_of_notMem hfront (hstatuses.symm.trans h)
    · intro k reply hreply
      obtain ⟨exc, hexc⟩ := hraised _ (List.mem_of_getElem? hreply)
      cases hexc
  | returned excs reply hnot hlast =>
    refine ⟨hjournal, hmade, iff_of_false hnot ?_, ?_, fun before after h => ?_, ?_⟩
    · rintro ⟨-, hraised⟩
      obtain ⟨exc, hexc⟩ := hraised (.ok reply) (List.mem_append_right _ List.mem_cons_self)
      cases hexc
    · rw [List.count_eq_zero_of_not_mem hnot]
      exact Nat.zero_le 1
    · rw [h] at hnot
      exact absurd (List.mem_append_right _ List.mem_cons_self) hnot
    · intro k reply' hreply'
      obtain ⟨hk, hat⟩ := List.getElem?_eq_some_iff.mp hreply'
      have houtcome := (hmade.outcome k hk).symm.trans hat
      obtain ⟨extraction, validation, assessment, hcalls, htier⟩ :=
        extractDocumentTask_assessed houtcome
      refine ⟨extraction, validation, assessment, hcalls, htier, ?_⟩
      rw [← htier]
      rcases List.mem_append.mp (List.mem_of_getElem? hreply') with hmem | hmem
      · obtain ⟨exc, -, hexc⟩ := List.mem_map.mp hmem
        cases hexc
      · obtain rfl := Except.ok.inj (List.mem_singleton.mp hmem)
        exact find?_status_of_journal hjournal hinserts hpresent hlast

/-- A queued job. -/
def queuedRow : JobRow where
  id := 2
  batchId := 1
  filename := "plan.pdf"
  fileHash := "9f86d081"
  filePath := none
  status := .queued
  result := none
  confidenceTier := none
  confidenceScore := none
  processingTimeMs := none
  otelTraceId := none
  errorMessage := none
  pipelineTrace := none
  createdAt := 0
  updatedAt := 0

/-- A world with one job, whose file is missing, so that every attempt fails. -/
def lostPlan : World := World.empty.withJobs (World.empty.jobs.insert queuedRow rfl)

theorem deliverTask_lostPlan :
    ∃ outcomes w' envs' es,
      runEach (deliverTask ⟨"", 1000⟩ 2) lostPlan (fun _ => .calm 0 .auto) =
        (.ok outcomes, w', envs') ∧
        RetryProtocol ⟨"", 1000⟩ 2 lostPlan (fun _ => .calm 0 .auto) w' outcomes es :=
  deliverTask_protocol ⟨"", 1000⟩ rfl fun _ _ => rfl

end ZubotIngestion
