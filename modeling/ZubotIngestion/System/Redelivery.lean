import ZubotIngestion.Services.Retries
import ZubotIngestion.System.Records

/-!
# Redelivered tasks

The queue delivers a task at least once, so an attempt may start after the job was decided. It does
not look at the status: it marks the job `PROCESSING` and goes on to its outcome as a first
delivery does. What survives of an earlier decision is what the updates leave alone. A status
update leaves the result blob alone, so an approval record stays until a new result is written;
only a failure sets the error message, and nothing clears it.

## Main definitions

* `RedeliverySafe`: a redelivery changes nothing about a decided job.

## Main results

* `redelivery_keeps`: the updates of every attempt, and what a job keeps of its past.
-/

namespace ZubotIngestion

open Effects Store

/-- A job that is done, failed or decided by a reviewer. -/
def Decided (row : JobRow) : Prop := row.status = .completed ∨ row.status = .failed

/-- The task of a job is delivered again, as thread `i`, and makes `n` calls. -/
def redelivery (jobId : JobId) (i n : ℕ) (env : Env) : List SystemMove :=
  .start (.extract jobId 0) :: calls i n env

/-- A redelivery keeps the status of a decided job, its approval record and its error message. -/
def RedeliverySafe (settings : Settings) (sha256 : Bytes → FileHash) : Prop :=
  ∀ moves jobId n env row row', (reached settings sha256 moves).state.jobs.find? jobId = some row →
    Decided row → (reached settings sha256 (moves ++ redelivery jobId
      (reached settings sha256 moves).threads.length n env)).state.jobs.find? jobId = some row' →
    row'.status = row.status ∧ row'.errorMessage = row.errorMessage ∧
      (isApproved row.result = true → isApproved row'.result = true)

/-- What a redelivered task does, and what it leaves:

* whatever state an attempt finds, it asks for `PROCESSING`, the result, and `REVIEW` for the
  review tier, in this order and up to some point, and on a terminal attempt for `FAILED` behind
  them;
* an attempt that returned has asked for all of them, and they are in the history of the job, in
  this order;
* after any further updates of a job its status is that of the last one;
* an approval record is kept until a result is written;
* an error message is replaced by a failure only, and never removed. -/
theorem redelivery_keeps (settings : Settings) (sha256 : Bytes → FileHash)
    (moves : List SystemMove) :
    (∀ th ∈ (reached settings sha256 moves).threads, ∀ jobId retries,
      th.request = .extract jobId retries →
        AttemptUpdates jobId retries (updatesOf th.trace)) ∧
    (∀ th ∈ (reached settings sha256 moves).threads, ∀ jobId retries reply,
      th.request = .extract jobId retries → th.outcome? = some (.ok (.extracted reply)) →
        ∃ (k : TaskAnswers) (h : JobHistory) (us : List JobUpdate), reply = k.reply settings ∧
          updatesOf th.trace =
            [markProcessing jobId, persistResult jobId (k.result settings) k.processingTimeMs] ++
              (if k.tier settings = .review then [markReview jobId] else []) ∧
          (reached settings sha256 moves).state.jobs.history? jobId = some h ∧
          List.Forall₂ (Commits jobId) (updatesOf th.trace) us ∧ us.Sublist h.writes) ∧
    ∀ jobId origin before after,
      (reached settings sha256 moves).state.jobs.history? jobId =
        some ⟨origin, before ++ after⟩ →
      ((⟨origin, before ++ after⟩ : JobHistory).row : JobRow).status =
        ((after.getLast?.map JobUpdate.newStatus).getD
          ((⟨origin, before⟩ : JobHistory).row : JobRow).status) ∧
      (isApproved ((⟨origin, before⟩ : JobHistory).row : JobRow).result = true →
        (∀ u ∈ after, u.newConfidence = none) →
          isApproved ((⟨origin, before ++ after⟩ : JobHistory).row : JobRow).result = true) ∧
      ((∀ u ∈ after, u.newStatus ≠ .failed) →
        ((⟨origin, before ++ after⟩ : JobHistory).row : JobRow).errorMessage =
          ((⟨origin, before⟩ : JobHistory).row : JobRow).errorMessage) ∧
      (((⟨origin, before⟩ : JobHistory).row : JobRow).errorMessage.isSome = true →
        ((⟨origin, before ++ after⟩ : JobHistory).row : JobRow).errorMessage.isSome = true) := by
  refine ⟨fun th hth jobId retries hrequest => ?_,
    fun th hth jobId retries reply hrequest houtcome => ?_, fun jobId origin before after hh => ?_⟩
  · have hcalls := (reached_sound settings sha256 moves).calls th hth
    rw [hrequest] at hcalls
    exact attemptUpdates_of_kept hcalls
  · have hpost := (reached_sound settings sha256 moves).outcome hth houtcome
    rw [hrequest] at hpost
    obtain ⟨r, hr, hreply⟩ := hpost
    obtain rfl : r = .ok reply := by
      cases r with
      | ok reply' => cases hreply; rfl
      | error exc => cases hreply
    obtain ⟨k, rfl, htrace, rfl⟩ := hr.returned reply rfl
    have hupdates := k.updatesOf_calls settings
    obtain ⟨rest, hrest⟩ : ∃ rest, k.calls settings =
        ⟨.getJob k.job.jobId, .ok (some k.job)⟩ :: rest := ⟨_, rfl⟩
    have hsame : updatesOf (k.calls settings) = updatesOf rest := by
      rw [hrest]
      rfl
    have hjob : ∀ op ∈ updatesOf rest, ∃ f, op.update? = some (k.job.jobId, f) := by
      intro op hop
      rw [← hsame] at hop
      exact k.update?_of_mem_calls settings hop
    obtain ⟨h, us, hh, hcommits, hsub⟩ := recordedInOrder_reached settings sha256 moves th hth
      k.job.jobId k.job rest (htrace.trans hrest) hjob
      fun c hc => k.not_raised_of_isUpdate settings (hrest ▸ List.mem_cons_of_mem _ hc)
    rw [htrace]
    exact ⟨k, h, us, rfl, hupdates, hh, hsame ▸ hcommits, hsub⟩
  · have hservice := serviceHistory_reached hh
    exact ⟨status_append origin before after, hservice.approved_append,
      hservice.errorMessage_append, hservice.isSome_errorMessage_append⟩

/-- A job that is delivered again after its approval goes back to `PROCESSING`. -/
theorem not_redeliverySafe : ¬ RedeliverySafe plainSettings oneDigest := by
  intro hsafe
  have hbefore : ∃ row, (reached plainSettings oneDigest approvedPlan).state.jobs.find? 2 =
      some row ∧ row.status = .completed := ⟨_, rfl, rfl⟩
  have hafter : ∃ row', (reached plainSettings oneDigest (approvedPlan ++ redelivery 2
      (reached plainSettings oneDigest approvedPlan).threads.length 5
        (.calm 0 .review))).state.jobs.find? 2 = some row' ∧ row'.status = .processing :=
    ⟨_, rfl, rfl⟩
  obtain ⟨row, hrow, hdone⟩ := hbefore
  obtain ⟨row', hrow', hprocessing⟩ := hafter
  have hstatus := (hsafe approvedPlan 2 5 _ row row' hrow (Or.inl hdone) hrow').1
  rw [hdone, hprocessing] at hstatus
  cases hstatus

end ZubotIngestion
