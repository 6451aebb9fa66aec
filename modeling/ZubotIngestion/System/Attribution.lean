import ZubotIngestion.System.Stores

/-!
# Whose doing a job row is

Every update of a job row goes back to a request for this very job: an attempt of the extraction
task, or a reviewer's decision. So what a row shows can be attributed. Its approval record is that
of an approve request, its error message that of an attempt that gave up or of a reject request,
and the tier, the score, the duration, the trace identifier and the pipeline trace are all those of
one pipeline run: a row never mixes two runs in these columns.

## Main definitions

* `Authored`: the update was made by a request of the run.
* `Attributed`: what a row shows goes back to requests.

## Main results

* `authored_reached`: every update in the history of a row was made by a request for it.
* `attributed_reached`: every row that is ever reached is attributed.
-/

namespace ZubotIngestion

open Effects Store

/-- The update of the job was made by a request of the run. -/
inductive Authored (settings : Settings) (P : System) (jobId : JobId) : JobUpdate → Prop
  /-- An attempt has started, or it routes the job to the reviewers. -/
  | marked {th : Serving} (hth : th ∈ P.threads) {retries : ℕ}
      (hrequest : th.request = .extract jobId retries) {status : JobStatus}
      (hstatus : status = .processing ∨ status = .review) (now : Timestamp) :
      Authored settings P jobId (.updateStatus status none none now)
  /-- The last attempt has given up. -/
  | gaveUp {th : Serving} (hth : th ∈ P.threads) {retries : ℕ}
      (hrequest : th.request = .extract jobId retries) (hlast : maxRetries ≤ retries)
      (exc : PyException) (now : Timestamp) :
      Authored settings P jobId (.updateStatus .failed none (some (formatError exc)) now)
  /-- An attempt writes the result of its pipeline run. -/
  | assessed {th : Serving} (hth : th ∈ P.threads) {retries : ℕ}
      (hrequest : th.request = .extract jobId retries) {k : TaskAnswers}
      (hrun : k.processedCalls settings <+: th.trace) (now : Timestamp) :
      Authored settings P jobId (.updateResult (resultPayload (k.result settings))
        (k.tier settings) (k.result settings).confidenceAssessment.overallConfidence
        k.processingTimeMs (some (k.result settings).otelTraceId)
        (some (k.result settings).pipelineTrace) now)
  /-- A reviewer approves the job. -/
  | approved {th : Serving} (hth : th ∈ P.threads) {pathId : PathJobId} {body : ApproveRequest}
      (hrequest : th.request = .decide pathId (.approve body)) (hid : pathId.uuid? = some jobId)
      (result : Option Dict) (reviewedAt : String) (now : Timestamp) :
      Authored settings P jobId
        (.updateStatus .completed (some (approvedResult result body reviewedAt)) none now)
  /-- A reviewer rejects the job. -/
  | rejected {th : Serving} (hth : th ∈ P.threads) {pathId : PathJobId} {body : RejectRequest}
      (hrequest : th.request = .decide pathId (.reject body)) (hid : pathId.uuid? = some jobId)
      (now : Timestamp) :
      Authored settings P jobId (.updateStatus .failed none (some (rejectionMessage body)) now)

/-- An update of an attempt is one of its outcome, or the `FAILED` write of the last attempt. -/
theorem AttemptUpdates.mem_cases {jobId : JobId} {retries : ℕ} {updates : List Op}
    (h : AttemptUpdates jobId retries updates) {op : Op} (hop : op ∈ updates) :
    OutcomeUpdate jobId op ∨ maxRetries ≤ retries ∧ ∃ exc, op = markFailed jobId exc := by
  rcases h with h | ⟨hlast, outcome, exc, h, rfl⟩
  · exact Or.inl (h.mem hop)
  · rcases List.mem_append.mp hop with hop | hop
    · exact Or.inl (h.mem hop)
    · exact Or.inr ⟨hlast, exc, List.mem_singleton.mp hop⟩

section Runs

variable {settings : Settings} {sha256 : Bytes → FileHash} {moves : List SystemMove}

/-- An update that an attempt asks for. -/
theorem authored_of_extract {th : Serving} (hth : th ∈ (reached settings sha256 moves).threads)
    {jobId jobId' : JobId} {retries : ℕ} (hrequest : th.request = .extract jobId retries)
    {pre post : List Call} {c : Call} (htrace : th.trace = pre ++ c :: post)
    {f : Timestamp → JobUpdate} (hupdate : c.1.update? = some (jobId', f)) (now : Timestamp) :
    jobId' = jobId ∧ Authored settings (reached settings sha256 moves) jobId (f now) := by
  have hkept := ((reached_sound settings sha256 moves).calls th hth pre c post htrace).1
  have hdelivers := (delivers_reached th hth pre c post htrace).1
  have hisUpdate : c.1.isUpdate = true := by rw [Op.isUpdate, hupdate, Option.isSome_some]
  rw [hrequest] at hkept hdelivers
  rcases (hkept.2 hisUpdate).mem_cases (List.mem_append_right _ (List.mem_singleton_self c.1)) with
    houtcome | ⟨hlast, exc, hfailed⟩
  · generalize hop : c.1 = op at hupdate houtcome hdelivers
    cases houtcome with
    | processing =>
      obtain ⟨rfl, rfl⟩ := Prod.mk.inj (Option.some.inj hupdate)
      exact ⟨rfl, .marked hth hrequest (Or.inl rfl) now⟩
    | result result ms =>
      -- the result is that of the run the attempt has made before
      obtain ⟨k, -, hpre, hop⟩ := hdelivers rfl
      rw [hop] at hupdate
      obtain ⟨rfl, rfl⟩ := Prod.mk.inj (Option.some.inj hupdate)
      exact ⟨rfl, .assessed hth hrequest ⟨c :: post, hpre ▸ htrace.symm⟩ now⟩
    | review =>
      obtain ⟨rfl, rfl⟩ := Prod.mk.inj (Option.some.inj hupdate)
      exact ⟨rfl, .marked hth hrequest (Or.inr rfl) now⟩
  · rw [hfailed] at hupdate
    obtain ⟨rfl, rfl⟩ := Prod.mk.inj (Option.some.inj hupdate)
    exact ⟨rfl, .gaveUp hth hrequest hlast exc now⟩

/-- An update that a decision asks for. -/
theorem authored_of_decide {th : Serving} (hth : th ∈ (reached settings sha256 moves).threads)
    {pathId : PathJobId} {decision : Decision} (hrequest : th.request = .decide pathId decision)
    {pre post : List Call} {c : Call} (htrace : th.trace = pre ++ c :: post) {jobId : JobId}
    {f : Timestamp → JobUpdate} (hupdate : c.1.update? = some (jobId, f)) (now : Timestamp) :
    Authored settings (reached settings sha256 moves) jobId (f now) := by
  have hkept := ((reached_sound settings sha256 moves).calls th hth pre c post htrace).1
  have hisUpdate : c.1.isUpdate = true := by rw [Op.isUpdate, hupdate, Option.isSome_some]
  rw [hrequest] at hkept
  obtain ⟨-, parsedId, job, reviewedAt, hid, -, -, hop⟩ := hkept.2 hisUpdate
  rw [hop] at hupdate
  obtain ⟨rfl, rfl⟩ := Prod.mk.inj (Option.some.inj hupdate)
  cases decision with
  | approve body => exact .approved hth hrequest hid job.result reviewedAt now
  | reject body => exact .rejected hth hrequest hid now

/-- Every update in the history of a row was made by a request for this row. -/
theorem authored_reached {jobId : JobId} {h : JobHistory}
    (hh : (reached settings sha256 moves).state.jobs.history? jobId = some h) :
    ∀ u ∈ h.writes, Authored settings (reached settings sha256 moves) jobId u := by
  intro u hu
  obtain ⟨th, hth, c, hc, hadds⟩ := explained_reached _ ((mem_of_history? hh).2 u hu)
  obtain ⟨f, now, hupdate, rfl⟩ := hadds.update?
  obtain ⟨pre, post, htrace⟩ := List.append_of_mem hc
  cases hrequest : th.request with
  | extract jobId' retries =>
    obtain ⟨rfl, hauthored⟩ := authored_of_extract hth hrequest htrace hupdate now
    exact hauthored
  | submit files params userId =>
    have hkept := ((reached_sound settings sha256 moves).calls th hth pre c post htrace).1
    have hisUpdate : c.1.isUpdate = true := by rw [Op.isUpdate, hupdate, Option.isSome_some]
    rw [hrequest] at hkept
    exact absurd (hisUpdate.symm.trans hkept.1) Bool.true_eq_false_eq_False
  | decide pathId decision => exact authored_of_decide hth hrequest htrace hupdate now

end Runs

/-! ### What a row shows -/

/-- The approval record of a result blob. -/
def reviewRecord? (result : Option Dict) : Option PyVal := result.bind fun d => d.get? "review"

/-- The columns a result write sets next to the blob: tier, score, duration, trace identifier and
pipeline trace. -/
def JobRow.assessment (row : JobRow) :
    Option ConfidenceTier × Option PyFloat × Option ℤ × Option String × Option Dict :=
  (row.confidenceTier, row.confidenceScore, row.processingTimeMs, row.otelTraceId,
    row.pipelineTrace)

/-- These columns, for the outcome of an attempt. -/
def TaskAnswers.assessment (k : TaskAnswers) (settings : Settings) :
    Option ConfidenceTier × Option PyFloat × Option ℤ × Option String × Option Dict :=
  (some (k.tier settings),
    some (numeric43 (k.result settings).confidenceAssessment.overallConfidence),
    some k.processingTimeMs, some (k.result settings).otelTraceId,
    some (k.result settings).pipelineTrace)

/-- What a row shows goes back to requests for it. -/
structure Attributed (settings : Settings) (P : System) (row : JobRow) : Prop where
  /-- The approval record is the one of an approve request, made by the reviewer it names. -/
  review : ∀ record, reviewRecord? row.result = some record →
    ∃ th ∈ P.threads, ∃ pathId body reviewedAt, th.request = .decide pathId (.approve body) ∧
      pathId.uuid? = some row.id ∧ record = .dict (approvalRecord body reviewedAt)
  /-- The error message is the one of an attempt that gave up, or of a reject request. -/
  message : ∀ message, row.errorMessage = some message →
    (∃ th ∈ P.threads, ∃ retries exc, th.request = .extract row.id retries ∧
      maxRetries ≤ retries ∧ message = formatError exc) ∨
    ∃ th ∈ P.threads, ∃ pathId body, th.request = .decide pathId (.reject body) ∧
      pathId.uuid? = some row.id ∧ message = rejectionMessage body
  /-- Either no run has been assessed, or all these columns are those of one run. -/
  assessment : row.assessment = (none, none, none, none, none) ∨
    ∃ th ∈ P.threads, ∃ retries, ∃ k : TaskAnswers, th.request = .extract row.id retries ∧
      k.processedCalls settings <+: th.trace ∧ row.assessment = k.assessment settings

section Row

variable {settings : Settings} {P : System} {jobId : JobId} {u : JobUpdate}

/-- A row keeps its approval record, or gets the one of an approve request. -/
theorem Authored.reviewRecord? (hu : Authored settings P jobId u) {result : Option Dict}
    {record : PyVal} (h : reviewRecord? (u.newResult.or result) = some record) :
    reviewRecord? result = some record ∨ ∃ th ∈ P.threads, ∃ pathId body reviewedAt,
      th.request = .decide pathId (.approve body) ∧ pathId.uuid? = some jobId ∧
        record = .dict (approvalRecord body reviewedAt) := by
  cases hu with
  | marked => exact Or.inl h
  | gaveUp => exact Or.inl h
  | assessed hth hrequest hrun now =>
    rename_i k
    -- the blob of a run has no approval record
    have hrecord : Dict.get? (resultPayload (k.result settings)) "review" = some record := h
    rw [get?_review_resultPayload] at hrecord
    cases hrecord
  | approved hth hrequest hid result' reviewedAt now =>
    rename_i th pathId body
    have hrecord : (approvedResult result' body reviewedAt).get? "review" = some record := h
    rw [approvedResult, Dict.get?_insert_self] at hrecord
    exact Or.inr ⟨th, hth, pathId, body, reviewedAt, hrequest, hid,
      (Option.some.inj hrecord).symm⟩
  | rejected => exact Or.inl h

/-- A row keeps its error message, or gets the one of a failure. -/
theorem Authored.newErrorMessage (hu : Authored settings P jobId u) {message : String}
    (h : u.newErrorMessage = some message) :
    (∃ th ∈ P.threads, ∃ retries exc, th.request = .extract jobId retries ∧
      maxRetries ≤ retries ∧ message = formatError exc) ∨
    ∃ th ∈ P.threads, ∃ pathId body, th.request = .decide pathId (.reject body) ∧
      pathId.uuid? = some jobId ∧ message = rejectionMessage body := by
  cases hu with
  | gaveUp hth hrequest hlast exc now =>
    exact Or.inl ⟨_, hth, _, exc, hrequest, hlast, (Option.some.inj h).symm⟩
  | rejected hth hrequest hid now =>
    exact Or.inr ⟨_, hth, _, _, hrequest, hid, (Option.some.inj h).symm⟩
  | marked => cases h
  | assessed => cases h
  | approved => cases h

/-- A row keeps the columns of its last run, or gets those of another run, all at once. -/
theorem Authored.assessment (hu : Authored settings P jobId u) (row : JobRow) :
    (u.apply row).assessment = row.assessment ∨
      ∃ th ∈ P.threads, ∃ retries, ∃ k : TaskAnswers, th.request = .extract jobId retries ∧
        k.processedCalls settings <+: th.trace ∧
          (u.apply row).assessment = k.assessment settings := by
  cases hu with
  | assessed hth hrequest hrun now => exact Or.inr ⟨_, hth, _, _, hrequest, hrun, rfl⟩
  | marked => exact Or.inl rfl
  | gaveUp => exact Or.inl rfl
  | approved => exact Or.inl rfl
  | rejected => exact Or.inl rfl

/-- An update that was made by a request for the row keeps it attributed. -/
theorem Attributed.apply {row : JobRow} (hrow : Attributed settings P row)
    (hu : Authored settings P row.id u) : Attributed settings P (u.apply row) := by
  refine ⟨fun record hrecord => ?_, fun message hmessage => ?_, ?_⟩
  · rw [JobUpdate.result_apply] at hrecord
    rw [JobUpdate.id_apply]
    exact (hu.reviewRecord? hrecord).elim (hrow.review record) id
  · rw [JobUpdate.errorMessage_apply] at hmessage
    rw [JobUpdate.id_apply]
    cases hnew : u.newErrorMessage with
    | none =>
      rw [hnew, Option.none_or] at hmessage
      exact hrow.message message hmessage
    | some message' =>
      rw [hnew, Option.some_or, Option.some.injEq] at hmessage
      exact hu.newErrorMessage (hnew.trans (congrArg some hmessage))
  · rw [JobUpdate.id_apply]
    rcases hu.assessment row with hsame | hrun
    · rw [hsame]
      exact hrow.assessment
    · exact Or.inr hrun

end Row

/-- A row that was inserted is one of a new job. -/
theorem Adds.inserted {c : Call} {row : JobRow} (h : Adds c (.inserted row)) :
    ∃ batch jobs job, c.1 = .createBatch batch jobs ∧ job ∈ jobs ∧ row = newRow batch job := by
  obtain ⟨es, hes, he⟩ := h
  rcases hes.cases with ⟨jobId, u, now, -, rfl⟩ | ⟨batch, jobs, hop, rfl⟩ | ⟨n, -, rfl⟩ | ⟨rfl, -⟩
  · cases List.mem_singleton.mp he
  · obtain ⟨job, hjob, hrow⟩ := List.mem_map.mp he
    exact ⟨batch, jobs, job, hop, hjob, (Entry.inserted.inj hrow).symm⟩
  · cases List.mem_singleton.mp he
  · cases he

section Runs

variable {settings : Settings} {sha256 : Bytes → FileHash} {moves : List SystemMove}

/-- Every row was inserted for a new job of a submission. -/
theorem origin_reached {jobId : JobId} {h : JobHistory}
    (hh : (reached settings sha256 moves).state.jobs.history? jobId = some h) :
    ∃ batch job, IsNewJob job ∧ h.origin = newRow batch job := by
  obtain ⟨th, hth, c, hc, hadds⟩ := explained_reached _ (mem_of_history? hh).1.1
  obtain ⟨batch, jobs, job, hop, hjob, horigin⟩ := hadds.inserted
  obtain ⟨pre, post, htrace⟩ := List.append_of_mem hc
  have hkept := ((reached_sound settings sha256 moves).calls th hth pre c post htrace).1
  rw [hop] at hkept
  exact ⟨batch, job, hkept.isNewJob job hjob, horigin⟩

end Runs

end ZubotIngestion
