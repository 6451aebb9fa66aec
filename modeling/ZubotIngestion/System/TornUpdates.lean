import ZubotIngestion.System.Records

/-!
# Approvals next to workers

An approval writes the result blob it has loaded, with a record added to it; the worker writes the
blob together with the tier and score columns. The blob and the columns agree as long as no result
with another outcome is written between the load and the write of an approval. The commit of an
approval that has succeeded is in the history of the row; the row is `COMPLETED` until the next
commit, and the approval record stays until the next result.

## Main definitions

* `CoherentJob`: the result blob agrees with the tier and the score.
* `Undisturbed`: the columns are as they were loaded when an approval is written.
* `ApprovalStands`: a job stays approved.

## Main results

* `approval_next_to_worker`: what holds of the blob, the columns and an approval in every run.
-/

namespace ZubotIngestion

open Effects Store

/-- The result blob agrees with the tier and the score columns. The score column holds three
decimals. -/
def CoherentJob (job : Job) : Prop :=
  match job.result with
  | none => job.confidenceTier = none
  | some result => ∃ tier score, job.confidenceTier = some tier ∧
      job.overallConfidence = some (numeric43 score) ∧
      Dict.get? result "confidence_tier" = some (.str tier.value) ∧
      Dict.get? result "confidence_score" = some (.float score)

theorem coherentJob_of_some {job : Job} {result : Dict} (hresult : job.result = some result)
    {tier : ConfidenceTier} {score : PyFloat} (htier : job.confidenceTier = some tier)
    (hscore : job.overallConfidence = some (numeric43 score))
    (htier' : Dict.get? result "confidence_tier" = some (.str tier.value))
    (hscore' : Dict.get? result "confidence_score" = some (.float score)) : CoherentJob job := by
  rw [CoherentJob, hresult]
  exact ⟨tier, score, htier, hscore, htier', hscore'⟩

/-- Coherence looks at three columns only. -/
theorem CoherentJob.congr {job job' : Job} (h : CoherentJob job)
    (hresult : job'.result = job.result) (htier : job'.confidenceTier = job.confidenceTier)
    (hscore : job'.overallConfidence = job.overallConfidence) : CoherentJob job' := by
  rw [CoherentJob] at h ⊢
  rw [hresult, htier, hscore]
  exact h

/-- An approval record next to a coherent blob. -/
theorem CoherentJob.approve {job job' : Job} (h : CoherentJob job)
    (hreview : job.confidenceTier = some .review) {body : ApproveRequest} {reviewedAt : String}
    (hresult : job'.result = some (approvedResult job.result body reviewedAt))
    (htier : job'.confidenceTier = job.confidenceTier)
    (hscore : job'.overallConfidence = job.overallConfidence) : CoherentJob job' := by
  rw [CoherentJob] at h
  cases hblob : job.result with
  | none =>
    rw [hblob] at h
    exact absurd (hreview.symm.trans h) (Option.some_ne_none _)
  | some result =>
    rw [hblob] at h hresult
    obtain ⟨tier, score, ht, hs, ht', hs'⟩ := h
    refine coherentJob_of_some hresult (htier.trans ht) (hscore.trans hs) ?_ ?_
    · exact (Dict.get?_insert_of_ne (by decide) result _).trans ht'
    · exact (Dict.get?_insert_of_ne (by decide) result _).trans hs'

/-- When an approval is about to be written, the tier and the score of the row are those of the
job it has loaded. -/
def Undisturbed (P : System) (m : SystemMove) : Prop :=
  ∀ (i : ℕ) env th jobId body parsedId job row op next, m = .step i env →
    P.threads[i]? = some th → th.request = .decide jobId (.approve body) →
    th.program = .call op next → op.isUpdate = true →
    ⟨.getJob parsedId, .ok (some job)⟩ ∈ th.trace → P.state.jobs.find? parsedId = some row →
      row.confidenceTier = job.confidenceTier ∧ row.confidenceScore = job.overallConfidence

/-- Every row of the state is coherent. -/
def Coherently (w : World) : Prop :=
  Journaled w ∧ ∀ jobId row, w.jobs.find? jobId = some row → CoherentJob (toJob row)

/-- The update of a worker keeps a row coherent. -/
theorem coherentJob_of_attemptUpdate {jobId jobId' : JobId} {op : Op}
    (h : AttemptUpdate jobId op) {f : Timestamp → JobUpdate} (hu : op.update? = some (jobId', f))
    (now : Timestamp) {row : JobRow} (hrow : CoherentJob (toJob row)) :
    CoherentJob (toJob ((f now).apply row)) := by
  rcases h with (_ | ⟨result, ms⟩ | _) | exc
  · obtain ⟨-, rfl⟩ := Prod.mk.inj (Option.some.inj hu)
    exact hrow.congr rfl rfl rfl
  · obtain ⟨-, rfl⟩ := Prod.mk.inj (Option.some.inj hu)
    exact coherentJob_of_some rfl rfl rfl rfl rfl
  · obtain ⟨-, rfl⟩ := Prod.mk.inj (Option.some.inj hu)
    exact hrow.congr rfl rfl rfl
  · obtain ⟨-, rfl⟩ := Prod.mk.inj (Option.some.inj hu)
    exact hrow.congr rfl rfl rfl

/-- A guaranteed call keeps all rows coherent, an approval if it is undisturbed. -/
theorem coherently_answer {P : System} {i : ℕ} {env : Env} {th : Serving} {op : Op}
    {next : Except PyException op.Res → Prog Reply} (hP : Coherently P.state)
    (hcalls : Program.Kept (Trusted CoherentJob) (Guarantee th.request) th.trace)
    (hquiet : Undisturbed P (.step i env)) (hi : P.threads[i]? = some th)
    (hprogram : th.program = .call op next) (hop : Guarantee th.request th.trace op) :
    Coherently (answer env op P.state).2 := by
  refine ⟨journaled_answer hop env hP.1, fun jobId row hrow => ?_⟩
  rcases find?_answer hrow with hrow | ⟨batch, jobs, job, rfl, hjob, rfl⟩ |
    ⟨f, before, hu, hbefore, rfl⟩
  · exact hP.2 jobId row hrow
  · obtain ⟨path, file, fileHash, now, rfl⟩ := hop.isNewJob job hjob
    exact rfl
  have hcoherent := hP.2 jobId before hbefore
  have hupdate : op.isUpdate = true := by rw [Op.isUpdate, hu, Option.isSome_some]
  cases hrequest : th.request with
  | extract jobId' retries =>
    rw [hrequest] at hop
    have hmem := (hop.2 hupdate).mem (List.mem_append_right _ (List.mem_singleton_self op))
    exact coherentJob_of_attemptUpdate hmem hu env.now hcoherent
  | submit files params userId =>
    rw [hrequest] at hop
    exact absurd (hupdate.symm.trans hop.1) Bool.true_eq_false_eq_False
  | decide pathId decision =>
    rw [hrequest] at hop
    obtain ⟨-, parsedId, job, reviewedAt, hid, hread, htier, rfl⟩ := hop.2 hupdate
    obtain ⟨rfl, rfl⟩ := Prod.mk.inj (Option.some.inj hu)
    cases decision with
    | reject body => exact hcoherent.congr rfl rfl rfl
    | approve body =>
      -- the blob comes from the job that was loaded, the columns from the row
      obtain ⟨pre, post, htrace⟩ := List.append_of_mem hread
      have hjob : CoherentJob job := (hcalls pre _ post htrace).2.loads
      have hsame := hquiet i env th pathId body parsedId job before _ next rfl hi hrequest hprogram
        hupdate hread hbefore
      exact hjob.approve htier rfl hsame.1 hsame.2

/-- In a run whose approvals are undisturbed, the blob of every row agrees with its columns. -/
theorem coherent_of_undisturbed {settings : Settings} {sha256 : Bytes → FileHash}
    {moves : List SystemMove}
    (h : ∀ pre m post, moves = pre ++ m :: post → Undisturbed (reached settings sha256 pre) m) :
    ∀ row ∈ (reached settings sha256 moves).state.jobs.table.rows, CoherentJob (toJob row) := by
  have hempty : Pool.Sound Coherently (Trusted CoherentJob) Guarantee (Outcome settings CoherentJob)
      (⟨.empty, []⟩ : System) :=
    ⟨⟨fun _ h => (nomatch h), fun _ _ h => (nomatch h)⟩, fun _ h => (nomatch h),
      fun _ h => (nomatch h)⟩
  have hsound : (reached settings sha256 moves).Sound Coherently (Trusted CoherentJob) Guarantee
      (Outcome settings CoherentJob) := by
    refine hempty.exec_while (J := Undisturbed) ?_ ?_ (launch_safe settings sha256 CoherentJob)
      moves h
    · intro P m env op hP _
      refine ⟨sensible_answer env op _, loads_answer (fun row hrow => ?_) env op⟩
      exact hP.2 row.id row ((P.state.jobs.table.mem_rows_iff row).mp hrow)
    · intro P i env th op next hP hquiet hi hprogram hop
      have hcalls := hP.calls th (List.mem_of_getElem? hi)
      exact coherently_answer hP.state hcalls hquiet hi hprogram hop
  intro row hrow
  exact hsound.state.2 row.id row
    (((reached settings sha256 moves).state.jobs.table.mem_rows_iff row).mp hrow)

/-- A job that was approved with status 200 is `COMPLETED` with the approval record. -/
def ApprovalStands (P : System) : Prop :=
  ∀ th ∈ P.threads, ∀ jobId body parsedId response row,
    th.request = .decide jobId (.approve body) → jobId.uuid? = some parsedId →
    th.outcome? = some (.ok (.decided response)) → P.state.jobs.find? parsedId = some row →
      row.status = .completed ∧ isApproved row.result = true

/-- What holds of the blob, the columns and an approval in every run:

* if no approval is disturbed, the tier in the blob of every row is that of its column, and the
  score of its column is that in the blob with three decimals;
* the write of an approval that was answered with status 200 is in the history of the row, which is
  `COMPLETED` with the approval record as long as nothing is written behind it, and has the record
  as long as no result is. -/
theorem approval_next_to_worker (settings : Settings) (sha256 : Bytes → FileHash)
    (moves : List SystemMove) :
    ((∀ pre m post, moves = pre ++ m :: post → Undisturbed (reached settings sha256 pre) m) →
      ∀ row ∈ (reached settings sha256 moves).state.jobs.table.rows, CoherentJob (toJob row)) ∧
    ∀ th ∈ (reached settings sha256 moves).threads, ∀ jobId body response,
      th.request = .decide jobId (.approve body) →
      th.outcome? = some (.ok (.decided response)) →
      ∃ (parsedId : JobId) (job : Job) (reviewedAt : String) (now : Timestamp) (origin : JobRow)
        (before after : List JobUpdate), jobId.uuid? = some parsedId ∧
        (reached settings sha256 moves).state.jobs.history? parsedId = some ⟨origin,
          before ++ .updateStatus .completed (some (approvedResult job.result body reviewedAt)) none
            now :: after⟩ ∧
        ∃ row, (reached settings sha256 moves).state.jobs.find? parsedId = some row ∧
          (after = [] → row.status = .completed) ∧
          ((∀ u ∈ after, u.newConfidence = none) → isApproved row.result = true) := by
  refine ⟨coherent_of_undisturbed, fun th hth jobId body response hrequest houtcome => ?_⟩
  have hpost := (reached_sound settings sha256 moves).outcome hth houtcome
  rw [hrequest] at hpost
  obtain ⟨r, hdecision, hr⟩ := hpost
  cases r with
  | error e => cases hr
  | ok response' =>
    obtain ⟨parsedId, job, reviewedAt, h, now, hid, hh, hmem⟩ :=
      (hdecision.2 response' rfl).mem_history (recorded_reached settings sha256 moves th hth)
    obtain ⟨origin, writes⟩ := h
    have happroval : (.updateStatus .completed (some (approvedResult job.result body reviewedAt))
        none now : JobUpdate) ∈ writes := hmem
    obtain ⟨before, after, rfl⟩ := List.append_of_mem happroval
    refine ⟨parsedId, job, reviewedAt, now, origin, before, after, hid, hh, _,
      JournaledTable.find?_of_history? hh, ?_, ?_⟩
    · rintro rfl
      exact status_append origin before [_]
    · intro hafter
      have hservice := serviceHistory_reached hh
      rw [List.append_cons] at hservice ⊢
      refine hservice.approved_append ?_ hafter
      have hrow := History.row_add (D := jobSchema) ⟨origin, before⟩
        (.updateStatus .completed (some (approvedResult job.result body reviewedAt)) none now)
      rw [show (⟨origin, before ++ [_]⟩ : JobHistory).row = _ from hrow]
      exact isApproved_approvedResult job.result body reviewedAt

/-- Job `2` is approved between the two commits of its worker, which then sets `REVIEW`. -/
def overwrittenPlan : List SystemMove :=
  persistedPlan ++ .start (.decide planId (.approve ⟨"first", none⟩)) ::
    calls 2 5 (.calm 0 .review) ++ calls 1 1 (.calm 0 .review)

/-- Job `2` is extracted again, with another tier, between the load and the write of an
approval. -/
def tornPlan : List SystemMove :=
  extractedPlan ++ .start (.decide planId (.approve ⟨"first", none⟩)) ::
    calls 2 2 (.calm 0 .review) ++ .start (.extract 2 0) :: calls 3 23 (.calm 0 .auto) ++
    calls 2 1 (.calm 0 .review)

set_option maxRecDepth 2048 in
/-- The worker overwrites an approval, and an approval tears the blob from its columns. -/
theorem not_approvalStands_overwrittenPlan :
    ¬ ApprovalStands (reached plainSettings oneDigest overwrittenPlan) ∧
      ∃ row, (reached plainSettings oneDigest tornPlan).state.jobs.find? 2 = some row ∧
        ¬ CoherentJob (toJob row) := by
  constructor
  · intro hstands
    have hthread : ∃ th, (reached plainSettings oneDigest overwrittenPlan).threads[2]? = some th ∧
        th.request = .decide planId (.approve ⟨"first", none⟩) ∧
        ∃ response, th.outcome? = some (.ok (.decided response)) := ⟨_, rfl, rfl, _, rfl⟩
    have hrow : ∃ row, (reached plainSettings oneDigest overwrittenPlan).state.jobs.find? 2 =
        some row ∧ row.status = .review := ⟨_, rfl, rfl⟩
    obtain ⟨th, hth, hrequest, response, houtcome⟩ := hthread
    obtain ⟨row, hfind, hstatus⟩ := hrow
    have hcompleted := (hstands th (List.mem_of_getElem? hth) _ _ 2 response row hrequest rfl
      houtcome hfind).1
    rw [hstatus] at hcompleted
    cases hcompleted
  · have hrow : ∃ row result, (reached plainSettings oneDigest tornPlan).state.jobs.find? 2 =
        some row ∧ row.result = some result ∧ row.confidenceTier = some .auto ∧
          Dict.get? result "confidence_tier" = some (.str "review") := ⟨_, _, rfl, rfl, rfl, rfl⟩
    obtain ⟨row, result, hfind, hresult, htier, hblob⟩ := hrow
    refine ⟨row, hfind, fun hcoherent => ?_⟩
    have hjob : (toJob row).result = some result := hresult
    rw [CoherentJob, hjob] at hcoherent
    obtain ⟨tier, score, ht, -, hb, -⟩ := hcoherent
    obtain rfl : ConfidenceTier.auto = tier := Option.some.inj (htier.symm.trans ht)
    rw [hblob] at hb
    exact absurd (PyVal.str.inj (Option.some.inj hb)) (by decide)

end ZubotIngestion
