import ZubotIngestion.System.Attribution
import ZubotIngestion.System.Calls
import ZubotIngestion.System.Records

/-!
# What a job row can look like

The columns of a row go together. A row has all columns of an assessment or none of them, with the
result blob among them; a row that is queued shows nothing yet, one that is done or in review has
been assessed, and one that has failed says why. `CACHED` and `REJECTED` are never stored.

That a row in review has been assessed rests on the order of an attempt: `REVIEW` is written behind
a result that was confirmed. That a row whose approval is written has been assessed rests on the
check of the review tier, on a job that was loaded earlier: a row never loses its tier.

## Main definitions

* `Assessed`, `Unassessed`, `WellShaped`.
* `TierSeen`: a tier that a request has seen is still there.

## Main results

* `wellShaped_apply`: what the updates need to keep the shape.
* `wellShaped_reached`: every row that is ever reached is well shaped.
-/

namespace ZubotIngestion

open Effects Store

/-- No result has been written. -/
def Unassessed (row : JobRow) : Prop :=
  row.result = none ∧ row.assessment = (none, none, none, none, none)

/-- The columns of a result are all there. -/
def Assessed (row : JobRow) : Prop :=
  row.result.isSome ∧ row.confidenceTier.isSome ∧ row.confidenceScore.isSome ∧
    row.processingTimeMs.isSome ∧ row.otelTraceId.isSome ∧ row.pipelineTrace.isSome

/-- The columns of the row go together. -/
structure WellShaped (row : JobRow) : Prop where
  columns : Unassessed row ∨ Assessed row
  queued : row.status = .queued → Unassessed row ∧ row.errorMessage = none
  done : row.status = .completed ∨ row.status = .review → Assessed row
  failed : row.status = .failed → row.errorMessage.isSome
  stored : row.status ≠ .cached ∧ row.status ≠ .rejected

/-- A row with a tier has all columns of a result. -/
theorem WellShaped.assessed {row : JobRow} (h : WellShaped row)
    (htier : row.confidenceTier.isSome) : Assessed row := by
  rcases h.columns with ⟨-, hnone⟩ | hassessed
  · have hcolumn : row.confidenceTier = none := congrArg Prod.fst hnone
    rw [hcolumn] at htier
    cases htier
  · exact hassessed

/-- A row as a submission inserts it. -/
theorem wellShaped_newRow (batch : Batch) {job : Job} (h : IsNewJob job) :
    WellShaped (newRow batch job) := by
  obtain ⟨path, file, fileHash, now, rfl⟩ := h
  refine ⟨Or.inl ⟨rfl, rfl⟩, fun _ => ⟨⟨rfl, rfl⟩, rfl⟩, ?_, fun h => (nomatch h),
    JobStatus.noConfusion, JobStatus.noConfusion⟩
  rintro (h | h) <;> cases h

/-- A status update without a result keeps the shape, if a job it marks for review has been
assessed and one it marks as failed has a message. -/
theorem wellShaped_updateStatus {row : JobRow} (hrow : WellShaped row) {status : JobStatus}
    {message : Option String} {now : Timestamp}
    (hstatus : status = .processing ∨ status = .review ∧ Assessed row ∨
      status = .failed ∧ message.isSome) :
    WellShaped (JobUpdate.apply (.updateStatus status none message now) row) := by
  have hcolumns : Unassessed row ∨ Assessed row := hrow.columns
  rcases hstatus with rfl | ⟨rfl, hassessed⟩ | ⟨rfl, hmessage⟩
  · refine ⟨hcolumns, fun h => (nomatch h), ?_, fun h => (nomatch h), JobStatus.noConfusion,
      JobStatus.noConfusion⟩
    rintro (h | h) <;> cases h
  · exact ⟨hcolumns, fun h => (nomatch h), fun _ => hassessed, fun h => (nomatch h),
      JobStatus.noConfusion, JobStatus.noConfusion⟩
  · refine ⟨hcolumns, fun h => (nomatch h), ?_, fun _ => ?_, JobStatus.noConfusion,
      JobStatus.noConfusion⟩
    · rintro (h | h) <;> cases h
    · rw [JobUpdate.errorMessage_apply]
      exact Option.isSome_or.trans (by rw [JobUpdate.newErrorMessage, hmessage, Bool.true_or])

/-- An approval keeps the shape of a row that has been assessed. -/
theorem wellShaped_approve {row : JobRow} (hrow : Assessed row) (result : Dict)
    (now : Timestamp) :
    WellShaped (JobUpdate.apply (.updateStatus .completed (some result) none now) row) := by
  have hassessed : Assessed
      (JobUpdate.apply (.updateStatus .completed (some result) none now) row) := ⟨rfl, hrow.2⟩
  exact ⟨Or.inr hassessed, fun h => (nomatch h), fun _ => hassessed, fun h => (nomatch h),
    JobStatus.noConfusion, JobStatus.noConfusion⟩

/-- A result gives a row its shape. -/
theorem wellShaped_updateResult (row : JobRow) (result : Dict) (tier : ConfidenceTier)
    (score : PyFloat) (processingTimeMs : ℤ) (otelTraceId : String) (pipelineTrace : Dict)
    (now : Timestamp) :
    WellShaped (JobUpdate.apply (.updateResult result tier score processingTimeMs
      (some otelTraceId) (some pipelineTrace) now) row) := by
  have hassessed : Assessed (JobUpdate.apply (.updateResult result tier score processingTimeMs
      (some otelTraceId) (some pipelineTrace) now) row) := ⟨rfl, rfl, rfl, rfl, rfl, rfl⟩
  exact ⟨Or.inr hassessed, fun h => (nomatch h), fun _ => hassessed, fun h => (nomatch h),
    JobStatus.noConfusion, JobStatus.noConfusion⟩

/-! ### Tiers stay -/

/-- A history with a result in it ends in a row with a tier. -/
theorem isSome_confidenceTier_of_mem {h : JobHistory} {u : JobUpdate} (hu : u ∈ h.writes)
    (hnew : u.newConfidence.isSome) : JobRow.confidenceTier h.row |>.isSome := by
  have hcolumn := History.column_row (D := jobSchema) JobUpdate.confidenceTier_apply h
  obtain ⟨value, hvalue⟩ := Option.isSome_iff_exists.mp hnew
  have hmem : value.1 ∈ h.writes.filterMap fun u : JobUpdate => u.newConfidence.map Prod.fst :=
    List.mem_filterMap.mpr ⟨u, hu, by rw [hvalue]; rfl⟩
  rw [hcolumn, Option.isSome_or, List.getLast?_isSome.mpr (List.ne_nil_of_mem hmem), Bool.true_or]

/-- A row that has a tier keeps one. -/
theorem isSome_confidenceTier_apply (u : JobUpdate) {row : JobRow}
    (h : row.confidenceTier.isSome) : (u.apply row).confidenceTier.isSome := by
  rw [JobUpdate.confidenceTier_apply, Option.isSome_or, h, Bool.or_true]

/-- The tier of a job that was loaded is still there, perhaps replaced by another one. -/
def TierSeen (t : List Call) (w : World) : Prop :=
  ∀ jobId job, ⟨.getJob jobId, .ok (some job)⟩ ∈ t → job.confidenceTier.isSome →
    ∃ row, w.jobs.find? jobId = some row ∧ row.confidenceTier.isSome

/-- A row with a tier is not lost. -/
theorem exists_tier_answer {w : World} {jobId : JobId} {row : JobRow}
    (hrow : w.jobs.find? jobId = some row) (htier : row.confidenceTier.isSome) (env : Env)
    (op : Op) :
    ∃ row', (answer env op w).2.jobs.find? jobId = some row' ∧ row'.confidenceTier.isSome := by
  obtain ⟨h, hh, rfl⟩ := JournaledTable.exists_history hrow
  obtain ⟨later, hlater⟩ := extends_answer env op w jobId h hh
  refine ⟨_, JournaledTable.find?_of_history? hlater, ?_⟩
  have happend : (⟨h.origin, h.writes ++ later⟩ : JobHistory).row =
      (⟨h.row, later⟩ : JobHistory).row := List.foldl_append
  rw [happend]
  exact History.row_induction (D := jobSchema) (motive := fun row => JobRow.confidenceTier row
    |>.isSome) ⟨h.row, later⟩ htier fun u _ _ hrow => isSome_confidenceTier_apply u hrow

theorem TierSeen.answer {t : List Call} {w : World} (h : TierSeen t w) (env : Env) (op : Op) :
    TierSeen t (answer env op w).2 := by
  intro jobId job hjob htier
  obtain ⟨row, hrow, hrowTier⟩ := h jobId job hjob htier
  exact exists_tier_answer hrow hrowTier env op

/-- What a request loads itself is there. -/
theorem TierSeen.concat {t : List Call} {w : World} (h : TierSeen t w) (env : Env) (op : Op) :
    TierSeen (t ++ [⟨op, (ZubotIngestion.answer env op w).1⟩])
      (ZubotIngestion.answer env op w).2 := by
  intro jobId job hjob htier
  rcases List.mem_append.mp hjob with hjob | hjob
  · exact h.answer env op jobId job hjob htier
  · obtain ⟨rfl, hanswer⟩ := Sigma.mk.inj (List.mem_singleton.mp hjob)
    have hok := (eq_of_heq hanswer).symm
    have heffect := answer_of_ok hok
    rw [heffect] at hok
    obtain ⟨row, hrow, rfl⟩ := Option.map_eq_some_iff.mp (Except.ok.inj hok)
    exact exists_tier_answer hrow htier env _

section Runs

variable {settings : Settings} {sha256 : Bytes → FileHash}

/-- Every tier that a request has seen is still there. -/
theorem tierSeen_reached (settings : Settings) (sha256 : Bytes → FileHash)
    (moves : List SystemMove) : ∀ th ∈ (reached settings sha256 moves).threads,
      TierSeen th.trace (reached settings sha256 moves).state := by
  refine Pool.traces_exec (fun _ _ _ h => absurd h List.not_mem_nil)
    (fun env op _ _ h => h.concat env op) (fun env op _ _ h => h.answer env op) (fun th hth => ?_)
    moves
  cases hth

/-- All rows are well shaped. -/
def RowsWellShaped (w : World) : Prop :=
  ∀ jobId row, w.jobs.find? jobId = some row → WellShaped row

/-- A row has been assessed once its attempt has confirmed the result. -/
theorem assessed_of_recorded {k : TaskAnswers} {settings : Settings} {updated : Option Job}
    {w : World} {row : JobRow} (hrecorded : Recorded (k.processedCalls settings ++
      [⟨persistResult k.job.jobId (k.result settings) k.processingTimeMs, .ok updated⟩]) w)
    (hrow : w.jobs.find? k.job.jobId = some row) (hshape : WellShaped row) : Assessed row := by
  obtain ⟨h, now, hh, hmem⟩ := hrecorded.committed (k.processedCalls settings) _ [] k.job.jobId _
    k.job rfl rfl (fun ⟨_, he⟩ => nomatch he) List.mem_cons_self
  obtain rfl := Option.some.inj ((JournaledTable.find?_of_history? hh).symm.trans hrow)
  exact hshape.assessed (isSome_confidenceTier_of_mem hmem rfl)

/-- An update of an attempt keeps the shape of the row. -/
theorem wellShaped_attempt {jobId jobId' : JobId} {t : List Call} {op : Op}
    (hop : AttemptCall settings jobId t op) {f : Timestamp → JobUpdate}
    (hu : op.update? = some (jobId', f)) {w : World} (hrecorded : Recorded t w) {row : JobRow}
    (hrow : w.jobs.find? jobId' = some row) (hshape : WellShaped row) (now : Timestamp) :
    WellShaped ((f now).apply row) := by
  cases hop with
  | processing =>
    obtain ⟨-, rfl⟩ := Prod.mk.inj (Option.some.inj hu)
    exact wellShaped_updateStatus hshape (Or.inl rfl)
  | result k hid =>
    obtain ⟨-, rfl⟩ := Prod.mk.inj (Option.some.inj hu)
    exact wellShaped_updateResult row _ _ _ _ _ _ now
  | review k hid updated htier =>
    subst hid
    obtain ⟨rfl, rfl⟩ := Prod.mk.inj (Option.some.inj hu)
    exact wellShaped_updateStatus hshape
      (Or.inr (Or.inl ⟨rfl, assessed_of_recorded hrecorded hrow hshape⟩))
  | failed t exc =>
    obtain ⟨-, rfl⟩ := Prod.mk.inj (Option.some.inj hu)
    exact wellShaped_updateStatus hshape (Or.inr (Or.inr ⟨rfl, rfl⟩))
  | pipeline l hid u hfrom =>
    cases op <;> cases hu <;> cases hfrom
  | _ => cases hu

/-- A decision keeps the shape of the row. -/
theorem wellShaped_decision {pathId : PathJobId} {decision : Decision} {jobId : JobId}
    {t : List Call} {op : Op} (hop : DecisionGuarantee pathId decision t op)
    {f : Timestamp → JobUpdate} (hu : op.update? = some (jobId, f)) {w : World}
    (hseen : TierSeen t w) {row : JobRow} (hrow : w.jobs.find? jobId = some row)
    (hshape : WellShaped row) (now : Timestamp) : WellShaped ((f now).apply row) := by
  have hisUpdate : op.isUpdate = true := by rw [Op.isUpdate, hu, Option.isSome_some]
  obtain ⟨-, parsedId, job, reviewedAt, -, hload, htier, rfl⟩ := hop.2 hisUpdate
  obtain ⟨rfl, rfl⟩ := Prod.mk.inj (Option.some.inj hu)
  cases decision with
  | approve body =>
    obtain ⟨row', hrow', htier'⟩ := hseen _ job hload (by rw [htier]; rfl)
    obtain rfl := Option.some.inj (hrow'.symm.trans hrow)
    exact wellShaped_approve (hshape.assessed htier') _ now
  | reject body => exact wellShaped_updateStatus hshape (Or.inr (Or.inr ⟨rfl, rfl⟩))

/-- Every call keeps the rows well shaped. -/
theorem rowsWellShaped_answer {request : Request} {t : List Call} {op : Op} {w : World}
    (hw : RowsWellShaped w) (hrecorded : Recorded t w) (hseen : TierSeen t w)
    (hop : RequestCall settings sha256 request t op) (env : Env) :
    RowsWellShaped (answer env op w).2 := by
  intro jobId row hrow
  rcases find?_answer hrow with
    hold | ⟨batch, jobs, job, rfl, hjob, rfl⟩ | ⟨f, before, hu, hbefore, rfl⟩
  · exact hw jobId row hold
  · obtain ⟨batchId, params, userId, now, rfl, -, hjobs⟩ := hop.createBatch
    obtain ⟨file, now', -, -, hnew⟩ := hjobs job hjob
    exact wellShaped_newRow _ ⟨_, _, _, _, hnew⟩
  · have hshape := hw jobId before hbefore
    cases request with
    | extract jobId' retries => exact wellShaped_attempt hop hu hrecorded hbefore hshape env.now
    | submit files params userId => cases hop <;> cases hu
    | decide pathId decision => exact wellShaped_decision hop.1 hu hseen hbefore hshape env.now

/-- **Every row that is ever reached is well shaped**, whatever runs next to each other: it has been
assessed completely or not at all, a queued job shows nothing yet, a job that is done or in review
has been assessed, a failed one has an error message, and no row is `CACHED` or `REJECTED`. -/
theorem wellShaped_reached (settings : Settings) (sha256 : Bytes → FileHash)
    (moves : List SystemMove) :
    ∀ row ∈ (reached settings sha256 moves).state.jobs.table.rows, WellShaped row := by
  intro row hrow
  have hall : RowsWellShaped (reached settings sha256 moves).state :=
    Pool.state_exec_of_sound (R := fun t w => Recorded t w ∧ TierSeen t w)
      (calls_reached settings sha256)
      (fun moves th hth => ⟨recorded_reached settings sha256 moves th hth,
        tierSeen_reached settings sha256 moves th hth⟩)
      (fun env request t op w hw ht hop => rowsWellShaped_answer hw ht.1 ht.2 hop env)
      (fun _ _ h => nomatch h) moves
  exact hall _ row (((reached settings sha256 moves).state.jobs.table.mem_rows_iff row).mp hrow)

/-- The row of the approved job is done. -/
theorem wellShaped_reached_approved :
    ∃ row ∈ (reached plainSettings oneDigest approvedPlan).state.jobs.table.rows,
      row.status = .completed ∧ WellShaped row :=
  ⟨_, List.mem_cons_self, rfl,
    wellShaped_reached plainSettings oneDigest approvedPlan _ List.mem_cons_self⟩

end Runs

end ZubotIngestion
