import ZubotIngestion.System.Requests

/-!
# Error messages of job rows

A failure writes the error message of a job: the worker's last attempt, or a reviewer's rejection.
No other update touches it, since a status update without a message keeps the old one and a result
update leaves the column out. So a job that is worked on again after a failure, or approved after a
rejection, shows the message of a failure it has recovered from.

## Main definitions

* `StaleMessage`: a message in a row that is not `FAILED`.
* `FailuresLast`: no update but another failure comes behind a failure.

## Main results

* `staleMessage_iff`: the message of a row is stale iff its history has a failure and ends with
  another update.
* `messagesCurrent_iff_failuresLast`: no row is ever stale in a run iff failures come last in all
  its histories.
-/

namespace ZubotIngestion

open Effects Store

/-- The row is done, in review or in progress, and has an error message. -/
def StaleMessage (row : JobRow) : Prop :=
  (row.status = .completed ∨ row.status = .review ∨ row.status = .processing) ∧
    row.errorMessage ≠ none

instance (row : JobRow) : Decidable (StaleMessage row) :=
  inferInstanceAs (Decidable (_ ∧ _))

/-- No update but a failure comes behind a failure. -/
def FailuresLast (h : JobHistory) : Prop :=
  h.writes.Pairwise fun u v : JobUpdate => u.newStatus = .failed → v.newStatus = .failed

/-! ### One row -/

namespace ServiceUpdate

variable {u : JobUpdate}

/-- The failures are the updates that write a message. -/
theorem isSome_newErrorMessage_iff (hu : ServiceUpdate u) :
    u.newErrorMessage.isSome ↔ u.newStatus = .failed := by
  cases hu with
  | failed message now => exact iff_of_true rfl rfl
  | _ => exact iff_of_false Bool.false_ne_true JobStatus.noConfusion

/-- The other updates write one of the three statuses. -/
theorem newStatus_of_ne_failed (hu : ServiceUpdate u) (h : u.newStatus ≠ .failed) :
    u.newStatus = .completed ∨ u.newStatus = .review ∨ u.newStatus = .processing := by
  cases hu with
  | processing now => exact .inr (.inr rfl)
  | review now => exact .inr (.inl rfl)
  | failed message now => exact absurd rfl h
  | approved result body reviewedAt now => exact .inl rfl
  | result run processingTimeMs now => exact .inl rfl

end ServiceUpdate

namespace ServiceHistory

variable {h : JobHistory}

/-- A row has a message iff a failure is among its updates. -/
theorem errorMessage_ne_none_iff (hh : ServiceHistory h) :
    (h.row : JobRow).errorMessage ≠ none ↔ ∃ u ∈ h.writes, JobUpdate.newStatus u = .failed := by
  have hcolumn := History.column_row (D := jobSchema) JobUpdate.errorMessage_apply h
  have hfailed : ∀ u ∈ h.writes, (JobUpdate.newErrorMessage u).isSome ↔ u.newStatus = .failed :=
    fun u hu => (hh.writes u hu).isSome_newErrorMessage_iff
  rw [hcolumn, hh.origin.errorMessage, Option.or_none, ne_eq, List.getLast?_eq_none_iff,
    List.filterMap_eq_nil_iff, not_forall]
  refine exists_congr fun u => ?_
  rw [Classical.not_imp, ← ne_eq, Option.ne_none_iff_isSome]
  exact and_congr_right fun hu => hfailed u hu

/-- The message of a row is stale iff its history has a failure and ends with another update. -/
theorem staleMessage_iff (hh : ServiceHistory h) : StaleMessage h.row ↔
    (∃ u ∈ h.writes, JobUpdate.newStatus u = .failed) ∧
      ∃ u, h.writes.getLast? = some u ∧ JobUpdate.newStatus u ≠ .failed := by
  rw [StaleMessage, hh.errorMessage_ne_none_iff, and_comm, status_row]
  refine and_congr_right fun hfailed => ?_
  cases hlast : h.writes.getLast? with
  | none =>
    obtain ⟨u, hu, -⟩ := hfailed
    rw [List.getLast?_eq_none_iff.mp hlast] at hu
    cases hu
  | some u =>
    rw [Option.map_some, Option.getD_some]
    constructor
    · intro hstatus
      refine ⟨u, rfl, fun hu => ?_⟩
      rw [hu] at hstatus
      rcases hstatus with h | h | h <;> cases h
    · rintro ⟨u', hu', hne⟩
      obtain rfl := Option.some.inj hu'
      exact (hh.writes u (List.mem_of_getLast? hlast)).newStatus_of_ne_failed hne

/-- Where failures come last, no message is stale. -/
theorem not_staleMessage (hh : ServiceHistory h) (hfailures : FailuresLast h) :
    ¬ StaleMessage h.row := by
  rw [hh.staleMessage_iff]
  rintro ⟨⟨u, hu, hfailed⟩, v, hlast, hother⟩
  obtain ⟨before, hsplit⟩ := List.getLast?_eq_some_iff.mp hlast
  rw [FailuresLast, hsplit, List.pairwise_append] at hfailures
  rw [hsplit] at hu
  rcases List.mem_append.mp hu with hu | hu
  · exact hother (hfailures.2.2 u hu v (List.mem_singleton_self v) hfailed)
  · exact hother (List.mem_singleton.mp hu ▸ hfailed)

/-- If failures came last, and the message is not stale behind one more update, they still do. -/
theorem failuresLast_add {u : JobUpdate} (hh : ServiceHistory (h.add u))
    (hfailures : FailuresLast h) (hcurrent : ¬ StaleMessage (h.add u).row) :
    FailuresLast (h.add u) := by
  have hlast : (h.add u).writes.getLast? = some u := List.getLast?_concat
  rw [FailuresLast, History.writes_add, List.pairwise_append]
  refine ⟨hfailures, List.pairwise_singleton _ _, fun v hv w hw hfailed => ?_⟩
  obtain rfl := List.mem_singleton.mp hw
  by_contra hother
  exact hcurrent (hh.staleMessage_iff.mpr
    ⟨⟨v, List.mem_append_left _ hv, hfailed⟩, w, hlast, hother⟩)

end ServiceHistory

/-! ### Runs -/

/-- One call extends the history of a row by one update at most. -/
theorem history?_of_answer {env : Env} {op : Op} {w : World} {jobId : JobId} {h : JobHistory}
    (hh : (answer env op w).2.jobs.history? jobId = some h) :
    h.writes = [] ∨ ∃ h', w.jobs.history? jobId = some h' ∧ (h = h' ∨ ∃ u, h = h'.add u) := by
  obtain ⟨es, hjournal, hes⟩ := journal_answer env op w
  have hh : history? (w.jobs.journal ++ es) jobId = some h := hjournal ▸ hh
  rcases hes.cases with ⟨jobId', f, now, -, rfl⟩ | ⟨batch, jobs, -, rfl⟩ | ⟨n, -, rfl⟩ | ⟨rfl, -⟩
  · rw [history?_concat (D := jobSchema)] at hh
    simp only [Entry.record] at hh
    split_ifs at hh
    · obtain ⟨h', hh', rfl⟩ := Option.map_eq_some_iff.mp hh
      exact .inr ⟨h', hh', .inr ⟨_, rfl⟩⟩
    · exact .inr ⟨h, hh, .inl rfl⟩
  · rw [show (jobs.map fun job => insertedEntry (newRow batch job)) =
      (jobs.map (newRow batch)).map insertedEntry from List.map_map.symm] at hh
    exact (history?_append_inserted hh).imp_right fun hh' => ⟨h, hh', .inl rfl⟩
  · rw [history?_concat (D := jobSchema)] at hh
    exact .inr ⟨h, hh, .inl rfl⟩
  · rw [List.append_nil] at hh
    exact .inr ⟨h, hh, .inl rfl⟩

section Runs

variable {settings : Settings} {sha256 : Bytes → FileHash}

/-- Histories grow along a run. -/
theorem extends_reached {pre moves : List SystemMove} (hpre : pre <+: moves) :
    (reached settings sha256 pre).state.jobs.Extends
      (reached settings sha256 moves).state.jobs := by
  obtain ⟨post, rfl⟩ := hpre
  rw [reached, reached, Pool.exec_append]
  exact Pool.state_exec (H := fun w : World =>
    (reached settings sha256 pre).state.jobs.Extends w.jobs)
    (fun env op w hw => hw.trans (extends_answer env op w)) (JournaledTable.Extends.refl _) post

/-- One move extends the history of a row by one update at most. -/
theorem history?_of_move {moves : List SystemMove} {m : SystemMove} {jobId : JobId}
    {h : JobHistory}
    (hh : (reached settings sha256 (moves ++ [m])).state.jobs.history? jobId = some h) :
    h.writes = [] ∨ ∃ h', (reached settings sha256 moves).state.jobs.history? jobId = some h' ∧
      (h = h' ∨ ∃ u, h = h'.add u) := by
  rw [reached, Pool.exec_concat] at hh
  rcases (reached settings sha256 moves).state_move (launch settings sha256) answer m with
    hsame | ⟨env, op, hstep⟩
  · exact .inr ⟨h, by rwa [← reached, hsame] at hh, .inl rfl⟩
  · rw [← reached, hstep] at hh
    exact history?_of_answer hh

/-- No row has a stale message at any point of the run. -/
def MessagesCurrent (settings : Settings) (sha256 : Bytes → FileHash)
    (moves : List SystemMove) : Prop :=
  ∀ pre, pre <+: moves → ∀ row ∈ (reached settings sha256 pre).state.jobs.table.rows,
    ¬ StaleMessage row

/-- No row has a stale message at any point of a run iff in the history of every job no update but
another failure comes behind a failure. -/
theorem messagesCurrent_iff_failuresLast (settings : Settings) (sha256 : Bytes → FileHash)
    (moves : List SystemMove) :
    MessagesCurrent settings sha256 moves ↔
      ∀ jobId h, (reached settings sha256 moves).state.jobs.history? jobId = some h →
        FailuresLast h := by
  constructor
  · induction moves using List.reverseRecOn with
    | nil =>
      intro _ jobId h hh
      cases hh
    | append_singleton moves m ih =>
      intro hcurrent jobId h hh
      have hbefore := ih fun pre hpre => hcurrent pre (hpre.trans (List.prefix_append moves [m]))
      rcases history?_of_move hh with hnil | ⟨h', hh', rfl | ⟨u, rfl⟩⟩
      · rw [FailuresLast, hnil]
        exact List.Pairwise.nil
      · exact hbefore jobId h hh'
      · refine (serviceHistory_reached hh).failuresLast_add (hbefore jobId h' hh') ?_
        exact hcurrent (moves ++ [m]) (List.prefix_refl _) _
          ((JournaledTable.mem_rows_iff (D := jobSchema) _ _).mpr ⟨jobId, _, hh, rfl⟩)
  · intro hlast pre hpre row hrow
    obtain ⟨jobId, h, hh, rfl⟩ := (JournaledTable.mem_rows_iff (D := jobSchema) _ row).mp hrow
    obtain ⟨later, hlater⟩ := extends_reached hpre jobId h hh
    refine (serviceHistory_reached hh).not_staleMessage ?_
    have hpairwise : FailuresLast ⟨h.origin, h.writes ++ later⟩ := hlast jobId _ hlater
    exact (List.pairwise_append.mp hpairwise).1

end Runs

/-- Job `2` is rejected and then approved. -/
def rejectedThenApprovedPlan : List SystemMove :=
  extractedPlan ++ .start (.decide planId (.reject ⟨"first", "illegible"⟩)) ::
    calls 2 4 (.calm 0 .review) ++ .start (.decide planId (.approve ⟨"second", none⟩)) ::
    calls 3 5 (.calm 0 .review)

set_option maxRecDepth 2048 in
/-- The approved job still shows the reason of its rejection. -/
theorem not_messagesCurrent_rejectedThenApprovedPlan :
    ¬ MessagesCurrent plainSettings oneDigest rejectedThenApprovedPlan := by
  intro hcurrent
  have hrow : ∃ row ∈ (reached plainSettings oneDigest
      rejectedThenApprovedPlan).state.jobs.table.rows, StaleMessage row := by
    decide
  obtain ⟨row, hrow, hstale⟩ := hrow
  exact hcurrent rejectedThenApprovedPlan (List.prefix_refl _) row hrow hstale

end ZubotIngestion
