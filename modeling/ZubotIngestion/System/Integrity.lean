import ZubotIngestion.System.Calls
import ZubotIngestion.System.ErrorMessages
import ZubotIngestion.System.Stores

/-!
# The integrity of the database

The services only add to the database: batches and rows are appended, and no update touches the
columns that say what a row stands for. A batch is persisted together with its rows, in one
transaction and under a new identifier, and its tasks are put into the queue behind that
transaction. So in every state the counts of the batches are right, every row belongs to one
batch, and no task is ever queued for a job that has no row yet.

## Main definitions

* `JobRow.insertedColumns`: the columns of a row that are written once.
* `EnqueuedBehindRow`, `Intact`.

## Main results

* `appendOnly_reached`: what is in the database stays there, and stays the same.
* `intact_reached`: every reachable database is intact.
-/

namespace ZubotIngestion

open Effects Store

/-! ### What stays -/

/-- The columns that are written when a row is inserted, and never again. -/
def JobRow.insertedColumns (row : JobRow) :
    (JobId × BatchId × String × FileHash) × Option String × Timestamp :=
  (row.identity, row.filePath, row.createdAt)

@[simp] theorem insertedColumns_apply (u : JobUpdate) (row : JobRow) :
    (u.apply row).insertedColumns = row.insertedColumns := by
  cases u <;> rfl

/-- A row has these columns from its insertion on. -/
theorem insertedColumns_row (h : JobHistory) :
    JobRow.insertedColumns h.row = JobRow.insertedColumns h.origin :=
  h.row_induction
    (motive := fun row => JobRow.insertedColumns row = JobRow.insertedColumns h.origin)
    rfl fun u _ row hrow => (insertedColumns_apply u row).trans hrow

/-- `w'` comes after `w`: entries have only been added at the end. -/
structure Follows (w w' : World) : Prop where
  batches : w.batches <+: w'.batches
  journal : w.jobs.journal <+: w'.jobs.journal
  identities : identities w <+: identities w'

/-- Nothing has been taken away, and rows stand for what they stood for. -/
structure AppendedTo (w w' : World) : Prop extends Follows w w' where
  rows : ∀ row ∈ w.jobs.table.rows, ∃ row', w'.jobs.find? row.id = some row' ∧
    row'.insertedColumns = row.insertedColumns

/-- What one call leaves of the batches and the identities. -/
theorem prefix_answer (env : Env) (op : Op) (w : World) :
    w.batches <+: (answer env op w).2.batches ∧
      identities w <+: identities (answer env op w).2 := by
  rcases batches_answer env op w with ⟨hbatches, hrows⟩ | ⟨batch, jobs, -, hcreate⟩
  · rw [hbatches, hrows]
    exact ⟨List.prefix_refl _, List.prefix_refl _⟩
  · obtain ⟨-, hbatches, hrows⟩ := batches_createBatch? hcreate
    rw [hbatches, hrows]
    exact ⟨List.prefix_append _ _, List.prefix_append _ _⟩

/-- One more call follows as well. -/
theorem Follows.answer {w w' : World} (h : Follows w w') (env : Env) (op : Op) :
    Follows w (answer env op w').2 := by
  obtain ⟨es, hes, -⟩ := journal_answer env op w'
  obtain ⟨hbatches, hidentities⟩ := prefix_answer env op w'
  refine ⟨h.batches.trans hbatches, ?_, h.identities.trans hidentities⟩
  rw [hes]
  exact h.journal.trans (List.prefix_append _ _)

/-- A run goes on where it stands. -/
theorem reached_append (settings : Settings) (sha256 : Bytes → FileHash)
    (moves moves' : List SystemMove) :
    reached settings sha256 (moves ++ moves') =
      Pool.exec (launch settings sha256) answer (reached settings sha256 moves) moves' :=
  Pool.exec_append _ _ _ _ _

/-- Nothing is ever taken away from the database: whatever happens after some moves, the batches,
the journal and the rows of before are still there, in the same order, and a row keeps its
identifier, its batch, the name, the hash and the path of its file and its time of creation. -/
theorem appendOnly_reached (settings : Settings) (sha256 : Bytes → FileHash)
    (moves moves' : List SystemMove) :
    AppendedTo (reached settings sha256 moves).state
      (reached settings sha256 (moves ++ moves')).state := by
  have hfollows : Follows (reached settings sha256 moves).state
      (reached settings sha256 (moves ++ moves')).state := by
    rw [reached_append]
    exact Pool.state_exec (H := Follows (reached settings sha256 moves).state)
      (fun env op _ h => h.answer env op)
      ⟨List.prefix_refl _, List.prefix_refl _, List.prefix_refl _⟩ moves'
  refine ⟨hfollows, fun row hrow => ?_⟩
  have hfound := ((reached settings sha256 moves).state.jobs.table.mem_rows_iff row).mp hrow
  obtain ⟨h, hh, rfl⟩ := JournaledTable.exists_history hfound
  obtain ⟨later, hlater⟩ := extends_reached (List.prefix_append moves moves') _ h hh
  exact ⟨_, JournaledTable.find?_of_history? hlater,
    (insertedColumns_row _).trans (insertedColumns_row h).symm⟩

/-! ### Intact databases -/

/-- A task is put into the queue only when its job has a row. -/
def EnqueuedBehindRow (journal : List JobEntry) : Prop :=
  ∀ (pre : List JobEntry) (jobId : JobId) (post : List JobEntry),
    journal = pre ++ .noted (.enqueued jobId) :: post → (history? pre jobId).isSome

/-- More entries may follow, if the tasks among them are put into the queue behind their rows. -/
theorem EnqueuedBehindRow.append {journal es : List JobEntry} (h : EnqueuedBehindRow journal)
    (hes : ∀ pre jobId post, es = pre ++ .noted (.enqueued jobId) :: post →
      (history? journal jobId).isSome) : EnqueuedBehindRow (journal ++ es) := by
  intro pre jobId post hsplit
  rcases List.append_eq_append_iff.mp hsplit with ⟨mid, rfl, hmid⟩ | ⟨mid, hjournal, hmid⟩
  · exact isSome_history?_append (hes mid jobId post hmid) mid
  · cases mid with
    | nil =>
      rw [List.append_nil] at hjournal
      rw [← hjournal]
      exact hes [] jobId post hmid.symm
    | cons e mid =>
      obtain ⟨rfl, -⟩ := List.cons.inj hmid
      exact h pre jobId mid hjournal

/-- Batches have different identifiers, every row belongs to one of them, a batch counts its rows,
and no task is queued for a job without a row. -/
structure Intact (w : World) : Prop where
  batchIds : (w.batches.map Batch.batchId).Nodup
  filed : Filed w
  totals : ∀ batch ∈ w.batches, batch.totalJobs =
    (w.jobs.table.rows.filter fun row => decide (row.batchId = batch.batchId)).length
  queue : EnqueuedBehindRow w.jobs.journal

/-- The rows of a batch, counted by their identities. -/
theorem length_rows_of_batch (w : World) (batchId : BatchId) :
    (w.jobs.table.rows.filter fun row => decide (row.batchId = batchId)).length =
      ((identities w).filter fun identity => decide (identity.2.1 = batchId)).length := by
  rw [identities, List.filter_map, List.length_map]
  rfl

/-- A transaction that persists a batch keeps the counts. -/
theorem Intact.createBatch? {w w' : World} {batch : Batch} {jobs : List Job} (hw : Intact w)
    (h : w.createBatch? batch jobs = some w') (hcount : batch.totalJobs = jobs.length) :
    (w'.batches.map Batch.batchId).Nodup ∧ ∀ b ∈ w'.batches, b.totalJobs =
      (w'.jobs.table.rows.filter fun row => decide (row.batchId = b.batchId)).length := by
  obtain ⟨hfresh, hbatches, hrows⟩ := batches_createBatch? h
  have hpersisted := persisted_of_createBatch? hw.filed h
  constructor
  · rw [hbatches, List.map_append, List.map_singleton]
    refine hw.batchIds.append (List.nodup_singleton _) ?_
    intro batchId hold hnew
    obtain ⟨b, hb, rfl⟩ := List.mem_map.mp hold
    exact hfresh b hb (List.mem_singleton.mp hnew)
  · intro b hb
    rw [length_rows_of_batch]
    rw [hbatches] at hb
    rcases List.mem_append.mp hb with hb | hb
    · -- the new rows belong to the new batch
      have hnone : (jobs.map fun job => (newRow batch job).identity).filter
          (fun identity => decide (identity.2.1 = b.batchId)) = [] := by
        refine List.filter_eq_nil_iff.mpr fun identity hidentity hid => ?_
        obtain ⟨job, -, rfl⟩ := List.mem_map.mp hidentity
        exact hfresh b hb (of_decide_eq_true hid).symm
      rw [hrows, List.filter_append, hnone, List.append_nil, ← length_rows_of_batch]
      exact hw.totals b hb
    · rw [List.mem_singleton.mp hb, hpersisted.rows, List.length_map, hcount]

/-- Every call keeps the database intact. -/
theorem intact_answer {settings : Settings} {sha256 : Bytes → FileHash} {request : Request}
    {w : World} {t : List Call} {op : Op} (hw : Intact w) (ht : Confirmed t w)
    (hop : RequestCall settings sha256 request t op) (env : Env) :
    Intact (answer env op w).2 := by
  obtain ⟨hbatchIds, htotals⟩ : ((answer env op w).2.batches.map Batch.batchId).Nodup ∧
      ∀ b ∈ (answer env op w).2.batches, b.totalJobs = ((answer env op w).2.jobs.table.rows.filter
        fun row => decide (row.batchId = b.batchId)).length := by
    rcases batches_answer env op w with ⟨hbatches, hrows⟩ | ⟨batch, jobs, hcall, hcreate⟩
    · rw [hbatches]
      refine ⟨hw.batchIds, fun b hb => ?_⟩
      rw [length_rows_of_batch, hrows, ← length_rows_of_batch]
      exact hw.totals b hb
    · rw [hcall] at hop
      obtain ⟨batchId, params, userId, now, rfl, -⟩ := hop.createBatch
      exact hw.createBatch? hcreate rfl
  refine ⟨hbatchIds, filed_answer env op hw.filed, htotals, ?_⟩
  obtain ⟨es, hjournal, hes⟩ := journal_answer env op w
  rw [hjournal]
  refine hw.queue.append fun pre jobId post hsplit => ?_
  have hadds : Adds ⟨op, (answer env op w).1⟩ (.noted (.enqueued jobId)) :=
    ⟨es, hes.mono fun _ h => h.elim, by rw [hsplit]; simp⟩
  obtain rfl : op = .enqueueExtraction jobId := by
    have hnote := hadds.note?
    cases op <;> cases hnote
    rfl
  -- the transaction of the row has been confirmed before, so the row is there
  obtain ⟨batch, jobs, created, hcall, job, hjob, rfl⟩ := hop.enqueueExtraction
  have hrows := (ht batch jobs created hcall).rows
  have hmem : (newRow batch job).identity ∈ identities w :=
    (List.mem_filter.mp (hrows ▸ List.mem_map_of_mem hjob)).1
  obtain ⟨row, hrow, hidentity⟩ := List.mem_map.mp hmem
  have hid : row.id = job.jobId := congrArg Prod.fst hidentity
  obtain ⟨h, hh, -⟩ := JournaledTable.exists_history ((w.jobs.table.mem_rows_iff row).mp hrow)
  exact Option.isSome_iff_exists.mpr ⟨h, hid ▸ hh⟩

/-- **Every reachable database is intact**, whatever requests run next to each other, whatever
fails and wherever a process dies: the identifiers of the batches are different, every row belongs
to a batch, `total_jobs` of a batch is the number of its rows, and a task is only ever put into the
queue when its job has a row. -/
theorem intact_reached (settings : Settings) (sha256 : Bytes → FileHash)
    (moves : List SystemMove) : Intact (reached settings sha256 moves).state := by
  have hempty : Intact World.empty := by
    refine ⟨List.nodup_nil, fun _ h => absurd h List.not_mem_nil,
      fun _ h => absurd h List.not_mem_nil, fun pre jobId post h => ?_⟩
    exact absurd h.symm (List.append_ne_nil_of_right_ne_nil _ (List.cons_ne_nil _ _))
  exact Pool.state_exec_of_sound (R := Confirmed) (calls_reached settings sha256)
    (fun moves th hth => persisted_reached settings sha256 moves hth)
    (fun env request t op w hw ht hop => intact_answer hw ht hop env) hempty moves

end ZubotIngestion
