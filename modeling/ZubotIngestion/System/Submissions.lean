import ZubotIngestion.Services.Leftovers
import ZubotIngestion.System.Requests

/-!
# What stays of a submission

The identifier, the batch, the name and the hash of a job row are written when the row is inserted,
and no update touches them. Batches are only added, each under a new identifier and together with
its rows. So once a submission has persisted its batch, the rows of the batch are those of its new
jobs in every later state, whatever else happens.

## Main definitions

* `JobRow.identity`: the columns no update touches.
* `Filed`: every row belongs to a batch.
* `Persisted`: a batch and the rows of its new jobs.

## Main results

* `persisted_reached`: what `create_batch` has confirmed is persisted in every later state.
* `runs_reached`: a request that has ended has run.
* `script_of_submitted`: a submission that has returned has followed its script.
-/

namespace ZubotIngestion

open Effects Store

/-- The columns no update touches: identifier, batch, name and hash. -/
def JobRow.identity (row : JobRow) : JobId × BatchId × String × FileHash :=
  (row.id, row.batchId, row.filename, row.fileHash)

@[simp] theorem identity_apply (u : JobUpdate) (row : JobRow) :
    (u.apply row).identity = row.identity := by
  cases u <;> rfl

/-- The identities of all rows, oldest first. -/
def identities (w : World) : List (JobId × BatchId × String × FileHash) :=
  w.jobs.table.rows.map JobRow.identity

/-- An update keeps the identities. -/
theorem identities_update (w : World) (jobId : JobId) (u : JobUpdate) :
    identities (w.update jobId u) = identities w := by
  simp only [identities, World.update, World.withJobs, JournaledTable.write]
  split_ifs
  · simp only [Table.modify, List.map_map]
    refine List.map_congr_left fun row _ => ?_
    by_cases h : row.id = jobId <;> simp [h]
  · rfl

/-- What persisting a batch does: the batch is new, and it and its rows are added. -/
theorem batches_createBatch? {w w' : World} {batch : Batch} {jobs : List Job}
    (h : w.createBatch? batch jobs = some w') :
    (∀ b ∈ w.batches, b.batchId ≠ batch.batchId) ∧ w'.batches = w.batches ++ [batch] ∧
      identities w' = identities w ++ jobs.map fun job => (newRow batch job).identity := by
  have hrows := (createBatch?_some h).1
  rw [World.createBatch?] at h
  split_ifs at h with htaken
  obtain ⟨store, -, rfl⟩ := Option.map_eq_some_iff.mp h
  refine ⟨fun b hb hid => htaken ?_, rfl, ?_⟩
  · exact List.find?_isSome.mpr ⟨b, hb, decide_eq_true hid⟩
  · rw [identities, hrows, List.map_append, List.map_map, identities]
    rfl

/-- What a call does to the batches and the identities of the rows: nothing, or it persists a
batch. -/
theorem batches_effect (env : Env) (op : Op) (w : World) :
    ((effect env op w).2.batches = w.batches ∧ identities (effect env op w).2 = identities w) ∨
      ∃ batch jobs, op = .createBatch batch jobs ∧
        w.createBatch? batch jobs = some (effect env op w).2 := by
  cases op with
  | createBatch batch jobs =>
    simp only [effect]
    cases h : w.createBatch? batch jobs with
    | none => exact Or.inl ⟨rfl, rfl⟩
    | some w' => exact Or.inr ⟨batch, jobs, rfl, h⟩
  | updateJobStatus jobId status result errorMessage =>
    exact Or.inl ⟨rfl, identities_update w jobId _⟩
  | updateJobResult jobId result tier score processingTimeMs otelTraceId trace =>
    exact Or.inl ⟨rfl, identities_update w jobId _⟩
  | readBytes path =>
    left
    simp only [effect]
    cases w.readFile? path <;> exact ⟨rfl, rfl⟩
  | writeMetadata documentId sidecar deploymentId nodeId =>
    left
    simp only [effect]
    split_ifs <;> exact ⟨rfl, rfl⟩
  | indexCompanion documentId extraction companion deploymentId =>
    left
    simp only [effect]
    split_ifs <;> exact ⟨rfl, rfl⟩
  | _ => exact Or.inl ⟨rfl, rfl⟩

/-- The same with faults: a call changes nothing there, or it persists a batch. -/
theorem batches_answer (env : Env) (op : Op) (w : World) :
    ((answer env op w).2.batches = w.batches ∧ identities (answer env op w).2 = identities w) ∨
      ∃ batch jobs, op = .createBatch batch jobs ∧
        w.createBatch? batch jobs = some (answer env op w).2 := by
  rcases answer_world env op w with h | h <;> rw [h]
  · exact Or.inl ⟨rfl, rfl⟩
  · exact batches_effect env op w

/-! ### Persisted batches -/

/-- Every row belongs to a batch. -/
def Filed (w : World) : Prop :=
  ∀ identity ∈ identities w, ∃ batch ∈ w.batches, batch.batchId = identity.2.1

theorem filed_answer {w : World} (env : Env) (op : Op) (hw : Filed w) :
    Filed (answer env op w).2 := by
  rcases batches_answer env op w with ⟨hbatches, hrows⟩ | ⟨batch, jobs, -, hcreate⟩
  · rwa [Filed, hbatches, hrows]
  · obtain ⟨-, hbatches, hrows⟩ := batches_createBatch? hcreate
    rw [Filed, hbatches, hrows]
    intro identity hidentity
    rcases List.mem_append.mp hidentity with hold | hnew
    · obtain ⟨b, hb, hid⟩ := hw identity hold
      exact ⟨b, List.mem_append_left _ hb, hid⟩
    · obtain ⟨job, -, rfl⟩ := List.mem_map.mp hnew
      exact ⟨batch, by simp, rfl⟩

/-- Every row that is ever reached belongs to a batch. -/
theorem filed_reached {settings : Settings} {sha256 : Bytes → FileHash}
    (moves : List SystemMove) : Filed (reached settings sha256 moves).state :=
  Pool.state_exec (H := Filed) (fun env op _ => filed_answer env op)
    (fun _ hmem => absurd hmem List.not_mem_nil) moves

/-- The batch is there, and its rows are those of `jobs`, in order. -/
structure Persisted (w : World) (batch : Batch) (jobs : List Job) : Prop where
  found : (w.batches.find? fun b => decide (b.batchId = batch.batchId)) = some batch
  rows : ((identities w).filter fun identity => decide (identity.2.1 = batch.batchId)) =
    jobs.map fun job => (newRow batch job).identity

/-- A batch that has just been persisted. -/
theorem persisted_of_createBatch? {w w' : World} {batch : Batch} {jobs : List Job} (hw : Filed w)
    (h : w.createBatch? batch jobs = some w') : Persisted w' batch jobs := by
  obtain ⟨hfresh, hbatches, hrows⟩ := batches_createBatch? h
  constructor
  · have hnone : (w.batches.find? fun b => decide (b.batchId = batch.batchId)) = none :=
      List.find?_eq_none.mpr fun b hb => by simpa using hfresh b hb
    rw [hbatches, List.find?_append, hnone]
    simp
  · have hnone : ((identities w).filter fun identity =>
        decide (identity.2.1 = batch.batchId)) = [] := by
      refine List.filter_eq_nil_iff.mpr fun identity hidentity hid => ?_
      obtain ⟨b, hb, hb'⟩ := hw identity hidentity
      exact hfresh b hb (hb'.trans (of_decide_eq_true hid))
    have hall : ∀ identity ∈ jobs.map fun job => (newRow batch job).identity,
        decide (identity.2.1 = batch.batchId) = true := by
      intro identity hidentity
      obtain ⟨job, -, rfl⟩ := List.mem_map.mp hidentity
      exact decide_eq_true rfl
    rw [hrows, List.filter_append, hnone, List.nil_append, List.filter_eq_self.mpr hall]

/-- A persisted batch stays as it is. -/
theorem Persisted.answer {w : World} {batch : Batch} {jobs : List Job}
    (h : Persisted w batch jobs) (env : Env) (op : Op) :
    Persisted (answer env op w).2 batch jobs := by
  rcases batches_answer env op w with ⟨hbatches, hrows⟩ | ⟨batch', jobs', -, hcreate⟩
  · exact ⟨hbatches ▸ h.found, hrows ▸ h.rows⟩
  · obtain ⟨hfresh, hbatches, hrows⟩ := batches_createBatch? hcreate
    have hne : batch'.batchId ≠ batch.batchId :=
      fun hid => hfresh batch (List.mem_of_find?_eq_some h.found) hid.symm
    constructor
    · rw [hbatches, List.find?_append, h.found, Option.some_or]
    · have hnone : (jobs'.map fun job => (newRow batch' job).identity).filter
          (fun identity => decide (identity.2.1 = batch.batchId)) = [] := by
        refine List.filter_eq_nil_iff.mpr fun identity hidentity hid => ?_
        obtain ⟨job, -, rfl⟩ := List.mem_map.mp hidentity
        exact hne (of_decide_eq_true hid)
      rw [hrows, List.filter_append, hnone, List.append_nil, h.rows]

/-- The batches that a run was told are persisted. -/
def Confirmed (t : List Call) (w : World) : Prop :=
  ∀ batch jobs, ∀ created : Batch, ⟨.createBatch batch jobs, .ok created⟩ ∈ t →
    Persisted w batch jobs

/-- What `create_batch` has confirmed to a request is persisted in every later state. -/
theorem persisted_reached (settings : Settings) (sha256 : Bytes → FileHash)
    (moves : List SystemMove) {th : Serving}
    (hth : th ∈ (reached settings sha256 moves).threads) :
    Confirmed th.trace (reached settings sha256 moves).state := by
  have hother : ∀ (env : Env) op t w, Filed w → Confirmed t w →
      Confirmed t (answer env op w).2 :=
    fun env op _ _ _ ht batch jobs created hmem => (ht batch jobs created hmem).answer env op
  have hinvariant : Filed (reached settings sha256 moves).state ∧
      ∀ th ∈ (reached settings sha256 moves).threads,
        Confirmed th.trace (reached settings sha256 moves).state := by
    refine Pool.traces_exec_of_invariant (fun env op _ => filed_answer env op)
      (fun _ _ _ _ _ hmem => absurd hmem List.not_mem_nil)
      (fun env op t w hw ht batch jobs created hmem => ?_) hother
      ⟨fun _ hmem => absurd hmem List.not_mem_nil, fun _ hmem => absurd hmem List.not_mem_nil⟩ moves
    rcases List.mem_append.mp hmem with hmem | hmem
    · exact (ht batch jobs created hmem).answer env op
    · -- the call that persists the batch has just been answered
      obtain ⟨rfl, hcreated⟩ := Sigma.mk.inj (List.mem_singleton.mp hmem)
      have hok := (eq_of_heq hcreated).symm
      have heffect := answer_of_ok hok
      rw [heffect] at hok ⊢
      simp only [effect] at hok ⊢
      cases hcreate : w.createBatch? batch jobs with
      | none =>
        rw [hcreate] at hok
        cases hok
      | some w' => exact persisted_of_createBatch? hw hcreate
  exact hinvariant.2 th hth

/-- A request that has ended has run. -/
theorem runs_reached {settings : Settings} {sha256 : Bytes → FileHash} {moves : List SystemMove}
    {th : Serving} (hth : th ∈ (reached settings sha256 moves).threads)
    {outcome : Except PyException Reply} (ho : th.outcome? = some outcome) :
    (launch settings sha256 th.request).Runs th.trace outcome :=
  Pool.runs_exec (P := (⟨.empty, []⟩ : System)) (fun _ hmem => absurd hmem List.not_mem_nil)
    moves hth ho

/-- A submission that has returned has made all calls of its script. -/
theorem script_of_submitted {settings : Settings} {sha256 : Bytes → FileHash}
    {moves : List SystemMove} {th : Serving} (hth : th ∈ (reached settings sha256 moves).threads)
    {result : BatchSubmissionResult} (ho : th.outcome? = some (.ok (.submitted result))) :
    ∃ (params : SubmissionParams) (userId : String) (k : SubmissionAnswers),
      th.request = .submit k.uploads params userId ∧ k.uploads ≠ [] ∧
        th.trace = k.calls sha256 params userId ∧ result = k.result sha256 := by
  have hruns := runs_reached hth ho
  cases hrequest : th.request with
  | extract jobId retries =>
    rw [hrequest] at hruns
    obtain ⟨r, -, hr⟩ := Program.runs_map.mp hruns
    cases r <;> cases hr
  | decide jobId decision =>
    rw [hrequest] at hruns
    obtain ⟨r, -, hr⟩ := Program.runs_map.mp hruns
    cases r <;> cases hr
  | submit files params userId =>
    rw [hrequest] at hruns
    obtain ⟨r, hsubmit, hr⟩ := Program.runs_map.mp hruns
    rcases submitBatch_runs hsubmit with ⟨exc, -, -, rfl⟩ | ⟨hvalid, k, rfl, hend⟩
    · cases hr
    · rcases hend with ⟨ht, rfl⟩ | ⟨exc, rfl, -⟩
      · obtain rfl := (Reply.submitted.inj (Except.ok.inj hr))
        refine ⟨params, userId, k, rfl, fun hnone => ?_, ht, rfl⟩
        rw [rejection?, if_pos hnone] at hvalid
        cases hvalid
      · cases hr

end ZubotIngestion
