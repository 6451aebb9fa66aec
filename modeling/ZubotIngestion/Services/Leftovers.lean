import ZubotIngestion.Services.Conservation

/-!
# What a failed submission leaves behind

A submission may raise at any of its calls, and a call that raises may have taken effect. Nothing
is undone: the files that were written stay, and so do the rows of a batch whose jobs could not all
be enqueued. The database alone sees the batch as a whole, up to the call that persists it.

## Main definitions

* `enqueuedIds`: what has been put into the queue.
* `LeavesNothing`: nothing of the batch is left.
* `Leftovers`: what is left.

## Main results

* `submitBatch_leftovers`: `Leftovers` describes every submission that raises.
-/

namespace ZubotIngestion

open Effects Store

/-- The calls are answered one after the other, and any of them may fail. -/
abbrev Elapses (w : World) (t : List Call) (w' : World) : Prop :=
  Replays (S := services) answer (fun _ => True) w t w'

theorem elapses_runEach {α : Type} (p : Prog α) (w : World) (envs : ℕ → Env) :
    Elapses w (traceEach p w envs) (runEach p w envs).2.1 :=
  replays_each fun _ => trivial

/-! ### One call -/

/-- A call leaves the world as it is, or has its effect. -/
theorem answer_world (env : Env) (op : Op) (w : World) :
    (answer env op w).2 = w ∨ (answer env op w).2 = (effect env op w).2 := by
  rcases answer_cases env op w with h | ⟨exc, h⟩ | ⟨exc, h⟩ <;> rw [h]
  · exact Or.inr rfl
  · exact Or.inl rfl
  · exact Or.inr rfl

/-- A call that is answered normally has its effect. -/
theorem answer_of_ok {env : Env} {op : Op} {w : World} {v : op.Res}
    (h : (answer env op w).1 = .ok v) : answer env op w = effect env op w := by
  rcases answer_cases env op w with hcase | ⟨exc, hcase⟩ | ⟨exc, hcase⟩
  · exact hcase
  · rw [hcase] at h
    cases h
  · rw [hcase] at h
    cases h

theorem Elapses.cons_ok {w w' : World} {op : Op} {v : op.Res} {t : List Call}
    (h : Elapses w (⟨op, .ok v⟩ :: t) w') :
    ∃ env, (effect env op w).1 = .ok v ∧ Elapses (effect env op w).2 t w' := by
  obtain ⟨env, -, hv, hrest⟩ := replays_cons.mp h
  have heffect := answer_of_ok hv
  rw [heffect] at hv hrest
  exact ⟨env, hv, hrest⟩

/-- The last call of a run. -/
theorem Elapses.last {w w' : World} {op : Op} {r : Except PyException op.Res}
    (h : Elapses w [⟨op, r⟩] w') : w' = w ∨ ∃ env, w' = (effect env op w).2 := by
  obtain ⟨env, -, -, hrest⟩ := replays_cons.mp h
  obtain rfl := replays_nil.mp hrest
  exact (answer_world env op w).imp id fun h => ⟨env, h⟩

/-- Whether a call leaves the `jobs` table and its journal alone. -/
def Op.isQuiet (op : Op) : Prop :=
  op.update? = none ∧ op.note? = none ∧ op.isInsertion = false

theorem jobs_effect_of_quiet {op : Op} (h : op.isQuiet) (env : Env) (w : World) :
    (effect env op w).2.jobs = w.jobs := by
  obtain ⟨hupdate, hnote, hinsertion⟩ := h
  have heffect := jobsEffect_effect env op w
  generalize (effect env op w).2.jobs = jobs at heffect
  cases heffect with
  | kept _ _ => rfl
  | updated hu =>
    rw [hupdate] at hu
    cases hu
  | noted hn =>
    rw [hnote] at hn
    cases hn
  | inserted hop _ =>
    rw [hop] at hinsertion
    cases hinsertion

/-- Quiet calls leave the table alone. -/
theorem Elapses.jobs_eq {w w' : World} {t : List Call} (h : Elapses w t w')
    (ht : ∀ c ∈ t, c.1.isQuiet) : w'.jobs = w.jobs := by
  induction h with
  | nil w => rfl
  | @cons env op w w' t _ _ ih =>
    rw [ih fun c hc => ht c (List.mem_cons_of_mem _ hc)]
    rcases answer_world env op w with hw | hw <;> rw [hw]
    exact jobs_effect_of_quiet (ht _ List.mem_cons_self) env w

/-! ### Files stay -/

/-- No call removes a file. -/
theorem files_effect (env : Env) (op : Op) (w : World) :
    (effect env op w).2.files = w.files ∨
      ∃ path content, op = .writeBytes path content ∧
        (effect env op w).2.files = (path, content) :: w.files := by
  cases op with
  | createBatch batch jobs =>
    left
    simp only [effect]
    cases h : w.createBatch? batch jobs with
    | none => rfl
    | some w' =>
      rw [World.createBatch?] at h
      split_ifs at h
      obtain ⟨store, -, rfl⟩ := Option.map_eq_some_iff.mp h
      rfl
  | readBytes path =>
    left
    simp only [effect]
    cases w.readFile? path <;> rfl
  | writeMetadata documentId sidecar deploymentId nodeId =>
    left
    simp only [effect]
    split_ifs <;> rfl
  | indexCompanion documentId extraction companion deploymentId =>
    left
    simp only [effect]
    split_ifs <;> rfl
  | writeBytes path content => exact Or.inr ⟨path, content, rfl, rfl⟩
  | _ => exact Or.inl rfl

/-- Whatever fails, a file that is there stays there. -/
theorem Elapses.files_subset {w w' : World} {t : List Call} (h : Elapses w t w') :
    w.files ⊆ w'.files := by
  induction h with
  | nil w => exact fun _ h => h
  | @cons env op w w' t _ _ ih =>
    refine fun file hfile => ih ?_
    rcases answer_world env op w with hw | hw <;> rw [hw]
    · exact hfile
    · rcases files_effect env op w with hfiles | ⟨path, content, -, hfiles⟩ <;> rw [hfiles]
      · exact hfile
      · exact List.mem_cons_of_mem _ hfile

/-- A file whose write was answered is there at the end. -/
theorem Elapses.mem_files {w w' : World} {t : List Call} (h : Elapses w t w') {path : PdfPath}
    {content : Bytes} (hmem : ⟨.writeBytes path content, .ok ()⟩ ∈ t) :
    (path, content) ∈ w'.files := by
  obtain ⟨pre, post, rfl⟩ := List.append_of_mem hmem
  obtain ⟨m, -, hpost⟩ := replays_append.mp h
  obtain ⟨env, -, hrest⟩ := Elapses.cons_ok hpost
  exact Elapses.files_subset hrest List.mem_cons_self

/-! ### Rows and queue -/

/-- The job an entry of the journal says was put into the queue. -/
def enqueuedId? : JobEntry → Option JobId
  | .noted (.enqueued jobId) => some jobId
  | _ => none

/-- The jobs that have been put into the queue. -/
def enqueuedIds (w : World) : List JobId := w.jobs.journal.filterMap enqueuedId?

/-- All rows are inserted at the end of the table. -/
theorem rows_insertRows {store store' : JobStore} {rows : List JobRow}
    (h : insertRows store rows = some store') :
    store'.table.rows = store.table.rows ++ rows := by
  induction rows generalizing store with
  | nil =>
    rw [insertRows, Option.some.injEq] at h
    rw [← h, List.append_nil]
  | cons row rows ih =>
    rw [insertRows] at h
    split_ifs at h with hrow
    rw [ih h]
    exact List.append_assoc _ _ _

/-- A batch that is persisted adds all its rows and nothing to the queue. -/
theorem createBatch?_some {w w' : World} {batch : Batch} {jobs : List Job}
    (h : w.createBatch? batch jobs = some w') :
    w'.jobs.table.rows = w.jobs.table.rows ++ jobs.map (newRow batch) ∧
      enqueuedIds w' = enqueuedIds w := by
  rw [World.createBatch?] at h
  split_ifs at h
  obtain ⟨store, hinsert, rfl⟩ := Option.map_eq_some_iff.mp h
  refine ⟨rows_insertRows hinsert, ?_⟩
  have hnone : ((jobs.map (newRow batch)).map insertedEntry).filterMap enqueuedId? = [] :=
    List.filterMap_eq_nil_iff.mpr fun e he => by
      obtain ⟨row, -, rfl⟩ := List.mem_map.mp he
      rfl
  rw [enqueuedIds, journal_insertRows hinsert, List.filterMap_append, hnone, List.append_nil,
    enqueuedIds]

/-- What a call that persists a batch leaves, whatever its answer. -/
theorem Elapses.createBatch {w w' : World} {batch : Batch} {jobs : List Job}
    {r : Except PyException Batch} (h : Elapses w [⟨.createBatch batch jobs, r⟩] w') :
    (w'.jobs.table.rows = w.jobs.table.rows ∨
        w'.jobs.table.rows = w.jobs.table.rows ++ jobs.map (newRow batch)) ∧
      enqueuedIds w' = enqueuedIds w := by
  rcases h.last with rfl | ⟨env, rfl⟩
  · exact ⟨Or.inl rfl, rfl⟩
  · simp only [effect]
    cases hcreate : w.createBatch? batch jobs with
    | none => exact ⟨Or.inl rfl, rfl⟩
    | some w' =>
      obtain ⟨hrows, hqueue⟩ := createBatch?_some hcreate
      exact ⟨Or.inr hrows, hqueue⟩

/-- A call that persists a batch and returns has inserted all rows. -/
theorem Elapses.createBatch_ok {w w' : World} {batch : Batch} {jobs : List Job} {created : Batch}
    {t : List Call} (h : Elapses w (⟨.createBatch batch jobs, .ok created⟩ :: t) w') :
    ∃ m, m.jobs.table.rows = w.jobs.table.rows ++ jobs.map (newRow batch) ∧
      enqueuedIds m = enqueuedIds w ∧ Elapses m t w' := by
  obtain ⟨env, hcreated, hrest⟩ := h.cons_ok
  simp only [effect] at hcreated hrest
  cases hcreate : w.createBatch? batch jobs with
  | none =>
    rw [hcreate] at hcreated
    cases hcreated
  | some m =>
    rw [hcreate] at hrest
    obtain ⟨hrows, hqueue⟩ := createBatch?_some hcreate
    exact ⟨m, hrows, hqueue, hrest⟩

theorem enqueuedIds_note (w : World) (jobId : JobId) :
    enqueuedIds (w.note (.enqueued jobId)) = enqueuedIds w ++ [jobId] :=
  List.filterMap_append

/-- Jobs that are enqueued are added to the queue, and no row changes. -/
theorem Elapses.enqueue {jobs : List Job} {w w' : World} {t : List Call}
    (h : Elapses w (jobs.map enqueueCall ++ t) w') :
    ∃ m, m.jobs.table = w.jobs.table ∧ enqueuedIds m = enqueuedIds w ++ jobs.map Job.jobId ∧
      Elapses m t w' := by
  induction jobs generalizing w with
  | nil => exact ⟨w, rfl, (List.append_nil _).symm, h⟩
  | cons job jobs ih =>
    obtain ⟨env, -, hrest⟩ := Elapses.cons_ok h
    obtain ⟨m, htable, hqueue, hm⟩ := ih hrest
    refine ⟨m, htable, ?_, hm⟩
    have hfirst : enqueuedIds (effect env (.enqueueExtraction job.jobId) w).2 =
        enqueuedIds w ++ [job.jobId] := enqueuedIds_note w job.jobId
    rw [hqueue, hfirst, List.append_assoc, List.map_cons, List.singleton_append]

/-- The call that fails to enqueue a job may have put it into the queue. -/
theorem Elapses.enqueue_last {jobId : JobId} {w w' : World} {r : Except PyException Unit}
    (h : Elapses w [⟨.enqueueExtraction jobId, r⟩] w') :
    w'.jobs.table = w.jobs.table ∧
      (enqueuedIds w' = enqueuedIds w ∨ enqueuedIds w' = enqueuedIds w ++ [jobId]) := by
  rcases h.last with rfl | ⟨env, rfl⟩
  · exact ⟨rfl, Or.inl rfl⟩
  · exact ⟨rfl, Or.inr (enqueuedIds_note w jobId)⟩


/-! ### A failed submission -/

/-- Nothing of a batch is left: no new row waits outside the queue, and no new file is there. -/
def LeavesNothing (w w' : World) : Prop :=
  (∀ row ∈ w'.jobs.table.rows, row ∉ w.jobs.table.rows → row.status = .queued →
    row.id ∈ enqueuedIds w') ∧ w'.files = w.files

/-- The rows and the queue after a submission with the new jobs `jobs` has raised. -/
inductive RowsLeft (batch : Batch) (jobs : List Job) (w w' : World) : Prop
  /-- The batch is not persisted. -/
  | none (hrows : w'.jobs.table.rows = w.jobs.table.rows) (hqueue : enqueuedIds w' = enqueuedIds w)
  /-- The batch is persisted, but the confirmation is lost. -/
  | unconfirmed (hrows : w'.jobs.table.rows = w.jobs.table.rows ++ jobs.map (newRow batch))
      (hqueue : enqueuedIds w' = enqueuedIds w)
  /-- The batch is persisted; the jobs before one that could not be enqueued are in the queue, and
  that one may be. -/
  | enqueueing (before : List Job) (job : Job) (after : List Job)
      (hjobs : jobs = before ++ job :: after)
      (hrows : w'.jobs.table.rows = w.jobs.table.rows ++ jobs.map (newRow batch))
      (hqueue : enqueuedIds w' = enqueuedIds w ++ before.map Job.jobId ∨
        enqueuedIds w' = enqueuedIds w ++ before.map Job.jobId ++ [job.jobId])

/-- What is left of a submission of `files` that raised after the calls `t`. -/
structure Leftovers (sha256 : Bytes → FileHash) (files : List UploadedFile)
    (params : SubmissionParams) (userId : String) (w w' : World) (t : List Call) : Prop where
  rows : ∃ k : SubmissionAnswers, k.uploads = files ∧
    RowsLeft (k.batch sha256 params userId) (k.jobs sha256) w w'
  /-- The files that were there, and those that were written, stay. -/
  kept : w.files ⊆ w'.files
  written : ∀ path content, ⟨.writeBytes path content, .ok ()⟩ ∈ t → (path, content) ∈ w'.files

/-- Enqueueing breaks off at one of the jobs. -/
theorem brokeOff_enqueueCalls {sha256 : Bytes → FileHash} {k : SubmissionAnswers} {t : List Call}
    {exc : PyException} (h : BrokeOff (k.enqueueCalls sha256) t exc) :
    ∃ before job after, k.jobs sha256 = before ++ job :: after ∧
      t = before.map enqueueCall ++ [⟨.enqueueExtraction job.jobId, .error exc⟩] := by
  obtain ⟨pre, op, v, post, hscript, rfl⟩ := h
  obtain ⟨before, rest, hjobs, rfl, hrest⟩ := List.map_eq_append_iff.mp hscript
  obtain ⟨job, after, rfl, hjob, -⟩ := List.map_eq_cons_iff.mp hrest
  cases hjob
  exact ⟨before, job, after, hjobs, rfl⟩

/-- The rows and the queue after a script has broken off. -/
theorem rowsLeft_of_brokeOff {sha256 : Bytes → FileHash} {params : SubmissionParams}
    {userId : String} {k : SubmissionAnswers} {w w' : World} {t : List Call} {exc : PyException}
    (h : Elapses w t w') (hbroke : BrokeOff (k.calls sha256 params userId) t exc) :
    RowsLeft (k.batch sha256 params userId) (k.jobs sha256) w w' := by
  have hquiet : ∀ c ∈ k.openingCalls ++ k.fileCalls sha256, c.1.isQuiet := fun c hc =>
    of_mem_before (p := Op.isQuiet) ⟨rfl, rfl, rfl⟩ ⟨rfl, rfl, rfl⟩ (fun _ _ => ⟨rfl, rfl, rfl⟩)
      (fun _ => ⟨rfl, rfl, rfl⟩) (fun _ _ => ⟨rfl, rfl, rfl⟩) hc
  rw [k.calls_split] at hbroke
  rcases hbroke.append_cases with hearly | ⟨t', rfl, hlate⟩
  · have hjobs : w'.jobs = w.jobs := by
      refine h.jobs_eq fun c hc => ?_
      rcases hearly.mem hc with hc | ⟨-, v, hc⟩
      · exact hquiet c hc
      · exact hquiet ⟨c.1, .ok v⟩ hc
    exact .none (by rw [hjobs]) (by rw [enqueuedIds, hjobs, enqueuedIds])
  obtain ⟨m, hbefore, hafter⟩ := replays_append.mp h
  have hm : m.jobs = w.jobs := Elapses.jobs_eq hbefore hquiet
  have hqueue : enqueuedIds m = enqueuedIds w := by rw [enqueuedIds, hm, enqueuedIds]
  rcases hlate.cons_cases with rfl | ⟨rest, rfl, hrest⟩
  · obtain ⟨hrows, hsame⟩ := Elapses.createBatch hafter
    rw [hm] at hrows
    rcases hrows with hrows | hrows
    · exact .none hrows (hsame.trans hqueue)
    · exact .unconfirmed hrows (hsame.trans hqueue)
  · obtain ⟨m₂, hrows, hsame, hm₂⟩ := Elapses.createBatch_ok hafter
    obtain ⟨before, job, after, hjobs, rfl⟩ := brokeOff_enqueueCalls hrest
    obtain ⟨m₃, htable, hqueue₃, hm₃⟩ := Elapses.enqueue hm₂
    obtain ⟨htable', hlast⟩ := Elapses.enqueue_last hm₃
    rw [hqueue₃, hsame, hqueue] at hlast
    exact .enqueueing before job after hjobs (by rw [htable', htable, hrows, hm]) hlast

/-- Environments in which the task queue is down. -/
def brokerDown (n : ℕ) : Env :=
  { Env.calm n .review with
    fault? := fun op =>
      if op.isEnqueue then some (.before (.error "OperationalError" "broker is down")) else none }

end ZubotIngestion
