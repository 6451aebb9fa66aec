import ZubotIngestion.Services.SoloRun
import ZubotIngestion.Services.SubmissionScript

/-!
# What a submission leaves behind

A submission that runs while no call fails and nothing else happens. Its summaries stand for the
files in order, and four things stay aligned with the new ones among them: the rows, the queue, the
files on disk and their paths.

## Main definitions

* `Env.Effective`, `Proceeds`: calls that do not fail.
* `World.Unused`, `drawn`: fresh identifiers.
* `Conserved`: what holds after the submission.

## Main results

* `submitBatch_conserves`: an invalid submission does nothing, and every other one is conserved.
-/

namespace ZubotIngestion

open Effects Store

/-! ### Calls that do not fail -/

/-- No call fails. -/
def Env.Effective (env : Env) : Prop := ∀ op, env.fault? op = none

theorem Env.Effective.answer_eq {env : Env} (h : env.Effective) (op : Op) (w : World) :
    answer env op w = effect env op w := by
  rw [answer, h op, ite_self]

/-- The calls are answered one after the other, no call failing. -/
abbrev Proceeds (w : World) (t : List Call) (w' : World) : Prop :=
  Replays (S := services) answer Env.Effective w t w'

/-- The first call has its effect. -/
theorem Proceeds.cons {w w' : World} {op : Op} {r : Except PyException op.Res} {t : List Call}
    (h : Proceeds w (⟨op, r⟩ :: t) w') :
    ∃ env, (effect env op w).1 = r ∧ Proceeds (effect env op w).2 t w' := by
  obtain ⟨env, henv, hr, h⟩ := replays_cons.mp h
  rw [henv.answer_eq] at hr h
  exact ⟨env, hr, h⟩

theorem Proceeds.nil_iff {w w' : World} : Proceeds w [] w' ↔ w' = w := replays_nil

theorem Proceeds.append {w w' : World} {t u : List Call} (h : Proceeds w (t ++ u) w') :
    ∃ m, Proceeds w t m ∧ Proceeds m u w' :=
  replays_append.mp h

/-- The calls of a program that runs alone, no call failing. -/
theorem proceeds_runEach {α : Type} (p : Prog α) (w : World) {envs : ℕ → Env}
    (h : ∀ n, (envs n).Effective) : Proceeds w (traceEach p w envs) (runEach p w envs).2.1 :=
  replays_each h

/-- A program that runs alone makes the calls of its trace. -/
theorem runs_runEach {α : Type} (p : Prog α) (w : World) (envs : ℕ → Env) :
    p.Runs (traceEach p w envs) (runEach p w envs).1 :=
  Program.runs_run (S := services) (Program.each answer) p (w, envs)

/-- Whether a call can be refused although nothing fails. -/
def Op.isRefusable : Op → Bool
  | .createBatch .. | .readBytes _ => true
  | _ => false

/-- A call that cannot be refused is not answered with an exception. -/
theorem effect_ne_error {op : Op} (hop : op.isRefusable = false) (env : Env) (w : World)
    (exc : PyException) : (effect env op w).1 ≠ .error exc := by
  cases op <;> first
    | exact absurd hop Bool.true_eq_false_eq_False
    | exact fun h => nomatch h

/-- A script of such calls is followed to its end. -/
theorem Proceeds.not_brokeOff {w w' : World} {script t : List Call} {exc : PyException}
    (h : Proceeds w t w') (hscript : ∀ c ∈ script, c.1.isRefusable = false) :
    ¬BrokeOff script t exc := by
  rintro ⟨pre, op, v, post, rfl, rfl⟩
  obtain ⟨m, -, hlast⟩ := h.append
  obtain ⟨env, herror, -⟩ := hlast.cons
  exact effect_ne_error (hscript ⟨op, .ok v⟩ (by simp)) env m exc herror

/-! ### Fresh identifiers -/

/-- The identifiers a run has drawn. -/
def drawn (t : List Call) : List ℕ :=
  t.filterMap fun
    | ⟨.uuid4, .ok id⟩ => some id
    | _ => none

theorem drawn_append (t u : List Call) : drawn (t ++ u) = drawn t ++ drawn u :=
  List.filterMap_append

/-- An identifier under which the world keeps nothing. -/
structure World.Unused (w : World) (id : ℕ) : Prop where
  batch : ∀ batch ∈ w.batches, batch.batchId ≠ id
  row : w.jobs.table.find? id = none
  file : ∀ file ∈ w.files, file.1.batchId ≠ id

theorem drawn_fileCalls (sha256 : Bytes → FileHash) (batchId : BatchId) (now : Timestamp)
    (as : List FileAnswers) : drawn (as.flatMap (FileAnswers.calls sha256 batchId)) =
      (as.filterMap (FileAnswers.job? sha256 batchId now)).map Job.jobId := by
  induction as with
  | nil => rfl
  | cons a as ih =>
    rw [List.flatMap_cons, drawn_append, ih]
    have hone : drawn (a.calls sha256 batchId) =
        ((a.job? sha256 batchId now).map Job.jobId).toList := by
      simp only [FileAnswers.calls, FileAnswers.storeCalls, FileAnswers.job?]
      cases a.cached? <;> rfl
    rw [hone]
    cases hjob : a.job? sha256 batchId now <;> simp [hjob]

/-- A submission draws its batch identifier and one identifier for each new job. -/
theorem drawn_before (sha256 : Bytes → FileHash) (k : SubmissionAnswers) :
    drawn (k.openingCalls ++ k.fileCalls sha256) = k.batchId :: (k.jobs sha256).map Job.jobId := by
  rw [drawn_append, SubmissionAnswers.fileCalls, drawn_fileCalls sha256 k.batchId k.now]
  rfl

/-! ### The deduplication pass -/

/-- The file that is stored for a new job. -/
def FileAnswers.stored (batchId : BatchId) (a : FileAnswers) : List (PdfPath × Bytes) :=
  match a.cached? with
  | some _ => []
  | none => [(a.path batchId, a.file.content)]

/-- The world with more files. -/
def World.addFiles (w : World) (files : List (PdfPath × Bytes)) : World :=
  { w with files := files.reverse ++ w.files }

theorem World.addFiles_append (w : World) (files files' : List (PdfPath × Bytes)) :
    w.addFiles (files ++ files') = (w.addFiles files).addFiles files' := by
  simp [addFiles]

/-- One file is looked up, and stored if it is new. -/
theorem proceeds_file {sha256 : Bytes → FileHash} {batchId : BatchId} {a : FileAnswers}
    {w w' : World} (h : Proceeds w (a.calls sha256 batchId) w') :
    a.existing = getJobByFileHash w.jobs.table (sha256 a.file.content) ∧
      w' = w.addFiles (a.stored batchId) := by
  obtain ⟨env, hfound, hstore⟩ := h.cons
  refine ⟨(Except.ok.inj hfound).symm, ?_⟩
  rw [FileAnswers.storeCalls] at hstore
  rw [FileAnswers.stored]
  cases hcached : a.cached? with
  | some job =>
    rw [hcached] at hstore
    exact Proceeds.nil_iff.mp hstore
  | none =>
    rw [hcached] at hstore
    obtain ⟨_, -, hwrite⟩ := hstore.cons
    obtain ⟨_, -, hend⟩ := hwrite.cons
    exact Proceeds.nil_iff.mp hend

/-- All files are looked up in the same table. -/
theorem proceeds_files {sha256 : Bytes → FileHash} {batchId : BatchId} {as : List FileAnswers}
    {w w' : World} (h : Proceeds w (as.flatMap (FileAnswers.calls sha256 batchId)) w') :
    (∀ a ∈ as, a.existing = getJobByFileHash w.jobs.table (sha256 a.file.content)) ∧
      w' = w.addFiles (as.flatMap (FileAnswers.stored batchId)) := by
  induction as generalizing w with
  | nil => exact ⟨fun _ h => (nomatch h), Proceeds.nil_iff.mp h⟩
  | cons a as ih =>
    rw [List.flatMap_cons] at h
    obtain ⟨m, hfirst, hrest⟩ := h.append
    obtain ⟨ha, rfl⟩ := proceeds_file hfirst
    obtain ⟨has, rfl⟩ := ih hrest
    exact ⟨List.forall_mem_cons.mpr ⟨ha, has⟩, by rw [List.flatMap_cons, World.addFiles_append]⟩

/-! ### Persisting and enqueueing -/

/-- Rows with new and pairwise different keys are inserted at the end of the table. -/
theorem exists_insertRows {store : JobStore} {rows : List JobRow}
    (hnew : ∀ row ∈ rows, store.table.find? row.id = none) (hnodup : (rows.map JobRow.id).Nodup) :
    ∃ store', insertRows store rows = some store' ∧
      store'.table.rows = store.table.rows ++ rows := by
  induction rows generalizing store with
  | nil => exact ⟨store, rfl, (List.append_nil _).symm⟩
  | cons row rows ih =>
    have hrow := hnew row List.mem_cons_self
    obtain ⟨hfirst, hrest⟩ := List.nodup_cons.mp hnodup
    have hnew' : ∀ row' ∈ rows, (store.insert row hrow).table.find? row'.id = none := by
      intro row' hrow'
      have hne : row.id ≠ row'.id := fun h => hfirst (h ▸ List.mem_map_of_mem hrow')
      have hfind := Table.find?_insert store.table row hrow row'.id
      rw [if_neg hne, hnew row' (List.mem_cons_of_mem _ hrow')] at hfind
      exact hfind
    obtain ⟨store', hinsert, hrows⟩ := ih hnew' hrest
    refine ⟨store', ?_, ?_⟩
    · rw [insertRows, dif_pos hrow, hinsert]
    · rw [hrows]
      exact List.append_assoc _ _ _

/-- A batch with fresh identifiers is persisted. -/
theorem exists_createBatch {w : World} {batch : Batch} {jobs : List Job}
    (hbatch : ∀ b ∈ w.batches, b.batchId ≠ batch.batchId)
    (hnew : ∀ job ∈ jobs, w.jobs.table.find? job.jobId = none)
    (hnodup : (jobs.map Job.jobId).Nodup) :
    ∃ w', w.createBatch? batch jobs = some w' ∧
      w'.jobs.table.rows = w.jobs.table.rows ++ jobs.map (newRow batch) ∧
      w'.batches = w.batches ++ [batch] ∧ w'.files = w.files := by
  have hids : (jobs.map (newRow batch)).map JobRow.id = jobs.map Job.jobId := by
    rw [List.map_map]
    rfl
  have hrows : ∀ row ∈ jobs.map (newRow batch), w.jobs.table.find? row.id = none := by
    intro row hrow
    obtain ⟨job, hjob, rfl⟩ := List.mem_map.mp hrow
    exact hnew job hjob
  obtain ⟨store, hinsert, hstore⟩ := exists_insertRows hrows (hids ▸ hnodup)
  have hfree : (w.batches.find? fun b => decide (b.batchId = batch.batchId)) = none :=
    List.find?_eq_none.mpr fun b hb => by simpa using hbatch b hb
  refine ⟨{ w with batches := w.batches ++ [batch], jobs := store }, ?_, hstore, rfl, rfl⟩
  rw [World.createBatch?, hfree, hinsert]
  rfl

/-- Enqueueing changes neither rows nor files. -/
theorem proceeds_enqueue {jobs : List Job} {w w' : World}
    (h : Proceeds w (jobs.map enqueueCall) w') :
    w'.jobs.table = w.jobs.table ∧ w'.batches = w.batches ∧ w'.files = w.files := by
  induction jobs generalizing w with
  | nil =>
    obtain rfl := Proceeds.nil_iff.mp h
    exact ⟨rfl, rfl, rfl⟩
  | cons job jobs ih =>
    obtain ⟨_, -, hrest⟩ := h.cons
    obtain ⟨htable, hbatches, hfiles⟩ := ih hrest
    exact ⟨htable, hbatches, hfiles⟩

/-! ### What a submission conserves -/

/-- The summaries of new jobs. -/
def BatchSubmissionResult.queued (result : BatchSubmissionResult) : List JobSummary :=
  result.jobs.filter fun summary => decide (summary.status = .queued)

/-- The summary of a file in a world where the deduplication query finds what it finds in `w`. -/
structure Summarizes (sha256 : Bytes → FileHash) (w : World) (file : UploadedFile)
    (summary : JobSummary) : Prop where
  filename : summary.filename = file.filename
  fileHash : summary.fileHash = sha256 file.content
  /-- A cache hit is a completed job with the hash of the file. -/
  cached_iff : summary.status = .cached ↔
    ∃ job, getJobByFileHash w.jobs.table (sha256 file.content) = some job ∧ job.status = .completed
  prior : ∀ job, getJobByFileHash w.jobs.table (sha256 file.content) = some job →
    job.status = .completed → summary.jobId = job.jobId ∧ summary.result = job.result
  /-- Every other file is queued under an identifier no row has yet. -/
  fresh : summary.status ≠ .cached →
    summary.status = .queued ∧ w.jobs.table.find? summary.jobId = none ∧ summary.result = none

/-- The row of a queued summary. -/
structure PersistedAs (batchId : BatchId) (summary : JobSummary) (row : JobRow) : Prop where
  id : row.id = summary.jobId
  batchId : row.batchId = batchId
  filename : row.filename = summary.filename
  fileHash : row.fileHash = summary.fileHash
  status : row.status = .queued

/-- What holds after a submission of `files` that ran from `w` to `w'` with the calls `t`. -/
structure Conserved (sha256 : Bytes → FileHash) (files : List UploadedFile) (w w' : World)
    (t : List Call) (result : BatchSubmissionResult) : Prop where
  /-- The summaries stand for the files, in order. -/
  summaries : List.Forall₂ (Summarizes sha256 w) files result.jobs
  total : result.total = files.length
  distinct : (result.queued.map JobSummary.jobId).Nodup
  /-- The rows of the queued summaries are added, in order. -/
  rows : ∃ rows, w'.jobs.table.rows = w.jobs.table.rows ++ rows ∧
    List.Forall₂ (PersistedAs result.batchId) result.queued rows
  /-- They are persisted once, and enqueued once each, in order and afterwards. -/
  calls : ∃ before batch jobs,
    t = before ++ ⟨.createBatch batch jobs, .ok batch⟩ ::
      result.queued.map (fun summary => ⟨.enqueueExtraction summary.jobId, .ok ()⟩) ∧
    ∀ c ∈ before, c.1.isInsertion = false ∧ c.1.isEnqueue = false
  /-- One file is written for each queued summary. -/
  written : w'.files = (((files.zip result.jobs).filter fun p => decide (p.2.status = .queued)).map
    fun p => ((⟨tempPdfRoot, result.batchId, p.2.jobId⟩ : PdfPath), p.1.content)).reverse ++ w.files
  /-- The path that the worker reads for a summary holds the file, if the summary is queued. -/
  read : ∀ p ∈ files.zip result.jobs,
    w'.readFile? ⟨tempPdfRoot, result.batchId, p.2.jobId⟩ =
      if p.2.status = .queued then some p.1.content else none

/-! ### The aligned lists -/

/-- A file is new or it is cached. -/
theorem FileAnswers.cases (a : FileAnswers) :
    (∃ job, a.cached? = some job ∧ a.existing = some job ∧ job.status = .completed) ∨
      a.cached? = none ∧ ∀ job, a.existing = some job → job.status ≠ .completed := by
  cases hcached : a.cached? with
  | some job =>
    obtain ⟨hfound, hdone⟩ := Option.filter_eq_some_iff.mp hcached
    exact Or.inl ⟨job, rfl, hfound, of_decide_eq_true hdone⟩
  | none =>
    refine Or.inr ⟨rfl, fun job hfound hdone => ?_⟩
    rw [FileAnswers.cached?, hfound] at hcached
    simp [hdone] at hcached

theorem summary_of_cached {sha256 : Bytes → FileHash} {a : FileAnswers} {job : Job}
    (h : a.cached? = some job) :
    a.summary sha256 = cachedSummary a.file (sha256 a.file.content) job := by
  rw [FileAnswers.summary, h]

theorem summary_of_new {sha256 : Bytes → FileHash} {a : FileAnswers} (h : a.cached? = none) :
    a.summary sha256 = queuedSummary a.file (sha256 a.file.content) a.jobId := by
  rw [FileAnswers.summary, h]

theorem job?_of_new {sha256 : Bytes → FileHash} {batchId : BatchId} {now : Timestamp}
    {a : FileAnswers} (h : a.cached? = none) : a.job? sha256 batchId now =
      some (newJob (a.path batchId) a.file (sha256 a.file.content) now) := by
  rw [FileAnswers.job?, h]

theorem job?_of_cached {sha256 : Bytes → FileHash} {batchId : BatchId} {now : Timestamp}
    {a : FileAnswers} {job : Job} (h : a.cached? = some job) :
    a.job? sha256 batchId now = none := by
  rw [FileAnswers.job?, h]

/-- The queued summaries and the new jobs correspond, in order. -/
theorem forall₂_queued (sha256 : Bytes → FileHash) (batchId : BatchId) (now : Timestamp)
    (as : List FileAnswers) :
    List.Forall₂ (fun (summary : JobSummary) (job : Job) => summary.jobId = job.jobId ∧
        ∀ batch : Batch, batch.batchId = batchId → PersistedAs batchId summary (newRow batch job))
      ((as.map (FileAnswers.summary sha256)).filter fun summary =>
        decide (summary.status = .queued))
      (as.filterMap (FileAnswers.job? sha256 batchId now)) := by
  induction as with
  | nil => exact .nil
  | cons a as ih =>
    rcases a.cases with ⟨job, hcached, -, -⟩ | ⟨hnew, -⟩
    · rw [List.map_cons, summary_of_cached hcached, List.filter_cons_of_neg Bool.false_ne_true,
        List.filterMap_cons_none (job?_of_cached hcached)]
      exact ih
    · rw [List.map_cons, summary_of_new hnew, List.filter_cons_of_pos rfl,
        List.filterMap_cons_some (job?_of_new hnew)]
      exact .cons ⟨rfl, fun batch hbatch => ⟨rfl, hbatch, rfl, rfl, rfl⟩⟩ ih

/-- One file is stored for each queued summary. -/
theorem stored_eq (sha256 : Bytes → FileHash) (batchId : BatchId) (as : List FileAnswers) :
    as.flatMap (FileAnswers.stored batchId) =
      (((as.map FileAnswers.file).zip (as.map (FileAnswers.summary sha256))).filter fun p =>
        decide (p.2.status = .queued)).map fun p =>
          ((⟨tempPdfRoot, batchId, p.2.jobId⟩ : PdfPath), p.1.content) := by
  induction as with
  | nil => rfl
  | cons a as ih =>
    rw [List.flatMap_cons, List.map_cons, List.map_cons, List.zip_cons_cons, FileAnswers.stored]
    rcases a.cases with ⟨job, hcached, -, -⟩ | ⟨hnew, -⟩
    · rw [hcached, summary_of_cached hcached, List.filter_cons_of_neg Bool.false_ne_true, ← ih]
      rfl
    · rw [hnew, summary_of_new hnew, List.filter_cons_of_pos rfl, List.map_cons, ← ih]
      rfl

/-! ### Reading the files back -/

/-- A file that was written once is read back. -/
theorem readFile?_addFiles {w : World} {files : List (PdfPath × Bytes)} {path : PdfPath}
    {content : Bytes} (hnodup : (files.map Prod.fst).Nodup) (h : (path, content) ∈ files) :
    (w.addFiles files).readFile? path = some content := by
  induction files using List.reverseRecOn with
  | nil => cases h
  | append_singleton files file ih =>
    rw [List.map_append, List.nodup_append] at hnodup
    obtain ⟨hfiles, -, hdisjoint⟩ := hnodup
    rw [World.addFiles_append]
    by_cases hfile : file.1 = path
    · rcases List.mem_append.mp h with h | h
      · exact absurd hfile.symm (hdisjoint path (List.mem_map_of_mem h) file.1 (by simp))
      · obtain rfl := List.mem_singleton.mp h
        simp [World.readFile?, World.addFiles]
    · rcases List.mem_append.mp h with h | h
      · have hread := ih hfiles h
        rw [World.readFile?] at hread ⊢
        rw [← hread]
        simp [World.addFiles, hfile]
      · exact absurd (congrArg Prod.fst (List.mem_singleton.mp h)).symm hfile

/-- A path that was not written reads as before. -/
theorem readFile?_addFiles_of_notMem {w : World} {files : List (PdfPath × Bytes)} {path : PdfPath}
    (h : ∀ file ∈ files, file.1 ≠ path) :
    (w.addFiles files).readFile? path = w.readFile? path := by
  have hnone : files.reverse.find? (fun file => decide (file.1 = path)) = none :=
    List.find?_eq_none.mpr fun file hfile => by simpa using h file (List.mem_reverse.mp hfile)
  rw [World.readFile?, World.addFiles, List.find?_append, hnone]
  rfl

theorem World.Unused.readFile? {w : World} {batchId : BatchId} (h : w.Unused batchId)
    (root : String) (jobId : JobId) : w.readFile? ⟨root, batchId, jobId⟩ = none := by
  rw [World.readFile?, List.find?_eq_none.mpr fun file hfile => ?_]
  · rfl
  · have hne := h.file file hfile
    simp only [decide_eq_true_eq]
    exact fun heq => hne (congrArg PdfPath.batchId heq)

/-! ### The submission -/

section Submission

variable {sha256 : Bytes → FileHash} {params : SubmissionParams} {userId : String}
  {k : SubmissionAnswers} {w w' : World}

/-- The calls before the deduplication pass leave everything as it is. -/
theorem Proceeds.of_opening {t : List Call} (h : Proceeds w (k.openingCalls ++ t) w') :
    Proceeds w t w' := by
  obtain ⟨_, -, huuid⟩ := h.cons
  obtain ⟨_, -, hmkdir⟩ := huuid.cons
  obtain ⟨_, -, hrest⟩ := hmkdir.cons
  exact hrest

/-- A run that got to persisting its batch has looked all files up in the table it started from,
and the batch is persisted. -/
theorem created_of_proceeds {r : Except PyException Batch} {t : List Call}
    (h : Proceeds w (k.openingCalls ++ k.fileCalls sha256 ++
      ⟨.createBatch (k.batch sha256 params userId) (k.jobs sha256), r⟩ :: t) w')
    (hnodup : (k.batchId :: (k.jobs sha256).map Job.jobId).Nodup)
    (hunused : ∀ id ∈ k.batchId :: (k.jobs sha256).map Job.jobId, w.Unused id) :
    (∀ a ∈ k.files, a.existing = getJobByFileHash w.jobs.table (sha256 a.file.content)) ∧
      r = .ok (k.batch sha256 params userId) ∧
      ∃ w₂, w₂.jobs.table.rows = w.jobs.table.rows ++
          (k.jobs sha256).map (newRow (k.batch sha256 params userId)) ∧
        w₂.files = (w.addFiles (k.files.flatMap (FileAnswers.stored k.batchId))).files ∧
        Proceeds w₂ t w' := by
  rw [List.append_assoc] at h
  obtain ⟨m, hpass, hpersist⟩ := h.of_opening.append
  obtain ⟨hexisting, hm⟩ := proceeds_files hpass
  obtain ⟨env, hcreated, hrest⟩ := hpersist.cons
  have hbatch : ∀ b ∈ w.batches, b.batchId ≠ (k.batch sha256 params userId).batchId :=
    (hunused k.batchId List.mem_cons_self).batch
  have hnew : ∀ job ∈ k.jobs sha256, w.jobs.table.find? job.jobId = none := fun job hjob =>
    (hunused _ (List.mem_cons_of_mem _ (List.mem_map_of_mem hjob))).row
  have hcreate : ∃ w₂, m.createBatch? (k.batch sha256 params userId) (k.jobs sha256) = some w₂ ∧
      w₂.jobs.table.rows = w.jobs.table.rows ++
        (k.jobs sha256).map (newRow (k.batch sha256 params userId)) ∧
      w₂.batches = w.batches ++ [k.batch sha256 params userId] ∧ w₂.files = m.files := by
    rw [hm]
    exact exists_createBatch (w := w.addFiles _) hbatch hnew (List.nodup_cons.mp hnodup).2
  obtain ⟨w₂, hcreate, hrows, -, hfiles⟩ := hcreate
  have heffect : effect env (.createBatch (k.batch sha256 params userId) (k.jobs sha256)) m =
      (.ok (k.batch sha256 params userId), w₂) := by
    simp only [effect, hcreate]
  rw [heffect] at hcreated hrest
  exact ⟨hexisting, hcreated.symm, w₂, hrows, by rw [hfiles, hm], hrest⟩

/-- What the run of a script does: files and rows are added, and nothing else changes. -/
theorem effects_of_proceeds (h : Proceeds w (k.calls sha256 params userId) w')
    (hnodup : (k.batchId :: (k.jobs sha256).map Job.jobId).Nodup)
    (hunused : ∀ id ∈ k.batchId :: (k.jobs sha256).map Job.jobId, w.Unused id) :
    (∀ a ∈ k.files, a.existing = getJobByFileHash w.jobs.table (sha256 a.file.content)) ∧
      k.created = k.batch sha256 params userId ∧
      w'.jobs.table.rows = w.jobs.table.rows ++
        (k.jobs sha256).map (newRow (k.batch sha256 params userId)) ∧
      w'.files = (w.addFiles (k.files.flatMap (FileAnswers.stored k.batchId))).files := by
  rw [k.calls_split] at h
  obtain ⟨hexisting, hcreated, w₂, hrows, hfiles, hrest⟩ := created_of_proceeds h hnodup hunused
  obtain ⟨htable, -, hfiles'⟩ := proceeds_enqueue hrest
  exact ⟨hexisting, Except.ok.inj hcreated, by rw [htable, hrows], hfiles'.trans hfiles⟩

/-- The summary of a file that was looked up in `w`. -/
theorem summarizes {a : FileAnswers}
    (hexisting : a.existing = getJobByFileHash w.jobs.table (sha256 a.file.content))
    (hfresh : a.cached? = none → w.jobs.table.find? a.jobId = none) :
    Summarizes sha256 w a.file (a.summary sha256) := by
  rcases a.cases with ⟨job, hcached, hfound, hdone⟩ | ⟨hnew, hother⟩
  · rw [summary_of_cached hcached]
    rw [hexisting] at hfound
    refine ⟨rfl, rfl, ⟨fun _ => ⟨job, hfound, hdone⟩, fun _ => rfl⟩, fun job' hjob' _ => ?_,
      fun h => absurd rfl h⟩
    obtain rfl := Option.some.inj (hfound.symm.trans hjob')
    exact ⟨rfl, rfl⟩
  · rw [summary_of_new hnew]
    rw [hexisting] at hother
    refine ⟨rfl, rfl, ⟨fun h => (nomatch h), ?_⟩, fun job hjob hdone => ?_,
      fun _ => ⟨rfl, hfresh hnew, rfl⟩⟩
    · rintro ⟨job, hjob, hdone⟩
      exact absurd hdone (hother job hjob)
    · exact absurd hdone (hother job hjob)

/-- A new job of the batch and the file it was made for. -/
theorem mem_jobs_of_new {a : FileAnswers} (ha : a ∈ k.files) (hnew : a.cached? = none) :
    newJob (a.path k.batchId) a.file (sha256 a.file.content) k.now ∈ k.jobs sha256 :=
  List.mem_filterMap.mpr ⟨a, ha, job?_of_new hnew⟩

/-- The paths of the new files are different. -/
theorem nodup_stored (hnodup : ((k.jobs sha256).map Job.jobId).Nodup) :
    ((k.files.flatMap (FileAnswers.stored k.batchId)).map Prod.fst).Nodup := by
  have hpaths : (k.files.flatMap (FileAnswers.stored k.batchId)).map Prod.fst =
      ((k.jobs sha256).map Job.jobId).map fun jobId => ⟨tempPdfRoot, k.batchId, jobId⟩ := by
    rw [SubmissionAnswers.jobs]
    induction k.files with
    | nil => rfl
    | cons a as ih =>
      rw [List.flatMap_cons, List.map_append, ih, FileAnswers.stored]
      rcases a.cases with ⟨job, hcached, -, -⟩ | ⟨hnew, -⟩
      · rw [hcached, List.filterMap_cons_none (job?_of_cached hcached)]
        rfl
      · rw [hnew, List.filterMap_cons_some (job?_of_new hnew)]
        rfl
  rw [hpaths]
  exact hnodup.map fun jobId jobId' h => congrArg PdfPath.jobId h

/-- The files of a script are those of its new jobs. -/
theorem mem_stored_iff {file : PdfPath × Bytes} :
    file ∈ k.files.flatMap (FileAnswers.stored k.batchId) ↔
      ∃ a ∈ k.files, a.cached? = none ∧ file = (a.path k.batchId, a.file.content) := by
  rw [List.mem_flatMap]
  refine exists_congr fun a => and_congr_right fun _ => ?_
  cases hcached : a.cached? <;> simp [FileAnswers.stored, hcached]

/-- The queued summaries name the new jobs, in order. -/
theorem jobId_queued (sha256 : Bytes → FileHash) (k : SubmissionAnswers) :
    (k.result sha256).queued.map JobSummary.jobId = (k.jobs sha256).map Job.jobId :=
  List.forall₂_eq_eq_eq ▸ List.forall₂_map_left_iff.mpr (List.forall₂_map_right_iff.mpr
    ((forall₂_queued sha256 k.batchId k.now k.files).imp fun _ _ h => h.1))

/-- The queued summaries are enqueued, in order. -/
theorem map_queued_eq_enqueueCalls (sha256 : Bytes → FileHash) (k : SubmissionAnswers) :
    (k.result sha256).queued.map
        (fun summary => (⟨.enqueueExtraction summary.jobId, .ok ()⟩ : Call)) =
      k.enqueueCalls sha256 := by
  have hmap := congrArg (List.map fun jobId => (⟨.enqueueExtraction jobId, .ok ()⟩ : Call))
    (jobId_queued sha256 k)
  rw [List.map_map, List.map_map] at hmap
  exact hmap

/-- After the files of a script were added, the worker reads the file of a queued summary, and
none for one from the cache. -/
theorem readFile?_summary (hnodup : (k.batchId :: (k.jobs sha256).map Job.jobId).Nodup)
    (hunused : ∀ id ∈ k.batchId :: (k.jobs sha256).map Job.jobId, w.Unused id) {a : FileAnswers}
    (ha : a ∈ k.files)
    (hexisting : a.existing = getJobByFileHash w.jobs.table (sha256 a.file.content)) :
    (w.addFiles (k.files.flatMap (FileAnswers.stored k.batchId))).readFile?
        ⟨tempPdfRoot, k.batchId, (a.summary sha256).jobId⟩ =
      if (a.summary sha256).status = .queued then some a.file.content else none := by
  rcases a.cases with ⟨job, hcached, hfound, -⟩ | ⟨hnew, -⟩
  · -- The prior job has a row, so its identifier is not one of the new ones.
    rw [hexisting] at hfound
    obtain ⟨row, hrow, -, -, rfl⟩ := getJobByFileHash_some hfound
    have hpresent := (w.jobs.table.mem_rows_iff row).mp hrow
    rw [summary_of_cached hcached, readFile?_addFiles_of_notMem ?_]
    · exact (hunused k.batchId List.mem_cons_self).readFile? tempPdfRoot row.id
    · intro file hfile heq
      obtain ⟨b, hb, hnew, rfl⟩ := mem_stored_iff.mp hfile
      have hid : b.jobId = row.id := congrArg PdfPath.jobId heq
      have hmem : b.jobId ∈ (k.jobs sha256).map Job.jobId :=
        List.mem_map_of_mem (mem_jobs_of_new hb hnew)
      have habsent := (hunused b.jobId (List.mem_cons_of_mem _ hmem)).row
      rw [hid] at habsent
      exact absurd (habsent.symm.trans hpresent) (Option.some_ne_none _).symm
  · rw [summary_of_new hnew]
    exact readFile?_addFiles (nodup_stored (List.nodup_cons.mp hnodup).2)
      (mem_stored_iff.mpr ⟨a, ha, hnew, rfl⟩)

/-- What holds after all calls of a script. -/
theorem conserved_of_proceeds (h : Proceeds w (k.calls sha256 params userId) w')
    (hnodup : (k.batchId :: (k.jobs sha256).map Job.jobId).Nodup)
    (hunused : ∀ id ∈ k.batchId :: (k.jobs sha256).map Job.jobId, w.Unused id) :
    Conserved sha256 k.uploads w w' (k.calls sha256 params userId) (k.result sha256) := by
  obtain ⟨hexisting, hcreated, hrows, hfiles⟩ := effects_of_proceeds h hnodup hunused
  have hfresh : ∀ a ∈ k.files, a.cached? = none → w.Unused a.jobId := fun a ha hnew =>
    hunused _ (List.mem_cons_of_mem _ (List.mem_map_of_mem (mem_jobs_of_new ha hnew)))
  refine ⟨?_, ?_, ?_, ?_, ?_, ?_, ?_⟩
  · refine List.forall₂_map_left_iff.mpr (List.forall₂_map_right_iff.mpr ?_)
    refine List.forall₂_same.mpr fun a ha => ?_
    exact summarizes (hexisting a ha) fun hnew => (hfresh a ha hnew).row
  · simp [SubmissionAnswers.result, SubmissionAnswers.summaries, SubmissionAnswers.uploads]
  · rw [jobId_queued]
    exact (List.nodup_cons.mp hnodup).2
  · have hpairs := forall₂_queued sha256 k.batchId k.now k.files
    exact ⟨_, hrows, List.forall₂_map_right_iff.mpr (hpairs.imp fun _ _ h => h.2 _ rfl)⟩
  · refine ⟨k.openingCalls ++ k.fileCalls sha256, k.batch sha256 params userId, k.jobs sha256, ?_,
      fun c hc => notLate_of_mem_before hc⟩
    rw [map_queued_eq_enqueueCalls, SubmissionAnswers.calls, SubmissionAnswers.createCall,
      hcreated]
    simp
  · rw [hfiles, stored_eq sha256 k.batchId k.files]
    rfl
  · intro p hp
    have hzip : k.uploads.zip (k.result sha256).jobs =
        k.files.map fun a => (a.file, a.summary sha256) := List.zip_map'
    rw [hzip] at hp
    obtain ⟨a, ha, rfl⟩ := List.mem_map.mp hp
    rw [← readFile?_summary hnodup hunused ha (hexisting a ha), World.readFile?, hfiles,
      World.readFile?]
    rfl

end Submission

/-! ### Every submission -/

/-- What the validation pass refuses: no file, an oversize file, or one that is no PDF. -/
def Invalid (settings : Settings) (files : List UploadedFile) : Prop :=
  files = [] ∨ ∃ file ∈ files,
    settings.maxPdfBytes < file.content.length ∨ isValidPdf file = false

theorem uploadError?_eq_none {settings : Settings} {file : UploadedFile} :
    uploadError? settings file = none ↔
      ¬(settings.maxPdfBytes < file.content.length ∨ isValidPdf file = false) := by
  rw [uploadError?]
  split_ifs with hsize hpdf
  · simp [hsize]
  · simp_all
  · simp_all

theorem rejection?_eq_none {settings : Settings} {files : List UploadedFile} :
    rejection? settings files = none ↔ ¬Invalid settings files := by
  rw [rejection?, Invalid]
  split_ifs with hnone
  · simp [hnone]
  · simp only [List.findSome?_eq_none_iff, uploadError?_eq_none, hnone, false_or, not_exists,
      not_and]

/-- A rejected submission raises and does nothing else. -/
theorem submitBatch_of_rejection {settings : Settings} {files : List UploadedFile}
    {exc : PyException} (h : rejection? settings files = some exc) (sha256 : Bytes → FileHash)
    (params : SubmissionParams) (userId : String) :
    submitBatch settings sha256 files params userId = .raise exc := by
  rw [rejection?] at h
  rw [submitBatch]
  split_ifs at h ⊢
  · rw [Option.some.inj h]
  · rw [h]

/-- A submission of invalid files raises, and makes no call at all. -/
theorem runEach_of_invalid {settings : Settings} {files : List UploadedFile}
    (h : Invalid settings files) (sha256 : Bytes → FileHash) (params : SubmissionParams)
    (userId : String) (w : World) (envs : ℕ → Env) :
    traceEach (submitBatch settings sha256 files params userId) w envs = [] ∧
      ∃ exc, runEach (submitBatch settings sha256 files params userId) w envs =
        (.error exc, w, envs) := by
  have hrejected : rejection? settings files ≠ none := fun hnone => rejection?_eq_none.mp hnone h
  obtain ⟨exc, hexc⟩ := Option.ne_none_iff_exists'.mp hrejected
  rw [submitBatch_of_rejection hexc]
  exact ⟨rfl, exc, rfl⟩

/-- A submission that draws fresh identifiers follows its script to the end. -/
theorem not_brokeOff_of_fresh {sha256 : Bytes → FileHash} {params : SubmissionParams}
    {userId : String} {k : SubmissionAnswers} {w w' : World} {t : List Call} {exc : PyException}
    (h : Proceeds w t w') (hnodup : (drawn t).Nodup) (hunused : ∀ id ∈ drawn t, w.Unused id) :
    ¬BrokeOff (k.calls sha256 params userId) t exc := by
  intro hbroke
  rw [k.calls_split] at hbroke
  rcases hbroke.append_cases with hearly | ⟨t', rfl, hlate⟩
  · refine h.not_brokeOff (fun c hc => ?_) hearly
    exact of_mem_before (p := fun op => op.isRefusable = false) rfl rfl (fun _ _ => rfl)
      (fun _ => rfl) (fun _ _ => rfl) hc
  rw [drawn_append, drawn_before] at hnodup hunused
  have hnodup' := (List.nodup_append.mp hnodup).1
  have hunused' := fun id hid => hunused id (List.mem_append_left _ hid)
  rcases hlate.cons_cases with rfl | ⟨rest, rfl, hrest⟩
  · obtain ⟨-, hcreated, -⟩ := created_of_proceeds h hnodup' hunused'
    cases hcreated
  · obtain ⟨-, -, w₂, -, -, hproceeds⟩ := created_of_proceeds h hnodup' hunused'
    refine hproceeds.not_brokeOff (fun c hc => ?_) hrest
    obtain ⟨job, -, rfl⟩ := List.mem_map.mp hc
    rfl

/-- A submission of invalid files raises, and makes no call at all. Every other submission that
runs while no call fails and that draws fresh identifiers returns, and `Conserved` says what it
leaves behind. -/
theorem submitBatch_conserves (settings : Settings) (sha256 : Bytes → FileHash)
    (files : List UploadedFile) (params : SubmissionParams) (userId : String) (w : World)
    (envs : ℕ → Env) :
    (Invalid settings files →
      traceEach (submitBatch settings sha256 files params userId) w envs = [] ∧
        ∃ exc, runEach (submitBatch settings sha256 files params userId) w envs =
          (.error exc, w, envs)) ∧
      (¬Invalid settings files → (∀ n, (envs n).Effective) →
        (drawn (traceEach (submitBatch settings sha256 files params userId) w envs)).Nodup →
        (∀ id ∈ drawn (traceEach (submitBatch settings sha256 files params userId) w envs),
          w.Unused id) →
        ∃ result,
          (runEach (submitBatch settings sha256 files params userId) w envs).1 = .ok result ∧
          Conserved sha256 files w
            (runEach (submitBatch settings sha256 files params userId) w envs).2.1
            (traceEach (submitBatch settings sha256 files params userId) w envs) result) := by
  constructor
  · exact fun hinvalid => runEach_of_invalid hinvalid sha256 params userId w envs
  · intro hvalid heffective hnodup hunused
    have hruns := runs_runEach (submitBatch settings sha256 files params userId) w envs
    have hproceeds :=
      proceeds_runEach (submitBatch settings sha256 files params userId) w heffective
    rcases submitBatch_runs hruns with ⟨exc, hexc, -, -⟩ | ⟨-, k, rfl, hend⟩
    · rw [rejection?_eq_none.mpr hvalid] at hexc
      cases hexc
    rcases hend with ⟨ht, hresult⟩ | ⟨exc, -, hbroke⟩
    · rw [ht] at hproceeds hnodup hunused ⊢
      rw [k.calls_split, drawn_append, drawn_before] at hnodup hunused
      have hnodup' := (List.nodup_append.mp hnodup).1
      have hunused' := fun id hid => hunused id (List.mem_append_left _ hid)
      exact ⟨k.result sha256, hresult, conserved_of_proceeds hproceeds hnodup' hunused'⟩
    · exact absurd hbroke (not_brokeOff_of_fresh hproceeds hnodup hunused)

/-- One new PDF, submitted to an empty database. -/
def planSubmission : Prog BatchSubmissionResult :=
  submitBatch ⟨"", 1000⟩ (fun _ => "9f86d081") planAnswers.uploads planParams "reviewer"

/-- Environments in which no call fails and every identifier is new. -/
def calmEnvs (n : ℕ) : Env := .calm n .review

theorem drawn_plan : drawn (traceEach planSubmission .empty calmEnvs) = [1, 4] := rfl

/-- Its submission is conserved. -/
theorem submitBatch_conserves_plan : ∃ result,
    (runEach planSubmission .empty calmEnvs).1 = .ok result ∧
      Conserved (fun _ => "9f86d081") planAnswers.uploads .empty
        (runEach planSubmission .empty calmEnvs).2.1 (traceEach planSubmission .empty calmEnvs)
        result := by
  refine (submitBatch_conserves ⟨"", 1000⟩ (fun _ => "9f86d081") planAnswers.uploads planParams
    "reviewer" .empty calmEnvs).2 (rejection?_eq_none.mp (by decide)) (fun _ _ => rfl) ?_ ?_
  · exact drawn_plan ▸ by decide
  · exact fun id _ => ⟨fun _ h => (nomatch h), rfl, fun _ h => nomatch h⟩

end ZubotIngestion
