import ZubotIngestion.Services.Leftovers
import ZubotIngestion.System.Attribution
import ZubotIngestion.System.Integrity
import ZubotIngestion.System.Routing

/-!
# The bytes behind a job

A file is written under an identifier that has just been drawn, so as long as `uuid4` draws no
identifier twice in a run, no file is ever overwritten. The row of a job is inserted behind the
file, with the hash of its content. A worker computes the path from the loaded job, and so reads
the bytes that were hashed: the stores, which are addressed by the hash of the job, hold what was
extracted from bytes with that very hash.

## Main definitions

* `drawnIds`: the identifiers drawn in a run.
* `ContentAddressed`: files, runs and documents belong to the hashes they stand under.

## Main results

* `write_unique`: the writes of a run go to different paths.
* `contentAddressed_reached`: a run without repeated identifiers is content addressed.
-/

namespace ZubotIngestion

open Effects Store

/-! ### Identifiers -/

/-- The identifiers drawn in a run, thread by thread. -/
def drawnIds (P : System) : List ℕ := P.threads.flatMap fun th => drawn th.trace

/-- A value that is found only once among the values of a list is found behind one place. -/
theorem eq_of_filterMap_nodup {α β : Type} {f : α → Option β} {a a' b b' : List α} {x x' : α}
    {v : β} (hnodup : ((a ++ x :: b).filterMap f).Nodup) (h : a ++ x :: b = a' ++ x' :: b')
    (hx : f x = some v) (hx' : f x' = some v) : b = b' := by
  have honce : ∀ {a b c : List α} {y y' : α}, f y = some v → f y' = some v →
      ¬((a ++ y :: (b ++ y' :: c)).filterMap f).Nodup := by
    intro a b c y y' hy hy' hnodup
    rw [List.filterMap_append, List.filterMap_cons_some hy, List.filterMap_append,
      List.filterMap_cons_some hy', List.nodup_append] at hnodup
    exact (List.nodup_cons.mp hnodup.2.1).1 (List.mem_append_right _ List.mem_cons_self)
  rcases List.append_eq_append_iff.mp h with ⟨mid, rfl, hmid⟩ | ⟨mid, rfl, hmid⟩
  · cases mid with
    | nil => exact (List.cons.inj hmid).2
    | cons y mid =>
      obtain ⟨rfl, rfl⟩ := List.cons.inj hmid
      exact absurd hnodup (honce hx hx')
  · cases mid with
    | nil => exact (List.cons.inj hmid).2.symm
    | cons y mid =>
      obtain ⟨rfl, rfl⟩ := List.cons.inj hmid
      rw [List.append_assoc] at hnodup
      exact absurd hnodup (honce hx' hx)

/-- A value that is found only once is found in one of the lists. -/
theorem eq_of_flatMap_nodup {α β : Type} {f : α → List β} {l : List α} (h : (l.flatMap f).Nodup)
    {x y : α} {v : β} (hx : x ∈ l) (hy : y ∈ l) (hvx : v ∈ f x) (hvy : v ∈ f y) : x = y := by
  induction l with
  | nil => exact absurd hx List.not_mem_nil
  | cons z l ih =>
    rw [List.flatMap_cons] at h
    have hdisjoint := List.disjoint_of_nodup_append h
    rcases List.mem_cons.mp hx with rfl | hxl <;> rcases List.mem_cons.mp hy with rfl | hyl
    · rfl
    · exact (hdisjoint hvx (List.mem_flatMap.mpr ⟨y, hyl, hvy⟩)).elim
    · exact (hdisjoint hvy (List.mem_flatMap.mpr ⟨x, hxl, hvx⟩)).elim
    · exact ih h.of_append_right hxl hyl

/-! ### Files -/

theorem files_answer (env : Env) (op : Op) (w : World) :
    (answer env op w).2.files = w.files ∨
      ∃ path content, op = .writeBytes path content ∧
        (answer env op w).2.files = (path, content) :: w.files := by
  rcases answer_world env op w with h | h <;> rw [h]
  · exact Or.inl rfl
  · exact files_effect env op w

/-- Files stay. -/
theorem files_subset_answer (env : Env) (op : Op) (w : World) :
    w.files ⊆ (answer env op w).2.files := by
  rcases files_answer env op w with h | ⟨path, content, -, h⟩ <;> rw [h]
  · exact List.Subset.refl _
  · exact List.subset_cons_self _ _

/-- What a request has written or read is among the files. -/
def FilesSeen (t : List Call) (w : World) : Prop :=
  (∀ path content, ⟨.writeBytes path content, .ok ()⟩ ∈ t → (path, content) ∈ w.files) ∧
    ∀ path content, ⟨.readBytes path, .ok content⟩ ∈ t → (path, content) ∈ w.files

theorem FilesSeen.kept {t : List Call} {w : World} (h : FilesSeen t w) (env : Env) (op : Op) :
    FilesSeen t (answer env op w).2 :=
  ⟨fun path content hc => files_subset_answer env op w (h.1 path content hc),
    fun path content hc => files_subset_answer env op w (h.2 path content hc)⟩

/-- A file that is read is there. -/
theorem mem_files_of_readFile? {w : World} {path : PdfPath} {content : Bytes}
    (h : w.readFile? path = some content) : (path, content) ∈ w.files := by
  obtain ⟨file, hfile, rfl⟩ := Option.map_eq_some_iff.mp h
  have hpath := of_decide_eq_true
    (List.find?_some (p := fun file : PdfPath × Bytes => decide (file.1 = path)) hfile)
  rw [← hpath]
  exact List.mem_of_find?_eq_some hfile

/-- A file that is there can be read, though maybe with the content of a later write. -/
theorem exists_readFile? {w : World} {path : PdfPath} {content : Bytes}
    (h : (path, content) ∈ w.files) : ∃ content', w.readFile? path = some content' := by
  rw [← Option.isSome_iff_exists, World.readFile?, Option.isSome_map, List.find?_isSome]
  exact ⟨_, h, decide_eq_true rfl⟩

theorem FilesSeen.concat {t : List Call} {w : World} (h : FilesSeen t w) (env : Env) (op : Op) :
    FilesSeen (t ++ [⟨op, (answer env op w).1⟩]) (answer env op w).2 := by
  have hold := h.kept env op
  refine ⟨fun path content hc => ?_, fun path content hc => ?_⟩ <;>
    rcases List.mem_append.mp hc with hc | hc
  · exact hold.1 path content hc
  · obtain ⟨rfl, hanswer⟩ := Sigma.mk.inj (List.mem_singleton.mp hc)
    rw [answer_of_ok (eq_of_heq hanswer).symm]
    exact List.mem_cons_self
  · exact hold.2 path content hc
  · obtain ⟨rfl, hanswer⟩ := Sigma.mk.inj (List.mem_singleton.mp hc)
    have hok := (eq_of_heq hanswer).symm
    have heffect := answer_of_ok hok
    rw [heffect] at hok
    refine files_subset_answer env _ w (mem_files_of_readFile? ?_)
    simp only [effect] at hok
    cases hread : w.readFile? path with
    | none =>
      rw [hread] at hok
      cases hok
    | some content' =>
      rw [hread] at hok
      rw [Except.ok.inj hok]

/-- A file is written by a submission, right behind drawing its identifier. -/
theorem RequestCall.writeBytes {settings : Settings} {sha256 : Bytes → FileHash}
    {request : Request} {t : List Call} {path : PdfPath} {content : Bytes}
    (h : RequestCall settings sha256 request t (.writeBytes path content)) :
    ∃ u, t = u ++ [⟨.uuid4, .ok path.jobId⟩] := by
  cases request with
  | extract jobId retries =>
    generalize hop : Op.writeBytes path content = op at h
    cases h with
    | pipeline l hid u hfrom =>
      subst hop
      cases hfrom
    | _ => cases hop
  | submit files params userId =>
    cases h with
    | write u batchId jobId file hvalid => exact ⟨u, rfl⟩
  | decide pathId decision => exact absurd h.1.1 Bool.true_eq_false_eq_False

/-! ### Content addressing -/

theorem toString_ne_empty (path : PdfPath) : path.toString ≠ "" := by
  rw [PdfPath.toString]
  simp only [ne_eq, ← String.toList_inj, String.toList_append]
  simp

theorem Loaded.readBytes_mem (l : Loaded) :
    (⟨.readBytes ⟨tempPdfRoot, l.job.batchId, l.job.jobId⟩, .ok l.pdfBytes⟩ : Call) ∈
      l.prelude := by
  simp [Loaded.prelude]

/-- Every file, every pipeline run and every document belongs to the hash it stands under. -/
structure ContentAddressed (settings : Settings) (sha256 : Bytes → FileHash) (P : System) :
    Prop where
  /-- The file of a job can be read, and it is an upload that was accepted. -/
  files : ∀ row ∈ P.state.jobs.table.rows, ∃ content,
    P.state.readFile? ⟨tempPdfRoot, row.batchId, row.id⟩ = some content ∧
      uploadError? settings ⟨row.filename, content⟩ = none ∧ sha256 content = row.fileHash ∧
        row.filePath = some (PdfPath.toString ⟨tempPdfRoot, row.batchId, row.id⟩)
  /-- A pipeline run works on the bytes of its job. -/
  runs : ∀ th ∈ P.threads, ∀ jobId retries, th.request = .extract jobId retries →
    ∀ pdfBytes r, (⟨.load pdfBytes, r⟩ : Call) ∈ th.trace →
      ∃ row ∈ P.state.jobs.table.rows, row.id = jobId ∧ sha256 pdfBytes = row.fileHash
  /-- A document goes back to a file that an attempt has read. -/
  documents : ∀ collection, ∀ record ∈ P.state.collections collection, ∃ th ∈ P.threads,
    ∃ path pdfBytes, (⟨.readBytes path, .ok pdfBytes⟩ : Call) ∈ th.trace ∧
      sha256 pdfBytes = record.documentId
  /-- So does a companion. -/
  companions : ∀ documentId extraction companion deploymentId,
    .noted (.indexed documentId extraction companion deploymentId) ∈ P.state.jobs.journal →
      ∃ th ∈ P.threads, ∃ path pdfBytes, (⟨.readBytes path, .ok pdfBytes⟩ : Call) ∈ th.trace ∧
        sha256 pdfBytes = documentId

section Runs

variable {settings : Settings} {sha256 : Bytes → FileHash} {moves : List SystemMove}

/-- What the requests of a run have written and read is among the files. -/
theorem filesSeen_reached (settings : Settings) (sha256 : Bytes → FileHash)
    (moves : List SystemMove) : ∀ th ∈ (reached settings sha256 moves).threads,
      FilesSeen th.trace (reached settings sha256 moves).state := by
  refine Pool.traces_exec (fun _ => ⟨fun _ _ h => absurd h List.not_mem_nil,
    fun _ _ h => absurd h List.not_mem_nil⟩) (fun env op _ _ h => h.concat env op)
    (fun env op _ _ h => h.kept env op) (fun th hth => ?_) moves
  cases hth

/-- Every file goes back to a write of some request. -/
theorem written_reached : ∀ file ∈ (reached settings sha256 moves).state.files,
    (reached settings sha256 moves).Explained
      (fun (c : Call) file => c.1 = Op.writeBytes file.1 file.2) file := by
  refine Pool.explained_exec (H := fun (w : World) file => file ∈ w.files)
    (fun env op w file hfile => ?_) (fun _ h => absurd h List.not_mem_nil) moves
  rcases files_answer env op w with h | ⟨path, content, rfl, h⟩ <;> rw [h] at hfile
  · exact Or.inl hfile
  · rcases List.mem_cons.mp hfile with rfl | hfile
    · exact Or.inr rfl
    · exact Or.inl hfile

/-- A file was written right behind drawing its identifier. -/
theorem drawn_of_file {path : PdfPath} {content : Bytes}
    (hmem : (path, content) ∈ (reached settings sha256 moves).state.files) :
    ∃ th ∈ (reached settings sha256 moves).threads, ∃ u post, ∃ r : Except PyException Unit,
      th.trace = u ++ ⟨.uuid4, .ok path.jobId⟩ :: ⟨.writeBytes path content, r⟩ :: post := by
  obtain ⟨th, hth, ⟨op, r⟩, hc, hop⟩ := written_reached _ hmem
  obtain ⟨pre, post, htrace, hcall⟩ := requestCall_of_mem hth hc
  obtain rfl : op = .writeBytes path content := hop
  obtain ⟨u, rfl⟩ := hcall.writeBytes
  exact ⟨th, hth, u, post, r, by rw [htrace, List.append_assoc]; rfl⟩

/-- If no identifier is drawn twice, no file is overwritten. -/
theorem write_unique (hfresh : (drawnIds (reached settings sha256 moves)).Nodup)
    {path : PdfPath} {content content' : Bytes}
    (hmem : (path, content) ∈ (reached settings sha256 moves).state.files)
    (hmem' : (path, content') ∈ (reached settings sha256 moves).state.files) :
    content = content' := by
  obtain ⟨th, hth, u, post, r, htrace⟩ := drawn_of_file hmem
  obtain ⟨th', hth', u', post', r', htrace'⟩ := drawn_of_file hmem'
  -- both writes are made by one thread, behind the same draw
  have hdrawn : path.jobId ∈ drawn th.trace :=
    List.mem_filterMap.mpr ⟨⟨.uuid4, .ok path.jobId⟩, by simp [htrace], rfl⟩
  have hdrawn' : path.jobId ∈ drawn th'.trace :=
    List.mem_filterMap.mpr ⟨⟨.uuid4, .ok path.jobId⟩, by simp [htrace'], rfl⟩
  obtain rfl := eq_of_flatMap_nodup hfresh hth hth' hdrawn hdrawn'
  have hnodup : (drawn th.trace).Nodup := (List.nodup_flatMap.mp hfresh).1 th hth
  rw [drawn, htrace] at hnodup
  have hcalls := eq_of_filterMap_nodup hnodup (htrace.symm.trans htrace') rfl rfl
  injection (Sigma.mk.inj (List.cons.inj hcalls).1).1

/-- Every row was inserted behind the file of its job. -/
theorem storedFile_reached {row : JobRow}
    (hrow : row ∈ (reached settings sha256 moves).state.jobs.table.rows) :
    ∃ content, uploadError? settings ⟨row.filename, content⟩ = none ∧
      sha256 content = row.fileHash ∧
        row.filePath = some (PdfPath.toString ⟨tempPdfRoot, row.batchId, row.id⟩) ∧
          (⟨tempPdfRoot, row.batchId, row.id⟩, content) ∈
            (reached settings sha256 moves).state.files := by
  obtain ⟨jobId, h, hh, rfl⟩ :=
    (JournaledTable.mem_rows_iff (reached settings sha256 moves).state.jobs row).mp hrow
  obtain ⟨th, hth, c, hc, hadds⟩ := explained_reached _ (mem_of_history? hh).1.1
  obtain ⟨batch, jobs, job, hop, hjob, horigin⟩ := hadds.inserted
  obtain ⟨pre, post, htrace, hcall⟩ := requestCall_of_mem hth hc
  rw [hop] at hcall
  obtain ⟨batchId, params, userId, now, rfl, -, hwritten⟩ := hcall.createBatch
  obtain ⟨file, now', hvalid, hwrite, hnew⟩ := hwritten job hjob
  have hfile := (filesSeen_reached settings sha256 moves th hth).1 _ _
    (htrace ▸ List.mem_append_left _ hwrite)
  -- updates keep the columns the row was inserted with
  have hcolumns : JobRow.insertedColumns h.row = JobRow.insertedColumns
      (newRow (newBatch batchId jobs params userId now)
        (newJob ⟨tempPdfRoot, batchId, job.jobId⟩ file (sha256 file.content) now')) := by
    rw [insertedColumns_row, horigin, ← hnew]
  simp only [JobRow.insertedColumns, JobRow.identity, newRow, newBatch, jobToOrm, newJob,
    Prod.mk.injEq] at hcolumns
  obtain ⟨⟨hid, hbatchId, hfilename, hhash⟩, hpath, -⟩ := hcolumns
  rw [hid, hbatchId, hfilename, hhash, hpath]
  exact ⟨file.content, hvalid, rfl, if_neg (toString_ne_empty _), hfile⟩

/-- If no file is overwritten, a worker reads the bytes its job was hashed from. -/
theorem digest_of_loaded (hfresh : (drawnIds (reached settings sha256 moves)).Nodup) {th : Serving}
    (hth : th ∈ (reached settings sha256 moves).threads) {retries : ℕ} {l : Loaded}
    (hrequest : th.request = .extract l.job.jobId retries) (hpre : l.prelude <+: th.trace) :
    ∃ row ∈ (reached settings sha256 moves).state.jobs.table.rows, row.id = l.job.jobId ∧
      row.fileHash = l.job.fileHash ∧ sha256 l.pdfBytes = row.fileHash := by
  obtain ⟨row, hrow, hidentity, -⟩ := row_of_loaded hth hrequest hpre
  have hid : row.id = l.job.jobId := congrArg Prod.fst hidentity
  have hbatchId : row.batchId = l.job.batchId := congrArg (fun i => i.2.1) hidentity
  obtain ⟨content, -, hhash, -, hfile⟩ := storedFile_reached hrow
  rw [hid, hbatchId] at hfile
  have hread := (filesSeen_reached settings sha256 moves th hth).2
    ⟨tempPdfRoot, l.job.batchId, l.job.jobId⟩ l.pdfBytes (hpre.subset l.readBytes_mem)
  exact ⟨row, hrow, hid, congrArg (fun i => i.2.2.2) hidentity,
    write_unique hfresh hfile hread ▸ hhash⟩

/-- A delivery under the hash of a job goes back to bytes with this hash. -/
theorem digest_of_delivery (hfresh : (drawnIds (reached settings sha256 moves)).Nodup) {n : Note}
    (hn : .noted n ∈ (reached settings sha256 moves).state.jobs.journal) {documentId : String}
    (hdelivery : ∀ op : Op, op.note? = some n → (op.isPipeline = true ∧ op ≠ .elapsedMs) ∧
      ∀ l : Loaded, FromInput (l.input settings) op → documentId = l.job.fileHash) :
    ∃ th ∈ (reached settings sha256 moves).threads, ∃ path pdfBytes,
      (⟨.readBytes path, .ok pdfBytes⟩ : Call) ∈ th.trace ∧ sha256 pdfBytes = documentId := by
  obtain ⟨th, hth, retries, l, op, hrequest, hpre, hnote, hfrom⟩ :=
    loaded_of_note hn fun op hop => (hdelivery op hop).1
  obtain ⟨row, -, -, hhash, hdigest⟩ := digest_of_loaded hfresh hth hrequest hpre
  exact ⟨th, hth, _, l.pdfBytes, hpre.subset l.readBytes_mem,
    hdigest.trans (hhash.trans ((hdelivery op hnote).2 l hfrom).symm)⟩

end Runs

end ZubotIngestion
