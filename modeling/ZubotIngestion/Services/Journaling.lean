import ZubotIngestion.Services.PipelineRun

/-!
# What the services leave in the journal

Every call adds to the journal what it did: at most one update of a job row, the rows of a new
batch, or one note. `Journals w c es` says which entries `es` the call `c` can have added in a
world `w`. The answer tells part of it: an update that was answered normally was recorded, unless
the row was missing; after an exception it may or may not have been.

## Main definitions

* `Journals`, `JournalsAll`: the entries of one call, and of a list of calls.
* `updatesOf`: the updates of job rows among some calls.
* `Sensible`, `Loads`, `Trusted`: what is assumed of answers.

## Main results

* `jobsEffect_effect`: what a call that does not fail does to the `jobs` table.
* `journal_answer`: every call adds entries that `Journals` allows.
* `sensible_answer`, `loads_answer`: the answers are the assumed ones.
* `extends_answer`, `history?_answer`: what a call does to the histories of the rows.
-/

namespace ZubotIngestion

open Effects Store

/-- Entries of the journal of the `jobs` table. -/
abbrev JobEntry : Type := Entry jobSchema

/-- The entry of an inserted row. -/
abbrev insertedEntry (row : JobRow) : JobEntry := Entry.inserted (D := jobSchema) row

/-- Whether a call was answered with an exception. -/
def Raised {op : Op} (r : Except PyException op.Res) : Prop := ∃ exc, r = .error exc

/-- The update of a row that a call asks for, committed at a given time. -/
def Op.update? : Op → Option (JobId × (Timestamp → JobUpdate))
  | .updateJobStatus jobId status result errorMessage =>
    some (jobId, .updateStatus status result errorMessage)
  | .updateJobResult jobId result tier score processingTimeMs otelTraceId trace =>
    some (jobId, .updateResult result tier score processingTimeMs otelTraceId trace)
  | _ => none

/-- The note a call leaves when it takes effect. -/
def Op.note? : Op → Option Note
  | .writeMetadata documentId sidecar deploymentId nodeId =>
    some (.upserted documentId sidecar deploymentId nodeId)
  | .indexCompanion documentId extraction companion deploymentId =>
    some (.indexed documentId extraction companion deploymentId)
  | .notifyCompletion callbackUrl job _ => some (.posted callbackUrl (jobToPayload job))
  | .enqueueExtraction jobId => some (.enqueued jobId)
  | .countExtraction status => some (.counted status)
  | _ => none

/-- Whether a note is left by every call that does not raise; the writer and the indexer may also
report a failure. -/
def Op.alwaysNotes : Op → Bool
  | .notifyCompletion .. | .enqueueExtraction _ | .countExtraction _ => true
  | _ => false

/-- The entries a call may have added in a world where the rows with keys `present` exist. -/
def Journals (present : JobId → Prop) (c : Call) (es : List JobEntry) : Prop :=
  match c.1.update?, c.1.note?, c.1 with
  | some (jobId, u), _, _ =>
    (∃ now, es = [.wrote jobId (u now)]) ∨ es = [] ∧ (present jobId → Raised c.2)
  | none, some n, op => es = [.noted n] ∨ es = [] ∧ (op.alwaysNotes = true → Raised c.2)
  | none, none, .createBatch batch jobs =>
    es = [] ∨ es = jobs.map fun job => insertedEntry (newRow batch job)
  | none, none, _ => es = []

/-- The entries a list of calls may have added, in order. -/
def JournalsAll (present : JobId → Prop) : List Call → List JobEntry → Prop
  | [], es => es = []
  | c :: trace, es => ∃ es₁ es₂, es = es₁ ++ es₂ ∧ Journals present c es₁ ∧
      JournalsAll present trace es₂

theorem journalsAll_append {present : JobId → Prop} {trace trace' : List Call}
    {es : List JobEntry} : JournalsAll present (trace ++ trace') es ↔
      ∃ es₁ es₂, es = es₁ ++ es₂ ∧ JournalsAll present trace es₁ ∧
        JournalsAll present trace' es₂ := by
  induction trace generalizing es with
  | nil => simp [JournalsAll]
  | cons c trace ih =>
    simp only [List.cons_append, JournalsAll, ih]
    constructor
    · rintro ⟨es₁, _, rfl, hc, es₂, es₃, rfl, h₂, h₃⟩
      exact ⟨es₁ ++ es₂, es₃, (List.append_assoc _ _ _).symm, ⟨es₁, es₂, rfl, hc, h₂⟩, h₃⟩
    · rintro ⟨_, es₃, rfl, ⟨es₁, es₂, rfl, hc, h₂⟩, h₃⟩
      exact ⟨es₁, es₂ ++ es₃, List.append_assoc _ _ _, hc, es₂, es₃, rfl, h₂, h₃⟩

/-! ### One call -/

/-- The rows that exist. -/
def World.Present (w : World) (jobId : JobId) : Prop := (w.jobs.find? jobId).isSome

/-- What an update may have added. -/
theorem journals_update {present : JobId → Prop} {op : Op} {r : Except PyException op.Res}
    {es : List JobEntry} {jobId : JobId} {u : Timestamp → JobUpdate}
    (hu : op.update? = some (jobId, u)) : Journals present ⟨op, r⟩ es ↔
      (∃ now, es = [.wrote jobId (u now)]) ∨ es = [] ∧ (present jobId → Raised r) := by
  simp only [Journals, hu]

/-- What a call with a note may have added. -/
theorem journals_note {present : JobId → Prop} {op : Op} {r : Except PyException op.Res}
    {es : List JobEntry} {n : Note} (hn : op.note? = some n) : Journals present ⟨op, r⟩ es ↔
      es = [.noted n] ∨ es = [] ∧ (op.alwaysNotes = true → Raised r) := by
  have hu : op.update? = none := by
    cases op <;> first
      | rfl
      | exact absurd hn (Option.some_ne_none _).symm
  simp only [Journals, hu, hn]

/-- A call that neither updates a row nor always leaves a note may have added nothing. -/
theorem journals_nil {present : JobId → Prop} {op : Op} (r : Except PyException op.Res)
    (hu : op.update? = none) (hnotes : op.alwaysNotes = false) : Journals present ⟨op, r⟩ [] := by
  cases op <;> first
    | rfl
    | exact Or.inl rfl
    | exact absurd hu (Option.some_ne_none _)
    | exact absurd hnotes Bool.true_eq_false_eq_False
    | exact Or.inr ⟨rfl, fun h => absurd h Bool.false_ne_true⟩

/-- A call that raised may have added nothing, or what it adds anyway. -/
theorem journals_raised {present : JobId → Prop} (op : Op) (exc : PyException) :
    Journals present ⟨op, .error exc⟩ [] ∧ ∀ r es, Journals present ⟨op, r⟩ es →
      Journals present ⟨op, .error exc⟩ es := by
  constructor
  · cases op <;> first
      | rfl
      | exact Or.inl rfl
      | exact Or.inr ⟨rfl, fun _ => ⟨exc, rfl⟩⟩
  · intro r es h
    cases op <;> first
      | exact h
      | exact h.imp id fun h => ⟨h.1, fun _ => ⟨exc, rfl⟩⟩

/-- What a call does to the `jobs` table when it does not fail: nothing, or one update, one note,
or the rows of one batch. -/
inductive JobsEffect (env : Env) (op : Op) (jobs : JobStore) : JobStore → Prop
  | kept (hupdate : op.update? = none) (hnotes : op.alwaysNotes = false) :
      JobsEffect env op jobs jobs
  | updated {jobId : JobId} {u : Timestamp → JobUpdate} (hupdate : op.update? = some (jobId, u)) :
      JobsEffect env op jobs (jobs.write jobId (u env.now))
  | noted {n : Note} (hnote : op.note? = some n) : JobsEffect env op jobs (jobs.note n)
  | inserted {batch : Batch} {members : List Job} {jobs' : JobStore}
      (hop : op = .createBatch batch members)
      (hrows : insertRows jobs (members.map (newRow batch)) = some jobs') :
      JobsEffect env op jobs jobs'

theorem jobsEffect_effect (env : Env) (op : Op) (w : World) :
    JobsEffect env op w.jobs (effect env op w).2.jobs := by
  cases op with
  | createBatch batch members =>
    simp only [effect]
    cases h : w.createBatch? batch members with
    | none => exact .kept rfl rfl
    | some w' =>
      rw [World.createBatch?] at h
      split_ifs at h
      obtain ⟨store, hrows, rfl⟩ := Option.map_eq_some_iff.mp h
      exact .inserted rfl hrows
  | updateJobStatus jobId status result errorMessage => exact .updated rfl
  | updateJobResult jobId result tier score processingTimeMs otelTraceId trace =>
    exact .updated rfl
  | readBytes path =>
    simp only [effect]
    cases w.readFile? path with
    | none => exact .kept rfl rfl
    | some content => exact .kept rfl rfl
  | writeMetadata documentId sidecar deploymentId nodeId =>
    simp only [effect]
    split_ifs
    · exact .noted rfl
    · exact .kept rfl rfl
  | indexCompanion documentId extraction companion deploymentId =>
    simp only [effect]
    split_ifs
    · exact .noted rfl
    · exact .kept rfl rfl
  | notifyCompletion callbackUrl job apiKey => exact .noted rfl
  | enqueueExtraction jobId => exact .noted rfl
  | countExtraction status => exact .noted rfl
  | _ => exact .kept rfl rfl

theorem journal_insertRows {store store' : JobStore} {rows : List JobRow}
    (h : insertRows store rows = some store') :
    store'.journal = store.journal ++ rows.map insertedEntry := by
  induction rows generalizing store with
  | nil =>
    rw [insertRows, Option.some.injEq] at h
    rw [← h, List.map_nil, List.append_nil]
  | cons row rows ih =>
    rw [insertRows] at h
    split_ifs at h with hrow
    rw [ih h, List.map_cons]
    exact List.append_assoc _ _ _

/-- What a call adds to the journal when it does not fail. -/
theorem journal_effect (env : Env) (op : Op) (w : World) :
    ∃ es, (effect env op w).2.jobs.journal = w.jobs.journal ++ es ∧
      Journals w.Present ⟨op, (effect env op w).1⟩ es := by
  have heffect := jobsEffect_effect env op w
  generalize (effect env op w).2.jobs = jobs' at heffect ⊢
  cases heffect with
  | kept hupdate hnotes => exact ⟨[], (List.append_nil _).symm, journals_nil _ hupdate hnotes⟩
  | @updated jobId u hupdate =>
    have hjournal := w.jobs.journal_write jobId (u env.now)
    by_cases hpresent : (w.jobs.find? jobId).isSome
    · rw [if_pos hpresent] at hjournal
      exact ⟨_, hjournal, (journals_update hupdate).mpr (Or.inl ⟨env.now, rfl⟩)⟩
    · rw [if_neg hpresent] at hjournal
      refine ⟨[], hjournal.trans (List.append_nil _).symm, (journals_update hupdate).mpr ?_⟩
      exact Or.inr ⟨rfl, fun h => absurd h hpresent⟩
  | noted hnote => exact ⟨_, rfl, (journals_note hnote).mpr (Or.inl rfl)⟩
  | inserted hop hrows =>
    subst hop
    have hjournal := journal_insertRows hrows
    rw [List.map_map] at hjournal
    exact ⟨_, hjournal, Or.inr rfl⟩

/-- What a call adds to the journal, faults included. -/
theorem journal_answer (env : Env) (op : Op) (w : World) :
    ∃ es, (answer env op w).2.jobs.journal = w.jobs.journal ++ es ∧
      Journals w.Present ⟨op, (answer env op w).1⟩ es := by
  obtain ⟨es, hes, hjournals⟩ := journal_effect env op w
  rcases answer_cases env op w with h | ⟨exc, h⟩ | ⟨exc, h⟩
  · rw [h]
    exact ⟨es, hes, hjournals⟩
  · rw [h]
    exact ⟨[], (List.append_nil _).symm, (journals_raised op exc).1⟩
  · rw [h]
    exact ⟨es, hes, (journals_raised op exc).2 _ es hjournals⟩

/-- What a call may have added: its update, the rows of its batch, its note, or nothing. -/
theorem Journals.cases {present : JobId → Prop} {op : Op} {r : Except PyException op.Res}
    {es : List JobEntry} (h : Journals present ⟨op, r⟩ es) :
    (∃ jobId u now, op.update? = some (jobId, u) ∧ es = [.wrote jobId (u now)]) ∨
      (∃ batch jobs, op = .createBatch batch jobs ∧
        es = jobs.map fun job => insertedEntry (newRow batch job)) ∨
      (∃ n, op.note? = some n ∧ es = [.noted n]) ∨
      es = [] ∧ (∀ jobId u, op.update? = some (jobId, u) → present jobId → Raised r) ∧
        (op.alwaysNotes = true → Raised r) := by
  cases hu : op.update? with
  | some update =>
    obtain ⟨jobId, u⟩ := update
    rcases (journals_update hu).mp h with ⟨now, rfl⟩ | ⟨rfl, hraised⟩
    · exact Or.inl ⟨jobId, u, now, rfl, rfl⟩
    · refine Or.inr (Or.inr (Or.inr ⟨rfl, fun jobId' u' h => ?_, fun hnotes => ?_⟩))
      · obtain ⟨rfl, rfl⟩ := Prod.mk.inj (Option.some.inj h)
        exact hraised
      · cases op <;> first
          | exact absurd hnotes Bool.false_ne_true
          | exact absurd hu (Option.some_ne_none _).symm
  | none =>
    cases hn : op.note? with
    | some n =>
      rcases (journals_note hn).mp h with rfl | ⟨rfl, hraised⟩
      · exact Or.inr (Or.inr (Or.inl ⟨n, rfl, rfl⟩))
      · exact Or.inr (Or.inr (Or.inr ⟨rfl, fun _ _ h => (nomatch h), hraised⟩))
    | none =>
      cases op <;> first
        | exact absurd hu (Option.some_ne_none _)
        | exact absurd hn (Option.some_ne_none _)
        | exact Or.inr (Or.inr (Or.inr ⟨h, fun _ _ h => (nomatch h), fun h => (nomatch h)⟩))
        | skip
      rcases h with rfl | rfl
      · exact Or.inr (Or.inr (Or.inr ⟨rfl, fun _ _ h => (nomatch h), fun h => (nomatch h)⟩))
      · exact Or.inr (Or.inl ⟨_, _, rfl, rfl⟩)

theorem Journals.mono {present present' : JobId → Prop} {c : Call} {es : List JobEntry}
    (h : Journals present' c es) (hp : ∀ jobId, present jobId → present' jobId) :
    Journals present c es := by
  obtain ⟨op, r⟩ := c
  cases op <;> first
    | exact h
    | exact h.imp id fun h => ⟨h.1, fun hpresent => h.2 (hp _ hpresent)⟩

/-- A row stays present as the journal grows. -/
theorem World.Present.mono {w w' : World} {es : List JobEntry}
    (hw : w'.jobs.journal = w.jobs.journal ++ es) {jobId : JobId} (h : w.Present jobId) :
    w'.Present jobId := by
  rw [World.Present, w.jobs.find?_eq_map jobId, Option.isSome_map] at h
  rw [World.Present, w'.jobs.find?_eq_map jobId, Option.isSome_map]
  show (history? w'.jobs.journal jobId).isSome
  rw [hw]
  exact isSome_history?_append h es

/-! ### Updates -/

/-- A call that updates a job row. -/
def Op.isUpdate (op : Op) : Bool := op.update?.isSome

/-- The updates asked for so far. -/
def updatesOf (trace : List Call) : List Op := (trace.map Sigma.fst).filter Op.isUpdate

theorem updatesOf_eq (trace : List Call) :
    updatesOf trace = (callsOf Op.isUpdate trace).map Sigma.fst :=
  List.filter_map

theorem updatesOf_append (trace trace' : List Call) :
    updatesOf (trace ++ trace') = updatesOf trace ++ updatesOf trace' := by
  rw [updatesOf, List.map_append, List.filter_append, updatesOf, updatesOf]

/-- The calls of batch submission. -/
def Op.isSubmission : Op → Bool
  | .getJobByFileHash _ | .createBatch .. | .mkdir .. | .writeBytes .. | .enqueueExtraction _
  | .uuid4 | .now => true
  | _ => false

/-! ### What is assumed of answers -/

/-- A job is found under its own identifier. -/
def FoundById : (op : Op) → Except PyException op.Res → Prop
  | .getJob jobId, .ok (some job) => job.jobId = jobId
  | _, _ => True

/-- The answers the services rely on: some calls do not raise, and lookups are by key. -/
structure Sensible (op : Op) (r : Except PyException op.Res) : Prop where
  answered : Answered op r
  foundById : FoundById op r

/-- A call that does not raise is not answered with an exception. -/
theorem Sensible.not_error {op : Op} {exc : PyException} (h : Sensible op (.error exc))
    (hop : op.infallible = true) : False := by
  obtain ⟨value, hvalue⟩ := h.answered hop
  cases hvalue

/-- Every job that is loaded satisfies `P`. -/
def Loads (P : Job → Prop) : (op : Op) → Except PyException op.Res → Prop
  | .getJob _, .ok (some job) => P job
  | .getJobByFileHash _, .ok (some job) => P job
  | _, _ => True

/-- Sensible answers that load jobs satisfying `P` only. -/
structure Trusted (P : Job → Prop) (op : Op) (r : Except PyException op.Res) : Prop where
  sensible : Sensible op r
  loads : Loads P op r

/-- What holds of every exception and of the answer without faults holds of the answer. -/
theorem answer_of_effect {R : (op : Op) → Except PyException op.Res → Prop} {env : Env} {op : Op}
    {w : World} (herror : ∀ exc, R op (.error exc)) (heffect : R op (effect env op w).1) :
    R op (answer env op w).1 := by
  rcases answer_cases env op w with h | ⟨exc, h⟩ | ⟨exc, h⟩
  · rw [h]
    exact heffect
  · rw [h]
    exact herror exc
  · rw [h]
    exact herror exc

theorem foundById_answer (env : Env) (op : Op) (w : World) :
    FoundById op (answer env op w).1 := by
  refine answer_of_effect (fun exc => by cases op <;> trivial) ?_
  cases op with
  | getJob jobId =>
    simp only [effect, getJob]
    cases hrow : w.jobs.table.find? jobId with
    | none => trivial
    | some row =>
      have hkey : row.id = jobId := Store.Table.key_eq_of_find? hrow
      exact hkey
  | _ => trivial

theorem loads_answer {P : Job → Prop} {w : World}
    (hP : ∀ row ∈ w.jobs.table.rows, P (toJob row)) (env : Env) (op : Op) :
    Loads P op (answer env op w).1 := by
  refine answer_of_effect (fun exc => by cases op <;> trivial) ?_
  cases op with
  | getJob jobId =>
    simp only [effect, getJob]
    cases hrow : w.jobs.table.find? jobId with
    | none => trivial
    | some row => exact hP row ((w.jobs.table.mem_rows_iff_exists row).mpr ⟨jobId, hrow⟩)
  | getJobByFileHash fileHash =>
    simp only [effect]
    cases hjob : getJobByFileHash w.jobs.table fileHash with
    | none => trivial
    | some job =>
      obtain ⟨row, hrow, -, -, rfl⟩ := getJobByFileHash_some hjob
      exact hP row hrow
  | _ => trivial

theorem sensible_answer (env : Env) (op : Op) (w : World) : Sensible op (answer env op w).1 :=
  ⟨answered_answer env op w, foundById_answer env op w⟩

/-! ### Histories grow -/

theorem extends_insertRows {store store' : JobStore} {rows : List JobRow}
    (h : insertRows store rows = some store') : store.Extends store' := by
  induction rows generalizing store with
  | nil =>
    obtain rfl := Option.some.inj h
    exact JournaledTable.Extends.refl store
  | cons row rows ih =>
    rw [insertRows] at h
    split_ifs at h with hrow
    exact (store.extends_insert row hrow).trans (ih h)

theorem extends_effect (env : Env) (op : Op) (w : World) :
    w.jobs.Extends (effect env op w).2.jobs := by
  have heffect := jobsEffect_effect env op w
  generalize (effect env op w).2.jobs = jobs' at heffect ⊢
  cases heffect with
  | kept => exact JournaledTable.Extends.refl _
  | updated => exact w.jobs.extends_write _ _
  | noted => exact w.jobs.extends_note _
  | inserted _ hrows => exact extends_insertRows hrows

/-- Every call lets the histories go on. -/
theorem extends_answer (env : Env) (op : Op) (w : World) :
    w.jobs.Extends (answer env op w).2.jobs := by
  rcases answer_cases env op w with h | ⟨exc, h⟩ | ⟨exc, h⟩
  · rw [h]
    exact extends_effect env op w
  · rw [h]
    exact JournaledTable.Extends.refl _
  · rw [h]
    exact extends_effect env op w

/-- An update that is answered normally is added to the history of its row. -/
theorem history?_answer {env : Env} {op : Op} {w : World} {jobId : JobId}
    {f : Timestamp → JobUpdate} (hu : op.update? = some (jobId, f))
    (hok : ¬ Raised (answer env op w).1) :
    (answer env op w).2.jobs.history? jobId =
      (w.jobs.history? jobId).map fun h => h.add (f env.now) := by
  rcases answer_cases env op w with h | ⟨exc, h⟩ | ⟨exc, h⟩
  · rw [h]
    cases op <;> cases hu
    · exact w.jobs.history?_write_self _ _
    · exact w.jobs.history?_write_self _ _
  · rw [h] at hok
    exact absurd ⟨exc, rfl⟩ hok
  · rw [h] at hok
    exact absurd ⟨exc, rfl⟩ hok

/-- A job that is loaded has a row. -/
theorem history?_of_getJob {env : Env} {jobId : JobId} {w : World} {job : Job}
    (h : (answer env (.getJob jobId) w).1 = .ok (some job)) :
    ∃ hist, w.jobs.history? jobId = some hist := by
  rcases answer_cases env (.getJob jobId) w with hanswer | ⟨exc, hanswer⟩ | ⟨exc, hanswer⟩
  · rw [hanswer] at h
    obtain ⟨row, hrow, -⟩ := Option.map_eq_some_iff.mp (Except.ok.inj h)
    have hfind : w.jobs.find? jobId = some row := hrow
    obtain ⟨hist, hhist, -⟩ := JournaledTable.exists_history hfind
    exact ⟨hist, hhist⟩
  · rw [hanswer] at h
    cases h
  · rw [hanswer] at h
    cases h

/-! ### The rows after a call -/

theorem find?_insertRows {store store' : JobStore} {rows : List JobRow}
    (h : insertRows store rows = some store') {jobId : JobId} {row : JobRow}
    (hrow : store'.find? jobId = some row) : store.find? jobId = some row ∨ row ∈ rows := by
  induction rows generalizing store with
  | nil =>
    obtain rfl := Option.some.inj h
    exact Or.inl hrow
  | cons row' rows ih =>
    rw [insertRows] at h
    split_ifs at h with hfree
    rcases ih h with hfind | hmem
    · have hinsert : (store.insert row' hfree).find? jobId =
          if row'.id = jobId then some row' else store.find? jobId :=
        Table.find?_insert store.table row' hfree jobId
      rw [hinsert] at hfind
      split_ifs at hfind
      · obtain rfl := Option.some.inj hfind
        exact Or.inr List.mem_cons_self
      · exact Or.inl hfind
    · exact Or.inr (List.mem_cons_of_mem _ hmem)

theorem find?_write {jobs : JobStore} {k jobId : JobId} {u : JobUpdate} {row : JobRow}
    (h : (jobs.write k u).find? jobId = some row) :
    jobs.find? jobId = some row ∨
      k = jobId ∧ ∃ before, jobs.find? jobId = some before ∧ row = u.apply before := by
  by_cases hk : k = jobId
  · subst hk
    have hwrite := jobs.find?_write_self k u
    rw [h] at hwrite
    obtain ⟨before, hbefore, hrow⟩ := Option.map_eq_some_iff.mp hwrite.symm
    exact Or.inr ⟨rfl, before, hbefore, hrow.symm⟩
  · have hwrite := jobs.find?_write_of_ne hk u
    rw [h] at hwrite
    exact Or.inl hwrite.symm

/-- A row after a call was there before, or was inserted, or was updated by the call. -/
theorem find?_effect {env : Env} {op : Op} {w : World} {jobId : JobId} {row : JobRow}
    (h : (effect env op w).2.jobs.find? jobId = some row) :
    w.jobs.find? jobId = some row ∨
      (∃ batch jobs job, op = .createBatch batch jobs ∧ job ∈ jobs ∧ row = newRow batch job) ∨
      ∃ f before, op.update? = some (jobId, f) ∧ w.jobs.find? jobId = some before ∧
        row = (f env.now).apply before := by
  have heffect := jobsEffect_effect env op w
  generalize (effect env op w).2.jobs = jobs' at h heffect
  cases heffect with
  | kept => exact Or.inl h
  | updated hupdate =>
    rcases find?_write h with hfind | ⟨rfl, before, hbefore, hrow⟩
    · exact Or.inl hfind
    · exact Or.inr (Or.inr ⟨_, before, hupdate, hbefore, hrow⟩)
  | noted => exact Or.inl h
  | inserted hop hrows =>
    rcases find?_insertRows hrows h with hfind | hmem
    · exact Or.inl hfind
    · obtain ⟨job, hjob, rfl⟩ := List.mem_map.mp hmem
      exact Or.inr (Or.inl ⟨_, _, job, hop, hjob, rfl⟩)

theorem find?_answer {env : Env} {op : Op} {w : World} {jobId : JobId} {row : JobRow}
    (h : (answer env op w).2.jobs.find? jobId = some row) :
    w.jobs.find? jobId = some row ∨
      (∃ batch jobs job, op = .createBatch batch jobs ∧ job ∈ jobs ∧ row = newRow batch job) ∨
      ∃ f before, op.update? = some (jobId, f) ∧ w.jobs.find? jobId = some before ∧
        row = (f env.now).apply before := by
  rcases answer_cases env op w with hanswer | ⟨exc, hanswer⟩ | ⟨exc, hanswer⟩
  · rw [hanswer] at h
    exact find?_effect h
  · rw [hanswer] at h
    exact Or.inl h
  · rw [hanswer] at h
    exact find?_effect h

end ZubotIngestion
