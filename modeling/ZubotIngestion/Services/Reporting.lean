import Mathlib.Data.List.Sublists
import ZubotIngestion.Services.Degradation
import ZubotIngestion.Services.Delivery
import ZubotIngestion.Services.Retries
import ZubotIngestion.Services.TookEffect

/-!
# What a run reports

Three places report how a run went. The metric counts it under a label that looks at the list of
pipeline errors and at the tier, the task persists a status that looks at the tier, and the
ChromaDB write looks at the tier. If every commit is confirmed, they agree about a run unless the
PDF load or the sidecar builder raised and the calculator nevertheless assessed a tier other than
review: such a run is counted as failed, persisted as `COMPLETED` and its fallback document is
published.

The label is counted and the document upserted before the outcome is committed. Where a commit
raises, the row is left as the commits that took effect say, `FAILED` if it is written behind them,
and the reports agree or not according to these commits.

## Main definitions

* `labelsOf`, `upsertsOf`: what some entries of the journal report.
* `ReportsConsistently`: the reports agree.
* `GotTo`: how far an attempt has got.
* `LeavesCompleted`: the commits that took effect leave the row `COMPLETED`.
* `PipelineAnswers.Agrees`: the answers and the commits for which the reports agree.

## Main results

* `PipelineAnswers.unrecoverable_log`: which answers leave an unrecoverable error.
* `leavesCompleted_iff`: the status an attempt leaves.
* `reportsConsistently_iff_agrees`: the reports of an attempt, returned or raised, agree exactly
  for these answers and commits.
-/

namespace ZubotIngestion

open Effects Store

/-! ### Unrecoverable errors -/

namespace PipelineLog

/-- Some error of the log is unrecoverable. -/
def unrecoverable (log : PipelineLog) : Bool := log.errors.any fun error => !error.recoverable

variable (log : PipelineLog)

@[simp] theorem unrecoverable_stage (name : String) (entry : Dict) :
    (log.stage name entry).unrecoverable = log.unrecoverable := rfl

@[simp] theorem unrecoverable_traceError (stage error : String) :
    (log.traceError stage error).unrecoverable = log.unrecoverable := rfl

@[simp] theorem unrecoverable_pipelineError (error : PipelineError) :
    (log.pipelineError error).unrecoverable = (log.unrecoverable || !error.recoverable) := by
  simp [unrecoverable, pipelineError]

@[simp] theorem unrecoverable_raised (stage : String) (exc : PyException) (recoverable : Bool) :
    (log.raised stage exc recoverable).unrecoverable = (log.unrecoverable || !recoverable) := by
  simp [raised]

end PipelineLog

section Stages

variable (ms : ℤ) (log : PipelineLog)

@[simp] theorem unrecoverable_recordPdfLoad (answer : Except PyException PDFData) :
    (recordPdfLoad answer ms log).2.unrecoverable = (log.unrecoverable || !succeeded answer) := by
  cases answer <;> simp [recordPdfLoad, succeeded]

@[simp] theorem unrecoverable_normalizeExtraction (label : ExtractorLabel)
    (answer : Except PyException ExtractionResult) :
    (normalizeExtraction label answer log).2.unrecoverable = log.unrecoverable := by
  cases answer <;> simp [normalizeExtraction]

@[simp] theorem unrecoverable_recordStage1
    (drawing title documentType : Except PyException ExtractionResult) :
    (recordStage1 drawing title documentType ms log).2.unrecoverable = log.unrecoverable := by
  simp [recordStage1, finishStage1]

@[simp] theorem unrecoverable_recordStage2 (answer : Except PyException CompanionResult) :
    (recordStage2 answer ms log).2.unrecoverable = log.unrecoverable := by
  cases answer <;> simp [recordStage2]

@[simp] theorem unrecoverable_recordCompanionValidation
    (answer : Except PyException ValidationResult) :
    (recordCompanionValidation answer log).2.unrecoverable = log.unrecoverable := by
  cases answer <;> simp [recordCompanionValidation]

@[simp] theorem unrecoverable_recordStage3 (job : Job)
    (answer : Except PyException SidecarDocument) :
    (recordStage3 job answer ms log).2.unrecoverable =
      (log.unrecoverable || !succeeded answer) := by
  cases answer <;> simp [recordStage3, succeeded]

@[simp] theorem unrecoverable_recordConfidence
    (answer : Except PyException ConfidenceAssessment) :
    (recordConfidence answer ms log).2.unrecoverable =
      (log.unrecoverable || !succeeded answer) := by
  cases answer <;> simp [recordConfidence, succeeded]

@[simp] theorem unrecoverable_recordDelivery (stage returnedFalse : String)
    (answer : Except PyException Bool) :
    (recordDelivery stage returnedFalse answer ms log).unrecoverable = log.unrecoverable := by
  rcases answer with exc | _ | _ <;> simp [recordDelivery]

@[simp] theorem unrecoverable_recordMetadataWrite (answer : Except PyException Bool) :
    (recordMetadataWrite answer ms log).unrecoverable = log.unrecoverable := by
  rcases answer with exc | _ | _ <;> simp [recordMetadataWrite]

@[simp] theorem unrecoverable_recordSkipped (stage reason : String) :
    (recordSkipped stage reason log).unrecoverable = log.unrecoverable := rfl

end Stages

namespace PipelineAnswers

variable (a : PipelineAnswers) (x : PipelineInput)

/-- An unrecoverable error is left by the PDF load, the sidecar builder and the calculator only. -/
theorem unrecoverable_log : (a.log x).unrecoverable =
    (!succeeded a.pdfData || !succeeded a.sidecar || !succeeded a.assessment) := by
  have hload : a.afterPdfLoad.2.unrecoverable = !succeeded a.pdfData :=
    (unrecoverable_recordPdfLoad a.pdfMs {} a.pdfData).trans (Bool.false_or _)
  have hvalidation : (a.afterValidation x).2.unrecoverable = !succeeded a.pdfData := by
    rw [← hload]
    unfold afterValidation
    cases validatedText? x.wiring a.afterStage2.1 <;> simp [afterStage2, afterStage1]
  have hassessed : (a.afterConfidence x).2.unrecoverable =
      (!succeeded a.pdfData || !succeeded a.sidecar || !succeeded a.assessment) := by
    rw [← hvalidation]
    simp [afterConfidence, afterStage3]
  have hwrite : (a.afterMetadataWrite x).unrecoverable = (a.afterConfidence x).2.unrecoverable := by
    unfold afterMetadataWrite
    split_ifs <;> simp
  have hindex : (a.afterSearchIndex x).unrecoverable = (a.afterMetadataWrite x).unrecoverable := by
    unfold afterSearchIndex
    cases indexedCompanion? x.wiring a.afterStage2.1 <;> simp
  have hcallback : (a.log x).unrecoverable = (a.afterSearchIndex x).unrecoverable := by
    unfold log
    cases notifiedUrl? x.wiring x.callbackUrl <;> simp
  rw [hcallback, hindex, hwrite, hassessed]

/-- The calculator raised or assessed the review tier. -/
def Reviewed : Prop := ∀ assessment, a.assessment = .ok assessment → assessment.tier = .review

theorem tier_eq_review_iff : a.tier x = .review ↔ a.Reviewed := by
  have htier : a.tier x =
      (recordConfidence a.assessment a.confidenceMs (a.afterStage3 x).2).1.tier := rfl
  rw [htier, Reviewed]
  cases a.assessment with
  | ok assessment =>
    refine ⟨fun h assessment' h' => ?_, fun h => h assessment rfl⟩
    rw [← Except.ok.inj h']
    exact h
  | error exc => exact iff_of_true rfl fun _ h => nomatch h

theorem label_eq : a.label x = if (a.log x).unrecoverable = true then "failed"
    else if a.tier x = .review then "review" else "completed" := by
  simp [label, extractionStatus, PipelineLog.unrecoverable]

/-- The run is counted as failed iff it has an unrecoverable error. -/
theorem label_eq_failed_iff : a.label x = "failed" ↔
    ∃ e ∈ (a.result x).errors, e.recoverable = false := by
  have herrors : (∃ e ∈ (a.result x).errors, e.recoverable = false) ↔
      (a.log x).unrecoverable = true := by
    simp [PipelineLog.unrecoverable, result]
  rw [herrors, label_eq]
  split_ifs with h htier <;> simp [h]

/-- It is counted as completed iff it has none and its tier is not review. -/
theorem label_eq_completed_iff : a.label x = "completed" ↔
    (a.log x).unrecoverable = false ∧ a.tier x ≠ .review := by
  rw [label_eq]
  split_ifs with h htier
  · simp [h]
  · simp [htier]
  · simp [h, htier]

end PipelineAnswers

/-! ### What the journal reports -/

/-- The label of a counter increment. -/
def Op.label? : Op → Option String
  | .countExtraction label => some label
  | _ => none

/-- The label a note records. -/
def Note.label? : Note → Option String
  | .counted label => some label
  | _ => none

/-- The document a note records as upserted. -/
def Note.upserted? : Note → Option String
  | .upserted documentId .. => some documentId
  | _ => none

/-- The notes among some entries. -/
def notesOf (es : List JobEntry) : List Note :=
  es.filterMap fun
    | .noted n => some n
    | _ => none

/-- The labels counted. -/
def labelsOf (es : List JobEntry) : List String := (notesOf es).filterMap Note.label?

/-- The documents upserted to ChromaDB. -/
def upsertsOf (es : List JobEntry) : List String := (notesOf es).filterMap Note.upserted?

theorem notesOf_append (es es' : List JobEntry) :
    notesOf (es ++ es') = notesOf es ++ notesOf es' :=
  List.filterMap_append

theorem notesOf_inserted_map {α : Type} (rows : List α) (row : α → JobRow) :
    notesOf (rows.map fun a => insertedEntry (row a)) = [] :=
  List.filterMap_eq_nil_iff.mpr fun e he => by
    obtain ⟨a, -, rfl⟩ := List.mem_map.mp he
    rfl

theorem labelsOf_append (es es' : List JobEntry) :
    labelsOf (es ++ es') = labelsOf es ++ labelsOf es' := by
  rw [labelsOf, notesOf_append, List.filterMap_append]
  rfl

/-- What one call counts. -/
theorem labelsOf_of_journals {present : JobId → Prop} {op : Op} {r : Except PyException op.Res}
    {es : List JobEntry} (h : Journals present ⟨op, r⟩ es) (hok : op.isCount = true → ¬ Raised r) :
    labelsOf es = op.label?.toList := by
  by_cases hcount : op.isCount = true
  · have hraised := hok hcount
    cases op <;> cases hcount
    rcases h with rfl | ⟨-, hr⟩
    · rfl
    · exact absurd (hr rfl) hraised
  · have hlabel : op.label? = none := by
      cases op <;> first
        | rfl
        | exact absurd rfl hcount
    rw [hlabel]
    rcases h.cases with ⟨jobId, u, now, -, rfl⟩ | ⟨batch, jobs, -, rfl⟩ | ⟨n, hn, rfl⟩ | ⟨rfl, -⟩
    · rfl
    · rw [labelsOf, notesOf_inserted_map]
      rfl
    · cases op <;> cases hn <;> first
        | rfl
        | exact absurd rfl hcount
    · rfl

/-- A list of calls counts the labels of its increments. -/
theorem labelsOf_of_journalsAll {present : JobId → Prop} {trace : List Call} {es : List JobEntry}
    (h : JournalsAll present trace es) (hok : ∀ c ∈ trace, c.1.isCount = true → ¬ Raised c.2) :
    labelsOf es = (callsOf Op.isCount trace).filterMap fun c => c.1.label? := by
  induction trace generalizing es with
  | nil =>
    obtain rfl : es = [] := h
    rfl
  | cons c trace ih =>
    obtain ⟨es₁, es₂, rfl, hc, htrace⟩ := h
    have hone : (callsOf Op.isCount [c]).filterMap (fun c => c.1.label?) = c.1.label?.toList := by
      obtain ⟨op, r⟩ := c
      cases op <;> rfl
    have hsplit : callsOf Op.isCount (c :: trace) = callsOf Op.isCount [c] ++
        callsOf Op.isCount trace := callsOf_append _ [c] trace
    rw [labelsOf_append, labelsOf_of_journals hc (hok c List.mem_cons_self),
      ih htrace fun c' hc' => hok c' (List.mem_cons_of_mem _ hc'), hsplit, List.filterMap_append,
      hone]

/-- A write to ChromaDB. -/
def Op.isUpsert : Op → Bool
  | .writeMetadata .. => true
  | _ => false

/-- Calls without such a write upsert nothing. -/
theorem upsertsOf_eq_nil {present : JobId → Prop} {trace : List Call} {es : List JobEntry}
    (h : JournalsAll present trace es) (hnone : ∀ c ∈ trace, c.1.isUpsert = false) :
    upsertsOf es = [] := by
  refine List.filterMap_eq_nil_iff.mpr fun n hn => ?_
  obtain ⟨e, he, hnote⟩ := List.mem_filterMap.mp hn
  obtain ⟨⟨op, r⟩, hc, es', hjournals, hmem⟩ := mem_of_journalsAll h he
  have hop : op.isUpsert = false := hnone _ hc
  rcases hjournals.cases with ⟨jobId, u, now, -, rfl⟩ | ⟨batch, jobs, -, rfl⟩ | ⟨n', hn', rfl⟩ |
    ⟨rfl, -⟩
  · obtain rfl := List.mem_singleton.mp hmem
    cases hnote
  · obtain ⟨job, -, rfl⟩ := List.mem_map.mp hmem
    cases hnote
  · obtain rfl := List.mem_singleton.mp hmem
    obtain rfl : n' = n := Option.some.inj hnote
    cases op <;> cases hn' <;> first
      | rfl
      | cases hop
  · cases hmem

theorem Op.isCount_of_not_isPipeline (op : Op) (h : op.isPipeline = false) :
    op.isCount = false := by
  cases op <;> first
    | rfl
    | cases h

theorem Op.isUpsert_of_not_isPipeline (op : Op) (h : op.isPipeline = false) :
    op.isUpsert = false := by
  cases op <;> first
    | rfl
    | cases h

/-! ### How far an attempt gets -/

/-- How far an attempt has got: not to its pipeline run, or behind it, where the commits are. -/
inductive GotTo (settings : Settings) (jobId : JobId) (t : List Call) : Prop
  | start (h : callsOf Op.isPipeline t = [])
  | commits (k : TaskAnswers) (rest : List Call) (hk : k.job.jobId = jobId)
      (ht : t = k.processedCalls settings ++ rest) (hrest : callsOf Op.isPipeline rest = [])

section GotTo

variable {settings : Settings} {jobId : JobId}

/-- Calls outside the pipeline come at the start, or behind the run. -/
theorem GotTo.append {t u : List Call} (h : GotTo settings jobId t)
    (hu : callsOf Op.isPipeline u = []) : GotTo settings jobId (t ++ u) := by
  cases h with
  | start h =>
    refine .start ?_
    rw [callsOf_append, h, hu, List.append_nil]
  | commits k rest hk ht hrest =>
    refine .commits k (rest ++ u) hk ?_ ?_
    · rw [ht, List.append_assoc]
    · rw [callsOf_append, hrest, hu, List.append_nil]

/-- Every call is permitted. -/
def AnyCall (_ : List Call) (_ : Op) : Prop := True

theorem persistOutcome_gotTo (settings : Settings) (k : TaskAnswers) :
    Program.Safe Sensible AnyCall (fun t _ => GotTo settings k.job.jobId t)
      (persistOutcome k.job.jobId (k.result settings) k.processingTimeMs)
      (k.processedCalls settings) := by
  have hrun : GotTo settings k.job.jobId (k.processedCalls settings) :=
    .commits k [] rfl (List.append_nil _).symm rfl
  refine Program.Safe.perform_bind trivial (fun _ _ => hrun.append rfl) fun _ _ => ?_
  dsimp only
  split_ifs
  · exact Program.Safe.perform_bind trivial (fun _ _ => (hrun.append rfl).append rfl)
      fun _ _ => (hrun.append rfl).append rfl
  · exact hrun.append rfl

theorem extractJob_gotTo (settings : Settings) (job : Job) :
    Program.Safe Sensible AnyCall (fun t _ => GotTo settings job.jobId t)
      (extractJob settings job) [⟨.getJob job.jobId, .ok (some job)⟩] := by
  refine Program.Safe.attempt_bind trivial fun batch _ => ?_
  refine Program.Safe.perform_bind trivial (fun _ _ => .start rfl) fun pdfBytes _ => ?_
  refine Program.Safe.perform_bind trivial (fun _ _ => .start rfl) fun wiring _ => ?_
  refine Program.Safe.perform_bind trivial (fun _ _ => .start rfl) fun _ _ => ?_
  let input : PipelineInput := ⟨wiring, job, pdfBytes, (routingOf batch).deploymentId,
    (routingOf batch).nodeId, (routingOf batch).callbackUrl, settings.apiKey⟩
  refine (Program.safe_bind _ _ _).mpr (safe_pipeline (fun _ _ _ => trivial) input fun a => ?_)
  refine Program.Safe.perform_bind trivial (fun _ he => (he.not_error rfl).elim) fun ms _ => ?_
  exact persistOutcome_gotTo settings ⟨job, batch, pdfBytes, wiring, a, ms, none⟩

theorem extractDocumentTask_gotTo (settings : Settings) (jobId : JobId) (retries : ℕ) :
    Program.Safe Sensible AnyCall (fun t _ => GotTo settings jobId t)
      (extractDocumentTask settings jobId retries) [] := by
  have hbody : Program.Safe Sensible AnyCall (fun t _ => GotTo settings jobId t)
      (perform (.getJob jobId) >>= extractFound settings jobId) [] := by
    refine Program.Safe.perform_bind trivial (fun _ _ => .start rfl) fun found hfound => ?_
    cases found with
    | none => exact .start rfl
    | some job =>
      obtain rfl : job.jobId = jobId := hfound.foundById
      exact extractJob_gotTo settings job
  have htask : Program.Safe Sensible AnyCall (fun t _ => GotTo settings jobId t)
      (runExtractDocumentTask settings jobId) [] :=
    hbody.bind (fun _ _ h => Program.Safe.perform_bind trivial (fun _ _ => h.append rfl)
      fun _ _ => h.append rfl) fun _ _ h => h
  refine (Program.safe_bind _ _ _).mpr ((Program.safe_attempt _ _).mpr ?_)
  refine htask.mono (fun _ _ h => h) (fun _ _ h => h) fun t r hr => ?_
  cases r with
  | ok reply => exact hr
  | error exc =>
    dsimp only
    split_ifs
    · -- the `FAILED` write, in a session of its own
      refine (Program.safe_bind _ _ _).mpr ((Program.safe_attempt _ _).mpr ?_)
      exact Program.Safe.perform_bind trivial (fun _ _ => hr.append rfl) fun _ _ =>
        Program.Safe.perform_bind trivial (fun _ _ => (hr.append rfl).append rfl)
          fun _ _ => (hr.append rfl).append rfl
    · exact hr

end GotTo

/-! ### What such an attempt reports -/

namespace TaskAnswers

variable (k : TaskAnswers) (settings : Settings) {rest : List Call}

/-- A selection among the calls of the pipeline, if it leaves out the clock. -/
theorem callsOf_processed {p : Op → Bool} (hp : ∀ op, op.isPipeline = false → p op = false)
    (helapsed : p .elapsedMs = false) (hrest : callsOf Op.isPipeline rest = []) :
    callsOf p (k.processedCalls settings ++ rest) =
      callsOf p (k.pipeline.calls (k.input settings)) := by
  have hbehind : callsOf p rest = [] :=
    callsOf_eq_nil.mpr fun c hc => hp c.1 (callsOf_eq_nil.mp hrest c hc)
  have hclock : callsOf p [⟨.elapsedMs, .ok k.processingTimeMs⟩] = [] :=
    callsOf_cons_of_neg helapsed []
  rw [processedCalls, callsOf_append, callsOf_append, callsOf_append, k.callsOf_prelude hp, hclock,
    hbehind, List.nil_append, List.append_nil, List.append_nil]

/-- The counter is incremented once. -/
theorem callsOf_isCount (hrest : callsOf Op.isPipeline rest = []) :
    callsOf Op.isCount (k.processedCalls settings ++ rest) =
      [⟨.countExtraction (k.pipeline.label (k.input settings)), .ok ()⟩] := by
  have hpipeline := k.pipeline.callsOf_calls (k.input settings) (p := Op.isCount) (fun _ _ => rfl)
    (fun _ _ _ _ => rfl) (fun _ _ _ _ => rfl) (fun _ _ _ => rfl) rfl rfl
  rw [k.callsOf_processed settings Op.isCount_of_not_isPipeline rfl hrest, hpipeline]
  rfl

/-- The label it is incremented for. -/
theorem labelsOf_processed {present : JobId → Prop} {es : List JobEntry}
    (hrest : callsOf Op.isPipeline rest = [])
    (hes : JournalsAll present (k.processedCalls settings ++ rest) es) :
    labelsOf es = [k.pipeline.label (k.input settings)] := by
  have hok : ∀ c ∈ k.processedCalls settings ++ rest, c.1.isCount = true → ¬ Raised c.2 := by
    rintro c hc hcount ⟨exc, hraised⟩
    have hmem : c ∈ callsOf Op.isCount (k.processedCalls settings ++ rest) :=
      List.mem_filter.mpr ⟨hc, hcount⟩
    rw [k.callsOf_isCount settings hrest] at hmem
    obtain rfl := List.mem_singleton.mp hmem
    cases hraised
  rw [labelsOf_of_journalsAll hes hok, k.callsOf_isCount settings hrest]
  rfl

/-- A run of the review tier upserts nothing. -/
theorem upsertsOf_processed {present : JobId → Prop} {es : List JobEntry}
    (hrest : callsOf Op.isPipeline rest = [])
    (hes : JournalsAll present (k.processedCalls settings ++ rest) es)
    (htier : k.tier settings = .review) : upsertsOf es = [] := by
  have hmetadata : k.pipeline.metadataCalls (k.input settings) = [] := if_neg fun h => h htier
  have hpipeline : callsOf Op.isUpsert (k.pipeline.calls (k.input settings)) = [] := by
    rw [PipelineAnswers.calls, PipelineAnswers.stageCalls, hmetadata]
    simp only [callsOf_append,
      k.pipeline.callsOf_validationCalls (p := Op.isUpsert) _ (fun _ _ => rfl),
      k.pipeline.callsOf_indexCalls (p := Op.isUpsert) _ (fun _ _ _ _ => rfl) rfl,
      k.pipeline.callsOf_callbackCalls (p := Op.isUpsert) _ (fun _ _ _ => rfl) rfl]
    rfl
  have hnone : callsOf Op.isUpsert (k.processedCalls settings ++ rest) = [] :=
    (k.callsOf_processed settings Op.isUpsert_of_not_isPipeline rfl hrest).trans hpipeline
  exact upsertsOf_eq_nil hes (callsOf_eq_nil.mp hnone)

end TaskAnswers

/-- An attempt that has not got to its pipeline run reports nothing. -/
theorem reports_of_start {present : JobId → Prop} {trace : List Call} {es : List JobEntry}
    (h : callsOf Op.isPipeline trace = []) (hes : JournalsAll present trace es) :
    labelsOf es = [] ∧ upsertsOf es = [] := by
  have hpipeline := callsOf_eq_nil.mp h
  have hcount : ∀ c ∈ trace, c.1.isCount = false := fun c hc =>
    c.1.isCount_of_not_isPipeline (hpipeline c hc)
  have hupsert : ∀ c ∈ trace, c.1.isUpsert = false := fun c hc =>
    c.1.isUpsert_of_not_isPipeline (hpipeline c hc)
  have hcalls : callsOf Op.isCount trace = [] := callsOf_eq_nil.mpr hcount
  have hlabels := labelsOf_of_journalsAll hes fun c hc h =>
    absurd h (Bool.eq_false_iff.mp (hcount c hc))
  rw [hcalls] at hlabels
  exact ⟨hlabels, upsertsOf_eq_nil hes hupsert⟩

/-! ### What such an attempt persists -/

/-- The document an upsert writes. -/
def Op.upserted? : Op → Option String
  | .writeMetadata documentId .. => some documentId
  | _ => none

/-- The upserts of a run are those that took effect. -/
theorem upsertsOf_entriesOf (trace : List Call) (envs : ℕ → Env) :
    upsertsOf (entriesOf trace envs) = (tookEffect trace envs).filterMap Op.upserted? := by
  rw [upsertsOf, notesOf, List.filterMap_filterMap]
  refine filterMap_entriesOf (fun op now => ?_) trace envs
  cases op <;> rfl

/-- The status an update of the job writes. -/
theorem statusesOf_entry {jobId : JobId} {op : Op} {now : Timestamp}
    (hjob : ∀ k f, op.update? = some (k, f) → k = jobId) :
    statusesOf jobId (op.journalEntry now).toList = op.newStatus?.toList := by
  have hwrite : ∀ u : JobUpdate, statusesOf jobId [.wrote jobId u] = [u.newStatus] := by
    intro u
    have hwrites : writesToJob jobId [.wrote jobId u] = [u] :=
      (writesTo_wrote (D := jobSchema) jobId jobId u).trans (if_pos rfl)
    rw [statusesOf, hwrites, List.map_singleton]
  cases op with
  | updateJobStatus k status result errorMessage =>
    obtain rfl := hjob k _ rfl
    exact hwrite _
  | updateJobResult k result tier score processingTimeMs otelTraceId trace =>
    obtain rfl := hjob k _ rfl
    exact hwrite _
  | _ => rfl

/-- The statuses written to the job are those of the updates that took effect. -/
theorem statusesOf_entriesOf {jobId : JobId} {trace : List Call} {envs : ℕ → Env}
    (hjob : ∀ c ∈ trace, ∀ k f, c.1.update? = some (k, f) → k = jobId) :
    statusesOf jobId (entriesOf trace envs) = (tookEffect trace envs).filterMap Op.newStatus? := by
  induction trace generalizing envs with
  | nil => rfl
  | cons c trace ih =>
    obtain ⟨hc, htrace⟩ := List.forall_mem_cons.mp hjob
    rw [entriesOf, tookEffect, statusesOf_append, List.filterMap_append, ih htrace]
    congr 1
    split_ifs
    · rw [statusesOf_entry hc, List.filterMap_cons]
      cases c.1.newStatus? <;> rfl
    · rfl

/-- What the commits of an attempt leave: `update_job_result` has committed, and no status was
committed behind it. -/
structure LeavesCompleted (effects : List Op) : Prop where
  result : ∃ op ∈ effects, op.isResult = true
  review : ∀ op ∈ effects, op.newStatus? ≠ some .review
  failed : ∀ op ∈ effects, op.newStatus? ≠ some .failed

/-- The statuses an attempt can write, in order. -/
theorem AttemptUpdates.newStatus?_sublist {jobId : JobId} {retries : ℕ} {updates : List Op}
    (h : AttemptUpdates jobId retries updates) :
    (updates.filterMap Op.newStatus?).Sublist [.processing, .completed, .review, .failed] := by
  have houtcome : ∀ {updates}, OutcomeUpdates jobId updates →
      (updates.filterMap Op.newStatus?).Sublist [.processing, .completed, .review] := by
    intro updates h
    cases h with
    | none => exact List.nil_sublist _
    | started => exact (List.nil_sublist _).cons_cons _
    | persisted result ms => exact ((List.nil_sublist _).cons_cons _).cons_cons _
    | routed result ms h => exact List.Sublist.refl _
  rcases h with h | ⟨-, outcome, exc, h, rfl⟩
  · exact (houtcome h).trans (List.sublist_append_left _ [JobStatus.failed])
  · rw [List.filterMap_append]
    exact (houtcome h).append (List.Sublist.refl [JobStatus.failed])

/-- Of these statuses `COMPLETED` is the last one iff it is written and none behind it is. -/
theorem getLast?_eq_completed_iff {statuses : List JobStatus} (hprocessing : .processing ∈ statuses)
    (hsub : statuses.Sublist [.processing, .completed, .review, .failed]) :
    statuses.getLast? = some .completed ↔
      .completed ∈ statuses ∧ .review ∉ statuses ∧ .failed ∉ statuses := by
  have hall : ∀ s ∈ List.sublists [JobStatus.processing, .completed, .review, .failed],
      .processing ∈ s → (s.getLast? = some .completed ↔
        .completed ∈ s ∧ .review ∉ s ∧ .failed ∉ s) := by
    decide
  exact hall statuses (List.mem_sublists.mpr hsub) hprocessing

section Status

variable {jobId : JobId} {retries : ℕ} {trace : List Call}

/-- The updates of an attempt concern its own job. -/
theorem AttemptUpdates.eq_of_update? (h : AttemptUpdates jobId retries (updatesOf trace)) :
    ∀ c ∈ trace, ∀ k f, c.1.update? = some (k, f) → k = jobId := by
  intro c hc k f hf
  have hmem : c.1 ∈ updatesOf trace :=
    List.mem_filter.mpr ⟨List.mem_map_of_mem hc, Op.isUpdate_of_update? hf⟩
  have hown : ∃ g, c.1.update? = some (jobId, g) := by
    generalize c.1 = op at hmem
    cases h.mem hmem with
    | outcome h => exact h.update?
    | failed exc => exact ⟨_, rfl⟩
  obtain ⟨g, hg⟩ := hown
  exact (Prod.mk.inj (Option.some.inj (hf.symm.trans hg))).1

/-- Only the result write of an attempt writes `COMPLETED`. -/
theorem AttemptUpdate.newStatus?_eq_completed_iff {op : Op} (h : AttemptUpdate jobId op) :
    op.newStatus? = some .completed ↔ op.isResult = true := by
  have hother : ∀ {status : JobStatus}, status ≠ .completed → op.newStatus? = some status →
      op.isResult = false → (op.newStatus? = some .completed ↔ op.isResult = true) := by
    intro status hne hstatus hresult
    rw [hstatus, hresult]
    exact iff_of_false (fun h => hne (Option.some.inj h)) Bool.false_ne_true
  cases h with
  | failed exc => exact hother JobStatus.noConfusion rfl rfl
  | outcome h =>
    cases h with
    | processing => exact hother JobStatus.noConfusion rfl rfl
    | result result ms => exact iff_of_true rfl rfl
    | review => exact hother JobStatus.noConfusion rfl rfl

/-- What writes a status is an update. -/
theorem Op.isUpdate_of_newStatus? {op : Op} {status : JobStatus} (h : op.newStatus? = some status) :
    op.isUpdate = true := by
  cases op <;> first
    | rfl
    | cases h

theorem Op.isUpdate_of_isResult {op : Op} (h : op.isResult = true) : op.isUpdate = true := by
  cases op <;> first
    | rfl
    | cases h

/-- The last status an attempt writes is `COMPLETED` iff its commits leave it. -/
theorem leavesCompleted_iff {envs : ℕ → Env} (h : AttemptUpdates jobId retries (updatesOf trace))
    (hprocessing : markProcessing jobId ∈ tookEffect trace envs) :
    ((tookEffect trace envs).filterMap Op.newStatus?).getLast? = some .completed ↔
      LeavesCompleted (tookEffect trace envs) := by
  have hsub : ((tookEffect trace envs).filterMap Op.newStatus?).Sublist
      ((updatesOf trace).filterMap Op.newStatus?) := by
    have hselect : (updatesOf trace).filterMap Op.newStatus? =
        (trace.map Sigma.fst).filterMap Op.newStatus? := by
      rw [updatesOf, List.filterMap_filter]
      refine List.filterMap_congr fun op _ => ?_
      cases op <;> rfl
    rw [hselect]
    exact (tookEffect_subset trace envs).filterMap _
  rw [getLast?_eq_completed_iff (List.mem_filterMap.mpr ⟨_, hprocessing, rfl⟩)
    (hsub.trans h.newStatus?_sublist)]
  have hresult : .completed ∈ (tookEffect trace envs).filterMap Op.newStatus? ↔
      ∃ op ∈ tookEffect trace envs, op.isResult = true := by
    rw [List.mem_filterMap]
    refine exists_congr fun op => and_congr_right fun hop => ?_
    have hmem := (tookEffect_subset trace envs).subset hop
    have hupdate (hu : op.isUpdate = true) : op.newStatus? = some .completed ↔ op.isResult = true :=
      (h.mem (List.mem_filter.mpr ⟨hmem, hu⟩)).newStatus?_eq_completed_iff
    constructor
    · exact fun hstatus => (hupdate (Op.isUpdate_of_newStatus? hstatus)).mp hstatus
    · exact fun hresult => (hupdate (Op.isUpdate_of_isResult hresult)).mpr hresult
  have hnone : ∀ status, status ∉ (tookEffect trace envs).filterMap Op.newStatus? ↔
      ∀ op ∈ tookEffect trace envs, op.newStatus? ≠ some status := by
    intro status
    simp only [List.mem_filterMap, not_exists, not_and]
  rw [hresult, hnone, hnone]
  constructor
  · rintro ⟨hr, hv, hf⟩
    exact ⟨hr, hv, hf⟩
  · exact fun h => ⟨h.result, h.review, h.failed⟩

end Status

/-! ### Agreement -/

namespace PipelineAnswers

variable (a : PipelineAnswers)

/-- Neither the PDF load nor the sidecar builder raised. -/
def Clean : Prop := succeeded a.pdfData = true ∧ succeeded a.sidecar = true

/-- The answers and the calls that took effect for which the reports agree. A run for the reviewers
is not left `COMPLETED`; a clean run with another tier is; and a run with another tier that is not
clean is not, and its ChromaDB write has had no effect. -/
def Agrees (effects : List Op) : Prop :=
  a.Reviewed ∧ ¬LeavesCompleted effects ∨
    ¬a.Reviewed ∧ a.Clean ∧ LeavesCompleted effects ∨
    ¬a.Reviewed ∧ ¬a.Clean ∧ ¬LeavesCompleted effects ∧ ∀ op ∈ effects, op.isUpsert = false

variable {a}

/-- Behind commits that all took effect, the clean runs and those for the reviewers agree. -/
theorem agrees_iff_of_leavesCompleted {effects : List Op}
    (h : LeavesCompleted effects ↔ ¬a.Reviewed) : a.Agrees effects ↔ a.Reviewed ∨ a.Clean := by
  rw [Agrees, h]
  tauto

theorem label_eq_completed_iff_clean (x : PipelineInput) :
    a.label x = "completed" ↔ ¬a.Reviewed ∧ a.Clean := by
  rw [label_eq_completed_iff, unrecoverable_log, Ne, tier_eq_review_iff, and_comm]
  refine and_congr_right fun hreviewed => ?_
  have hassessed : succeeded a.assessment = true := by
    cases hanswer : a.assessment with
    | ok assessment => rfl
    | error exc =>
      refine absurd (fun assessment hok => ?_) hreviewed
      rw [hanswer] at hok
      cases hok
  rw [hassessed, Clean]
  simp

theorem label_eq_failed_of_not_clean (x : PipelineInput) (h : ¬a.Clean) :
    a.label x = "failed" := by
  have hlog : (a.log x).unrecoverable = true := by
    rw [unrecoverable_log]
    by_contra hnone
    simp at hnone
    exact h ⟨hnone.1.1, hnone.1.2⟩
  rw [label_eq, if_pos hlog]

end PipelineAnswers

/-- The label that was counted agrees with the persisted status, and a run that was counted as
failed is not `COMPLETED` and has upserted nothing. -/
structure ReportsConsistently (status : JobStatus) (es : List JobEntry) : Prop where
  completed_iff : ∀ label ∈ labelsOf es, label = "completed" ↔ status = .completed
  failed : "failed" ∈ labelsOf es → status ≠ .completed ∧ upsertsOf es = []

/-- Where nothing was counted, nothing disagrees. -/
theorem ReportsConsistently.of_nil {es : List JobEntry} (h : labelsOf es = [])
    (status : JobStatus) : ReportsConsistently status es := by
  constructor <;> rw [h]
  · exact fun _ hmem => absurd hmem List.not_mem_nil
  · exact fun hmem => absurd hmem List.not_mem_nil

/-- Where one label was counted, it decides. -/
theorem reportsConsistently_singleton {es : List JobEntry} {label : String}
    (h : labelsOf es = [label]) (status : JobStatus) : ReportsConsistently status es ↔
      (label = "completed" ↔ status = .completed) ∧
        (label = "failed" → status ≠ .completed ∧ upsertsOf es = []) := by
  constructor
  · intro hreports
    refine ⟨hreports.completed_iff label (h ▸ List.mem_singleton_self label), fun hfailed => ?_⟩
    exact hreports.failed (by rw [h, hfailed]; exact List.mem_singleton_self _)
  · rintro ⟨hcompleted, hfailed⟩
    refine ⟨fun label' hmem => ?_, fun hmem => ?_⟩
    · rw [h] at hmem
      rw [List.mem_singleton.mp hmem]
      exact hcompleted
    · rw [h] at hmem
      exact hfailed (List.mem_singleton.mp hmem).symm

/-- The reports of an attempt with these answers and commits. -/
theorem reportsConsistently_iff {a : PipelineAnswers} {x : PipelineInput} {effects : List Op}
    {es : List JobEntry} {status : JobStatus} (hlabels : labelsOf es = [a.label x])
    (hstatus : status = .completed ↔ LeavesCompleted effects)
    (hupserts : upsertsOf es = [] ↔ ∀ op ∈ effects, op.isUpsert = false)
    (hreviewed : a.Reviewed → upsertsOf es = []) :
    ReportsConsistently status es ↔ a.Agrees effects := by
  rw [reportsConsistently_singleton hlabels, a.label_eq_completed_iff_clean, hstatus, Ne, hstatus,
    PipelineAnswers.Agrees]
  by_cases hr : a.Reviewed
  · have hnothing := hreviewed hr
    tauto
  · by_cases hclean : a.Clean
    · have hlabel : a.label x ≠ "failed" := by
        rw [(a.label_eq_completed_iff_clean x).mpr ⟨hr, hclean⟩]
        decide
      tauto
    · have hlabel := a.label_eq_failed_of_not_clean x hclean
      tauto

/-- The updates of an attempt that returns took effect, so it leaves `COMPLETED` unless the run is
for the reviewers. -/
theorem leavesCompleted_of_returned {k : TaskAnswers} {settings : Settings} {α : Type} {p : Prog α}
    {w : World} {envs : ℕ → Env} (htrace : traceEach p w envs = k.calls settings) :
    LeavesCompleted (tookEffect (traceEach p w envs) envs) ↔ ¬k.pipeline.Reviewed := by
  have hmem : ∀ op, op.isUpdate = true →
      (op ∈ tookEffect (traceEach p w envs) envs ↔ op ∈ updatesOf (k.calls settings)) := by
    intro op hupdate
    constructor
    · intro hop
      have hcall := (tookEffect_subset (traceEach p w envs) envs).subset hop
      rw [htrace] at hcall
      exact List.mem_filter.mpr ⟨hcall, hupdate⟩
    · intro hop
      obtain ⟨c, hc, rfl⟩ := List.mem_map.mp (List.mem_filter.mp hop).1
      have hok := k.not_raised_of_isUpdate settings hc hupdate
      rw [← htrace] at hc
      refine mem_tookEffect hc (fun env => ?_) hok
      generalize c.1 = op at hupdate
      cases op <;> first
        | rfl
        | cases hupdate
  have hupdates := k.updatesOf_calls settings
  have htier : k.tier settings = .review ↔ k.pipeline.Reviewed :=
    k.pipeline.tier_eq_review_iff (k.input settings)
  by_cases hreviewed : k.pipeline.Reviewed
  · refine iff_of_false (fun h => ?_) (not_not_intro hreviewed)
    rw [if_pos (htier.mpr hreviewed)] at hupdates
    refine h.review (markReview k.job.jobId) ((hmem _ rfl).mpr ?_) rfl
    rw [hupdates]
    exact List.mem_append_right _ List.mem_cons_self
  · rw [if_neg fun h => hreviewed (htier.mp h), List.append_nil] at hupdates
    have hother : ∀ status, status ≠ .processing → status ≠ .completed →
        ∀ op ∈ tookEffect (traceEach p w envs) envs, op.newStatus? ≠ some status := by
      intro status hprocessing hcompleted op hop hstatus
      have hasked := (hmem op (Op.isUpdate_of_newStatus? hstatus)).mp hop
      rw [hupdates] at hasked
      rcases List.mem_cons.mp hasked with rfl | hasked
      · exact hprocessing (Option.some.inj hstatus).symm
      · rw [List.mem_singleton.mp hasked] at hstatus
        exact hcompleted (Option.some.inj hstatus).symm
    have hresult : persistResult k.job.jobId (k.result settings) k.processingTimeMs ∈
        tookEffect (traceEach p w envs) envs := by
      refine (hmem _ rfl).mpr ?_
      rw [hupdates]
      exact List.mem_cons_of_mem _ List.mem_cons_self
    refine iff_of_true ⟨⟨_, hresult, rfl⟩, hother .review ?_ ?_, hother .failed ?_ ?_⟩ hreviewed
    all_goals exact JobStatus.noConfusion

/-- An attempt that has got to its pipeline run has found its job. -/
theorem present_of_processed {settings : Settings} {jobId : JobId} {retries : ℕ} {w : World}
    {envs : ℕ → Env} {k : TaskAnswers} {rest : List Call} (hk : k.job.jobId = jobId)
    (htrace : traceEach (extractDocumentTask settings jobId retries) w envs =
      k.processedCalls settings ++ rest) : w.Present jobId := by
  subst hk
  have hhead : (⟨.getJob k.job.jobId, (answer (envs 0) (.getJob k.job.jobId) w).1⟩ : Call) =
      ⟨.getJob k.job.jobId, .ok (some k.job)⟩ := by
    have hfirst := congrArg List.head? htrace
    exact Option.some.inj hfirst
  have hanswer := eq_of_heq (Sigma.mk.inj hhead).2
  obtain ⟨h, hh⟩ := history?_of_getJob hanswer
  rw [World.Present, JournaledTable.find?_of_history? hh]
  rfl

/-- What an attempt leaves that has got to its pipeline run: one label, a row in the status of the
last commit, and the upserts that took effect. -/
theorem reports_of_processed {settings : Settings} {jobId : JobId} {retries : ℕ} {w : World}
    {envs : ℕ → Env} {k : TaskAnswers} {rest : List Call} (hk : k.job.jobId = jobId)
    (htrace : traceEach (extractDocumentTask settings jobId retries) w envs =
      k.processedCalls settings ++ rest) (hrest : callsOf Op.isPipeline rest = [])
    {es : List JobEntry}
    (hjournal : (runEach (extractDocumentTask settings jobId retries) w envs).2.1.jobs.journal =
      w.jobs.journal ++ es)
    (hes : JournalsAll w.Present (traceEach (extractDocumentTask settings jobId retries) w envs)
      es) :
    labelsOf es = [k.pipeline.label (k.input settings)] ∧
      ∃ row, (runEach (extractDocumentTask settings jobId retries) w envs).2.1.jobs.find? jobId =
          some row ∧
        (ReportsConsistently row.status es ↔ k.pipeline.Agrees
          (tookEffect (traceEach (extractDocumentTask settings jobId retries) w envs) envs)) := by
  have hkept := kept_runEach (A := fun _ _ => True)
    (extractDocumentTask_safe settings jobId retries) w envs fun _ _ _ => trivial
  have hupdates := attemptUpdates_of_kept hkept
  have hpresent := present_of_processed hk htrace
  have hprocessed : JournalsAll w.Present (k.processedCalls settings ++ rest) es := htrace ▸ hes
  have hlabels := k.labelsOf_processed settings hrest hprocessed
  have hentries : es = entriesOf
      (traceEach (extractDocumentTask settings jobId retries) w envs) envs := by
    refine List.append_cancel_left (hjournal.symm.trans (runEach_entries (fun c hc => ?_) ?_))
    · obtain ⟨before, after, hsplit⟩ := List.append_of_mem hc
      exact (hkept before c after hsplit).1.1
    · intro c hc key u hu
      rw [hupdates.eq_of_update? c hc key u hu]
      exact hpresent
  have hprocessing : markProcessing jobId ∈
      tookEffect (traceEach (extractDocumentTask settings jobId retries) w envs) envs := by
    have hmem : ⟨markProcessing jobId, .ok ()⟩ ∈
        traceEach (extractDocumentTask settings jobId retries) w envs := by
      rw [htrace, ← hk]
      refine List.mem_append_left _ (List.mem_append_left _ (List.mem_append_left _ ?_))
      exact List.mem_append_right _ List.mem_cons_self
    refine mem_tookEffect hmem (fun _ => rfl) ?_
    rintro ⟨exc, hexc⟩
    cases hexc
  have hstatuses : statusesOf jobId es = (tookEffect
      (traceEach (extractDocumentTask settings jobId retries) w envs) envs).filterMap
        Op.newStatus? := by
    rw [hentries]
    exact statusesOf_entriesOf hupdates.eq_of_update?
  have hwritten : statusesOf jobId es ≠ [] := by
    rw [hstatuses]
    exact List.ne_nil_of_mem (List.mem_filterMap.mpr ⟨_, hprocessing, rfl⟩)
  have hlast := List.getLast?_eq_getLast_of_ne_nil hwritten
  obtain ⟨row, hrow, hstatus⟩ :=
    find?_status_of_journal hjournal (insertsNothing_of_kept hkept hes) hpresent hlast
  refine ⟨hlabels, row, hrow, reportsConsistently_iff hlabels ?_ ?_ fun hreviewed => ?_⟩
  · rw [← leavesCompleted_iff hupdates hprocessing, ← hstatuses, hlast, hstatus, Option.some_inj]
  · rw [hentries, upsertsOf_entriesOf, List.filterMap_eq_nil_iff]
    refine forall₂_congr fun op _ => ?_
    cases op <;> simp [Op.upserted?, Op.isUpsert]
  · refine k.upsertsOf_processed settings hrest hprocessed ?_
    exact (k.pipeline.tier_eq_review_iff (k.input settings)).mpr hreviewed

/-- The calls of an attempt that returns, up to the end of its run and behind it. -/
theorem TaskAnswers.exists_calls_eq (k : TaskAnswers) (settings : Settings) :
    ∃ rest, k.calls settings = k.processedCalls settings ++ rest ∧
      callsOf Op.isPipeline rest = [] := by
  refine ⟨[⟨persistResult k.job.jobId (k.result settings) k.processingTimeMs, .ok k.updated⟩] ++
    k.reviewCalls settings ++ [⟨.sessionCommit, .ok ()⟩], ?_, ?_⟩
  · simp only [calls, outcomeCalls, processedCalls, List.append_assoc]
  · rw [reviewCalls]
    split_ifs <;> rfl

/-- How far an attempt has got, and what it has done if it returned. -/
theorem gotTo_runEach (settings : Settings) (jobId : JobId) (retries : ℕ) (w : World)
    (envs : ℕ → Env) :
    callsOf Op.isPipeline (traceEach (extractDocumentTask settings jobId retries) w envs) = [] ∨
      ∃ (k : TaskAnswers) (rest : List Call), k.job.jobId = jobId ∧
        traceEach (extractDocumentTask settings jobId retries) w envs =
          k.processedCalls settings ++ rest ∧ callsOf Op.isPipeline rest = [] ∧
        ∀ reply, (runEach (extractDocumentTask settings jobId retries) w envs).1 = .ok reply →
          traceEach (extractDocumentTask settings jobId retries) w envs = k.calls settings := by
  cases hrun : (runEach (extractDocumentTask settings jobId retries) w envs).1 with
  | ok reply =>
    have hpost := safe_runEach (extractDocumentTask_safe settings jobId retries) w envs
    obtain ⟨k, hk, htrace, -⟩ := hpost.returned reply hrun
    obtain ⟨rest, hcalls, hrest⟩ := k.exists_calls_eq settings
    exact Or.inr ⟨k, rest, hk, htrace.trans hcalls, hrest, fun _ _ => htrace⟩
  | error exc =>
    have hgot := safe_runEach (extractDocumentTask_gotTo settings jobId retries) w envs
    cases hgot with
    | start h => exact Or.inl h
    | commits k rest hk htrace hrest =>
      refine Or.inr ⟨k, rest, hk, htrace, hrest, fun reply hreply => ?_⟩
      cases hreply

/-- **When the reports of a run agree.** Whatever its collaborators answered and in whatever way
its calls failed, an attempt that has not got to its pipeline run has reported nothing. Any other
one, whether it returned or raised, has counted one label, `failed` for an unrecoverable error, and
its reports agree exactly for the answers of its collaborators and of the database that
`PipelineAnswers.Agrees` names. If it returned, all its commits were confirmed, and its reports
agree exactly if the run was for the reviewers or clean. -/
theorem reportsConsistently_iff_agrees (settings : Settings) (jobId : JobId) (retries : ℕ)
    (w : World) (envs : ℕ → Env) :
    ∃ es, (runEach (extractDocumentTask settings jobId retries) w envs).2.1.jobs.journal =
        w.jobs.journal ++ es ∧
      (callsOf Op.isPipeline (traceEach (extractDocumentTask settings jobId retries) w envs) = [] ∧
          labelsOf es = [] ∧ upsertsOf es = [] ∧ (∀ status, ReportsConsistently status es) ∨
        ∃ (k : TaskAnswers) (rest : List Call) (row : JobRow),
          traceEach (extractDocumentTask settings jobId retries) w envs =
            k.processedCalls settings ++ rest ∧
          (runEach (extractDocumentTask settings jobId retries) w envs).2.1.jobs.find? jobId =
            some row ∧
          (∃ label, labelsOf es = [label]) ∧
          ("failed" ∈ labelsOf es ↔ ∃ e ∈ (k.result settings).errors, e.recoverable = false) ∧
          (ReportsConsistently row.status es ↔ k.pipeline.Agrees
            (tookEffect (traceEach (extractDocumentTask settings jobId retries) w envs) envs)) ∧
          ∀ reply, (runEach (extractDocumentTask settings jobId retries) w envs).1 = .ok reply →
            (ReportsConsistently row.status es ↔ k.pipeline.Reviewed ∨ k.pipeline.Clean)) := by
  obtain ⟨es, hjournal, hes⟩ := runEach_journal (extractDocumentTask settings jobId retries) w envs
  refine ⟨es, hjournal, ?_⟩
  rcases gotTo_runEach settings jobId retries w envs with
    hstart | ⟨k, rest, hk, htrace, hrest, hreturned⟩
  · obtain ⟨hlabels, hupserts⟩ := reports_of_start hstart hes
    exact Or.inl ⟨hstart, hlabels, hupserts, ReportsConsistently.of_nil hlabels⟩
  · obtain ⟨hlabels, row, hrow, hagrees⟩ := reports_of_processed hk htrace hrest hjournal hes
    refine Or.inr ⟨k, rest, row, htrace, hrow, ⟨_, hlabels⟩, ?_, hagrees, fun reply hreply => ?_⟩
    · rw [hlabels, List.mem_singleton, eq_comm]
      exact k.pipeline.label_eq_failed_iff (k.input settings)
    · have hleaves := leavesCompleted_of_returned (hreturned reply hreply)
      exact hagrees.trans (PipelineAnswers.agrees_iff_of_leavesCompleted hleaves)

/-- A queued job whose PDF is in the temporary store. -/
def storedPlan : World := { lostPlan with files := [(⟨tempPdfRoot, 1, 2⟩, [0x25, 0x50])] }

/-- The sidecar builder raises, and the calculator assesses the auto tier. -/
def unbuiltEnv : Env :=
  { Env.calm 0 .auto with
    fault? := fun op =>
      if op.isBuild then some (.before (.error "ValueError" "no attributes")) else none }

/-- A run whose sidecar could not be built is counted as failed, persisted as `COMPLETED`, and its
fallback document is upserted. -/
theorem not_reportsConsistently_storedPlan : ∃ reply w' envs' es row,
    runEach (extractDocumentTask ⟨"", 1000⟩ 2 0) storedPlan (fun _ => unbuiltEnv) =
      (.ok reply, w', envs') ∧ w'.jobs.journal = storedPlan.jobs.journal ++ es ∧
    w'.jobs.find? 2 = some row ∧ labelsOf es = ["failed"] ∧ upsertsOf es = ["9f86d081"] ∧
    ¬ ReportsConsistently row.status es := by
  have hrun : ∃ reply w' envs' es row,
      runEach (extractDocumentTask ⟨"", 1000⟩ 2 0) storedPlan (fun _ => unbuiltEnv) =
        (.ok reply, w', envs') ∧ w'.jobs.journal = storedPlan.jobs.journal ++ es ∧
      w'.jobs.find? 2 = some row ∧ labelsOf es = ["failed"] ∧ upsertsOf es = ["9f86d081"] ∧
      row.status = .completed := ⟨_, _, _, _, _, rfl, rfl, rfl, rfl, rfl, rfl⟩
  obtain ⟨reply, w', envs', es, row, hrun, hjournal, hrow, hlabels, hupserts, hstatus⟩ := hrun
  refine ⟨reply, w', envs', es, row, hrun, hjournal, hrow, hlabels, hupserts, fun h => ?_⟩
  exact (h.failed (hlabels ▸ List.mem_cons_self)).1 hstatus

end ZubotIngestion
