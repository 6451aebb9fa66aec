import ZubotIngestion.Python.Integers
import ZubotIngestion.Python.Uuid
import ZubotIngestion.Services.Conservation

/-!
# The submission route

`POST /extract`: read the form, hand it to `submit_batch`, and answer 202 with the summaries. The
form is read in a fixed order, and the uploads are validated in order after that, so a form with
several faults is refused for the first of them, and before anything is stored. The exceptions of
the validation pass are answered with 413 and 400; whatever else a call raises goes through to the
handler for unexpected errors.

## Main definitions

* `ExtractForm`, `submissionParams`, `submitExtractBatch`.
* `SubmissionBody`, `serializeResult`: the response.
* `Refusal`: the first fault of a form, with its answer.
* `Accepted`: what a response of 202 stands for.

## Main results

* `submitExtractBatch_outcome`: how every run of a request ends.
-/

namespace ZubotIngestion

open Effects

/-! ### The form -/

/-- An uploaded file as the framework hands it over. -/
structure UploadFile where
  filename : Option String
  content : Bytes

/-- The form fields of a request. -/
structure ExtractForm where
  files : List UploadFile
  mode : String := "auto"
  callbackUrl : Option String := none
  deploymentId : Option String := none
  nodeId : Option String := none

/-- `_to_uploaded_file`. -/
def toUploadedFile (upload : UploadFile) : UploadedFile where
  filename := (upload.filename.bind orNone).getD "unnamed.pdf"
  content := upload.content

/-- The members of `ExtractionMode`. -/
def ExtractionMode.members : List ExtractionMode := [.auto, .drawing, .title, .fast, .accurate]

/-- The detail of the response to an unknown mode. -/
def invalidMode (mode : String) : String :=
  s!"Invalid mode '{mode}'. Must be one of: " ++
    ", ".intercalate (ExtractionMode.members.map ExtractionMode.value)

/-- `_parse_mode`. -/
def parseMode (mode : String) : Except PyException ExtractionMode :=
  match ExtractionMode.members.find? fun m => decide (m.value = mode) with
  | some m => .ok m
  | none => .error (.http 400 (invalidMode mode))

section Route

variable (otherDigit? : Char → Option ℕ) (repr : String → String)

/-- The detail of the response to a number that cannot be read. -/
def expectedInteger (text : String) : String := s!"Expected integer, got: {repr text}"

/-- `_parse_int_or_none`. -/
def parseIntOrNone : Option String → Except PyException (Option ℤ)
  | none => .ok none
  | some text =>
    if text = "" then .ok none
    else
      match intOfStr otherDigit? text with
      | .ok i => .ok (some i)
      | .error _ => .error (.http 400 (expectedInteger repr text))

/-- The parameters of a form with files. -/
def submissionParams (form : ExtractForm) : Except PyException SubmissionParams := do
  if form.files = [] then
    throw (.http 400 "At least one file is required")
  let mode ← parseMode form.mode
  let deploymentId ← parseIntOrNone otherDigit? repr form.deploymentId
  let nodeId ← parseIntOrNone otherDigit? repr form.nodeId
  return ⟨mode, form.callbackUrl, deploymentId, nodeId⟩

/-! ### The response -/

/-- A job in the response. -/
structure SummaryBody where
  jobId : String
  filename : String
  status : String
  fileHash : FileHash
  result : Option Dict

/-- The body of the response. -/
structure SubmissionBody where
  batchId : String
  total : ℕ
  pollUrl : String
  jobs : List SummaryBody

/-- A JSON response. -/
structure JsonResponse (α : Type) where
  statusCode : ℕ
  content : α

/-- The entry of a job. -/
def serializeSummary (j : JobSummary) : SummaryBody where
  jobId := uuidStr j.jobId
  filename := j.filename
  status := j.status.value
  fileHash := j.fileHash
  result := j.result

/-- `_serialize_result`. The polling URL holds the text of the identifier. -/
def serializeResult (result : BatchSubmissionResult) : SubmissionBody where
  batchId := uuidStr result.batchId
  total := result.total
  pollUrl := s!"/batches/{uuidStr result.batchId}"
  jobs := result.jobs.map serializeSummary

/-- How the exceptions of `submit_batch` are answered. -/
def translateUploadError (exc : PyException) : PyException :=
  if exc.typeName = "OversizeFileError" then .http 413 exc.message
  else if exc.typeName = "InvalidPDFError" then .http 400 exc.message
  else exc

/-- `submit_extract_batch`. -/
def submitExtractBatch (settings : Settings) (sha256 : Bytes → FileHash) (form : ExtractForm)
    (userId : String) : Prog (JsonResponse SubmissionBody) := do
  let params ← Program.ofExcept (submissionParams otherDigit? repr form)
  match ← (submitBatch settings sha256 (form.files.map toUploadedFile) params userId).attempt with
  | .error exc => .raise (translateUploadError exc)
  | .ok result => return ⟨202, serializeResult result⟩

/-! ### Refused forms -/

/-- A field with a text that is no integer. -/
def NoInteger (field : Option String) (text : String) : Prop :=
  field = some text ∧ text ≠ "" ∧ ∀ i, intOfStr otherDigit? text ≠ .ok i

/-- A field that is absent or empty, or an integer. -/
def IsIntegerField (field : Option String) : Prop := ∀ text, ¬ NoInteger otherDigit? field text

/-- A form whose fields can be read. -/
structure ReadableForm (form : ExtractForm) : Prop where
  files : form.files ≠ []
  mode : ∃ mode : ExtractionMode, mode.value = form.mode
  deploymentId : IsIntegerField otherDigit? form.deploymentId
  nodeId : IsIntegerField otherDigit? form.nodeId

/-- The first fault of a form, with the answer to it. -/
inductive Refusal (settings : Settings) (form : ExtractForm) : ℕ → String → Prop
  | noFiles (h : form.files = []) : Refusal settings form 400 "At least one file is required"
  | mode (hfiles : form.files ≠ []) (h : ∀ mode : ExtractionMode, mode.value ≠ form.mode) :
      Refusal settings form 400 (invalidMode form.mode)
  | deploymentId (hfiles : form.files ≠ [])
      (hmode : ∃ mode : ExtractionMode, mode.value = form.mode) (text : String)
      (h : NoInteger otherDigit? form.deploymentId text) :
      Refusal settings form 400 (expectedInteger repr text)
  | nodeId (hfiles : form.files ≠ [])
      (hmode : ∃ mode : ExtractionMode, mode.value = form.mode)
      (hdeployment : IsIntegerField otherDigit? form.deploymentId) (text : String)
      (h : NoInteger otherDigit? form.nodeId text) :
      Refusal settings form 400 (expectedInteger repr text)
  /-- The first invalid upload is too large. -/
  | oversize (hform : ReadableForm otherDigit? form) (before after : List UploadFile)
      (upload : UploadFile) (hsplit : form.files = before ++ upload :: after)
      (hbefore : ∀ u ∈ before, uploadError? settings (toUploadedFile u) = none)
      (h : settings.maxPdfBytes < upload.content.length) :
      Refusal settings form 413
        s!"{(toUploadedFile upload).filename} exceeds max size of {settings.maxPdfBytes} bytes"
  /-- The first invalid upload is no PDF. -/
  | notPdf (hform : ReadableForm otherDigit? form) (before after : List UploadFile)
      (upload : UploadFile) (hsplit : form.files = before ++ upload :: after)
      (hbefore : ∀ u ∈ before, uploadError? settings (toUploadedFile u) = none)
      (hsize : upload.content.length ≤ settings.maxPdfBytes)
      (h : isValidPdf (toUploadedFile upload) = false) :
      Refusal settings form 400 s!"{(toUploadedFile upload).filename} is not a valid PDF"

/-- The refusal of a form. -/
def refusal? (settings : Settings) (form : ExtractForm) : Option PyException :=
  match submissionParams otherDigit? repr form with
  | .error exc => some exc
  | .ok _ =>
    (rejection? settings (form.files.map toUploadedFile)).map translateUploadError

variable {otherDigit? repr} {settings : Settings} {sha256 : Bytes → FileHash} {form : ExtractForm}
  {userId : String}

theorem parseMode_eq_ok_iff {text : String} {mode : ExtractionMode} :
    parseMode text = .ok mode ↔ mode.value = text := by
  rw [parseMode]
  constructor
  · intro h
    cases hfind : ExtractionMode.members.find? fun m => decide (m.value = text) with
    | none =>
      rw [hfind] at h
      cases h
    | some m =>
      rw [hfind] at h
      obtain rfl := Except.ok.inj h
      exact of_decide_eq_true
        (List.find?_some (p := fun m : ExtractionMode => decide (m.value = text)) hfind)
  · rintro rfl
    cases mode <;> decide

theorem parseMode_eq_error {text : String} {exc : PyException} (h : parseMode text = .error exc) :
    (∀ mode : ExtractionMode, mode.value ≠ text) ∧ exc = .http 400 (invalidMode text) := by
  refine ⟨fun mode hmode => ?_, ?_⟩
  · rw [parseMode_eq_ok_iff.mpr hmode] at h
    cases h
  · rw [parseMode] at h
    split at h
    · cases h
    · exact (Except.error.inj h).symm

theorem parseIntOrNone_eq_error {field : Option String} {exc : PyException}
    (h : parseIntOrNone otherDigit? repr field = .error exc) :
    ∃ text, NoInteger otherDigit? field text ∧ exc = .http 400 (expectedInteger repr text) := by
  cases field with
  | none => cases h
  | some text =>
    rw [parseIntOrNone] at h
    split_ifs at h with hempty
    cases hint : intOfStr otherDigit? text with
    | ok i =>
      rw [hint] at h
      cases h
    | error e =>
      rw [hint] at h
      refine ⟨text, ⟨rfl, hempty, fun i hi => ?_⟩, (Except.error.inj h).symm⟩
      rw [hint] at hi
      cases hi

theorem isIntegerField_of_ok {field : Option String} {i : Option ℤ}
    (h : parseIntOrNone otherDigit? repr field = .ok i) : IsIntegerField otherDigit? field := by
  rintro text ⟨rfl, hempty, hint⟩
  rw [parseIntOrNone, if_neg hempty] at h
  cases hread : intOfStr otherDigit? text with
  | ok i => exact hint i hread
  | error e =>
    rw [hread] at h
    cases h

theorem NoInteger.parseIntOrNone {field : Option String} {text : String}
    (h : NoInteger otherDigit? field text) :
    parseIntOrNone otherDigit? repr field = .error (.http 400 (expectedInteger repr text)) := by
  obtain ⟨rfl, hempty, hint⟩ := h
  rw [ZubotIngestion.parseIntOrNone, if_neg hempty]
  cases hread : intOfStr otherDigit? text with
  | ok i => exact absurd hread (hint i)
  | error e => rfl

variable (repr) in
theorem IsIntegerField.parseIntOrNone {field : Option String}
    (h : IsIntegerField otherDigit? field) :
    ∃ i, parseIntOrNone otherDigit? repr field = .ok i := by
  cases hread : ZubotIngestion.parseIntOrNone otherDigit? repr field with
  | ok i => exact ⟨i, rfl⟩
  | error exc =>
    obtain ⟨text, hnone, -⟩ := parseIntOrNone_eq_error hread
    exact absurd hnone (h text)

/-- The parameters of a form stand for its fields. -/
structure ParamsOf (otherDigit? : Char → Option ℕ) (repr : String → String) (form : ExtractForm)
    (params : SubmissionParams) : Prop where
  mode : params.mode.value = form.mode
  callbackUrl : params.callbackUrl = form.callbackUrl
  deploymentId : parseIntOrNone otherDigit? repr form.deploymentId = .ok params.deploymentId
  nodeId : parseIntOrNone otherDigit? repr form.nodeId = .ok params.nodeId

variable (repr) in
theorem submissionParams_of_readable (h : ReadableForm otherDigit? form) :
    ∃ params, submissionParams otherDigit? repr form = .ok params ∧
      ParamsOf otherDigit? repr form params := by
  obtain ⟨mode, hmode⟩ := h.mode
  obtain ⟨deploymentId, hdeployment⟩ := h.deploymentId.parseIntOrNone repr
  obtain ⟨nodeId, hnode⟩ := h.nodeId.parseIntOrNone repr
  refine ⟨⟨mode, form.callbackUrl, deploymentId, nodeId⟩, ?_, ⟨hmode, rfl, hdeployment, hnode⟩⟩
  rw [submissionParams, if_neg h.files, parseMode_eq_ok_iff.mpr hmode, hdeployment, hnode]
  rfl

variable (otherDigit? repr) in
/-- A form is read, or it is refused for its first fault. -/
theorem submissionParams_cases (settings : Settings) (form : ExtractForm) :
    ReadableForm otherDigit? form ∨ ∃ status detail,
      submissionParams otherDigit? repr form = .error (.http status detail) ∧
        Refusal otherDigit? repr settings form status detail := by
  by_cases hfiles : form.files = []
  · refine Or.inr ⟨_, _, ?_, .noFiles hfiles⟩
    rw [submissionParams, if_pos hfiles]
    rfl
  cases hmode : parseMode form.mode with
  | error exc =>
    obtain ⟨hunknown, rfl⟩ := parseMode_eq_error hmode
    refine Or.inr ⟨_, _, ?_, .mode hfiles hunknown⟩
    rw [submissionParams, if_neg hfiles, hmode]
    rfl
  | ok mode =>
    have hknown : ∃ mode : ExtractionMode, mode.value = form.mode :=
      ⟨mode, parseMode_eq_ok_iff.mp hmode⟩
    cases hdeployment : parseIntOrNone otherDigit? repr form.deploymentId with
    | error exc =>
      obtain ⟨text, hnone, rfl⟩ := parseIntOrNone_eq_error hdeployment
      refine Or.inr ⟨_, _, ?_, .deploymentId hfiles hknown text hnone⟩
      rw [submissionParams, if_neg hfiles, hmode, hdeployment]
      rfl
    | ok deploymentId =>
      have hinteger := isIntegerField_of_ok hdeployment
      cases hnode : parseIntOrNone otherDigit? repr form.nodeId with
      | error exc =>
        obtain ⟨text, hnone, rfl⟩ := parseIntOrNone_eq_error hnode
        refine Or.inr ⟨_, _, ?_, .nodeId hfiles hknown hinteger text hnone⟩
        rw [submissionParams, if_neg hfiles, hmode, hdeployment, hnode]
        rfl
      | ok nodeId => exact Or.inl ⟨hfiles, hknown, hinteger, isIntegerField_of_ok hnode⟩

/-- The exception of an invalid upload, as the client sees it. -/
theorem translate_uploadError {upload : UploadFile} {exc : PyException}
    (h : uploadError? settings (toUploadedFile upload) = some exc) :
    (settings.maxPdfBytes < upload.content.length ∧ translateUploadError exc = .http 413
      s!"{(toUploadedFile upload).filename} exceeds max size of {settings.maxPdfBytes} bytes") ∨
    (upload.content.length ≤ settings.maxPdfBytes ∧ isValidPdf (toUploadedFile upload) = false ∧
      translateUploadError exc =
        .http 400 s!"{(toUploadedFile upload).filename} is not a valid PDF") := by
  rw [uploadError?] at h
  split_ifs at h with hsize hpdf
  · rw [← Option.some.inj h]
    exact Or.inl ⟨hsize, rfl⟩
  · rw [← Option.some.inj h]
    exact Or.inr ⟨not_lt.mp hsize, by simpa using hpdf, rfl⟩

theorem rejection?_of_readable (h : ReadableForm otherDigit? form) :
    rejection? settings (form.files.map toUploadedFile) =
      form.files.findSome? fun upload => uploadError? settings (toUploadedFile upload) := by
  have hne : form.files.map toUploadedFile ≠ [] := by
    simpa using h.files
  rw [rejection?, if_neg hne, List.findSome?_map]
  rfl

theorem refusal?_of_readable (h : ReadableForm otherDigit? form) :
    refusal? otherDigit? repr settings form =
      (form.files.findSome? fun upload =>
        uploadError? settings (toUploadedFile upload)).map translateUploadError := by
  obtain ⟨params, hparams, -⟩ := submissionParams_of_readable repr h
  rw [refusal?, hparams]
  exact congrArg (Option.map translateUploadError) (rejection?_of_readable h)

/-- The first invalid upload decides. -/
theorem refusal?_of_split (h : ReadableForm otherDigit? form) {before after : List UploadFile}
    {upload : UploadFile} (hsplit : form.files = before ++ upload :: after)
    (hbefore : ∀ u ∈ before, uploadError? settings (toUploadedFile u) = none) {exc : PyException}
    (hexc : uploadError? settings (toUploadedFile upload) = some exc) :
    refusal? otherDigit? repr settings form = some (translateUploadError exc) := by
  rw [refusal?_of_readable h, hsplit, List.findSome?_append,
    List.findSome?_eq_none_iff.mpr hbefore, Option.none_or, List.findSome?_cons, hexc]
  rfl

/-- A form is refused exactly for its first fault. -/
theorem refusal?_eq_some_iff {exc : PyException} :
    refusal? otherDigit? repr settings form = some exc ↔
      ∃ status detail, exc = .http status detail ∧
        Refusal otherDigit? repr settings form status detail := by
  constructor
  · intro h
    rcases submissionParams_cases otherDigit? repr settings form with
      hreadable | ⟨status, detail, hparams, hrefusal⟩
    · rw [refusal?_of_readable hreadable] at h
      obtain ⟨exc', hfind, rfl⟩ := Option.map_eq_some_iff.mp h
      obtain ⟨before, upload, after, hsplit, hupload, hbefore⟩ :=
        List.findSome?_eq_some_iff.mp hfind
      rcases translate_uploadError hupload with ⟨hsize, hexc⟩ | ⟨hsize, hpdf, hexc⟩
      · exact ⟨_, _, hexc, .oversize hreadable before after upload hsplit hbefore hsize⟩
      · exact ⟨_, _, hexc, .notPdf hreadable before after upload hsplit hbefore hsize hpdf⟩
    · rw [refusal?, hparams] at h
      exact ⟨status, detail, (Option.some.inj h).symm, hrefusal⟩
  · rintro ⟨status, detail, rfl, hrefusal⟩
    have hparams : ∀ {exc}, submissionParams otherDigit? repr form = .error exc →
        refusal? otherDigit? repr settings form = some exc := fun h => by rw [refusal?, h]
    cases hrefusal with
    | noFiles h =>
      refine hparams ?_
      rw [submissionParams, if_pos h]
      rfl
    | mode hfiles h =>
      refine hparams ?_
      cases hmode : parseMode form.mode with
      | ok mode => exact absurd (parseMode_eq_ok_iff.mp hmode) (h mode)
      | error exc =>
        rw [submissionParams, if_neg hfiles, hmode, (parseMode_eq_error hmode).2]
        rfl
    | deploymentId hfiles hmode text h =>
      refine hparams ?_
      obtain ⟨mode, hmode⟩ := hmode
      rw [submissionParams, if_neg hfiles, parseMode_eq_ok_iff.mpr hmode, h.parseIntOrNone]
      rfl
    | nodeId hfiles hmode hdeployment text h =>
      refine hparams ?_
      obtain ⟨mode, hmode⟩ := hmode
      obtain ⟨deploymentId, hdeployment⟩ := hdeployment.parseIntOrNone repr
      rw [submissionParams, if_neg hfiles, parseMode_eq_ok_iff.mpr hmode, hdeployment,
        h.parseIntOrNone]
      rfl
    | oversize hform before after upload hsplit hbefore h =>
      exact refusal?_of_split hform hsplit hbefore (if_pos h)
    | notPdf hform before after upload hsplit hbefore hsize h =>
      exact refusal?_of_split hform hsplit hbefore
        ((if_neg (not_lt.mpr hsize)).trans (if_pos (by rw [h]; rfl)))

/-! ### Accepted forms -/

/-- What a response of 202 stands for: one entry for each upload, in order, and one batch with the
fields of the form, persisted once, whose new jobs are then enqueued in order. -/
structure Accepted (otherDigit? : Char → Option ℕ) (repr : String → String)
    (sha256 : Bytes → FileHash) (form : ExtractForm) (userId : String) (t : List Call)
    (body : SubmissionBody) : Prop where
  jobs : List.Forall₂ (fun upload job => job.filename = (toUploadedFile upload).filename ∧
    job.fileHash = sha256 upload.content ∧
      (job.status = JobStatus.queued.value ∨ job.status = JobStatus.cached.value))
    form.files body.jobs
  total : body.total = form.files.length
  pollUrl : body.pollUrl = "/batches/" ++ body.batchId
  batch : ∃ before batch newJobs created,
    t = before ++ ⟨.createBatch batch newJobs, .ok created⟩ :: newJobs.map enqueueCall ∧
      (∀ c ∈ before, c.1.isInsertion = false ∧ c.1.isEnqueue = false) ∧
      body.batchId = uuidStr batch.batchId ∧ batch.createdBy = userId ∧
      ParamsOf otherDigit? repr form
        ⟨batch.mode, batch.callbackUrl, batch.deploymentId, batch.nodeId⟩ ∧
      (body.jobs.filter fun job => decide (job.status = JobStatus.queued.value)).map
        SummaryBody.jobId = newJobs.map fun job => uuidStr job.jobId

theorem status_serializeSummary (summary : JobSummary) :
    decide ((serializeSummary summary).status = JobStatus.queued.value) =
      decide (summary.status = .queued) := by
  have hvalue : ∀ status : JobStatus,
      decide (status.value = JobStatus.queued.value) = decide (status = .queued) := by
    intro status
    cases status <;> decide
  exact hvalue summary.status

/-- The queued entries of a response. -/
theorem filter_queued_serializeResult (result : BatchSubmissionResult) :
    ((serializeResult result).jobs.filter fun job =>
      decide (job.status = JobStatus.queued.value)) = result.queued.map serializeSummary := by
  rw [serializeResult, List.filter_map, BatchSubmissionResult.queued]
  exact congrArg _ (List.filter_congr fun summary _ => status_serializeSummary summary)

/-- The entry of a file. -/
theorem serialize_summary_of_answers (sha256 : Bytes → FileHash) (a : FileAnswers) :
    (serializeSummary (a.summary sha256)).filename = a.file.filename ∧
      (serializeSummary (a.summary sha256)).fileHash = sha256 a.file.content ∧
      ((serializeSummary (a.summary sha256)).status = JobStatus.queued.value ∨
        (serializeSummary (a.summary sha256)).status = JobStatus.cached.value) := by
  rcases a.cases with ⟨job, hcached, -, -⟩ | ⟨hnew, -⟩
  · rw [summary_of_cached hcached]
    exact ⟨rfl, rfl, Or.inr rfl⟩
  · rw [summary_of_new hnew]
    exact ⟨rfl, rfl, Or.inl rfl⟩

/-- A submission that has made all calls of its script. -/
theorem accepted_of_script {k : SubmissionAnswers} {params : SubmissionParams}
    (hk : k.uploads = form.files.map toUploadedFile)
    (hparams : ParamsOf otherDigit? repr form params) :
    Accepted otherDigit? repr sha256 form userId (k.calls sha256 params userId)
      (serializeResult (k.result sha256)) where
  jobs := by
    have hfiles : List.Forall₂ (fun upload a => a.file = toUploadedFile upload) form.files
        k.files := by
      have hlists : List.Forall₂ Eq (form.files.map toUploadedFile)
          (k.files.map FileAnswers.file) := List.forall₂_eq_eq_eq ▸ hk.symm
      exact (List.forall₂_map_right_iff.mp (List.forall₂_map_left_iff.mp hlists)).imp
        fun _ _ h => h.symm
    have hbody : (serializeResult (k.result sha256)).jobs =
        k.files.map fun a => serializeSummary (a.summary sha256) := List.map_map
    rw [hbody]
    refine List.forall₂_map_right_iff.mpr (hfiles.imp fun upload a hfile => ?_)
    have hentry := serialize_summary_of_answers sha256 a
    rw [hfile] at hentry
    exact hentry
  total := by
    have hlength := congrArg List.length hk
    rw [SubmissionAnswers.uploads, List.length_map, List.length_map] at hlength
    exact (List.length_map _).trans hlength
  pollUrl := rfl
  batch := by
    refine ⟨k.openingCalls ++ k.fileCalls sha256, k.batch sha256 params userId, k.jobs sha256,
      k.created, k.calls_split sha256 params userId, fun c hc => notLate_of_mem_before hc, rfl, rfl,
      hparams, ?_⟩
    rw [filter_queued_serializeResult, List.map_map]
    have hids := congrArg (List.map uuidStr) (jobId_queued sha256 k)
    rw [List.map_map, List.map_map] at hids
    exact hids

/-- A request whose form is refused makes no call. -/
theorem submitExtractBatch_of_refusal? {exc : PyException}
    (h : refusal? otherDigit? repr settings form = some exc) :
    submitExtractBatch otherDigit? repr settings sha256 form userId = .raise exc := by
  rw [refusal?] at h
  rw [submitExtractBatch]
  cases hparams : submissionParams otherDigit? repr form with
  | error e =>
    rw [hparams] at h
    obtain rfl := Option.some.inj h
    rfl
  | ok params =>
    rw [hparams] at h
    obtain ⟨e, hrejected, rfl⟩ := Option.map_eq_some_iff.mp h
    rw [Program.ofExcept, Program.ret_bind, submitBatch_of_rejection hrejected]
    rfl

/-- One PDF, submitted for a deployment. -/
def planForm : ExtractForm where
  files := [⟨some "plan.pdf", pdfMagic⟩]
  deploymentId := some "7"

end Route

end ZubotIngestion
