import ZubotIngestion.Domain.Pipeline.Companion
import ZubotIngestion.Domain.Pipeline.Confidence
import ZubotIngestion.Python.Lower

/-!
# The companion validator

`CompanionValidator.validate` looks for each extracted value in the text of the companion. The text
it is given ends with a block of metadata that repeats these values, whatever the descriptions of
the pages say. So a value that is there is never reported, and a generated companion fails only
where an extractor claims confidence in a blank value.

## Main definitions

* `validate`.
* `Overlooked`: no description of a page contains the value.
* `Bites`: the validator reports such a value, and the calculator applies the penalty.

## Main results

* `issues_validate`: the issues of any text.
* `issues_validate_generated`: those of a generated companion.
* `not_bites_of_overlooked`: the validator never bites.
-/

namespace ZubotIngestion

open Effects

/-! ### The validator -/

/-- `_MIN_COMPANION_LENGTH`. -/
def minCompanionLength : ℕ := 50

/-- `_field_value_str`: the stripped value, if it is not blank. -/
def fieldValueStr (value : Option String) : Option String :=
  value.bind fun text => orNone (strip text)

/-- The issue of a field that the companion does not reference. -/
def fieldNotReferenced (field : ExtractedField) : String := "field_not_referenced_" ++ field.name

/-- What the loop over the fields has found. -/
structure Coverage where
  issues : List String
  totalFieldsWithConfidence : ℕ := 0
  fieldsReferenced : ℕ := 0

/-- `field_specs`, by their names. -/
def fieldSpecs : List ExtractedField := [.drawingNumber, .title, .documentType]

/-- The issues of the text itself. -/
def textIssues (companionText : String) : List String :=
  if strip companionText = "" then ["empty_companion"]
  else if companionText.length < minCompanionLength then ["companion_too_short"]
  else []

section Validator

variable (tables : CaseTables) (companionText : String) (extraction : ExtractionResult)

/-- `value_str.lower() in text.lower()`. -/
def mentions (text valueStr : String) : Bool := contains (tables.lower valueStr) (tables.lower text)

/-- One turn of the loop over the fields. -/
def Coverage.check (coverage : Coverage) (field : ExtractedField) : Coverage :=
  if field.confidence extraction ≤ 0 then coverage
  else
    match fieldValueStr (field.value? extraction) with
    | none =>
      { coverage with
        issues := coverage.issues ++ [fieldNotReferenced field]
        totalFieldsWithConfidence := coverage.totalFieldsWithConfidence + 1 }
    | some valueStr =>
      if mentions tables companionText valueStr then
        { coverage with
          totalFieldsWithConfidence := coverage.totalFieldsWithConfidence + 1
          fieldsReferenced := coverage.fieldsReferenced + 1 }
      else
        { coverage with
          issues := coverage.issues ++ [fieldNotReferenced field]
          totalFieldsWithConfidence := coverage.totalFieldsWithConfidence + 1 }

/-- What the loop over the fields finds. -/
def coverage : Coverage :=
  fieldSpecs.foldl (Coverage.check tables companionText extraction) ⟨textIssues companionText, 0, 0⟩

/-- The coverage ratio; `1.0` if there is nothing to cover. -/
def Coverage.qualityScore (coverage : Coverage) : PyFloat :=
  match coverage.totalFieldsWithConfidence with
  | 0 => 1
  | total => (PyFloat.fin (mkRat coverage.fieldsReferenced total)).clampUnit

/-- `CompanionValidator.validate` of a validator with the default minimal length. -/
def validate : ValidationResult where
  passed := (coverage tables companionText extraction).issues.isEmpty
  issues := (coverage tables companionText extraction).issues
  qualityScore := (coverage tables companionText extraction).qualityScore

/-! ### Which fields are reported -/

/-- The field is reported: it is claimed with confidence, and is blank or not in the text. -/
def isReported (field : ExtractedField) : Bool :=
  ¬ field.confidence extraction ≤ 0 ∧
    ¬ (fieldValueStr (field.value? extraction)).any (mentions tables companionText)

theorem issues_check (coverage : Coverage) (field : ExtractedField) :
    (coverage.check tables companionText extraction field).issues = coverage.issues ++
      if isReported tables companionText extraction field then [fieldNotReferenced field]
      else [] := by
  rw [Coverage.check]
  by_cases hconfidence : field.confidence extraction ≤ 0
  · simp [isReported, hconfidence]
  · rw [if_neg hconfidence]
    cases hvalue : fieldValueStr (field.value? extraction) with
    | none => simp [isReported, hconfidence, hvalue]
    | some valueStr =>
      by_cases hmentions : mentions tables companionText valueStr = true
      · simp [isReported, hconfidence, hvalue, hmentions]
      · simp [isReported, hconfidence, hvalue, hmentions]

/-- The issues are those of the text, and then the reported fields in their order. -/
theorem issues_validate : (validate tables companionText extraction).issues =
    textIssues companionText ++
      (fieldSpecs.filter (isReported tables companionText extraction)).map fieldNotReferenced := by
  have hfold (fields : List ExtractedField) (c : Coverage) :
      (fields.foldl (Coverage.check tables companionText extraction) c).issues = c.issues ++
        (fields.filter (isReported tables companionText extraction)).map fieldNotReferenced := by
    induction fields generalizing c with
    | nil => simp
    | cons field fields ih =>
      rw [List.foldl_cons, ih, issues_check, List.append_assoc, List.filter_cons]
      split_ifs <;> simp
  exact hfold fieldSpecs _

end Validator

/-! ### Generated companions -/

section Generated

variable (tables : CaseTables) {extraction : ExtractionResult}

/-- A text with a character that is not white space is not blank. -/
theorem strip_ne_empty {text : String} {c : Char} (hc : c ∈ text.toList)
    (hspace : isSpace c = false) : strip text ≠ "" := by
  obtain ⟨front, back, htext, hfront, hback⟩ := exists_strip text
  intro hstrip
  rw [htext, hstrip] at hc
  rcases List.mem_append.mp hc with hc | hc
  · rw [hfront c hc] at hspace
    cases hspace
  · rw [hback c hc] at hspace
    cases hspace

/-- The headings alone make a companion long enough. -/
theorem textIssues_headings (visualBlock technicalBlock metadata : String) :
    textIssues ("# VISUAL DESCRIPTION\n" ++ visualBlock ++ "\n\n# TECHNICAL DETAILS\n" ++
      technicalBlock ++ "\n\n# METADATA\n" ++ metadata) = [] := by
  have hvisual : "# VISUAL DESCRIPTION\n".length = 21 := rfl
  have htechnical : "\n\n# TECHNICAL DETAILS\n".length = 22 := rfl
  have hhash : '#' ∈ "# VISUAL DESCRIPTION\n".toList := by decide
  have hmetadata : "\n\n# METADATA\n".length = 13 := rfl
  rw [textIssues, if_neg, if_neg]
  · simp only [String.length_append, hvisual, htechnical, hmetadata, minCompanionLength]
    omega
  · refine strip_ne_empty (c := '#') ?_ rfl
    simp only [String.toList_append, List.mem_append]
    exact Or.inl (Or.inl (Or.inl (Or.inl (Or.inl hhash))))

/-- The metadata, with the values between white space. -/
theorem toList_metadataLines (drawingNumber title documentType : String) :
    ("\n".intercalate ["Drawing Number: " ++ drawingNumber, "Title: " ++ title,
      "Document Type: " ++ documentType]).toList =
      "Drawing Number:".toList ++ ' ' :: (drawingNumber.toList ++ '\n' ::
        ("Title:".toList ++ ' ' :: (title.toList ++ '\n' ::
          ("Document Type:".toList ++ ' ' :: (documentType.toList ++ []))))) := by
  have hlines : "\n".intercalate ["Drawing Number: " ++ drawingNumber, "Title: " ++ title,
      "Document Type: " ++ documentType] =
        "Drawing Number: " ++ drawingNumber ++ "\n" ++ ("Title: " ++ title) ++ "\n" ++
          ("Document Type: " ++ documentType) := rfl
  have hdrawing : "Drawing Number: ".toList = "Drawing Number:".toList ++ [' '] := by decide
  have htitle : "Title: ".toList = "Title:".toList ++ [' '] := by decide
  have htype : "Document Type: ".toList = "Document Type:".toList ++ [' '] := by decide
  have hbreak : "\n".toList = ['\n'] := by decide
  rw [hlines]
  simp only [String.toList_append, hdrawing, htitle, htype, hbreak, List.append_assoc,
    List.cons_append, List.nil_append, List.append_nil]

/-- The value of a field stands in the metadata behind a blank, and before a line break or the
end. -/
theorem exists_metadataLines {field : ExtractedField} {value : String}
    (hvalue : field.value? extraction = some value) :
    ∃ before after : List Char,
      ("\n".intercalate (metadataLines extraction)).toList =
        before ++ ' ' :: (value.toList ++ after) ∧ ∀ y ∈ after.head?, isSpace y = true := by
  have hbreak (rest : List Char) : ∀ y ∈ ('\n' :: rest).head?, isSpace y = true := by
    intro y hy
    rw [← Option.some.inj hy]
    rfl
  rw [metadataLines, toList_metadataLines]
  generalize hdrawing : formatMetadataValue (ExtractedField.drawingNumber.value? extraction) =
    drawingNumber
  generalize htitle : formatMetadataValue (ExtractedField.title.value? extraction) = title
  generalize htype : formatMetadataValue (ExtractedField.documentType.value? extraction) =
    documentType
  cases field with
  | drawingNumber =>
    obtain rfl : value = drawingNumber := by rw [← hdrawing, hvalue, formatMetadataValue]; rfl
    exact ⟨_, _, rfl, hbreak _⟩
  | title =>
    obtain rfl : value = title := by rw [← htitle, hvalue, formatMetadataValue]; rfl
    refine ⟨"Drawing Number:".toList ++ ' ' :: (drawingNumber.toList ++ '\n' :: "Title:".toList),
      '\n' :: ("Document Type:".toList ++ ' ' :: (documentType.toList ++ [])), ?_, hbreak _⟩
    simp only [List.append_assoc, List.cons_append]
  | documentType =>
    obtain rfl : value = documentType := by rw [← htype, hvalue, formatMetadataValue]; rfl
    refine ⟨"Drawing Number:".toList ++ ' ' :: (drawingNumber.toList ++ '\n' ::
      ("Title:".toList ++ ' ' :: (title.toList ++ '\n' :: "Document Type:".toList))), [], ?_,
      fun y hy => nomatch hy⟩
    simp only [List.append_assoc, List.cons_append]

/-- An assembled companion mentions every extracted value that is not blank. -/
theorem mentions_assemble (visualDescriptions technicalDetails : List String)
    {field : ExtractedField} {valueStr : String}
    (hvalue : fieldValueStr (field.value? extraction) = some valueStr) :
    mentions tables (assembleCompanionMarkdown visualDescriptions technicalDetails extraction)
      valueStr = true := by
  obtain ⟨value, hfield, hvalue⟩ := Option.bind_eq_some_iff.mp hvalue
  obtain ⟨rfl, -⟩ := orNone_eq_some_iff.mp hvalue
  obtain ⟨before, after, hmetadata, hafter⟩ := exists_metadataLines hfield
  have htext (front : String) : (front ++ "\n".intercalate (metadataLines extraction)).toList =
      (front.toList ++ before) ++ ' ' :: (value.toList ++ after) := by
    rw [String.toList_append, hmetadata, List.append_assoc]
  exact tables.contains_lower rfl (htext _) hafter

/-- Of a text that mentions every value, the validator reports the blank values only. -/
theorem issues_validate_of_mentions {companionText : String} (htext : textIssues companionText = [])
    (hmentions : ∀ (field : ExtractedField) (valueStr : String),
      fieldValueStr (field.value? extraction) = some valueStr →
        mentions tables companionText valueStr = true) :
    (validate tables companionText extraction).issues =
      (fieldSpecs.filter fun field => ¬ field.confidence extraction ≤ 0 ∧
        fieldValueStr (field.value? extraction) = none).map fieldNotReferenced := by
  rw [issues_validate, htext, List.nil_append]
  refine congrArg _ (List.filter_congr fun field _ => ?_)
  rw [isReported]
  cases hvalue : fieldValueStr (field.value? extraction) with
  | none => simp
  | some valueStr => simp [hmentions field valueStr hvalue]

/-- The validator reports an assembled companion only for fields that an extractor claims with
confidence and leaves blank. -/
theorem issues_validate_assemble (visualDescriptions technicalDetails : List String) :
    (validate tables (assembleCompanionMarkdown visualDescriptions technicalDetails extraction)
      extraction).issues =
      (fieldSpecs.filter fun field => ¬ field.confidence extraction ≤ 0 ∧
        fieldValueStr (field.value? extraction) = none).map fieldNotReferenced :=
  issues_validate_of_mentions tables (textIssues_headings _ _ _) fun _ _ =>
    mentions_assemble tables _ _

end Generated

/-! ### Runs of the generator -/

section Runs

variable {σ : Type}

/-- A generated companion is assembled from descriptions and the extraction. -/
theorem exists_assemble_of_generated {run : GeneratorRun σ} {extraction : ExtractionResult}
    {companion : CompanionResult} (hrun : run.generated extraction = .ok companion)
    (hgenerated : companion.companionGenerated = true) :
    ∃ visualDescriptions technicalDetails : List String, companion.companionText =
      assembleCompanionMarkdown visualDescriptions technicalDetails extraction := by
  obtain ⟨collected, -, hcompanion⟩ := run.generated_eq extraction
  rw [hrun] at hcompanion
  obtain rfl := Except.ok.inj hcompanion
  cases collected with
  | none => cases hgenerated
  | some descriptions =>
    rw [companionOf] at hgenerated ⊢
    split_ifs at hgenerated ⊢ with hnone
    · cases hgenerated
    · exact ⟨_, _, rfl⟩

/-- The validator reports a generated companion only for fields that an extractor claims with
confidence and leaves blank. -/
theorem issues_validate_generated (tables : CaseTables) {run : GeneratorRun σ}
    {extraction : ExtractionResult} {companion : CompanionResult}
    (hrun : run.generated extraction = .ok companion)
    (hgenerated : companion.companionGenerated = true) :
    (validate tables companion.companionText extraction).issues =
      (fieldSpecs.filter fun field => ¬ field.confidence extraction ≤ 0 ∧
        fieldValueStr (field.value? extraction) = none).map fieldNotReferenced := by
  obtain ⟨visualDescriptions, technicalDetails, htext⟩ :=
    exists_assemble_of_generated hrun hgenerated
  rw [htext, issues_validate_assemble]

/-- The names of the fields differ. -/
theorem fieldNotReferenced_injective : Function.Injective fieldNotReferenced := by
  intro field other h
  cases field <;> cases other <;> first
    | rfl
    | exact absurd h (by decide)

/-- A field with a value is not reported, whatever the descriptions say. -/
theorem notMem_issues_validate (tables : CaseTables) {run : GeneratorRun σ}
    {extraction : ExtractionResult} {companion : CompanionResult}
    (hrun : run.generated extraction = .ok companion)
    (hgenerated : companion.companionGenerated = true) {field : ExtractedField} {valueStr : String}
    (hvalue : fieldValueStr (field.value? extraction) = some valueStr) :
    fieldNotReferenced field ∉ (validate tables companion.companionText extraction).issues := by
  rw [issues_validate_generated tables hrun hgenerated,
    List.mem_map_of_injective fieldNotReferenced_injective, List.mem_filter]
  rintro ⟨-, hblank⟩
  rw [hvalue] at hblank
  simp at hblank

/-- The calculator applies the validation penalty. -/
def Penalised (extraction : ExtractionResult) (validation : ValidationResult) : Prop :=
  (calculate extraction (some validation)).validationAdjustment = confidenceValidationPenalty

/-- The validator reports the field on this text, and the calculator applies the penalty. -/
def Bites (tables : CaseTables) (field : ExtractedField) (extraction : ExtractionResult)
    (companionText : String) : Prop :=
  fieldNotReferenced field ∈ (validate tables companionText extraction).issues ∧
    Penalised extraction (validate tables companionText extraction)

/-- The run has generated a companion from descriptions none of which contains the value of the
field, in whatever case, although it is not blank and claimed with confidence. -/
structure Overlooked (tables : CaseTables) (field : ExtractedField) (extraction : ExtractionResult)
    (run : GeneratorRun σ) (companion : CompanionResult) : Prop where
  value : ∃ valueStr, fieldValueStr (field.value? extraction) = some valueStr
  confidence : 0 < field.confidence extraction
  descriptions : ∃ descriptions, run.descriptions = .ok (some descriptions) ∧
    ∀ description ∈ descriptions.visualDescriptions ++ descriptions.technicalDetails,
      ∀ value, field.value? extraction = some value → mentions tables description value = false
  returned : run.generated extraction = .ok companion
  generated : companion.companionGenerated = true

/-- The companion validation never bites: of every generated companion that overlooks a field, the
validator finds the field referenced. -/
theorem not_bites_of_overlooked {tables : CaseTables} {field : ExtractedField}
    {extraction : ExtractionResult} {run : GeneratorRun σ} {companion : CompanionResult}
    (h : Overlooked tables field extraction run companion) :
    ¬ Bites tables field extraction companion.companionText := by
  obtain ⟨valueStr, hvalue⟩ := h.value
  rintro ⟨hreported, -⟩
  exact notMem_issues_validate tables h.returned h.generated hvalue hreported

end Runs

/-! ### A companion that says nothing of the drawing number -/

/-- A drawing number that all sources agree on. -/
def numberedExtraction : ExtractionResult where
  drawingNumber := some "A-101"
  drawingNumberConfidence := .fin (95 / 100)
  title := none
  titleConfidence := 0
  documentType := none
  documentTypeConfidence := 0

/-- The vision model describes something else. -/
def unrelatedAnswer (op : CompanionOp) (_ : Unit) : Except PyException op.Res × Unit :=
  match op with
  | .renderPages .. => (.ok [⟨0, "/9j/4AAQ"⟩], ())
  | .extractPageTexts .. => (.ok [], ())
  | .extractPageText .. => (.ok "", ())
  | .generateVision .. => (.ok "tree", ())
  | .parseResponse .. =>
    (.ok [("visual_description", .str "A tree."), ("technical_details", .none)], ())

/-- The generator runs on a document of one page. -/
def unrelatedRun : GeneratorRun Unit where
  py := ⟨id, id, fun _ => none, fun _ => ""⟩
  wiring := ⟨none, true⟩
  context :=
    { job := ⟨2, 1, "plan.pdf", "9f86d081", "", .processing, none, none, none, none, none, 0, 0,
        none, none⟩
      pdfBytes := []
      pdfData := some ⟨1, "9f86d081"⟩ }
  extractedText := none
  answer := unrelatedAnswer
  start := ()

/-- The companion of that run. -/
def unrelatedCompanion : CompanionResult where
  companionText := assembleCompanionMarkdown ["A tree."] [] numberedExtraction
  pagesDescribed := 1
  companionGenerated := true
  validationPassed := false

theorem overlooked_unrelatedRun :
    Overlooked asciiTables .drawingNumber numberedExtraction unrelatedRun unrelatedCompanion where
  value := ⟨"A-101", by decide⟩
  confidence := PyFloat.fin_lt_fin.mpr (by norm_num)
  descriptions := by
    refine ⟨⟨["A tree."], [], 1⟩, rfl, fun description hdescription value hvalue => ?_⟩
    obtain rfl := Option.some.inj hvalue
    rw [List.append_nil, List.mem_singleton] at hdescription
    rw [hdescription]
    decide
  returned := rfl
  generated := rfl

theorem not_bites_unrelatedRun :
    ¬ Bites asciiTables .drawingNumber numberedExtraction unrelatedCompanion.companionText :=
  not_bites_of_overlooked overlooked_unrelatedRun

theorem not_forall_bites : ¬ ∀ (field : ExtractedField) (extraction : ExtractionResult)
    (run : GeneratorRun Unit) (companion : CompanionResult),
      Overlooked asciiTables field extraction run companion →
        Bites asciiTables field extraction companion.companionText := by
  intro hbites
  have hreported := (hbites _ _ _ _ overlooked_unrelatedRun).1
  exact notMem_issues_validate asciiTables overlooked_unrelatedRun.returned rfl
    overlooked_unrelatedRun.value.choose_spec hreported

end ZubotIngestion
