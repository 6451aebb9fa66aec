import ZubotIngestion.Domain.Pipeline.DocumentTypeExtractor
import ZubotIngestion.Effects.Trace

/-!
# What the models report

The outcome of an extractor as a function of what the models have answered in its run, read off the
trace of its calls. The confidence that a model reports may be NaN: the clamp lets NaN pass, and so
do the fusion of the titles and the cap on the confidence in a document type, each on a path of
its own.

## Main definitions

* `visionAnswer?`, `textAnswer?`: the parsed answers of the models in a trace.
* `filenameAnswer?`: the drawing number read off the filename.
* `ReportsNan`, `TitleNan`, `DocumentTypeNan`: when NaN passes.

## Main results

* `runs_visionSource`, `runs_textSource`: the outcome of a source that asks a model.
* `runs_extractDrawingNumber`, `runs_extractTitle`, `runs_extractDocumentType`: the outcomes of the
  extractors.
* `titleOutcome_nan_iff`, `documentTypeOutcome_nan_iff`: the confidence is NaN just on these
  paths.
* `extractDrawingNumber_ne_nan`: the confidence in a drawing number never is.
-/

namespace ZubotIngestion

open Effects

/-! ### Answers in a trace -/

/-- What the parser has made of the answer of a model, if the model has answered. -/
abbrev Answer : Type := Option (Except PyException Dict)

/-- The answer of the vision model. -/
def visionAnswer? : List (Event sources PyException) → Answer
  | ⟨.generateVision _ _, .ok _⟩ :: ⟨.parseResponse _ _, parsed⟩ :: _ => some parsed
  | _ :: t => visionAnswer? t
  | [] => none

/-- The answer of the text model. -/
def textAnswer? : List (Event sources PyException) → Answer
  | ⟨.generateText _ _, .ok _⟩ :: ⟨.parseResponse _ _, parsed⟩ :: _ => some parsed
  | _ :: t => textAnswer? t
  | [] => none

/-- The drawing number that is read off the filename. -/
def filenameAnswer? : List (Event sources PyException) → Option String
  | ⟨.parseFilename _, .ok drawingNumberHint⟩ :: _ => drawingNumberHint
  | _ :: t => filenameAnswer? t
  | [] => none

/-- Calls with an answer of the vision model alone, whatever other sources are asked behind them. -/
def OnlyVision (t : List (Event sources PyException)) : Prop :=
  ∀ rest, visionAnswer? rest = none →
    visionAnswer? (t ++ rest) = visionAnswer? t ∧ textAnswer? (t ++ rest) = textAnswer? rest ∧
      filenameAnswer? (t ++ rest) = filenameAnswer? rest

/-- Calls with an answer of the text model alone, whatever other sources are asked behind them. -/
def OnlyText (t : List (Event sources PyException)) : Prop :=
  visionAnswer? t = none ∧ ∀ rest, visionAnswer? rest = none → textAnswer? rest = none →
    visionAnswer? (t ++ rest) = none ∧ textAnswer? (t ++ rest) = textAnswer? t ∧
      filenameAnswer? (t ++ rest) = filenameAnswer? rest

/-- The confidence that a model reports is NaN. -/
def ReportsNan (py : StrMethods) (answer : Answer) : Prop :=
  ∃ parsed, answer = some (.ok parsed) ∧ toFloat py (parsedGet parsed "confidence") = .ok .nan

/-! ### The title -/

/-- The title and the confidence of a parsed answer. -/
def readTitle (py : StrMethods) (parsed : Dict) : Except PyException (PyVal × PyFloat) := do
  let confidence ← coerceConfidence py (parsedGet parsed "confidence")
  return (parsedGet parsed "title", confidence)

/-- The title and the confidence that a model contributes. -/
def titleContribution (py : StrMethods) : Answer → Except PyException (PyVal × PyFloat)
  | none => .ok (.none, 0)
  | some parsed => parsed.bind (readTitle py)

/-- The title and the confidence that the extractor makes of the two answers. -/
def titleOutcome (py : StrMethods) (vision text : Answer) :
    Except PyException (Option String × PyFloat) := do
  let visionTitle ← titleContribution py vision
  let textTitle ← titleContribution py text
  fuseTitle py visionTitle.1 visionTitle.2 textTitle.1 textTitle.2

section Runs

variable {py : StrMethods} {context : PipelineContext} {t : List (Event sources PyException)}

/-- The text of the document: one call, and no exception. -/
theorem runs_getOrExtractText {pdfBytes : Bytes} {r : Except PyException String}
    (h : (getOrExtractText pdfBytes).Runs t r) :
    ∃ extracted text, t = [⟨.extractText pdfBytes, extracted⟩] ∧ r = .ok text := by
  obtain ⟨extracted, t', rfl, hret⟩ := Program.runs_attempt_perform_bind.mp h
  cases extracted <;> obtain ⟨rfl, rfl⟩ := Program.runs_ret.mp hret <;> exact ⟨_, _, rfl, rfl⟩

/-- The text is extracted before it is used. -/
theorem runs_getOrExtractText_bind {α : Type} {pdfBytes : Bytes} {f : String → Extraction α}
    {r : Except PyException α} (h : (getOrExtractText pdfBytes >>= f).Runs t r) :
    ∃ extracted text t', t = ⟨.extractText pdfBytes, extracted⟩ :: t' ∧ (f text).Runs t' r := by
  rcases Program.runs_bind.mp h with ⟨t₁, t₂, text, rfl, hextract, hrest⟩ | ⟨exc, hextract, -⟩
  · obtain ⟨extracted, text', rfl, -⟩ := runs_getOrExtractText hextract
    exact ⟨extracted, text, t₂, rfl, hrest⟩
  · obtain ⟨extracted, text', -, htext⟩ := runs_getOrExtractText hextract
    cases htext

/-- A model is asked about a text that is not empty. -/
theorem runs_askText {α : Type} {sent : String} {prompt : Prompt} {absent : α}
    {f : Except PyException String → Extraction α} {r : Except PyException α}
    (h : Program.Runs (if sent = "" then pure absent
      else (ask (.generateText sent prompt)).attempt >>= f) t r) :
    sent = "" ∧ t = [] ∧ r = .ok absent ∨ sent ≠ "" ∧
      ∃ response t', t = ⟨.generateText sent prompt, response⟩ :: t' ∧ (f response).Runs t' r := by
  split_ifs at h with hempty
  · exact Or.inl ⟨hempty, Program.runs_ret.mp h⟩
  · exact Or.inr ⟨hempty, Program.runs_attempt_perform_bind.mp h⟩

/-- What is read of an answer is a function of the parsed answer. -/
def ReadsParsed {α : Type} (R : Answer → Except PyException α → Prop)
    (read : String → Extraction α) : Prop :=
  ∀ responseText t r, (read responseText).Runs t r →
    ∃ expectedSchema parsed, t = [⟨.parseResponse responseText expectedSchema, parsed⟩] ∧
      R (some parsed) r

/-- A source that parses the response, and reads the parsed answer without another call. -/
theorem readsParsed_of {α : Type} {expectedSchema : Dict} {k : String → Dict → Extraction α}
    {R : Answer → Except PyException α → Prop} (herror : ∀ exc, R (some (.error exc)) (.error exc))
    (hk : ∀ responseText parsed t r, (k responseText parsed).Runs t r →
      t = [] ∧ R (some (.ok parsed)) r) :
    ReadsParsed R fun responseText =>
      ask (.parseResponse responseText expectedSchema) >>= k responseText := by
  intro responseText t r h
  rcases Program.runs_perform_bind.mp h with ⟨parsed, t', rfl, hread⟩ | ⟨exc, rfl, rfl⟩
  · obtain ⟨rfl, hparsed⟩ := hk _ _ _ _ hread
    exact ⟨expectedSchema, .ok parsed, rfl, hparsed⟩
  · exact ⟨expectedSchema, .error exc, rfl, herror exc⟩

theorem Guards.runs {α β : Type} {f : Except PyException β → Extraction α} {absent : α}
    {next : β → Extraction α} (hf : Guards f absent next) {answer : Except PyException β}
    {r : Except PyException α} (h : (f answer).Runs t r) :
    (∃ exc, answer = .error exc ∧ t = [] ∧ r = .ok absent) ∨
      ∃ value, answer = .ok value ∧ (next value).Runs t r := by
  cases answer with
  | error exc =>
    rw [hf.1] at h
    exact Or.inl ⟨exc, rfl, Program.runs_ret.mp h⟩
  | ok value =>
    rw [hf.2] at h
    exact Or.inr ⟨value, rfl, h⟩

/-- A source that shows the page to the vision model has its outcome from the answer in the
trace. -/
theorem runs_visionSource {α : Type} {pdfBytes : Bytes} {prompt : Prompt} {absent : α}
    {f : Except PyException String → Extraction α}
    {g : String → Except PyException String → Extraction α} {read : String → Extraction α}
    {r : Except PyException α} (R : Answer → Except PyException α → Prop)
    (habsent : R none (.ok absent)) (hread : ReadsParsed R read)
    (h : ((ask (.renderFirstPage pdfBytes)).attempt >>= f).Runs t r)
    (hf : Guards f absent fun page => (ask (.generateVision page prompt)).attempt >>= g page)
    (hg : ∀ page, Guards (g page) absent read) : R (visionAnswer? t) r ∧ OnlyVision t := by
  obtain ⟨page, t', rfl, hpage⟩ := Program.runs_attempt_perform_bind.mp h
  obtain ⟨exc, rfl, rfl, rfl⟩ | ⟨page, rfl, hvision⟩ := hf.runs hpage
  · exact ⟨habsent, fun rest hrest => ⟨hrest, rfl, rfl⟩⟩
  · obtain ⟨response, t'', rfl, hresponse⟩ := Program.runs_attempt_perform_bind.mp hvision
    obtain ⟨exc, rfl, rfl, rfl⟩ | ⟨responseText, rfl, hanswer⟩ := (hg page).runs hresponse
    · exact ⟨habsent, fun rest hrest => ⟨hrest, rfl, rfl⟩⟩
    · obtain ⟨expectedSchema, parsed, rfl, hparsed⟩ := hread _ _ _ hanswer
      exact ⟨hparsed, fun rest _ => ⟨rfl, rfl, rfl⟩⟩

/-- A source that sends a text to the text model has its outcome from the answer in the trace. -/
theorem runs_textSource {α : Type} {pdfBytes : Bytes} {prompt : Prompt} {sent : String → String}
    {absent : α} {f : String → Except PyException String → Extraction α}
    {read : String → Extraction α} {r : Except PyException α}
    (R : Answer → Except PyException α → Prop) (habsent : R none (.ok absent))
    (hread : ReadsParsed R read)
    (h : (getOrExtractText pdfBytes >>= fun text => if sent text = "" then pure absent
      else (ask (.generateText (sent text) prompt)).attempt >>= f text).Runs t r)
    (hf : ∀ text, Guards (f text) absent read) : R (textAnswer? t) r ∧ OnlyText t := by
  obtain ⟨extracted, text, t', rfl, hask⟩ := runs_getOrExtractText_bind h
  obtain ⟨-, rfl, rfl⟩ | ⟨-, response, t'', rfl, hresponse⟩ := runs_askText hask
  · exact ⟨habsent, rfl, fun rest hvision htext => ⟨hvision, htext, rfl⟩⟩
  · obtain ⟨exc, rfl, rfl, rfl⟩ | ⟨responseText, rfl, hanswer⟩ := (hf text).runs hresponse
    · exact ⟨habsent, rfl, fun rest hvision htext => ⟨hvision, htext, rfl⟩⟩
    · obtain ⟨expectedSchema, parsed, rfl, hparsed⟩ := hread _ _ _ hanswer
      exact ⟨hparsed, rfl, fun rest hvision _ => ⟨hvision, rfl, rfl⟩⟩

theorem readsParsed_titleOfResponse :
    ReadsParsed (fun answer r => r = titleContribution py answer) (titleOfResponse py) := by
  refine readsParsed_of (fun _ => rfl) fun responseText parsed t r h => ?_
  obtain ⟨rfl, rfl⟩ := Program.runs_ofExcept_ret.mp h
  refine ⟨rfl, ?_⟩
  simp only [titleContribution, Except.bind, readTitle]
  cases coerceConfidence py (parsedGet parsed "confidence") <;> rfl

/-- What the vision model contributes is its answer in the trace. -/
theorem runs_titleFromVision {r : Except PyException (PyVal × PyFloat)}
    (h : (titleFromVision py context).Runs t r) :
    r = titleContribution py (visionAnswer? t) ∧ OnlyVision t :=
  runs_visionSource (fun answer r => r = titleContribution py answer) rfl
    readsParsed_titleOfResponse h ⟨fun _ => rfl, fun _ => rfl⟩ fun _ => ⟨fun _ => rfl, fun _ => rfl⟩

/-- What the text model contributes is its answer in the trace. -/
theorem runs_titleFromText {r : Except PyException (PyVal × PyFloat)}
    (h : (titleFromText py context).Runs t r) :
    r = titleContribution py (textAnswer? t) ∧ OnlyText t :=
  runs_textSource (fun answer r => r = titleContribution py answer) rfl
    readsParsed_titleOfResponse h fun _ => ⟨fun _ => rfl, fun _ => rfl⟩

/-- What is made of both titles is made of the answers in the trace. -/
theorem runs_titleSources {α : Type} {k : PyVal × PyFloat → PyVal × PyFloat → Extraction α}
    {f : PyVal × PyFloat → PyVal × PyFloat → Except PyException α} {r : Except PyException α}
    (hk : ∀ vision text t' r', (k vision text).Runs t' r' → t' = [] ∧ r' = f vision text)
    (h : Program.Runs (titleFromVision py context >>= fun vision =>
      titleFromText py context >>= fun text => k vision text) t r) :
    r = titleContribution py (visionAnswer? t) >>= fun vision =>
      titleContribution py (textAnswer? t) >>= f vision := by
  rcases Program.runs_bind.mp h with ⟨t₁, t₂, vision, rfl, hvision, hrest⟩ | ⟨exc, hvision, rfl⟩
  · obtain ⟨hcontributed, happend⟩ := runs_titleFromVision hvision
    rcases Program.runs_bind.mp hrest with ⟨t₃, t₄, text, rfl, htext, hmade⟩ | ⟨exc, htext, rfl⟩
    · obtain ⟨hcontributed', hnone, -⟩ := runs_titleFromText htext
      obtain ⟨rfl, rfl⟩ := hk _ _ _ _ hmade
      obtain ⟨hv, ht, -⟩ := happend t₃ hnone
      rw [List.append_nil, hv, ht, ← hcontributed, ← hcontributed']
      rfl
    · obtain ⟨hcontributed', hnone, -⟩ := runs_titleFromText htext
      obtain ⟨hv, ht, -⟩ := happend t₂ hnone
      rw [hv, ht, ← hcontributed, ← hcontributed']
      rfl
  · rw [← (runs_titleFromVision hvision).1]
    rfl

/-- The title extractor makes its outcome of the answers in its trace. -/
theorem runs_extractTitle {r : Except PyException ExtractionResult}
    (h : (extractTitle py context).Runs t r) :
    r.map (fun own => (own.title, own.titleConfidence)) =
      titleOutcome py (visionAnswer? t) (textAnswer? t) := by
  obtain rfl := runs_titleSources (fun vision text t' r' h' => Program.runs_ofExcept_ret.mp h') h
  rw [titleOutcome]
  cases titleContribution py (visionAnswer? t) with
  | error exc => rfl
  | ok vision =>
    cases titleContribution py (textAnswer? t) with
    | error exc => rfl
    | ok text =>
      simp only [bind, Except.bind]
      cases fuseTitle py vision.1 vision.2 text.1 text.2 <;> rfl

end Runs

/-! ### NaN on its way -/

theorem clampUnit_eq_nan {f : PyFloat} : f.clampUnit = .nan ↔ f = .nan := by
  constructor
  · intro h
    rw [PyFloat.clampUnit] at h
    split_ifs at h
    exact h
  · rintro rfl
    rfl

theorem pyMax_eq_nan {a b : PyFloat} : a.pyMax b = .nan ↔ a = .nan := by
  rw [PyFloat.pyMax]
  split_ifs with h
  · refine iff_of_false ?_ ?_ <;> rintro rfl
    · exact PyFloat.not_lt_nan a h
    · exact PyFloat.not_nan_lt b h
  · rfl

theorem pyMin_eq_nan {a b : PyFloat} : a.pyMin b = .nan ↔ a = .nan := by
  rw [PyFloat.pyMin]
  split_ifs with h
  · refine iff_of_false ?_ ?_ <;> rintro rfl
    · exact PyFloat.not_nan_lt a h
    · exact PyFloat.not_lt_nan b h
  · rfl

/-- The penalised mean of two confidences is NaN if one of them is. -/
theorem penalised_eq_nan {a b : PyFloat} (ha : a.IsUnit) (hb : b.IsUnit) :
    (a + b) * .fin (1 / 2) * .fin (7 / 10) = .nan ↔ a = .nan ∨ b = .nan := by
  rcases ha with rfl | ⟨p, rfl, -⟩
  · simp
  · rcases hb with rfl | ⟨q, rfl, -⟩
    · simp
    · simp

/-- The clamp of a reported confidence lets NaN pass, and makes no other. -/
theorem coerceConfidence_eq_nan {py : StrMethods} {value : PyVal} :
    coerceConfidence py value = .ok .nan ↔ toFloat py value = .ok .nan := by
  rw [coerceConfidence]
  cases toFloat py value with
  | ok f => simp [clampUnit_eq_nan]
  | error exc =>
    dsimp only
    split_ifs <;> simp [PyFloat.zero_def]

/-- Only an integer that is too large for a float raises. -/
theorem exists_coerceConfidence (py : StrMethods) {value : PyVal} :
    (∃ f, coerceConfidence py value = .ok f) ↔
      ∀ i : ℤ, value = .int i → i.natAbs < floatOverflow := by
  cases value with
  | int i =>
    have hint : (∀ j : ℤ, PyVal.int i = .int j → j.natAbs < floatOverflow) ↔
        i.natAbs < floatOverflow :=
      ⟨fun h => h i rfl, fun h j hj => PyVal.int.inj hj ▸ h⟩
    rw [hint, coerceConfidence, toFloat]
    split_ifs with hi
    · exact iff_of_true ⟨_, rfl⟩ hi
    · refine iff_of_false ?_ hi
      rintro ⟨f, hf⟩
      simp [PyException.typeName] at hf
  | str s =>
    refine iff_of_true ?_ (fun _ h => PyVal.noConfusion h)
    rw [coerceConfidence, toFloat]
    cases py.float? s with
    | some f => exact ⟨_, rfl⟩
    | none => exact ⟨0, if_pos (.inr rfl)⟩
  | float f => exact iff_of_true ⟨_, rfl⟩ (fun _ h => PyVal.noConfusion h)
  | bool b => exact iff_of_true ⟨_, rfl⟩ (fun _ h => PyVal.noConfusion h)
  | none => exact iff_of_true ⟨0, rfl⟩ (fun _ h => PyVal.noConfusion h)
  | list items => exact iff_of_true ⟨0, rfl⟩ (fun _ h => PyVal.noConfusion h)
  | dict items => exact iff_of_true ⟨0, rfl⟩ (fun _ h => PyVal.noConfusion h)

/-- Which confidences make that in a fused title NaN: the one of a given title, unless the title
of the vision model has the same normalised form and a confidence of its own. -/
theorem reconcileTitles_eq_nan (py : StrMethods) {vision text : Option String}
    {visionConf textConf : PyFloat} (hvision : visionConf.IsUnit) (htext : textConf.IsUnit) :
    (reconcileTitles py vision visionConf text textConf).2 = .nan ↔
      (vision.isSome ∧ visionConf = .nan) ∨ (text.isSome ∧ textConf = .nan ∧
        ∀ v t, vision = some v → text = some t →
          normaliseForCompare py v ≠ normaliseForCompare py t) := by
  cases vision with
  | none =>
    cases text with
    | none => simp [reconcileTitles, PyFloat.zero_def]
    | some t => simp [reconcileTitles]
  | some v =>
    cases text with
    | none => simp [reconcileTitles]
    | some t =>
      by_cases hagree : normaliseForCompare py v = normaliseForCompare py t
      · simp [reconcileTitles, hagree, pyMax_eq_nan]
      · simp only [reconcileTitles, if_neg hagree]
        rw [penalised_eq_nan hvision htext]
        simp [hagree]

/-! ### When the title is scored with NaN -/

/-- The title that a model gives, flattened. -/
def givenTitle? : Answer → Option String
  | some (.ok parsed) =>
    match parsedGet parsed "title" with
    | .str text => flattenStr text
    | _ => none
  | _ => none

/-- An answer that does not make the extractor raise: it is parsed, its title is a string if there
is one, and its confidence is no integer that is too large for a float. -/
def Readable : Answer → Prop
  | none => True
  | some (.error _) => False
  | some (.ok parsed) =>
    (parsedGet parsed "title" = .none ∨ ∃ text, parsedGet parsed "title" = .str text) ∧
      ∀ i : ℤ, parsedGet parsed "confidence" = .int i → i.natAbs < floatOverflow

/-- The answers of the models make the confidence in the title NaN: the vision model gives a title
with confidence NaN, or the text model does, and no title of the vision model agrees with it. -/
structure TitleNan (py : StrMethods) (vision text : Answer) : Prop where
  readableVision : Readable vision
  readableText : Readable text
  reported : ((givenTitle? vision).isSome ∧ ReportsNan py vision) ∨
    ((givenTitle? text).isSome ∧ ReportsNan py text ∧
      ∀ v t, givenTitle? vision = some v → givenTitle? text = some t →
        normaliseForCompare py v ≠ normaliseForCompare py t)

section Title

variable {py : StrMethods} {answer vision text : Answer}

/-- What a readable answer contributes. -/
theorem titleContribution_of_readable (py : StrMethods) (h : Readable answer) :
    ∃ title conf, titleContribution py answer = .ok (title, conf) ∧
      flattenTitle title = .ok (givenTitle? answer) ∧ conf.IsUnit ∧
      (conf = .nan ↔ ReportsNan py answer) := by
  rcases answer with _ | exc | parsed
  · refine ⟨.none, 0, rfl, rfl, PyFloat.isUnit_zero, ?_⟩
    refine iff_of_false PyFloat.noConfusion ?_
    rintro ⟨parsed, hparsed, -⟩
    cases hparsed
  · exact h.elim
  · obtain ⟨htitle, hconfidence⟩ := h
    obtain ⟨conf, hcoerced⟩ := (exists_coerceConfidence py).mpr hconfidence
    have hread : titleContribution py (some (.ok parsed)) =
        .ok (parsedGet parsed "title", conf) := by
      simp only [titleContribution, Except.bind, readTitle, hcoerced]
      rfl
    have hflat : flattenTitle (parsedGet parsed "title") =
        .ok (givenTitle? (some (.ok parsed))) := by
      rcases htitle with hnone | ⟨title, htitle⟩
      · simp only [givenTitle?, hnone, flattenTitle]
      · simp only [givenTitle?, htitle, flattenTitle]
    refine ⟨_, conf, hread, hflat, isUnit_coerceConfidence hcoerced, ?_⟩
    constructor
    · rintro rfl
      exact ⟨parsed, rfl, coerceConfidence_eq_nan.mp hcoerced⟩
    · rintro ⟨parsed', hparsed, hnan⟩
      obtain rfl := Except.ok.inj (Option.some.inj hparsed)
      exact Except.ok.inj (hcoerced.symm.trans (coerceConfidence_eq_nan.mpr hnan))

/-- An answer that has not made the extractor raise is readable. -/
theorem readable_of_titleContribution {title : PyVal} {conf : PyFloat} {flat : Option String}
    (h : titleContribution py answer = .ok (title, conf)) (hflat : flattenTitle title = .ok flat) :
    Readable answer := by
  rcases answer with _ | exc | parsed
  · trivial
  · cases h
  · cases hcoerced : coerceConfidence py (parsedGet parsed "confidence") with
    | error exc =>
      simp only [titleContribution, Except.bind, readTitle, hcoerced] at h
      cases h
    | ok conf' =>
      simp only [titleContribution, Except.bind, readTitle, hcoerced] at h
      obtain ⟨rfl, -⟩ := Prod.mk.inj (Except.ok.inj h)
      refine ⟨?_, (exists_coerceConfidence py).mp ⟨conf', hcoerced⟩⟩
      cases htitle : parsedGet parsed "title" with
      | none => exact Or.inl rfl
      | str text => exact Or.inr ⟨text, rfl⟩
      | _ =>
        rw [htitle] at hflat
        cases hflat

/-- The outcome on readable answers. -/
theorem titleOutcome_of_readable (py : StrMethods) (hvision : Readable vision)
    (htext : Readable text) :
    ∃ visionConf textConf, visionConf.IsUnit ∧ textConf.IsUnit ∧
      (visionConf = .nan ↔ ReportsNan py vision) ∧ (textConf = .nan ↔ ReportsNan py text) ∧
      titleOutcome py vision text =
        .ok (reconcileTitles py (givenTitle? vision) visionConf (givenTitle? text) textConf) := by
  obtain ⟨visionTitle, visionConf, hv, hvflat, hvunit, hvnan⟩ :=
    titleContribution_of_readable py hvision
  obtain ⟨textTitle, textConf, ht, htflat, htunit, htnan⟩ :=
    titleContribution_of_readable py htext
  refine ⟨visionConf, textConf, hvunit, htunit, hvnan, htnan, ?_⟩
  rw [titleOutcome, hv, ht]
  simp only [bind, Except.bind, fuseTitle, hvflat, htflat]
  rfl

/-- The extractor returns on readable answers only. -/
theorem readable_of_titleOutcome {fused : Option String × PyFloat}
    (h : titleOutcome py vision text = .ok fused) : Readable vision ∧ Readable text := by
  cases hv : titleContribution py vision with
  | error exc =>
    rw [titleOutcome, hv] at h
    cases h
  | ok visionTitle =>
    cases ht : titleContribution py text with
    | error exc =>
      rw [titleOutcome, hv, ht] at h
      cases h
    | ok textTitle =>
      have hfuse : fuseTitle py visionTitle.1 visionTitle.2 textTitle.1 textTitle.2 =
          .ok fused := by
        rw [titleOutcome, hv, ht] at h
        exact h
      cases hvflat : flattenTitle visionTitle.1 with
      | error exc =>
        rw [fuseTitle, hvflat] at hfuse
        cases hfuse
      | ok v =>
        cases htflat : flattenTitle textTitle.1 with
        | error exc =>
          rw [fuseTitle, hvflat, htflat] at hfuse
          cases hfuse
        | ok t =>
          exact ⟨readable_of_titleContribution hv hvflat, readable_of_titleContribution ht htflat⟩

/-- The extractor returns a title with confidence NaN just if the answers make it NaN. -/
theorem titleOutcome_nan_iff :
    (∃ title, titleOutcome py vision text = .ok (title, .nan)) ↔ TitleNan py vision text := by
  constructor
  · rintro ⟨title, h⟩
    obtain ⟨hvision, htext⟩ := readable_of_titleOutcome h
    obtain ⟨visionConf, textConf, hvunit, htunit, hvnan, htnan, houtcome⟩ :=
      titleOutcome_of_readable py hvision htext
    have hnan : (reconcileTitles py (givenTitle? vision) visionConf (givenTitle? text)
        textConf).2 = .nan := by
      rw [Except.ok.inj (houtcome.symm.trans h)]
    rw [reconcileTitles_eq_nan py hvunit htunit, hvnan, htnan] at hnan
    exact ⟨hvision, htext, hnan⟩
  · rintro ⟨hvision, htext, hreported⟩
    obtain ⟨visionConf, textConf, hvunit, htunit, hvnan, htnan, houtcome⟩ :=
      titleOutcome_of_readable py hvision htext
    rw [← hvnan, ← htnan, ← reconcileTitles_eq_nan py hvunit htunit] at hreported
    refine ⟨(reconcileTitles py (givenTitle? vision) visionConf (givenTitle? text) textConf).1, ?_⟩
    rw [houtcome, ← hreported]

end Title

/-! ### The document type -/

/-- The document type and the confidence that the extractor makes of the answer. -/
def documentTypeOutcome (py : StrMethods) :
    Answer → Except PyException (Option DocumentType × PyFloat)
  | none => .ok (none, 0)
  | some (.error exc) => .error exc
  | some (.ok parsed) =>
    let coerced := coerceDocumentType py (parsedGet parsed "document_type")
    (coerceConfidence py (parsedGet parsed "confidence")).map fun reportedConfidence =>
      (coerced.1, documentTypeConfidence coerced reportedConfidence)

/-- The answer of the text model makes the confidence in the document type NaN: it names a type, in
the vocabulary or not, with confidence NaN. -/
def DocumentTypeNan (py : StrMethods) (text : Answer) : Prop :=
  ∃ parsed, text = some (.ok parsed) ∧
    (coerceDocumentType py (parsedGet parsed "document_type")).1.isSome ∧
    toFloat py (parsedGet parsed "confidence") = .ok .nan

section DocumentType

variable {py : StrMethods}

theorem documentTypeConfidence_eq_nan {coerced : Option DocumentType × Bool} {c : PyFloat} :
    documentTypeConfidence coerced c = .nan ↔ coerced.1.isSome ∧ c = .nan := by
  rcases coerced with ⟨_ | documentType, inVocabulary⟩
  · exact iff_of_false PyFloat.noConfusion fun h => Bool.false_ne_true h.1
  · cases inVocabulary
    · simp [documentTypeConfidence, pyMin_eq_nan]
    · simp [documentTypeConfidence]

/-- The extractor returns a document type with confidence NaN just if the answer makes it NaN. -/
theorem documentTypeOutcome_nan_iff {text : Answer} :
    (∃ documentType, documentTypeOutcome py text = .ok (documentType, .nan)) ↔
      DocumentTypeNan py text := by
  rcases text with _ | exc | parsed
  · refine iff_of_false ?_ ?_
    · rintro ⟨documentType, h⟩
      cases (Prod.mk.inj (Except.ok.inj h)).2
    · rintro ⟨parsed, h, -⟩
      cases h
  · refine iff_of_false ?_ ?_
    · rintro ⟨documentType, h⟩
      cases h
    · rintro ⟨parsed, h, -⟩
      cases h
  · constructor
    · rintro ⟨documentType, h⟩
      obtain ⟨c, hc, hpair⟩ : ∃ c, coerceConfidence py (parsedGet parsed "confidence") = .ok c ∧
          (_, documentTypeConfidence _ c) = (documentType, PyFloat.nan) := by
        rw [documentTypeOutcome] at h
        cases hc : coerceConfidence py (parsedGet parsed "confidence") with
        | error exc =>
          rw [hc] at h
          cases h
        | ok c =>
          rw [hc] at h
          exact ⟨c, rfl, Except.ok.inj h⟩
      obtain ⟨hsome, rfl⟩ := documentTypeConfidence_eq_nan.mp (Prod.mk.inj hpair).2
      exact ⟨parsed, rfl, hsome, coerceConfidence_eq_nan.mp hc⟩
    · rintro ⟨parsed', hparsed, hsome, hnan⟩
      obtain rfl := Except.ok.inj (Option.some.inj hparsed)
      refine ⟨(coerceDocumentType py (parsedGet parsed "document_type")).1, ?_⟩
      rw [documentTypeOutcome, coerceConfidence_eq_nan.mpr hnan]
      simp only [Except.map, documentTypeConfidence_eq_nan.mpr ⟨hsome, rfl⟩]

/-- The document-type extractor makes its outcome of the answer in its trace. -/
theorem runs_extractDocumentType {context : PipelineContext} {t : List (Event sources PyException)}
    {r : Except PyException ExtractionResult} (h : (extractDocumentType py context).Runs t r) :
    r.map (fun own => (own.documentType, own.documentTypeConfidence)) =
      documentTypeOutcome py (textAnswer? t) := by
  refine (runs_textSource (fun answer r => r.map (fun own => (own.documentType,
    own.documentTypeConfidence)) = documentTypeOutcome py answer) rfl
    (readsParsed_of (fun _ => rfl) fun responseText parsed t r h => ?_) h
    fun _ => ⟨fun _ => rfl, fun _ => rfl⟩).1
  obtain ⟨rfl, rfl⟩ := Program.runs_ofExcept_ret.mp h
  refine ⟨rfl, ?_⟩
  rw [documentTypeOutcome]
  cases coerceConfidence py (parsedGet parsed "confidence") <;> rfl

end DocumentType

/-! ### The drawing number -/

/-- The drawing number that a model contributes. -/
def numberContribution : Answer → Except PyException (Option String)
  | none => .ok none
  | some parsed => parsed.map fun parsed => asStr? (parsedGet parsed "drawing_number")

/-- The drawing number that the extractor makes of the answers, and the sources it names. -/
def numberOutcome (py : StrMethods) (vision text : Answer) (filename : Option String) :
    Except PyException (Option String × List String) := do
  let visionValue ← numberContribution vision
  let textValue ← numberContribution text
  return ((fuseDrawingNumber py visionValue textValue filename).1,
    sourcesUsed [("vision", visionValue.isSome), ("text", textValue.isSome),
      ("filename", filename.isSome)])

section DrawingNumber

variable {py : StrMethods} {context : PipelineContext} {t : List (Event sources PyException)}

/-- A drawing number is read off the parsed answer, and the text of the response is kept. -/
theorem readsParsed_number {expectedSchema : Dict} :
    ReadsParsed (fun answer r => r.map Prod.fst = numberContribution answer) fun responseText =>
      ask (.parseResponse responseText expectedSchema) >>= fun parsed =>
        pure (asStr? (parsedGet parsed "drawing_number"), responseText) := by
  refine readsParsed_of (fun _ => rfl) fun responseText parsed t r h => ?_
  obtain ⟨rfl, rfl⟩ := Program.runs_ret.mp h
  exact ⟨rfl, rfl⟩

theorem runs_drawingNumberFromVision {r : Except PyException (Option String × String)}
    (h : (drawingNumberFromVision context).Runs t r) :
    r.map Prod.fst = numberContribution (visionAnswer? t) ∧ OnlyVision t :=
  runs_visionSource (fun answer r => r.map Prod.fst = numberContribution answer) rfl
    readsParsed_number h ⟨fun _ => rfl, fun _ => rfl⟩ fun _ => ⟨fun _ => rfl, fun _ => rfl⟩

theorem runs_drawingNumberFromText {r : Except PyException (Option String × String)}
    (h : (drawingNumberFromText context).Runs t r) :
    r.map Prod.fst = numberContribution (textAnswer? t) ∧ OnlyText t :=
  runs_textSource (fun answer r => r.map Prod.fst = numberContribution answer) rfl
    readsParsed_number h fun _ => ⟨fun _ => rfl, fun _ => rfl⟩

/-- The filename is parsed, and no exception of the parser is passed on. -/
theorem runs_drawingNumberFromFilename {r : Except PyException (Option String)}
    (h : (drawingNumberFromFilename context).Runs t r) :
    r = .ok (filenameAnswer? t) ∧ visionAnswer? t = none ∧ textAnswer? t = none := by
  obtain ⟨hint, t', rfl, hret⟩ := Program.runs_attempt_perform_bind.mp h
  cases hint <;> obtain ⟨rfl, rfl⟩ := Program.runs_ret.mp hret <;> exact ⟨rfl, rfl, rfl⟩

/-- The drawing-number extractor makes its outcome of the answers in its trace. -/
theorem runs_extractDrawingNumber {r : Except PyException ExtractionResult}
    (h : (extractDrawingNumber py context).Runs t r) :
    r.map (fun own => (own.drawingNumber, own.sourcesUsed)) =
      numberOutcome py (visionAnswer? t) (textAnswer? t) (filenameAnswer? t) := by
  rcases Program.runs_bind.mp h with ⟨t₁, t₂, vision, rfl, hvision, hrest⟩ | ⟨exc, hvision, rfl⟩
  · obtain ⟨hcontributed, happend⟩ := runs_drawingNumberFromVision hvision
    rcases Program.runs_bind.mp hrest with ⟨t₃, t₄, text, rfl, htext, hrest'⟩ | ⟨exc, htext, rfl⟩
    · obtain ⟨hcontributed', hnone, happend'⟩ := runs_drawingNumberFromText htext
      rcases Program.runs_bind.mp hrest' with ⟨t₅, t₆, filename, rfl, hfilename, hret⟩ |
        ⟨exc, hfilename, -⟩
      · obtain ⟨hhint, hvisionless, htextless⟩ := runs_drawingNumberFromFilename hfilename
        obtain rfl := Except.ok.inj hhint
        obtain ⟨rfl, rfl⟩ := Program.runs_ret.mp hret
        obtain ⟨hnone', htext', hfilename'⟩ := happend' t₅ hvisionless htextless
        obtain ⟨hv, ht, hf⟩ := happend (t₃ ++ t₅) hnone'
        rw [List.append_nil, hv, ht, hf, htext', hfilename', numberOutcome, ← hcontributed,
          ← hcontributed']
        rfl
      · cases (runs_drawingNumberFromFilename hfilename).1
    · obtain ⟨hcontributed', hnone, -⟩ := runs_drawingNumberFromText htext
      obtain ⟨hv, ht, -⟩ := happend t₂ hnone
      rw [hv, ht, numberOutcome, ← hcontributed, ← hcontributed']
      rfl
  · rw [numberOutcome, ← (runs_drawingNumberFromVision hvision).1]
    rfl

end DrawingNumber

/-- The vote gives constants, none of which is NaN. -/
theorem vote_ne_nan (vision text filename : Option String) :
    (vote vision text filename).2 ≠ .nan := by
  rw [vote]
  cases mostCommon [vision, text, filename].reduceOption with
  | none => exact PyFloat.noConfusion
  | some winner =>
    dsimp only
    split_ifs <;> exact PyFloat.noConfusion

/-- Whatever its sources answer, the extractor does not score the drawing number with NaN. -/
theorem extractDrawingNumber_ne_nan (py : StrMethods) (context : PipelineContext) :
    Program.Safe (S := sources) (ε := PyException) (fun _ _ => True) (fun _ _ => True)
      (fun _ r => ∀ own : ExtractionResult, r = .ok own → own.drawingNumberConfidence ≠ .nan)
      (extractDrawingNumber py context) [] := by
  refine (extractDrawingNumber_fused py context).mono (fun _ _ h => h) (fun _ _ h => h)
    fun _ _ hfused own hown => ?_
  obtain ⟨vision, text, filename, hvote⟩ := hfused own hown
  have hnan := vote_ne_nan (normalise py vision) (normalise py text) (normalise py filename)
  rw [← fuseDrawingNumber, hvote] at hnan
  exact hnan

end ZubotIngestion
