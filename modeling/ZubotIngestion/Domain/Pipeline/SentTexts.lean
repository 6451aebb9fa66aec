import ZubotIngestion.Domain.Pipeline.Reported

/-!
# What the text model is sent

The coroutines that ask the text model take the text of the document first, and ask only if it is
not empty. What they send is read off the trace of their calls.

## Main definitions

* `sentTexts`: the texts in a trace.
* `SendsJust`: what becomes of a text.

## Main results

* `sendsJust_drawingNumberFromText`, `sendsJust_titleFromText`, `sendsJust_extractDocumentType`:
  the coroutines send the extracted text, or the part of it that is about the first and the last
  page.
-/

namespace ZubotIngestion

open Effects

/-- The texts that are sent to the text model. -/
def sentTexts : List (Event sources PyException) → List String
  | [] => []
  | ⟨.generateText text _, _⟩ :: t => text :: sentTexts t
  | _ :: t => sentTexts t

/-- An empty text is not sent and nothing is found; any other text is sent, and nothing else. -/
def SendsJust (text : String) {α : Type} (absent : α) (t : List (Event sources PyException))
    (r : Except PyException α) : Prop :=
  text = "" ∧ sentTexts t = [] ∧ r = .ok absent ∨ text ≠ "" ∧ sentTexts t = [text]

section Runs

variable {py : StrMethods} {context : PipelineContext} {t : List (Event sources PyException)}
  {text : String}

/-- A text is asked about if it is not empty, and what is made of the response sends nothing. -/
theorem sendsJust_of_runs {α : Type} {sent : String} {prompt : Prompt} {absent : α}
    {f : Except PyException String → Extraction α} {r : Except PyException α}
    (hf : ∀ response t' r', (f response).Runs t' r' → sentTexts t' = [])
    (h : Program.Runs (if sent = "" then pure absent
      else (ask (.generateText sent prompt)).attempt >>= f) t r) :
    SendsJust sent absent t r := by
  obtain ⟨hempty, rfl, rfl⟩ | ⟨hsent, response, t', rfl, hresponse⟩ := runs_askText h
  · exact Or.inl ⟨hempty, rfl, rfl⟩
  · exact Or.inr ⟨hsent, congrArg (sent :: ·) (hf response t' r hresponse)⟩

/-- A text that is not empty is asked about. -/
theorem runs_of_sent {α : Type} {sent : String} (hsent : sent ≠ "") {prompt : Prompt} {absent : α}
    {f : Except PyException String → Extraction α} {response : Except PyException String}
    {r : Except PyException α} (h : (f response).Runs t r) :
    Program.Runs (if sent = "" then pure absent
      else (ask (.generateText sent prompt)).attempt >>= f)
        (⟨.generateText sent prompt, response⟩ :: t) r := by
  rw [if_neg hsent]
  exact Program.runs_attempt_perform_bind.mpr ⟨response, t, rfl, h⟩

/-- The text of the document is what was extracted. -/
theorem runs_extracted_iff {α : Type} {pdfBytes : Bytes} {f : String → Extraction α}
    {r : Except PyException α} :
    (getOrExtractText pdfBytes >>= f).Runs (⟨.extractText pdfBytes, .ok text⟩ :: t) r ↔
      (f text).Runs t r := by
  constructor
  · intro h
    rcases Program.runs_bind.mp h with ⟨t₁, t₂, text', htrace, hextract, hrest⟩ |
      ⟨exc, hextract, -⟩
    · obtain ⟨extracted, t', rfl, hret⟩ := Program.runs_attempt_perform_bind.mp hextract
      obtain ⟨hevent, rfl⟩ := List.cons.inj htrace
      obtain rfl := eq_of_heq (Sigma.mk.inj hevent).2
      obtain ⟨rfl, htext⟩ := Program.runs_ret.mp hret
      obtain rfl := Except.ok.inj htext
      exact hrest
    · obtain ⟨extracted, text', -, htext⟩ := runs_getOrExtractText hextract
      cases htext
  · intro h
    refine Program.runs_bind.mpr (Or.inl ⟨[_], t, text, rfl, ?_, h⟩)
    exact Program.runs_attempt_perform_bind.mpr ⟨.ok text, [], rfl, Program.runs_ret.mpr ⟨rfl, rfl⟩⟩

/-- Parsing a response sends nothing. -/
theorem Guards.sentTexts_eq_nil {α : Type} {R : Answer → Except PyException α → Prop}
    {f : Except PyException String → Extraction α} {absent : α} {read : String → Extraction α}
    (hf : Guards f absent read) (hread : ReadsParsed R read)
    (response : Except PyException String) (t' : List (Event sources PyException))
    (r : Except PyException α) (h : (f response).Runs t' r) : sentTexts t' = [] := by
  obtain ⟨exc, rfl, rfl, rfl⟩ | ⟨responseText, rfl, hanswer⟩ := hf.runs h
  · rfl
  · obtain ⟨expectedSchema, parsed, rfl, -⟩ := hread _ _ _ hanswer
    rfl

theorem sendsJust_drawingNumberFromText {r : Except PyException (Option String × String)}
    (h : (drawingNumberFromText context).Runs (⟨.extractText context.pdfBytes, .ok text⟩ :: t) r) :
    SendsJust text (none, "") t r :=
  sendsJust_of_runs (Guards.sentTexts_eq_nil ⟨fun _ => rfl, fun _ => rfl⟩ readsParsed_number)
    (runs_extracted_iff.mp h)

theorem sendsJust_titleFromText {r : Except PyException (PyVal × PyFloat)}
    (h : (titleFromText py context).Runs (⟨.extractText context.pdfBytes, .ok text⟩ :: t) r) :
    SendsJust (firstAndLastPageText text) (.none, 0) t r :=
  sendsJust_of_runs
    (Guards.sentTexts_eq_nil ⟨fun _ => rfl, fun _ => rfl⟩ readsParsed_titleOfResponse)
    (runs_extracted_iff.mp h)

theorem sendsJust_extractDocumentType {r : Except PyException ExtractionResult}
    (h : (extractDocumentType py context).Runs (⟨.extractText context.pdfBytes, .ok text⟩ :: t) r) :
    SendsJust text noDocumentType t r := by
  refine sendsJust_of_runs (Guards.sentTexts_eq_nil ⟨fun _ => rfl, fun _ => rfl⟩
    (readsParsed_of (R := fun _ _ => True) (fun _ => trivial) fun _ _ t' r' h' => ?_))
    (runs_extracted_iff.mp h)
  exact ⟨(Program.runs_ofExcept_ret.mp h').1, trivial⟩

end Runs

end ZubotIngestion
