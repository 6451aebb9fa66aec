import ZubotIngestion.Domain.Entities
import ZubotIngestion.Effects.Logic
import ZubotIngestion.Python.Text

/-!
# The sources of the extractors

What an extractor calls: the PDF processor, the model server, the filename parser and the response
parser. Each call returns a value or raises. A page, a text or a filename hint that an earlier
extractor has cached on the context is an answer like any other. The prompts are named, their texts
are left out; the model names and the temperature are constants.

## Main definitions

* `SourceOp`, `sources`, `Extraction`: programs that call the sources.
* `getOrExtractText`, `coerceConfidence`: what the extractors share.

## Main results

* `isUnit_coerceConfidence`: a coerced confidence is a number of the unit interval, or NaN.
-/

namespace ZubotIngestion

open Effects

/-- The prompts. -/
inductive Prompt : Type where
  /-- `DRAWING_NUMBER_VISION_PROMPT_V1`. -/
  | drawingNumberVision
  /-- `DRAWING_NUMBER_TEXT_PROMPT_V1`. -/
  | drawingNumberText
  /-- `TITLE_VISION_PROMPT_V1`. -/
  | titleVision
  /-- `TITLE_TEXT_PROMPT_V1`. -/
  | titleText
  /-- `DOCUMENT_TYPE_TEXT_PROMPT_V1`. -/
  | documentTypeText
  deriving DecidableEq

/-- The calls of the extractors. -/
inductive SourceOp : Type where
  /-- `_get_or_render_first_page`; the answer is the `base64_jpeg` of the page. -/
  | renderFirstPage (pdfBytes : Bytes)
  /-- `extract_text`, or the text that is cached. -/
  | extractText (pdfBytes : Bytes)
  /-- `generate_vision`; the answer is its `response_text`. -/
  | generateVision (imageBase64 : String) (prompt : Prompt)
  /-- `generate_text`; the answer is its `response_text`. -/
  | generateText (text : String) (prompt : Prompt)
  /-- `parse` of the filename parser; the answer is its `drawing_number_hint`. -/
  | parseFilename (filename : String)
  /-- `parse` of the response parser, which fills missing keys from the schema. -/
  | parseResponse (responseText : String) (expectedSchema : Dict)

/-- The value a source returns. -/
def SourceOp.Res : SourceOp → Type
  | .renderFirstPage _ => String
  | .extractText _ => String
  | .generateVision .. => String
  | .generateText .. => String
  | .parseFilename _ => Option String
  | .parseResponse .. => Dict

/-- The signature of the sources. -/
abbrev sources : Signature := ⟨SourceOp, SourceOp.Res⟩

/-- A program that calls the sources. -/
abbrev Extraction (α : Type) : Type := Program sources PyException α

/-- Call a source, raising what it raises. -/
abbrev ask (op : SourceOp) : Extraction op.Res := Program.perform (S := sources) op

/-- What follows a caught call: nothing is found without its value. -/
def Guards {α β : Type} (f : Except PyException β → Extraction α) (absent : α)
    (next : β → Extraction α) : Prop :=
  (∀ exc, f (.error exc) = pure absent) ∧ ∀ value, f (.ok value) = next value

/-- `_get_or_extract_text`: no text if it cannot be extracted. -/
def getOrExtractText (pdfBytes : Bytes) : Extraction String := do
  match ← (ask (.extractText pdfBytes)).attempt with
  | .ok text => return text
  | .error _ => return ""

/-- `parsed.get(key)`. -/
def parsedGet (parsed : Dict) (key : String) : PyVal := (parsed.get? key).getD .none

/-- `_coerce_confidence`: `TypeError` and `ValueError` are caught. -/
def coerceConfidence (py : StrMethods) (value : PyVal) : Except PyException PyFloat :=
  match toFloat py value with
  | .ok f => .ok f.clampUnit
  | .error exc =>
    if exc.typeName = "TypeError" ∨ exc.typeName = "ValueError" then .ok 0 else .error exc

theorem isUnit_coerceConfidence {py : StrMethods} {value : PyVal} {f : PyFloat}
    (h : coerceConfidence py value = .ok f) : f.IsUnit := by
  rw [coerceConfidence] at h
  cases hfloat : toFloat py value with
  | ok g =>
    rw [hfloat] at h
    rw [← Except.ok.inj h]
    exact g.isUnit_clampUnit
  | error exc =>
    rw [hfloat] at h
    dsimp only at h
    split_ifs at h
    rw [← Except.ok.inj h]
    exact PyFloat.isUnit_zero

end ZubotIngestion
