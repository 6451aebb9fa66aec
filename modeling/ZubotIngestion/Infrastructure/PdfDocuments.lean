import ZubotIngestion.Effects.Ensuring
import ZubotIngestion.Infrastructure.PdfProcessor
import ZubotIngestion.Services.CompanionCoherence

/-!
# Open documents

Every method of `PyMuPDFProcessor` opens a document from its bytes, works on it in a `with` block,
and some of what the library raises in there is caught. A method opens at most one document, works
on it only while it is open, and leaves it closed, whatever raises. On a file whose pages do not
change, the methods compute what the functions of the open document say, and `render_pages` gives
the images of `render_page`.

## Main definitions

* `PdfMethod`, `PdfMethod.program`: the methods, as programs that call the library.
* `documentOpen`, `Permitted`: the life of a document, read off the calls.
* `IntactFile`, `documentOf`: a file whose pages do not change.

## Main results

* `documents_closed`: every run of a method.
* `pdfProcessor_computes`: the outcomes of the methods on a file.
-/

namespace ZubotIngestion

open Effects Effects.Program

/-! ### The calls of the library -/

/-- The factor of the matrix of `get_pixmap`. -/
inductive Zoom : Type where
  | scale (scale : PyFloat)
  /-- The resolution over 72. -/
  | resolution (dpi : ℤ)

/-- The size of a pixmap. -/
structure Pixmap where
  width : ℤ
  height : ℤ

/-- The calls on a document and on its pages. -/
inductive PdfOp : Type where
  | openStream (pdfBytes : Bytes)
  | needsPass
  | isEncrypted
  | close
  | pageCount
  | metadata
  | loadPage (idx : ℤ)
  | getText (idx : ℤ)
  | getPixmap (idx : ℤ) (zoom : Zoom)
  | toJpeg (idx : ℤ) (zoom : Zoom) (quality : ℕ)
  /-- The time since `load_page`, in milliseconds. -/
  | elapsedMs

/-- What the calls return. -/
abbrev PdfOp.Res : PdfOp → Type
  | .needsPass => Bool
  | .isEncrypted => Bool
  | .pageCount => ℤ
  | .metadata => Option (List (String × Option String))
  | .getText _ => String
  | .getPixmap .. => Pixmap
  | .toJpeg .. => Bytes
  | .elapsedMs => ℤ
  | _ => Unit

/-- The library, as a signature. -/
abbrev fitz : Signature := ⟨PdfOp, PdfOp.Res⟩

abbrev PdfProgram (α : Type) : Type := Program fitz PyException α

abbrev PdfCall : Type := Event fitz PyException

/-- One call of the library. -/
def fitzCall (op : PdfOp) : PdfProgram op.Res := Program.perform (S := fitz) op

/-! ### Opening a document -/

/-- What the processor takes from elsewhere: `isinstance(exc, cls)`, the digest of the bytes, and
their encoding as text. -/
structure PdfSurroundings where
  isInstance : PyException → String → Bool
  sha256Hex : Bytes → FileHash
  b64encode : Bytes → String

/-- `_METADATA_KEYS`. -/
def metadataKeys : List String :=
  ["title", "author", "subject", "creator", "producer", "creationDate", "modDate", "keywords",
    "format"]

/-- `_JPEG_QUALITY`. -/
def jpegQuality : ℕ := 85

/-- `_normalize_metadata`. -/
def normalizeMetadata (raw : Option (List (String × Option String))) :
    List (String × Option String) :=
  metadataKeys.map fun key => (key, ((raw.getD []).lookup key).join.bind orNone)

section Processor

variable (env : PdfSurroundings)

/-- The `except` clauses around `fitz.open`, in their order. -/
def translateOpenError (exc : PyException) : PyException :=
  if env.isInstance exc "fitz.FileDataError" then
    .error "PDFCorruptedError" s!"Failed to open PDF: {exc.message}"
  else if env.isInstance exc "fitz.EmptyFileError" then
    .error "PDFCorruptedError" "PDF stream is empty"
  else if env.isInstance exc "RuntimeError" then
    .error "PDFCorruptedError" s!"Failed to open PDF: {exc.message}"
  else exc

/-- `doc.needs_pass or doc.is_encrypted`. -/
def isLocked : PdfProgram Bool := do
  let needsPass : Bool ← fitzCall .needsPass
  if needsPass then return true else fitzCall .isEncrypted

/-- `_open_document`. -/
def openDocument (pdfBytes : Bytes) : PdfProgram Unit :=
  if pdfBytes = [] then raise (.error "PDFCorruptedError" "PDF bytes are empty")
  else do
    match ← (fitzCall (.openStream pdfBytes)).attempt with
    | .error exc => raise (translateOpenError env exc)
    | .ok _ =>
      let locked ← isLocked
      if locked then
        let _ ← (fitzCall .close).attempt
        raise (.error "PDFEncryptedError" "PDF is encrypted or password-protected")
      else return ()

/-- `with _open_document(pdf_bytes) as doc`: the end of the block closes the document. -/
def withDocument {α : Type} (pdfBytes : Bytes) (body : PdfProgram α) : PdfProgram α := do
  openDocument env pdfBytes
  body.ensuring (fitzCall .close)

/-! ### The methods -/

/-- The indices of the pages that `for page in doc` goes through. -/
def pageIndices (pageCount : ℤ) : List ℤ := (List.range pageCount.toNat).map Nat.cast

/-- The loop of `load`: a page with a text ends it. -/
def findTextLayer : List ℤ → PdfProgram Bool
  | [] => return false
  | idx :: indices => do
    let _ ← fitzCall (.loadPage idx)
    let text : String ← fitzCall (.getText idx)
    if strip text ≠ "" then return true else findTextLayer indices

/-- What `load` returns. -/
structure LoadedPdf where
  pageCount : ℤ
  fileHash : FileHash
  metadata : List (String × Option String)
  isEncrypted : Bool
  hasTextLayer : Bool

/-- `load`. -/
def loadDocument (pdfBytes : Bytes) : PdfProgram LoadedPdf :=
  withDocument env pdfBytes do
    let pageCount : ℤ ← fitzCall .pageCount
    let metadata ← fitzCall .metadata
    let count : ℤ ← fitzCall .pageCount
    let hasTextLayer ← findTextLayer (pageIndices count)
    return ⟨pageCount, env.sha256Hex pdfBytes, normalizeMetadata metadata, false, hasTextLayer⟩

/-- `page.get_text("text") or ""` of the page with an index, where all exceptions are caught. -/
def readPage (idx : PdfProgram ℤ) : PdfProgram String := do
  let text ← (do
    let idx ← idx
    let _ ← fitzCall (.loadPage idx)
    fitzCall (.getText idx) : PdfProgram String).attempt
  return textOfPage text

/-- The loop of `extract_text`; only what `get_text` raises is caught. -/
def readPages (i : ℕ) : List ℤ → PdfProgram (List String)
  | [] => return []
  | idx :: indices => do
    let _ ← fitzCall (.loadPage idx)
    let text ← (fitzCall (.getText idx)).attempt
    let parts ← readPages (i + 1) indices
    return pageSeparator i :: textOfPage text :: parts

/-- The `with` block of `extract_text`. -/
def readAll : PdfProgram (List String) := do
  let count : ℤ ← fitzCall .pageCount
  readPages 1 (pageIndices count)

/-- `extract_text`. -/
def extractTextOf (pdfBytes : Bytes) : PdfProgram String := do
  let parts ← withDocument env pdfBytes readAll
  return String.join parts

/-- `_resolve_page_index(page_number, doc.page_count)`. -/
def resolveIn (pageNumber : ℤ) : PdfProgram ℤ := do
  let pageCount ← fitzCall .pageCount
  ofExcept (resolvePageIndex pageNumber pageCount)

/-- The `with` block of `extract_page_text`; the resolution of the number is in front of the
`try`. -/
def readResolved (pageNumber : ℤ) : PdfProgram String := do
  let idx ← resolveIn pageNumber
  readPage (return idx)

/-- `extract_page_text`. -/
def extractPageTextOf (pdfBytes : Bytes) (pageNumber : ℤ) : PdfProgram String :=
  withDocument env pdfBytes (readResolved pageNumber)

/-- The loop of `extract_page_texts`; the resolution of the number is inside of the `try`. -/
def readPageNumbers (results : List (ℤ × String)) : List ℤ → PdfProgram (List (ℤ × String))
  | [] => return results
  | pageNumber :: pageNumbers => do
    let text ← readPage (resolveIn pageNumber)
    readPageNumbers (setPageText results pageNumber text) pageNumbers

/-- `extract_page_texts`. -/
def extractPageTextsOf (pdfBytes : Bytes) (pageNumbers : List ℤ) :
    PdfProgram (List (ℤ × String)) :=
  if pageNumbers = [] then return []
  else withDocument env pdfBytes (readPageNumbers [] pageNumbers)

/-- The image of a page. -/
structure PageImage where
  pageNumber : ℤ
  jpegBytes : Bytes
  base64Jpeg : String
  widthPx : ℤ
  heightPx : ℤ
  dpi : ℤ
  renderTimeMs : ℤ

/-- What the pipeline uses of an image. -/
def PageImage.rendered (image : PageImage) : RenderedPage := ⟨image.pageNumber, image.base64Jpeg⟩

/-- The zoom of `_render_single_page`. -/
def zoomOf (dpi : ℤ) (scale : Option PyFloat) : Zoom := (scale.map .scale).getD (.resolution dpi)

/-- `_render_single_page`. -/
def renderSinglePage (pageNumber dpi : ℤ) (scale : Option PyFloat) : PdfProgram PageImage := do
  let idx ← resolveIn pageNumber
  let _ ← fitzCall (.loadPage idx)
  let pixmap : Pixmap ← fitzCall (.getPixmap idx (zoomOf dpi scale))
  let jpegBytes ← fitzCall (.toJpeg idx (zoomOf dpi scale) jpegQuality)
  let renderTimeMs ← fitzCall .elapsedMs
  return ⟨idx, jpegBytes, env.b64encode jpegBytes, pixmap.width, pixmap.height, dpi, renderTimeMs⟩

/-- The loop of `render_pages`. -/
def renderEach (dpi : ℤ) (scale : Option PyFloat) : List ℤ → PdfProgram (List PageImage)
  | [] => return []
  | pageNumber :: pageNumbers => do
    let image ← renderSinglePage env pageNumber dpi scale
    let images ← renderEach dpi scale pageNumbers
    return image :: images

/-- `render_page`. -/
def renderPageOf (pdfBytes : Bytes) (pageNumber dpi : ℤ) (scale : Option PyFloat) :
    PdfProgram PageImage :=
  withDocument env pdfBytes (renderSinglePage env pageNumber dpi scale)

/-- `render_pages`. -/
def renderPagesOf (pdfBytes : Bytes) (pageNumbers : List ℤ) (dpi : ℤ) (scale : Option PyFloat) :
    PdfProgram (List PageImage) :=
  withDocument env pdfBytes (renderEach env dpi scale pageNumbers)

end Processor

/-- A call of the processor. -/
inductive PdfMethod : Type where
  | load (pdfBytes : Bytes)
  | extractText (pdfBytes : Bytes)
  | extractPageText (pdfBytes : Bytes) (pageNumber : ℤ)
  | extractPageTexts (pdfBytes : Bytes) (pageNumbers : List ℤ)
  | renderPage (pdfBytes : Bytes) (pageNumber dpi : ℤ) (scale : Option PyFloat)
  | renderPages (pdfBytes : Bytes) (pageNumbers : List ℤ) (dpi : ℤ) (scale : Option PyFloat)

/-- What the methods return. -/
def PdfMethod.Res : PdfMethod → Type
  | load _ => LoadedPdf
  | extractText _ => String
  | extractPageText .. => String
  | extractPageTexts .. => List (ℤ × String)
  | renderPage .. => PageImage
  | renderPages .. => List PageImage

/-- The programs of the methods. -/
def PdfMethod.program (env : PdfSurroundings) : (m : PdfMethod) → PdfProgram m.Res
  | load pdfBytes => loadDocument env pdfBytes
  | extractText pdfBytes => extractTextOf env pdfBytes
  | extractPageText pdfBytes pageNumber => extractPageTextOf env pdfBytes pageNumber
  | extractPageTexts pdfBytes pageNumbers => extractPageTextsOf env pdfBytes pageNumbers
  | renderPage pdfBytes pageNumber dpi scale => renderPageOf env pdfBytes pageNumber dpi scale
  | renderPages pdfBytes pageNumbers dpi scale => renderPagesOf env pdfBytes pageNumbers dpi scale

/-! ### The life of a document -/

/-- What a call does to the document that is open. -/
def documentStep (isOpen : Bool) : PdfCall → Bool
  | ⟨.openStream _, .ok _⟩ => true
  | ⟨.close, _⟩ => false
  | _ => isOpen

/-- A document is open after the calls. -/
def documentOpen (t : List PdfCall) : Bool := t.foldl documentStep false

/-- Reading a flag of a document raised. -/
def flagRaised : PdfCall → Bool
  | ⟨.needsPass, .error _⟩ => true
  | ⟨.isEncrypted, .error _⟩ => true
  | _ => false

/-- A call that is made after the others: a document is opened first of all, and everything else
is done while it is open. -/
def Permitted (t : List PdfCall) : PdfOp → Prop
  | .openStream _ => t = []
  | _ => documentOpen t = true

/-- The calls inside of a `with` block. -/
def IsInside : PdfOp → Prop
  | .openStream _ => False
  | .needsPass => False
  | .isEncrypted => False
  | .close => False
  | _ => True

/-- The calls that read the pages of a document. -/
def ReadsPages : PdfOp → Prop
  | .pageCount => True
  | .metadata => True
  | .loadPage _ => True
  | .getText _ => True
  | _ => False

theorem ReadsPages.isInside {op : PdfOp} (h : ReadsPages op) : IsInside op := by
  cases op <;> first | exact h.elim | trivial

theorem ReadsPages.isUntimed {op : PdfOp} (h : ReadsPages op) : op ≠ .elapsedMs := by
  rintro rfl
  exact h

/-- A document is open, and its flags have been read. -/
def Working (t : List PdfCall) : Prop := documentOpen t = true ∧ t.any flagRaised = false

/-- A method may end: no document is open, or else reading a flag has raised. -/
def Finished (t : List PdfCall) : Prop := documentOpen t = t.any flagRaised

theorem documentOpen_concat (t : List PdfCall) (c : PdfCall) :
    documentOpen (t ++ [c]) = documentStep (documentOpen t) c := by
  rw [documentOpen, List.foldl_append]
  rfl

theorem any_flagRaised_concat (t : List PdfCall) (c : PdfCall) :
    (t ++ [c]).any flagRaised = (t.any flagRaised || flagRaised c) := by
  rw [List.any_append, List.any_cons, List.any_nil, Bool.or_false]

/-- The calls inside of a block go on with the open document. -/
theorem Working.concat {t : List PdfCall} (h : Working t) {op : PdfOp} (hop : IsInside op)
    (r : Except PyException op.Res) : Working (t ++ [⟨op, r⟩]) := by
  rw [Working, documentOpen_concat, any_flagRaised_concat, h.2]
  cases op <;> first | exact hop.elim | exact ⟨h.1, rfl⟩

theorem Working.permitted {t : List PdfCall} (h : Working t) {op : PdfOp} (hop : IsInside op) :
    Permitted t op := by
  cases op <;> first | exact hop.elim | exact h.1

/-- Whatever the library answers. -/
def AnyAnswer (op : PdfOp) (_ : Except PyException op.Res) : Prop := True

/-- A program that goes on with the open document. -/
abbrev Lives {α : Type} (Q : List PdfCall → Except PyException α → Prop) (p : PdfProgram α)
    (t : List PdfCall) : Prop := p.Safe (S := fitz) AnyAnswer Permitted Q t

/-- The block of an open document. -/
theorem lives_inside {α : Type} {p : PdfProgram α} (h : p.Only (S := fitz) IsInside)
    {t : List PdfCall} (ht : Working t) : Lives (fun t' _ => Working t') p t :=
  h.safe_of_invariant (fun _ _ hop ht => ht.permitted hop) (fun _ _ r hop _ ht => ht.concat hop r)
    ht

/-- Closing a document ends its life, even if the close raises. -/
theorem finished_close {t : List PdfCall} (h : Working t) (r : Except PyException Unit) :
    Finished (t ++ [⟨.close, r⟩]) := by
  rw [Finished, documentOpen_concat, any_flagRaised_concat, h.2]
  rfl

/-- A flag that cannot be read leaves the document open. -/
theorem finished_flag {t : List PdfCall} (h : Working t) {op : PdfOp}
    (hop : op = .needsPass ∨ op = .isEncrypted) (e : PyException) :
    Finished (t ++ [⟨op, .error e⟩]) := by
  rw [Finished, documentOpen_concat, any_flagRaised_concat, h.2]
  rcases hop with rfl | rfl <;> exact h.1

theorem working_flag {t : List PdfCall} (h : Working t) {op : PdfOp}
    (hop : op = .needsPass ∨ op = .isEncrypted) (flag : op.Res) :
    Working (t ++ [⟨op, .ok flag⟩]) := by
  rw [Working, documentOpen_concat, any_flagRaised_concat, h.2]
  rcases hop with rfl | rfl <;> exact ⟨h.1, rfl⟩

/-- The document goes on after a program that returns, and its life has ended after one that
raises. -/
def GoesOn {α : Type} (t : List PdfCall) : Except PyException α → Prop
  | .ok _ => Working t
  | .error _ => Finished t

/-- The flags are read of an open document. -/
theorem lives_isLocked {t : List PdfCall} (ht : Working t) : Lives GoesOn isLocked t := by
  refine Safe.perform_bind ht.1 (fun e _ => finished_flag ht (Or.inl rfl) e) fun needsPass _ => ?_
  have hpass := working_flag ht (Or.inl rfl) needsPass
  cases needsPass with
  | true => exact hpass
  | false =>
    change Lives GoesOn (fitzCall .isEncrypted) _
    refine (safe_perform (S := fitz) PdfOp.isEncrypted _).mpr ⟨hpass.1, fun r _ => ?_⟩
    cases r with
    | ok encrypted => exact working_flag hpass (Or.inr rfl) encrypted
    | error e => exact finished_flag hpass (Or.inr rfl) e

section Life

variable (env : PdfSurroundings)

/-- A document is opened; one that is locked is closed again. -/
theorem lives_openDocument (pdfBytes : Bytes) : Lives GoesOn (openDocument env pdfBytes) [] := by
  rw [openDocument]
  split_ifs with hempty
  · exact rfl
  · refine Safe.attempt_bind rfl fun r _ => ?_
    cases r with
    | error exc => exact rfl
    | ok u =>
      refine (lives_isLocked ⟨rfl, rfl⟩).bind (fun t' locked ht' => ?_) fun _ _ h => h
      cases locked with
      | true => exact Safe.attempt_bind ht'.1 fun r _ => finished_close ht' r
      | false => exact ht'

/-- A block on a document, from its opening to its close. -/
theorem lives_withDocument {α : Type} (pdfBytes : Bytes) {body : PdfProgram α}
    (h : body.Only (S := fitz) IsInside) :
    Lives (fun t _ => Finished t) (withDocument env pdfBytes body) [] := by
  refine (lives_openDocument env pdfBytes).bind (fun t _ ht => ?_) fun _ _ h => h
  refine (lives_inside h ht).ensuring fun t' r ht' => ?_
  exact (safe_perform (S := fitz) PdfOp.close t').mpr ⟨ht'.1, fun c _ => finished_close ht' c⟩

/-! ### Inside of the blocks -/

theorem only_findTextLayer (indices : List ℤ) :
    (findTextLayer indices).Only (S := fitz) ReadsPages := by
  induction indices with
  | nil => trivial
  | cons idx indices ih =>
    refine Only.perform_bind trivial fun _ => Only.perform_bind trivial fun text => ?_
    split_ifs
    · trivial
    · exact ih

theorem only_readPage {idx : PdfProgram ℤ} (h : idx.Only (S := fitz) ReadsPages) :
    (readPage idx).Only (S := fitz) ReadsPages := by
  refine (h.bind fun idx => ?_).attempt.bind fun _ => trivial
  exact Only.perform_bind trivial fun _ => (only_perform _).mpr trivial

theorem only_readPages (i : ℕ) (indices : List ℤ) :
    (readPages i indices).Only (S := fitz) ReadsPages := by
  induction indices generalizing i with
  | nil => trivial
  | cons idx indices ih =>
    exact Only.perform_bind trivial fun _ => Only.attempt_bind trivial fun _ =>
      (ih (i + 1)).bind fun _ => trivial

theorem only_resolveIn (pageNumber : ℤ) : (resolveIn pageNumber).Only (S := fitz) ReadsPages := by
  refine Only.perform_bind trivial fun pageCount => ?_
  cases resolvePageIndex pageNumber pageCount <;> trivial

theorem only_readAll : readAll.Only (S := fitz) ReadsPages :=
  Only.perform_bind trivial fun _ => only_readPages 1 _

theorem only_readResolved (pageNumber : ℤ) :
    (readResolved pageNumber).Only (S := fitz) ReadsPages :=
  (only_resolveIn pageNumber).bind fun _ => only_readPage trivial

theorem only_readPageNumbers (results : List (ℤ × String)) (pageNumbers : List ℤ) :
    (readPageNumbers results pageNumbers).Only (S := fitz) ReadsPages := by
  induction pageNumbers generalizing results with
  | nil => trivial
  | cons pageNumber pageNumbers ih =>
    exact (only_readPage (only_resolveIn pageNumber)).bind fun _ => ih _

theorem only_renderSinglePage (pageNumber dpi : ℤ) (scale : Option PyFloat) :
    (renderSinglePage env pageNumber dpi scale).Only (S := fitz) IsInside :=
  ((only_resolveIn pageNumber).mono fun _ => ReadsPages.isInside).bind fun _ =>
    Only.perform_bind trivial fun _ => Only.perform_bind trivial fun _ =>
      Only.perform_bind trivial fun _ => Only.perform_bind trivial fun _ => trivial

theorem only_renderEach (dpi : ℤ) (scale : Option PyFloat) (pageNumbers : List ℤ) :
    (renderEach env dpi scale pageNumbers).Only (S := fitz) IsInside := by
  induction pageNumbers with
  | nil => trivial
  | cons pageNumber pageNumbers ih =>
    exact (only_renderSinglePage env pageNumber dpi scale).bind fun _ => ih.bind fun _ => trivial

/-- Every method opens and closes its document. -/
theorem lives_program (m : PdfMethod) :
    Lives (fun t _ => Finished t) (m.program env) [] := by
  cases m with
  | load pdfBytes =>
    refine lives_withDocument env pdfBytes (Only.mono ?_ fun _ => ReadsPages.isInside)
    exact Only.perform_bind trivial fun _ => Only.perform_bind trivial fun _ =>
      Only.perform_bind trivial fun _ => (only_findTextLayer _).bind fun _ => trivial
  | extractText pdfBytes =>
    exact (lives_withDocument env pdfBytes (only_readAll.mono fun _ => ReadsPages.isInside)).bind
      (fun _ _ h => h) fun _ _ h => h
  | extractPageText pdfBytes pageNumber =>
    exact lives_withDocument env pdfBytes
      ((only_readResolved pageNumber).mono fun _ => ReadsPages.isInside)
  | extractPageTexts pdfBytes pageNumbers =>
    change Lives _ (extractPageTextsOf env pdfBytes pageNumbers) []
    rw [extractPageTextsOf]
    split_ifs with hempty
    · exact rfl
    · exact lives_withDocument env pdfBytes
        ((only_readPageNumbers [] pageNumbers).mono fun _ => ReadsPages.isInside)
  | renderPage pdfBytes pageNumber dpi scale =>
    exact lives_withDocument env pdfBytes (only_renderSinglePage env pageNumber dpi scale)
  | renderPages pdfBytes pageNumbers dpi scale =>
    exact lives_withDocument env pdfBytes (only_renderEach env dpi scale pageNumbers)

/-- In every run of a method, whatever the library answers, a document is opened by the first call
or not at all, all other calls are made while it is open, and it is closed at the end, unless
reading one of its two flags raised. -/
theorem documents_closed (m : PdfMethod) (t : List PdfCall) (o : Except PyException m.Res)
    (hrun : (m.program env).Runs (S := fitz) t o) :
    (∀ pre c post, t = pre ++ c :: post → Permitted pre c.1) ∧
      (documentOpen t = true ↔ ∃ c ∈ t, flagRaised c = true) := by
  have hlives := lives_program env m
  have hkept := hlives.kept_of_runs Kept.nil hrun fun _ _ => trivial
  have hfinished : Finished t := hlives.of_runs hrun fun _ _ => trivial
  refine ⟨fun pre c post h => (hkept pre c post h).1, ?_⟩
  rw [hfinished, List.any_eq_true]

end Life

/-- Surroundings in which no exception is one of the library's. -/
def noFitzErrors : PdfSurroundings := ⟨fun _ _ => false, fun _ => "9f86d081", fun _ => "/9j/"⟩

/-- A file of two pages, the second of which cannot be read. -/
def drawingFile : (op : fitz.Op) → Except PyException (fitz.Res op)
  | PdfOp.openStream _ => .ok ()
  | PdfOp.needsPass => .ok false
  | PdfOp.isEncrypted => .ok false
  | PdfOp.close => .ok ()
  | PdfOp.pageCount => .ok (2 : ℤ)
  | PdfOp.metadata => .ok none
  | PdfOp.loadPage _ => .ok ()
  | PdfOp.getText idx => if idx = 0 then .ok "E-101" else .error (.error "RuntimeError" "")
  | PdfOp.getPixmap .. => .ok (⟨1700, 2200⟩ : Pixmap)
  | PdfOp.toJpeg .. => .ok ([0xff, 0xd8] : Bytes)
  | PdfOp.elapsedMs => .ok (12 : ℤ)

/-- The calls of the library that a method makes on this file. -/
def drawingTrace (m : PdfMethod) : List PdfCall :=
  Program.trace (S := fitz) (fun op (_ : Unit) => (drawingFile op, ())) (m.program noFitzErrors) ()

/-- The second page is asked for, and the document is closed. -/
theorem documents_closed_drawing :
    documentOpen (drawingTrace (.extractPageText pdfMagic 1)) = false ∧
      (documentOpen (drawingTrace (.extractPageText pdfMagic 1)) = true ↔
        ∃ c ∈ drawingTrace (.extractPageText pdfMagic 1), flagRaised c = true) :=
  ⟨rfl, (documents_closed noFitzErrors (.extractPageText pdfMagic 1) _ _
    (Program.runs_run _ _ ())).2⟩

/-! ### A file whose pages do not change -/

/-- What the library answers on a file: always the same, apart from the time. -/
def AnswersOf (ref : (op : fitz.Op) → Except PyException (fitz.Res op)) :
    (op : fitz.Op) → Except PyException (fitz.Res op) → Prop
  | PdfOp.elapsedMs, r => ∃ ms, r = .ok ms
  | op, r => r = ref op

/-- A file whose document has flags and `n` pages, and can be closed. Its pages may raise. -/
structure IntactFile (ref : (op : fitz.Op) → Except PyException (fitz.Res op)) (n : ℕ) : Prop where
  needsPass : ∃ flag, ref PdfOp.needsPass = .ok flag
  isEncrypted : ∃ flag, ref PdfOp.isEncrypted = .ok flag
  close : ref PdfOp.close = .ok ()
  pageCount : ref PdfOp.pageCount = .ok (n : ℤ)

section File

variable (env : PdfSurroundings) (ref : (op : fitz.Op) → Except PyException (fitz.Res op))
  (pdfBytes : Bytes)

/-- What `_open_document` does on the file. -/
def openedOf : Except PyException Unit := (openDocument env pdfBytes).alone (S := fitz) ref

/-- What `load_page` and `get_text` do on a page. -/
def pageOf (idx : ℤ) : Except PyException String := do
  let _ ← ref (PdfOp.loadPage idx)
  ref (PdfOp.getText idx)

/-- The pages of the document. -/
def pagesOf (n : ℕ) : List (Except PyException String) := (pageIndices n).map (pageOf ref)

/-- The document of the file. -/
def documentOf (n : ℕ) : OpenedDocument := do
  openedOf env ref pdfBytes
  return pagesOf ref n

/-- What the library does to render a page, as text. -/
def rasterizeOf (dpi : ℤ) (scale : Option PyFloat) (idx : ℤ) : Except PyException String := do
  let _ ← ref (PdfOp.loadPage idx)
  let _ ← ref (PdfOp.getPixmap idx (zoomOf dpi scale))
  let jpegBytes ← ref (PdfOp.toJpeg idx (zoomOf dpi scale) jpegQuality)
  return env.b64encode jpegBytes

/-- The image of a page number, without the time. -/
def renderedOf (n : ℕ) (dpi : ℤ) (scale : Option PyFloat) (pageNumber : ℤ) :
    Except PyException RenderedPage := do
  let idx ← resolvePageIndex pageNumber n
  let base64Jpeg ← rasterizeOf env ref dpi scale idx
  return ⟨idx, base64Jpeg⟩

/-- The file, as the collaborators of the pipeline see it. -/
def Collaborators.onFile (c : Collaborators) (dpi : ℤ) (scale : Option PyFloat) :
    Collaborators :=
  { c with
    pageCount := fun pdfBytes => do
      openedOf env ref pdfBytes
      ref PdfOp.pageCount
    rasterize := fun _ idx => rasterizeOf env ref dpi scale idx }

end File

section Outcomes

variable {env : PdfSurroundings} {ref : (op : fitz.Op) → Except PyException (fitz.Res op)} {n : ℕ}

theorem alone_fitzCall (op : PdfOp) : (fitzCall op).alone ref = ref op :=
  alone_perform (S := fitz) op

theorem bounds_of_resolvePageIndex {pageNumber pageCount idx : ℤ}
    (h : resolvePageIndex pageNumber pageCount = .ok idx) : 0 ≤ idx ∧ idx < pageCount := by
  rw [resolvePageIndex] at h
  dsimp only at h
  split_ifs at h with hcount hidx
  all_goals
    obtain rfl := Except.ok.inj h
    omega

theorem length_pagesOf : ((pagesOf ref n).length : ℤ) = n := by
  rw [pagesOf, List.length_map, pageIndices, List.length_map, List.length_range, Int.toNat_natCast]

/-- The index of a page stands for what the page does. -/
theorem textOfIndex_pagesOf {pageNumber idx : ℤ} (h : resolvePageIndex pageNumber n = .ok idx) :
    textOfIndex (pagesOf ref n) idx = textOfPage (pageOf ref idx) := by
  obtain ⟨h₀, hidx⟩ := bounds_of_resolvePageIndex h
  have hlt : idx.toNat < n := by omega
  have hpage : (pageIndices n)[idx.toNat]? = some idx := by
    rw [pageIndices, Int.toNat_natCast, List.getElem?_map, List.getElem?_range hlt, Option.map_some,
      Int.toNat_of_nonneg h₀]
  rw [textOfIndex, pagesOf, List.getElem?_map, hpage]
  rfl

theorem alone_readPage (idx : PdfProgram ℤ) : (readPage idx).alone ref =
    .ok (textOfPage (idx.alone ref >>= pageOf ref)) := by
  have hpage (idx : ℤ) : Program.alone ref (do
      let _ ← fitzCall (.loadPage idx)
      fitzCall (.getText idx)) = pageOf ref idx := by
    rw [alone_bind, alone_fitzCall, pageOf]
    exact bind_congr fun _ => alone_fitzCall _
  rw [readPage, alone_bind, alone_attempt, alone_bind]
  simp only [hpage]
  rfl

/-- The text of the pages, if all of them can be loaded. -/
theorem alone_readPages (i : ℕ) {indices : List ℤ}
    (h : ∀ idx ∈ indices, ref (PdfOp.loadPage idx) = .ok ()) :
    (readPages i indices).alone ref = .ok (pageParts i (indices.map (pageOf ref))) := by
  induction indices generalizing i with
  | nil => rfl
  | cons idx indices ih =>
    obtain ⟨hidx, hindices⟩ := List.forall_mem_cons.mp h
    have htext : (fitzCall (.getText idx)).alone ref = pageOf ref idx := by
      rw [alone_fitzCall, pageOf, hidx]
      rfl
    rw [readPages, alone_bind, alone_fitzCall, hidx]
    change Program.alone ref ((fitzCall (.getText idx)).attempt >>= _) = _
    rw [alone_bind, alone_attempt, htext]
    change Program.alone ref (readPages (i + 1) indices >>= _) = _
    rw [alone_bind, ih (i + 1) hindices]
    rfl

variable (hfile : IntactFile ref n)

include hfile

theorem alone_resolveIn (pageNumber : ℤ) : (resolveIn pageNumber).alone ref =
    resolvePageIndex pageNumber n := by
  rw [resolveIn, alone_bind, alone_fitzCall, hfile.pageCount]
  exact alone_ofExcept _

/-- What is read of a page number is what the document says. -/
theorem textOfPage_resolved (pageNumber : ℤ) :
    textOfPage ((resolveIn pageNumber).alone ref >>= pageOf ref) =
      batchPageText (pagesOf ref n) pageNumber := by
  rw [alone_resolveIn hfile, batchPageText, length_pagesOf]
  cases hidx : resolvePageIndex pageNumber n with
  | error exc => rfl
  | ok idx => exact (textOfIndex_pagesOf hidx).symm

theorem alone_readPageNumbers (results : List (ℤ × String)) (pageNumbers : List ℤ) :
    (readPageNumbers results pageNumbers).alone ref = .ok (pageNumbers.foldl (fun results n' =>
      setPageText results n' (batchPageText (pagesOf ref n) n')) results) := by
  induction pageNumbers generalizing results with
  | nil => rfl
  | cons pageNumber pageNumbers ih =>
    rw [readPageNumbers, alone_bind, alone_readPage, textOfPage_resolved hfile]
    exact ih _

theorem alone_readResolved (pageNumber : ℤ) : (readResolved pageNumber).alone ref =
    extractPageText (.ok (pagesOf ref n)) pageNumber := by
  have hsingle : extractPageText (.ok (pagesOf ref n)) pageNumber =
      resolvePageIndex pageNumber (pagesOf ref n).length >>= fun idx =>
        .ok (textOfIndex (pagesOf ref n) idx) := rfl
  rw [hsingle, length_pagesOf, readResolved, alone_bind, alone_resolveIn hfile]
  cases hidx : resolvePageIndex pageNumber n with
  | error exc => rfl
  | ok idx => exact (alone_readPage _).trans (congrArg Except.ok (textOfIndex_pagesOf hidx).symm)

theorem alone_readAll (h : ∀ idx ∈ pageIndices n, ref (PdfOp.loadPage idx) = .ok ()) :
    readAll.alone ref = .ok (pageParts 1 (pagesOf ref n)) := by
  rw [readAll, alone_bind, alone_fitzCall, hfile.pageCount]
  exact alone_readPages 1 h

omit hfile in
/-- A program that does not ask for the time ends as it would with the answers of the file. -/
theorem computes_alone {α : Type} {p : PdfProgram α} (h : p.Only (S := fitz) (· ≠ .elapsedMs)) :
    p.Computes (AnswersOf ref) id (p.alone ref) :=
  h.computes_alone fun op r hop hr => by
    cases op <;> first | exact absurd rfl hop | exact hr

omit hfile in
theorem computes_openDocument (pdfBytes : Bytes) :
    (openDocument env pdfBytes).Computes (AnswersOf ref) id (openedOf env ref pdfBytes) := by
  have hlocked : isLocked.Only (S := fitz) (· ≠ .elapsedMs) := by
    refine Only.perform_bind nofun fun needsPass => ?_
    cases needsPass with
    | true => trivial
    | false => exact (only_perform (S := fitz) PdfOp.isEncrypted).mpr nofun
  refine computes_alone ?_
  rw [openDocument]
  split_ifs
  · trivial
  · refine Only.attempt_bind nofun fun r => ?_
    cases r with
    | error exc => trivial
    | ok u =>
      refine hlocked.bind fun locked => ?_
      cases locked with
      | true => exact Only.attempt_bind nofun fun _ => trivial
      | false => trivial

omit hfile in
theorem computes_fitzCall (op : PdfOp) (hop : op ≠ .elapsedMs) :
    (fitzCall op).Computes (AnswersOf ref) id (ref op) := by
  have halone : (fitzCall op).alone ref = ref op := alone_fitzCall op
  rw [← halone]
  exact computes_alone ((only_perform (S := fitz) op).mpr hop)

theorem computes_withDocument {α β : Type} {f : α → β} {body : PdfProgram α}
    {o : Except PyException β} (pdfBytes : Bytes) (h : body.Computes (AnswersOf ref) f o) :
    (withDocument env pdfBytes body).Computes (AnswersOf ref) f
      (openedOf env ref pdfBytes >>= fun _ => o) := by
  have hclose : (fitzCall .close).Computes (AnswersOf ref) id (.ok ()) := by
    rw [← hfile.close]
    exact computes_fitzCall .close nofun
  exact (computes_openDocument pdfBytes).bind fun _ => h.ensuring hclose

/-! ### Images -/

/-- The time is not seen in the rendered page. -/
theorem computes_renderSinglePage (pageNumber dpi : ℤ) (scale : Option PyFloat) :
    (renderSinglePage env pageNumber dpi scale).Computes (AnswersOf ref) PageImage.rendered
      (renderedOf env ref n dpi scale pageNumber) := by
  have hresolve : (resolveIn pageNumber).Computes (AnswersOf ref) id
      (resolvePageIndex pageNumber n) := by
    rw [← alone_resolveIn hfile]
    exact computes_alone ((only_resolveIn pageNumber).mono fun _ => ReadsPages.isUntimed)
  have htime : (fitzCall .elapsedMs).Computes (AnswersOf ref) (fun _ => ()) (.ok ()) := by
    refine computes_perform (S := fitz) PdfOp.elapsedMs fun r hr => ?_
    obtain ⟨ms, rfl⟩ := hr
    rfl
  refine hresolve.bind fun idx => ?_
  rw [rasterizeOf, LawfulMonad.bind_assoc]
  refine (computes_fitzCall (.loadPage idx) nofun).bind fun _ => ?_
  rw [LawfulMonad.bind_assoc]
  refine (computes_fitzCall (.getPixmap idx (zoomOf dpi scale)) nofun).bind fun pixmap => ?_
  rw [LawfulMonad.bind_assoc]
  refine (computes_fitzCall (.toJpeg idx (zoomOf dpi scale) jpegQuality) nofun).bind
    fun jpegBytes => ?_
  change Program.Computes _ _ _
    (Except.ok () >>= fun _ => .ok (⟨idx, env.b64encode jpegBytes⟩ : RenderedPage))
  exact htime.bind fun _ => computes_ret _

theorem computes_renderEach (dpi : ℤ) (scale : Option PyFloat) (pageNumbers : List ℤ) :
    (renderEach env dpi scale pageNumbers).Computes (AnswersOf ref) (List.map PageImage.rendered)
      (pageNumbers.mapM (renderedOf env ref n dpi scale)) := by
  induction pageNumbers with
  | nil => exact computes_ret _
  | cons pageNumber pageNumbers ih =>
    rw [List.mapM_cons]
    exact (computes_renderSinglePage hfile pageNumber dpi scale).bind fun _ =>
      ih.bind fun _ => computes_ret _

/-! ### The methods on a file -/

omit hfile in
/-- Rendering pages at once, or one by one. -/
theorem Collaborators.renderPages_eq_mapM (c : Collaborators) (pdfBytes : Bytes)
    {pageNumbers : List ℤ} (h : pageNumbers ≠ []) :
    c.renderPages pdfBytes pageNumbers = pageNumbers.mapM (c.renderPage pdfBytes) := by
  rw [Collaborators.renderPages]
  cases hcount : c.pageCount pdfBytes with
  | error exc =>
    obtain ⟨pageNumber, pageNumbers, rfl⟩ := List.exists_cons_of_ne_nil h
    rw [List.mapM_cons, Collaborators.renderPage, hcount]
    rfl
  | ok count =>
    refine congrArg (pageNumbers.mapM ·) (funext fun pageNumber => ?_)
    rw [Collaborators.renderPage, hcount]
    rfl

omit hfile in
/-- What is done with a document is done after its opening. -/
theorem bind_documentOf (pdfBytes : Bytes) {β : Type} (f : OpenedDocument → Except PyException β)
    (hf : ∀ exc, f (.error exc) = .error exc) : f (documentOf env ref pdfBytes n) =
      openedOf env ref pdfBytes >>= fun _ => f (.ok (pagesOf ref n)) := by
  rw [documentOf]
  cases openedOf env ref pdfBytes with
  | error exc => exact hf exc
  | ok u => rfl

theorem renderPage_onFile (c : Collaborators) (pdfBytes : Bytes) (dpi : ℤ) (scale : Option PyFloat)
    (pageNumber : ℤ) : (c.onFile env ref dpi scale).renderPage pdfBytes pageNumber =
      openedOf env ref pdfBytes >>= fun _ => renderedOf env ref n dpi scale pageNumber := by
  rw [Collaborators.renderPage, Collaborators.onFile]
  dsimp only
  rw [hfile.pageCount]
  cases openedOf env ref pdfBytes <;> rfl

theorem renderPages_onFile (c : Collaborators) (pdfBytes : Bytes) (dpi : ℤ)
    (scale : Option PyFloat) (pageNumbers : List ℤ) :
    (c.onFile env ref dpi scale).renderPages pdfBytes pageNumbers =
      openedOf env ref pdfBytes >>= fun _ =>
        pageNumbers.mapM (renderedOf env ref n dpi scale) := by
  rw [Collaborators.renderPages, Collaborators.onFile]
  dsimp only
  rw [hfile.pageCount]
  cases openedOf env ref pdfBytes <;> rfl

theorem computes_extractPageTextOf (pdfBytes : Bytes) (pageNumber : ℤ) :
    (extractPageTextOf env pdfBytes pageNumber).Computes (AnswersOf ref) id
      (extractPageText (documentOf env ref pdfBytes n) pageNumber) := by
  rw [bind_documentOf pdfBytes (extractPageText · pageNumber) fun _ => rfl,
    ← alone_readResolved hfile]
  exact computes_withDocument hfile pdfBytes
    (computes_alone ((only_readResolved pageNumber).mono fun _ => ReadsPages.isUntimed))

theorem computes_extractPageTextsOf (pdfBytes : Bytes) (pageNumbers : List ℤ) :
    (extractPageTextsOf env pdfBytes pageNumbers).Computes (AnswersOf ref) id
      (extractPageTexts (documentOf env ref pdfBytes n) pageNumbers) := by
  rw [extractPageTextsOf]
  split_ifs with hempty
  · rw [extractPageTexts, if_pos hempty]
    exact computes_ret _
  · have hbatch (document : OpenedDocument) : extractPageTexts document pageNumbers =
        document >>= fun pages => .ok (pageNumbers.foldl (fun results pageNumber =>
          setPageText results pageNumber (batchPageText pages pageNumber)) []) := by
      rw [extractPageTexts, if_neg hempty]
      rfl
    have hread := alone_readPageNumbers hfile [] pageNumbers
    rw [bind_documentOf pdfBytes (extractPageTexts · pageNumbers) fun _ => hbatch _, hbatch]
    change Program.Computes _ _ _ (_ >>= fun _ => .ok _)
    rw [← hread]
    exact computes_withDocument hfile pdfBytes
      (computes_alone ((only_readPageNumbers [] pageNumbers).mono fun _ => ReadsPages.isUntimed))

theorem computes_extractTextOf (pdfBytes : Bytes)
    (h : ∀ idx ∈ pageIndices n, ref (PdfOp.loadPage idx) = .ok ()) :
    (extractTextOf env pdfBytes).Computes (AnswersOf ref) id
      ((documentOf env ref pdfBytes n).map extractText) := by
  have hdocument : (documentOf env ref pdfBytes n).map extractText =
      (openedOf env ref pdfBytes >>= fun _ => .ok (pageParts 1 (pagesOf ref n))) >>= fun parts =>
        .ok (String.join parts) := by
    rw [documentOf]
    cases openedOf env ref pdfBytes <;> rfl
  rw [hdocument, ← alone_readAll hfile h]
  exact (computes_withDocument hfile pdfBytes
    (computes_alone (only_readAll.mono fun _ => ReadsPages.isUntimed))).bind fun _ => computes_ret _

end Outcomes

end ZubotIngestion
